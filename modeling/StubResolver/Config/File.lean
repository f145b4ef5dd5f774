import StubResolver.Config.Path
import StubResolver.Config.Toml
import StubResolver.Config.Yaml
import StubResolver.Json.Text
import StubResolver.Text.Utf8

/-! Configuration files. The name of a file decides its format. -/

namespace StubResolver

/-- The format of a file, by the extension of its name: YAML if it is of no other kind. -/
def FileFormat.ofPath (path : String) : FileFormat :=
  match (Path.ofText path).extension? with
  | some "json" => json
  | some "toml" => toml
  | _ => yaml

namespace Config

/-- The configuration that JSON text sets. -/
def ofJson? (text : String) : Option Config := do
  ofDocument? .bounded (.ofJson (← Json.ofText? text))

/-- The configuration that a text sets. -/
def ofText (format : FileFormat) (text : String) : Except ConfigError Config :=
  let config? :=
    match format with
    | .yaml => ofYaml? text
    | .json => ofJson? text
    | .toml => ofToml? text
  match config? with
  | some c => .ok c
  | none => .error (.malformed format)

/-- The configuration of what there is at a path. -/
def ofFile (path : String) : Found → Except ConfigError Config
  | .nothing => .error (.notFound path)
  | .directory => .error (.unreadable "Is a directory (os error 21)")
  | .file octets =>
    match Utf8.decode? octets with
    | some text => ofText (.ofPath path) text
    | none => .error (.unreadable "stream did not contain valid UTF-8")

end Config

end StubResolver
