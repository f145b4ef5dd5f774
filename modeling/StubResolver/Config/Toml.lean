import StubResolver.Config.Document
import StubResolver.Toml.Text

/-! Configurations in TOML. A date or time is a table in which nothing is known. -/

namespace StubResolver

namespace Document

mutual

/-- The document of a TOML value. -/
def ofToml : Toml → Document
  | .text s => ofText s
  | .integer n => ofInteger n
  | .bool b => ofBool b
  | .float => unreadable
  | .time => .table []
  | .list items => .list (ofTomlItems items)
  | .table _ members => .table (ofTomlMembers members)
  | .tables elements => .list (ofTomlTables elements).reverse

/-- The documents of the items of a list. -/
def ofTomlItems : List Toml → List Document
  | [] => []
  | v :: rest => ofToml v :: ofTomlItems rest

/-- The documents of the members of a table. -/
def ofTomlMembers : List (String × Toml) → List (Option String × Document)
  | [] => []
  | (key, v) :: rest => (some key, ofToml v) :: ofTomlMembers rest

/-- The documents of repeated tables. -/
def ofTomlTables : List (List (String × Toml)) → List Document
  | [] => []
  | members :: rest => .table (ofTomlMembers members) :: ofTomlTables rest

end

end Document

/-- The configuration that TOML text sets. -/
def Config.ofToml? (text : String) : Option Config := do
  ofDocument? .unbounded (.ofToml (← Toml.ofText? text))

end StubResolver
