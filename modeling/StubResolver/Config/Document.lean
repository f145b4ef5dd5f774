import StubResolver.Config.Basic
import StubResolver.Json.Value

/-!
# Documents

What the file formats have in common: scalars, lists and tables. A scalar carries all that its
format lets it be read as. A configuration takes from a document what it knows and leaves the rest.
-/

namespace StubResolver

/-- A scalar and its readings. -/
structure Scalar where
  text? : Option String
  integer? : Option Int
  bool? : Option Bool
  /-- Whether it stands for an empty list or table. -/
  isEmpty : Bool
  deriving DecidableEq, Repr

/-- A parsed file. -/
inductive Document where
  | scalar (value : Scalar)
  | list (items : List Document)
  /-- Members under their names, where a name may be no text. -/
  | table (members : List (Option String × Document))
  deriving Repr

namespace Document

instance : Inhabited Document := ⟨.list []⟩

/-- What a format makes of a list in the place of a section, whose items are the fields in order. -/
inductive ListReading where
  /-- A section is no list. -/
  | never
  /-- The list has at most as many items as there are fields. -/
  | bounded
  /-- Items behind the last field do not count. -/
  | unbounded
  deriving DecidableEq, Repr

/-- Whether a list of some items can stand for some fields. -/
def ListReading.admits (lists : ListReading) (items fields : Nat) : Bool :=
  match lists with
  | never => false
  | bounded => items ≤ fields
  | unbounded => true

/-- A scalar that can be read as nothing. -/
def unreadable : Document :=
  .scalar ⟨none, none, none, false⟩

/-- A scalar that is a text. -/
def ofText (s : String) : Document :=
  .scalar ⟨some s, none, none, false⟩

/-- A scalar that is an integer. -/
def ofInteger (n : Int) : Document :=
  .scalar ⟨none, some n, none, false⟩

/-- A scalar that is a truth value. -/
def ofBool (b : Bool) : Document :=
  .scalar ⟨none, none, some b, false⟩

mutual

/-- The document of a JSON value. -/
def ofJson : Json → Document
  | .null => unreadable
  | .bool b => ofBool b
  | .integer n => ofInteger n
  | .decimal _ => unreadable
  | .text s => ofText s
  | .list items => .list (ofItems items)
  | .object members => .table (ofMembers members)
  | .broken => unreadable

/-- The documents of the items of a JSON list. -/
def ofItems : List Json → List Document
  | [] => []
  | v :: rest => ofJson v :: ofItems rest

/-- The documents of the members of a JSON object. -/
def ofMembers : List (String × Json) → List (Option String × Document)
  | [] => []
  | (name, v) :: rest => (some name, ofJson v) :: ofMembers rest

end

/-- The text of a scalar. -/
def text? : Document → Option String
  | .scalar s => s.text?
  | _ => none

/-- The truth value of a scalar. -/
def bool? : Document → Option Bool
  | .scalar s => s.bool?
  | _ => none

/-- The integer of a scalar, from 0 to `limit`. -/
def naturalUpTo? (limit : Nat) : Document → Option Nat
  | .scalar s => do
    let n ← s.integer?
    if 0 ≤ n ∧ n ≤ limit then some n.toNat else none
  | _ => none

/-- A 64-bit number. -/
def word64? (d : Document) : Option UInt64 :=
  (d.naturalUpTo? (UInt64.size - 1)).map UInt64.ofNat

/-- A 16-bit number. -/
def word16? (d : Document) : Option UInt16 :=
  (d.naturalUpTo? (UInt16.size - 1)).map UInt16.ofNat

/-- The items of a list of texts. -/
def texts? : Document → Option (List String)
  | .list items => items.mapM text?
  | .scalar s => if s.isEmpty then some [] else none
  | .table _ => none

/-- The fields named by `names`, of which none may come twice. A list of the first ones will do
where `lists` admits it. -/
def fields? (lists : ListReading) (names : List String) :
    Document → Option (List (String × Document))
  | .table members => do
    let named ← members.mapM fun m => m.1.map fun name => (name, m.2)
    let known := named.filter fun m => names.contains m.1
    if (known.map (·.1)).Nodup then some known else none
  | .list items =>
    if lists.admits items.length names.length then some (names.zip items) else none
  | .scalar s => if s.isEmpty then some [] else none

/-- The field of a name read by `read`, or `default` where it is missing. -/
def fieldOr? {α : Type} (fields : List (String × Document)) (name : String)
    (read : Document → Option α) (default : α) : Option α :=
  match fields.lookup name with
  | some d => read d
  | none => some default

end Document

open Document (ListReading fieldOr?)

/-- The resolver section of a document. -/
def ResolverSection.ofDocument? (lists : ListReading) (d : Document) : Option ResolverSection := do
  let f ← d.fields? lists
    ["servers", "timeout_ms", "udp_payload_size", "receive_buffer_size", "tcp_fallback"]
  return {
    servers := ← fieldOr? f "servers" Document.texts? standard.servers
    timeoutMs := ← fieldOr? f "timeout_ms" Document.word64? standard.timeoutMs
    udpPayloadSize := ← fieldOr? f "udp_payload_size" Document.word16? standard.udpPayloadSize
    receiveBufferSize := ←
      fieldOr? f "receive_buffer_size" Document.word64? standard.receiveBufferSize
    tcpFallback := ← fieldOr? f "tcp_fallback" Document.bool? standard.tcpFallback }

/-- The cache section of a document. -/
def CacheSection.ofDocument? (lists : ListReading) (d : Document) : Option CacheSection := do
  let f ← d.fields? lists ["capacity"]
  return ⟨← fieldOr? f "capacity" Document.word64? standard.capacity⟩

/-- The log section of a document. -/
def LogSection.ofDocument? (lists : ListReading) (d : Document) : Option LogSection := do
  let f ← d.fields? lists ["level", "format", "span_events"]
  return {
    level := ← fieldOr? f "level" Document.text? standard.level
    format := ← fieldOr? f "format" Document.text? standard.format
    spanEvents := ← fieldOr? f "span_events" Document.bool? standard.spanEvents }

/-- The configuration of a document. -/
def Config.ofDocument? (lists : ListReading) (d : Document) : Option Config := do
  let f ← d.fields? lists ["resolver", "cache", "logging"]
  return {
    resolver := ← fieldOr? f "resolver" (ResolverSection.ofDocument? lists) .standard
    cache := ← fieldOr? f "cache" (CacheSection.ofDocument? lists) .standard
    logging := ← fieldOr? f "logging" (LogSection.ofDocument? lists) .standard }

end StubResolver
