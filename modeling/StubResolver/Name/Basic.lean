import StubResolver.Name.Forms

/-!
# Names

A domain name is a sequence of at most 128 labels, none of them empty, held in four forms. Equality,
hashing and the wire form take the labels in lower case, the order their text; the root has no
labels and is written `.`.
-/

namespace StubResolver

/-- A domain name: its forms, which are valid. -/
structure Name where
  forms : Name.Forms
  valid : forms.Valid
  deriving Repr

namespace Name

/-- The labels as given; the top-level label comes first. -/
def rawLabels (n : Name) : List Label :=
  n.forms.rawLabels

/-- The labels in lower case, root first. -/
def labels (n : Name) : List Label :=
  n.forms.labels

/-- The text of the name as given. -/
def rawAce (n : Name) : String :=
  n.forms.rawAce

/-- The text of the name in lower case. -/
def ace (n : Name) : String :=
  n.forms.ace

theorem eq_of_rawLabels_eq {a b : Name} (h : a.rawLabels = b.rawLabels) : a = b := by
  have hforms : a.forms = b.forms := by
    rw [a.valid.eq_ofRawLabels, b.valid.eq_ofRawLabels]
    exact congrArg Forms.ofRawLabels h
  cases a
  cases b
  cases hforms
  rfl

/-- Names are equal if their labels are as given, since these make the other forms. -/
instance : DecidableEq Name := fun _ _ =>
  decidable_of_iff _ ⟨eq_of_rawLabels_eq, congrArg rawLabels⟩

/-- The root. -/
def root : Name :=
  ⟨.root, Forms.valid_root⟩

instance : Inhabited Name := ⟨root⟩

/-- How many labels the name has. -/
def count (n : Name) : Nat :=
  n.forms.count

/-- Whether this is the root. -/
def isRoot (n : Name) : Bool :=
  n.forms.isRoot

/-- Names are the same if their labels are, up to the case of ASCII letters. -/
def same (a b : Name) : Bool :=
  a.labels == b.labels

/-- What a hash function is fed with: how many labels there are, and each in lower case. -/
def hashInput (n : Name) : List HashInput :=
  .length n.labels.length :: n.labels.flatMap Label.hashInput

/-- The order of names: that of their lower-case texts, by code points. -/
def compare (a b : Name) : Ordering :=
  compareOfLessAndEq a.ace b.ace

/-- The text with a dot at its end, as in zone files. -/
def fqdn (n : Name) : String :=
  if n.isRoot then "." else n.ace ++ "."

/-- The text as given, marked as that of a name. -/
def describe (n : Name) : String :=
  "Name(\"" ++ n.rawAce ++ "\")"

/-- An estimate of the length on the wire: exact for names of harmless characters. -/
def sizeEstimate (n : Name) : Nat :=
  if n.isRoot then 1 else n.ace.utf8ByteSize + 2

/-- The wire form: lower case, leaf first, closed by the root. -/
def toWire (n : Name) : Octets :=
  n.labels.reverse.flatMap Label.toWire ++ [0]

/-- The `k` labels closest to the root. -/
def closest (n : Name) (k : Nat) : Name :=
  ⟨n.forms.closest k, n.valid.closest k⟩

/-- The name without its leaf label, unless it is the root. -/
def parent? (n : Name) : Option Name :=
  n.forms.parent?.pmap Name.mk fun _ => n.valid.parent?

/-- Whether `a` is an ancestor of `b`, and not `b` itself. -/
def isParentOf (a b : Name) : Bool :=
  a.count < b.count && a.labels.isPrefixOf b.labels

/-- `child` below `parent`, if they have at most 128 labels together. -/
def join (child parent : Name) : Except ProtocolError Name :=
  pmapExcept Name.mk (child.forms.join parent.forms) fun _ => child.valid.join parent.valid

end Name

end StubResolver
