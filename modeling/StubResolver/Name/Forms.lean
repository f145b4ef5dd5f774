import StubResolver.Label

/-!
# The forms of a name

A name is held in four forms: its labels as given and in lower case, both root first, and the texts
of both, leaf first. Whoever needs one of them takes it as it is stored. They come about together,
from the labels as given (`ofRawLabels`); the root has forms of its own.

`Valid` says that the labels are within the limits and the forms belong together. Every way of
making forms from valid ones leads to valid ones.
-/

namespace StubResolver.Name

/-- Labels as given and in lower case, with their texts. -/
structure Forms where
  rawLabels : List Label
  labels : List Label
  rawAce : String
  ace : String
  deriving DecidableEq, Repr

/-- The safe texts of labels that are given root first: leaf first, with dots between. -/
def joinedLabels (ls : List Label) : List Char :=
  ['.'].intercalate (ls.reverse.map Label.safeChars)

/-- The text of labels: a dot if there are none. -/
def dotted : List Label → List Char
  | [] => ['.']
  | ls => joinedLabels ls

namespace Forms

/-- The forms of the root. -/
def root : Forms :=
  ⟨[], [], ".", "."⟩

/-- All forms, from the labels as given. -/
def ofRawLabels (ls : List Label) : Forms :=
  if ls.isEmpty then root
  else
    let labels := ls.map Label.lower
    ⟨ls, labels, String.ofList (joinedLabels ls), String.ofList (joinedLabels labels)⟩

/-- How many labels there are. -/
def count (f : Forms) : Nat :=
  f.labels.length

/-- Whether there are none. -/
def isRoot (f : Forms) : Bool :=
  f.labels.isEmpty

/-- The forms of the `k` labels closest to the root. -/
def closest (f : Forms) (k : Nat) : Forms :=
  if f.count ≤ k then f else ofRawLabels (f.rawLabels.take k)

/-- The forms without the leaf label, unless these are the root's. -/
def parent? (f : Forms) : Option Forms :=
  if f.isRoot then none else some (f.closest (f.count - 1))

/-- The forms of `child` below `parent`, if they have at most 128 labels together. -/
def join (child parent : Forms) : Except ProtocolError Forms :=
  let count := child.count + parent.count
  if 128 < count then .error (.tooManyLabels count)
  else .ok (ofRawLabels (parent.rawLabels ++ child.rawLabels))

/-- The labels are within the limits, and the other forms are what these make of them. -/
structure Valid (f : Forms) : Prop where
  count_le : f.rawLabels.length ≤ 128
  nonempty : ∀ l ∈ f.rawLabels, l.octets ≠ []
  labels_eq : f.labels = f.rawLabels.map Label.lower
  rawAce_eq : f.rawAce = String.ofList (dotted f.rawLabels)
  ace_eq : f.ace = String.ofList (dotted f.labels)

@[simp] theorem rawLabels_ofRawLabels (ls : List Label) : (ofRawLabels ls).rawLabels = ls := by
  cases ls <;> rfl

theorem valid_root : root.Valid where
  count_le := Nat.zero_le _
  nonempty := fun _ hl => nomatch hl
  labels_eq := rfl
  rawAce_eq := rfl
  ace_eq := rfl

theorem valid_ofRawLabels {ls : List Label} (hcount : ls.length ≤ 128)
    (hne : ∀ l ∈ ls, l.octets ≠ []) : (ofRawLabels ls).Valid := by
  cases ls with
  | nil => exact valid_root
  | cons l ls => exact ⟨hcount, hne, rfl, rfl, rfl⟩

namespace Valid

variable {f child parent : Forms} (hf : f.Valid) (hchild : child.Valid) (hparent : parent.Valid)

include hf in
/-- The labels as given make all forms. -/
theorem eq_ofRawLabels : f = ofRawLabels f.rawLabels := by
  obtain ⟨ls, labels, rawAce, ace⟩ := f
  have hlabels : labels = ls.map Label.lower := hf.labels_eq
  have hraw : rawAce = String.ofList (dotted ls) := hf.rawAce_eq
  have hace : ace = String.ofList (dotted labels) := hf.ace_eq
  subst hace hraw hlabels
  cases ls <;> rfl

include hf in
theorem count_eq : f.count = f.rawLabels.length := by
  rw [count, hf.labels_eq, List.length_map]

include hf in
theorem closest (k : Nat) : (f.closest k).Valid := by
  unfold Forms.closest
  split
  · exact hf
  · refine valid_ofRawLabels ?_ fun l hl => hf.nonempty l (List.mem_of_mem_take hl)
    exact Nat.le_trans (List.length_take_le' _ _) hf.count_le

include hf in
theorem parent? {p : Forms} (h : f.parent? = some p) : p.Valid := by
  unfold Forms.parent? at h
  split at h
  · cases h
  · cases h
    exact hf.closest _

include hchild hparent in
theorem join (h : Forms.join child parent = .ok f) : f.Valid := by
  unfold Forms.join at h
  dsimp only at h
  split at h
  · cases h
  · rename_i hcount
    cases h
    refine valid_ofRawLabels ?_ (List.forall_mem_append.2 ⟨hparent.nonempty, hchild.nonempty⟩)
    rw [hchild.count_eq, hparent.count_eq] at hcount
    rw [List.length_append]
    omega

end Valid

end Forms

end StubResolver.Name
