import StubResolver.Name.Basic

/-!
# Names from text

Any of four full stops separates labels and one at the end does not count. A converter turns the
text into its ASCII form before it is cut into labels.
-/

namespace StubResolver.Name

/-- What turns text with `.` between its labels into its ASCII form. -/
abbrev Converter := String → Except ProtocolError String

/-- Takes ASCII text as it is and refuses all other. -/
def asciiOnly : Converter := fun text =>
  if text.toList.all fun c => c.toNat < 128 then .ok text else .error (.noAsciiForm text)

/-- The full stops that separate labels. -/
def isSeparator (c : Char) : Bool :=
  c == '.' || c == '。' || c == '．' || c == '｡'

/-- Text without its last character, if that is a separator and not all there is. -/
def dropFinalSeparator (cs : List Char) : List Char :=
  if 2 ≤ cs.length ∧ (cs.getLast?.map isSeparator) = some true then cs.dropLast else cs

/-- Text with a dot for every separator. -/
def foldSeparators (cs : List Char) : List Char :=
  cs.map fun c => if isSeparator c then '.' else c

/-- The labels of `parts`, which come root first, below the root; `text` is what is named in an
error. -/
def ofParts (text : String) : List (List Char) → Except ProtocolError (List Label)
  | [] => .ok []
  | part :: parts =>
    if part = [] then .error (.emptyLabel text)
    else do
      let label ← Label.ofText part
      return label :: (← ofParts text parts)

theorem length_of_ofParts {text : String} {parts : List (List Char)} {ls : List Label}
    (h : ofParts text parts = .ok ls) : ls.length = parts.length := by
  induction parts generalizing ls with
  | nil => cases h; rfl
  | cons part parts ih =>
    unfold ofParts at h
    split at h
    · cases h
    · obtain ⟨l, _, h⟩ := bind_eq_ok_iff.1 h
      obtain ⟨rest, hrest, h⟩ := bind_eq_ok_iff.1 h
      cases h
      rw [List.length_cons, List.length_cons, ih hrest]

theorem octets_ne_nil_of_ofParts {text : String} {parts : List (List Char)} {ls : List Label}
    (h : ofParts text parts = .ok ls) : ∀ l ∈ ls, l.octets ≠ [] := by
  induction parts generalizing ls with
  | nil => cases h; simp
  | cons part parts ih =>
    unfold ofParts at h
    split at h
    · cases h
    · rename_i hpart
      obtain ⟨l, hl, h⟩ := bind_eq_ok_iff.1 h
      obtain ⟨rest, hrest, h⟩ := bind_eq_ok_iff.1 h
      cases h
      intro x hx
      rcases List.mem_cons.1 hx with rfl | hx
      · rw [← List.length_pos_iff, Label.length_of_ofText hl, List.length_pos_iff]
        exact hpart
      · exact ih hrest x hx

namespace Forms

/-- The forms of a converted text; `text` is what is named in an error. -/
def ofAce (text : String) (ace : List Char) : Except ProtocolError Forms :=
  if ace = [] ∨ ace = ['.'] then .ok root
  else
    let parts := ace.splitOn '.'
    if 128 < parts.length then .error (.tooManyLabels parts.length)
    else return ofRawLabels (← ofParts text parts.reverse)

/-- The forms of a text. Empty text and a lone separator are the root, unseen by the converter. -/
def ofTextWith (convert : Converter) (text : String) : Except ProtocolError Forms :=
  let cs := text.toList
  if cs = [] ∨ (cs.length = 1 ∧ cs.all isSeparator) then .ok root
  else do
    let ace ← convert (String.ofList (foldSeparators (dropFinalSeparator cs)))
    ofAce text ace.toList

variable {f : Forms} {text : String}

theorem valid_of_ofAce {ace : List Char} (h : ofAce text ace = .ok f) : f.Valid := by
  unfold ofAce at h
  split at h
  · cases h
    exact valid_root
  · dsimp only at h
    split at h
    · cases h
    · rename_i hcount
      obtain ⟨ls, hls, h⟩ := bind_eq_ok_iff.1 h
      cases h
      refine valid_ofRawLabels ?_ (octets_ne_nil_of_ofParts hls)
      rw [length_of_ofParts hls, List.length_reverse]
      exact Nat.not_lt.1 hcount

theorem valid_of_ofTextWith {convert : Converter} (h : ofTextWith convert text = .ok f) :
    f.Valid := by
  unfold ofTextWith at h
  dsimp only at h
  split at h
  · cases h
    exact valid_root
  · obtain ⟨ace, _, h⟩ := bind_eq_ok_iff.1 h
    exact valid_of_ofAce h

end Forms

/-- The name of a text. -/
def ofTextWith (convert : Converter) (text : String) : Except ProtocolError Name :=
  pmapExcept Name.mk (Forms.ofTextWith convert text) fun _ => Forms.valid_of_ofTextWith

/-- The name of a text in ASCII. -/
def ofText (text : String) : Except ProtocolError Name :=
  ofTextWith asciiOnly text

end StubResolver.Name
