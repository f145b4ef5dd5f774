import StubResolver.Name.Text
import StubResolver.Name.Wire
import StubResolver.Proofs.Label

/-!
# Names by their labels

All forms of a name are made of its labels as given (`eq_of_rawLabels_eq`), and there is a name for
any labels within the limits (`ofLabels`). To say what becomes of a name it is therefore enough to
say what becomes of these labels. Here that is done for the ways to make names of forms that were
checked.
-/

namespace StubResolver.Name

variable {n : Name} {e : ProtocolError}

/-! ## Forms -/

theorem count_le (n : Name) : n.rawLabels.length ≤ 128 :=
  n.valid.count_le

theorem nonempty (n : Name) : ∀ l ∈ n.rawLabels, l.octets ≠ [] :=
  n.valid.nonempty

theorem labels_eq (n : Name) : n.labels = n.rawLabels.map Label.lower :=
  n.valid.labels_eq

theorem rawAce_eq (n : Name) : n.rawAce = String.ofList (dotted n.rawLabels) :=
  n.valid.rawAce_eq

theorem ace_eq (n : Name) : n.ace = String.ofList (dotted n.labels) :=
  n.valid.ace_eq

theorem count_eq (n : Name) : n.count = n.rawLabels.length :=
  n.valid.count_eq

theorem rawLabels_injective : Function.Injective rawLabels :=
  fun _ _ => eq_of_rawLabels_eq

/-- The name of some labels, root first. -/
def ofLabels (ls : List Label) (hcount : ls.length ≤ 128) (hne : ∀ l ∈ ls, l.octets ≠ []) : Name :=
  ⟨.ofRawLabels ls, Forms.valid_ofRawLabels hcount hne⟩

@[simp] theorem rawLabels_ofLabels {ls : List Label} (hcount : ls.length ≤ 128)
    (hne : ∀ l ∈ ls, l.octets ≠ []) : (ofLabels ls hcount hne).rawLabels = ls :=
  Forms.rawLabels_ofRawLabels ls

/-- There is a name for octets of labels within the limits. -/
theorem exists_rawLabels {ls : List Octets} (hcount : ls.length ≤ 128)
    (hbounds : ∀ l ∈ ls, 1 ≤ l.length ∧ l.length ≤ 63) :
    ∃ n : Name, n.rawLabels.map Label.octets = ls := by
  let labels := ls.pmap (fun l h => (⟨l, And.right h⟩ : Label)) hbounds
  have hoctets : labels.map Label.octets = ls := by
    simp only [labels, List.map_pmap, List.pmap_eq_map, List.map_id']
  have hne : ∀ l ∈ labels, l.octets ≠ [] := fun l hl =>
    List.length_pos_iff.1 (hbounds _ (hoctets ▸ List.mem_map_of_mem hl)).1
  refine ⟨ofLabels labels (by rwa [List.length_pmap]) hne, ?_⟩
  rw [rawLabels_ofLabels, hoctets]

/-- The forms made of some labels are those of the name that has them. -/
theorem ofRawLabels_eq_forms_iff {ls : List Label} :
    Forms.ofRawLabels ls = n.forms ↔ ls = n.rawLabels := by
  constructor
  · intro h
    exact (Forms.rawLabels_ofRawLabels ls).symm.trans (congrArg Forms.rawLabels h)
  · rintro rfl
    exact n.valid.eq_ofRawLabels.symm

/-! ## From forms to names -/

theorem pmapExcept_mk_eq_ok_iff {forms : Except ProtocolError Forms}
    {h : ∀ f, forms = .ok f → f.Valid} :
    pmapExcept Name.mk forms h = .ok n ↔ forms = .ok n.forms := by
  rw [pmapExcept_eq_ok_iff]
  constructor
  · rintro ⟨f, hf, rfl⟩
    exact hf
  · exact fun hf => ⟨n.forms, hf, rfl⟩

theorem ofTextWith_eq_ok_iff {convert : Converter} {text : String} :
    ofTextWith convert text = .ok n ↔ Forms.ofTextWith convert text = .ok n.forms :=
  pmapExcept_mk_eq_ok_iff

theorem join_eq_ok_iff_forms {child parent : Name} :
    join child parent = .ok n ↔ Forms.join child.forms parent.forms = .ok n.forms :=
  pmapExcept_mk_eq_ok_iff

theorem rawLabels_closest (n : Name) (k : Nat) : (n.closest k).rawLabels = n.rawLabels.take k := by
  show (Forms.closest n.forms k).rawLabels = _
  unfold Forms.closest
  split_ifs with h
  · refine (List.take_of_length_le ?_).symm
    rwa [n.valid.count_eq] at h
  · rw [Forms.rawLabels_ofRawLabels]
    rfl

theorem parent?_eq (n : Name) :
    n.parent? = if n.isRoot then none else some (n.closest (n.count - 1)) := by
  unfold parent? isRoot
  cases hroot : n.forms.isRoot
  · simp [Forms.parent?, hroot]
    rfl
  · simp [Forms.parent?, hroot]

section Reading

variable {message : Array UInt8} {pos : Nat} {reading : Reading}

theorem readAt_eq_ok_iff_forms :
    readAt message pos = .ok reading ↔
      Forms.readAt message pos = .ok (reading.name.forms, reading.next) := by
  unfold readAt
  rw [pmapExcept_eq_ok_iff]
  constructor
  · rintro ⟨read, hread, rfl⟩
    exact hread
  · exact fun hread => ⟨_, hread, rfl⟩

/-- A name is read where labels are read that are its own. -/
theorem readAt_eq_ok_iff :
    readAt message pos = .ok reading ↔
      readFrom message pos [] .empty none = .ok (reading.name.rawLabels, reading.next) := by
  rw [readAt_eq_ok_iff_forms, Forms.readAt, bind_eq_ok_iff]
  constructor
  · rintro ⟨⟨ls, next⟩, hread, h⟩
    obtain ⟨hforms, rfl⟩ := Prod.mk.injEq .. ▸ Except.ok.inj h
    rwa [← ofRawLabels_eq_forms_iff.1 hforms]
  · intro hread
    refine ⟨_, hread, ?_⟩
    rw [← ofRawLabels_eq_forms_iff.2 rfl]
    rfl

theorem readAt_eq_error_iff :
    readAt message pos = .error e ↔ readFrom message pos [] .empty none = .error e := by
  unfold readAt
  rw [pmapExcept_eq_error_iff, Forms.readAt]
  cases readFrom message pos [] .empty none with
  | ok read => exact iff_of_false (fun h => by cases h) (fun h => by cases h)
  | error e' => exact ⟨fun h => by cases h; rfl, fun h => by cases h; rfl⟩

end Reading

end StubResolver.Name
