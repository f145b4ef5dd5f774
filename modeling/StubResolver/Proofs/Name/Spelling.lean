import Mathlib.Data.List.Forall2
import StubResolver.Proofs.Name.Dotted
import StubResolver.Proofs.Name.Text

/-!
# Spellings of a name

Texts may differ in which full stops they have, in the case of their letters and in a stop behind
the last label, and still be read as the same name (`Alike.readsAs_iff`). Parts of texts that differ
in this way are the same in lower case, and so are their octets.
-/

namespace StubResolver

theorem exists_append_of_forall₂ {α β : Type} {R : α → β → Prop} {xs ys : List α} {zs : List β}
    (h : List.Forall₂ R (xs ++ ys) zs) :
    ∃ xs' ys', zs = xs' ++ ys' ∧ List.Forall₂ R xs xs' ∧ List.Forall₂ R ys ys' := by
  induction xs generalizing zs with
  | nil => exact ⟨[], zs, rfl, .nil, h⟩
  | cons x xs ih =>
    cases h with
    | cons hx h =>
      obtain ⟨xs', ys', rfl, hxs, hys⟩ := ih h
      exact ⟨_ :: xs', ys', rfl, .cons hx hxs, hys⟩

theorem toNat_toLower (c : Char) :
    c.toLower.toNat = if 65 ≤ c.toNat ∧ c.toNat ≤ 90 then c.toNat + 32 else c.toNat := by
  have hupper : (c.val ≥ 'A'.val ∧ c.val ≤ 'Z'.val) ↔ 65 ≤ c.toNat ∧ c.toNat ≤ 90 := by
    rw [ge_iff_le, UInt32.le_iff_toNat_le, UInt32.le_iff_toNat_le]
    rfl
  unfold Char.toLower
  by_cases h : c.val ≥ 'A'.val ∧ c.val ≤ 'Z'.val
  · rw [dif_pos h, if_pos (hupper.1 h)]
    have hle : c.toNat ≤ 90 := (hupper.1 h).2
    show (c.val + 32).toNat = c.toNat + 32
    rw [UInt32.toNat_add, Char.toNat_val]
    show (c.toNat + 32) % 4294967296 = c.toNat + 32
    omega
  · rw [dif_neg h, if_neg (mt hupper.2 h)]

theorem toNat_lt_of_toLower_eq {c d : Char} (h : c.toLower = d.toLower) (hascii : c.toNat < 128) :
    d.toNat < 128 := by
  have hnat := congrArg Char.toNat h
  rw [toNat_toLower, toNat_toLower] at hnat
  split_ifs at hnat <;> omega

namespace Name

variable {c d sep : Char} {cs ds : List Char} {parts : List (List Char)} {text : String} {n : Name}

/-- Both are full stops, or the characters are the same up to the case of ASCII letters. -/
def AlikeChar (c d : Char) : Prop :=
  (FullStop c ∧ FullStop d) ∨ c.toLower = d.toLower

/-- Texts that differ only in which full stops they have, in the case of ASCII letters, or in a
single full stop behind the last label. -/
inductive Alike : List Char → List Char → Prop
  | spelling {cs ds : List Char} (h : List.Forall₂ AlikeChar cs ds) : Alike cs ds
  | closing {cs : List Char} {c sep : Char} (hletter : ¬ FullStop c) (hsep : FullStop sep) :
      Alike (cs ++ [c]) (cs ++ [c, sep])
  | symm {cs ds : List Char} (h : Alike cs ds) : Alike ds cs
  | trans {cs ds es : List Char} (h : Alike cs ds) (h' : Alike ds es) : Alike cs es

theorem fullStop_iff_toNat :
    FullStop c ↔ c.toNat = 0x2E ∨ c.toNat = 0x3002 ∨ c.toNat = 0xFF0E ∨ c.toNat = 0xFF61 := by
  rw [FullStop, ← Char.toNat_inj, ← Char.toNat_inj, ← Char.toNat_inj, ← Char.toNat_inj]
  rfl

theorem AlikeChar.symm (h : AlikeChar c d) : AlikeChar d c :=
  h.imp And.symm Eq.symm

theorem AlikeChar.fullStop_iff (h : AlikeChar c d) : FullStop c ↔ FullStop d := by
  rcases h with ⟨hc, hd⟩ | h
  · exact iff_of_true hc hd
  · have hnat := congrArg Char.toNat h
    rw [toNat_toLower, toNat_toLower] at hnat
    rw [fullStop_iff_toNat, fullStop_iff_toNat]
    split_ifs at hnat <;> omega

theorem lowerOctet_octetOf (hascii : c.toNat < 128) :
    Octets.lowerOctet (Label.octetOf c) = Label.octetOf c.toLower := by
  apply UInt8.toNat_inj.1
  have hlower := toNat_toLower c
  simp only [Octets.toNat_lowerOctet, Label.octetOf, UInt8.toNat_ofNat', hlower]
  split_ifs <;> omega

theorem map_toLower_eq (h : List.Forall₂ AlikeChar cs ds)
    (hletters : ∀ c ∈ cs, ¬ FullStop c) :
    (∀ d ∈ ds, ¬ FullStop d) ∧ cs.map Char.toLower = ds.map Char.toLower := by
  induction h with
  | nil => exact ⟨by simp, rfl⟩
  | @cons c d cs ds hcd _ ih =>
    obtain ⟨hc, hcs⟩ := List.forall_mem_cons.1 hletters
    obtain ⟨hds, hlower⟩ := ih hcs
    refine ⟨List.forall_mem_cons.2 ⟨hcd.fullStop_iff.not.1 hc, hds⟩, ?_⟩
    rw [List.map_cons, List.map_cons, hlower, hcd.resolve_left fun h => hc h.1]

theorem Joined.alike (h : Joined cs parts) (halike : List.Forall₂ AlikeChar cs ds) :
    ∃ parts', Joined ds parts' ∧
      parts.map (List.map Char.toLower) = parts'.map (List.map Char.toLower) := by
  have hne : ∀ {xs ys : List Char}, List.Forall₂ AlikeChar xs ys → xs ≠ [] → ys ≠ [] := by
    intro xs ys h hxs hys
    rw [← List.length_pos_iff, h.length_eq, hys] at hxs
    exact absurd hxs (by decide)
  induction h generalizing ds with
  | last hpart hletters =>
    obtain ⟨hds, hlower⟩ := map_toLower_eq halike hletters
    exact ⟨[ds], .last (hne halike hpart) hds, congrArg (fun x => [x]) hlower⟩
  | next hpart hletters hsep _ ih =>
    obtain ⟨front, back, rfl, hfront, hback⟩ := exists_append_of_forall₂ halike
    cases hback with
    | cons hstop hrest =>
      obtain ⟨hds, hlower⟩ := map_toLower_eq hfront hletters
      obtain ⟨parts', hjoined, hparts⟩ := ih hrest
      refine ⟨front :: parts', .next (hne hfront hpart) hds (hstop.fullStop_iff.1 hsep) hjoined, ?_⟩
      rw [List.map_cons, List.map_cons, hlower, hparts]

theorem Spelled.alike (h : Spelled cs parts)
    (halike : List.Forall₂ AlikeChar cs ds) :
    ∃ parts', Spelled ds parts' ∧
      parts.map (List.map Char.toLower) = parts'.map (List.map Char.toLower) := by
  cases h with
  | plain h =>
    obtain ⟨parts', hjoined, hparts⟩ := h.alike halike
    exact ⟨parts', .plain hjoined, hparts⟩
  | closed h hsep =>
    obtain ⟨front, back, rfl, hfront, hback⟩ := exists_append_of_forall₂ halike
    obtain ⟨parts', hjoined, hparts⟩ := h.alike hfront
    cases hback with
    | cons hstop hnil =>
      cases hnil
      exact ⟨parts', .closed hjoined (hstop.fullStop_iff.1 hsep), hparts⟩

theorem Accepted.alike (h : Accepted cs parts)
    (halike : List.Forall₂ AlikeChar cs ds) :
    ∃ parts', Accepted ds parts' ∧
      parts.map (List.map Char.toLower) = parts'.map (List.map Char.toLower) := by
  obtain ⟨parts', hspelled, hparts⟩ := h.spelled.alike halike
  -- each part has its like among the parts of the other text
  have hlike : ∀ part' ∈ parts', ∃ part ∈ parts,
      part.map Char.toLower = part'.map Char.toLower := by
    intro part' hpart'
    have hmem := List.mem_map_of_mem (f := List.map Char.toLower) hpart'
    rw [← hparts] at hmem
    exact List.mem_map.1 hmem
  have hcount := congrArg List.length hparts
  rw [List.length_map, List.length_map] at hcount
  refine ⟨parts', ⟨hspelled, hcount ▸ h.count_le, fun part' hpart' => ?_,
    fun part' hpart' d hd => ?_⟩, hparts⟩
  · obtain ⟨part, hpart, hlower⟩ := hlike part' hpart'
    have hlen := congrArg List.length hlower
    rw [List.length_map, List.length_map] at hlen
    exact hlen ▸ h.length_le part hpart
  · obtain ⟨part, hpart, hlower⟩ := hlike part' hpart'
    have hmem := List.mem_map_of_mem (f := Char.toLower) hd
    rw [← hlower] at hmem
    obtain ⟨c, hc, heq⟩ := List.mem_map.1 hmem
    exact toNat_lt_of_toLower_eq heq (h.ascii part hpart c hc)

/-- The labels in lower case are the parts in lower case. -/
theorem Accepted.map_labels (h : Accepted cs parts)
    (hn : n.rawLabels.map Label.octets = parts.reverse.map (List.map Label.octetOf)) :
    n.labels.map Label.octets =
      (parts.map (List.map Char.toLower)).reverse.map (List.map Label.octetOf) := by
  calc n.labels.map Label.octets
    _ = (n.rawLabels.map Label.octets).map (List.map Octets.lowerOctet) := by
      simp only [labels_eq, List.map_map, Function.comp_def, Label.lower]
    _ = (parts.map (List.map Char.toLower)).reverse.map (List.map Label.octetOf) := by
      rw [hn, ← List.map_reverse, List.map_map, List.map_map]
      refine List.map_congr_left fun part hpart => ?_
      simp only [Function.comp_apply, List.map_map]
      refine List.map_congr_left fun c hc => ?_
      exact lowerOctet_octetOf (h.ascii part (List.mem_reverse.1 hpart) c hc)

theorem RootText.alike (h : RootText cs)
    (halike : List.Forall₂ AlikeChar cs ds) : RootText ds := by
  obtain ⟨hlen, hstops⟩ := h
  refine ⟨halike.length_eq ▸ hlen, ?_⟩
  clear hlen
  induction halike with
  | nil => simp
  | cons hcd _ ih =>
    obtain ⟨hc, hcs⟩ := List.forall_mem_cons.1 hstops
    exact List.forall_mem_cons.2 ⟨hcd.fullStop_iff.1 hc, ih hcs⟩

/-- The text is read as a name with these labels in lower case. -/
def ReadsAs (cs : List Char) (ls : List Label) : Prop :=
  ∃ n, ofText (String.ofList cs) = .ok n ∧ n.labels = ls

theorem readsAs_toList {ls : List Label} :
    ReadsAs text.toList ls ↔ ∃ n, ofText text = .ok n ∧ n.labels = ls := by
  rw [ReadsAs, String.ofList_toList]

theorem ReadsAs.spelling {ls : List Label} (h : ReadsAs cs ls)
    (halike : List.Forall₂ AlikeChar cs ds) : ReadsAs ds ls := by
  obtain ⟨n, hn, rfl⟩ := h
  by_cases hroot : n = root
  · subst hroot
    rw [ofText_eq_root_iff, String.toList_ofList] at hn
    refine ⟨root, ofText_of_rootText ?_, rfl⟩
    rw [String.toList_ofList]
    exact hn.alike halike
  · obtain ⟨parts, haccepted, hlabels⟩ := ofText_ne_root_iff.1 ⟨hn, hroot⟩
    rw [String.toList_ofList] at haccepted
    obtain ⟨parts', haccepted', hparts⟩ := haccepted.alike halike
    have htext : Accepted (String.ofList ds).toList parts' := by rwa [String.toList_ofList]
    obtain ⟨m, hm, hlabels'⟩ := exists_ofText_of_accepted htext
    refine ⟨m, hm, Label.octets_injective.list_map ?_⟩
    rw [haccepted'.map_labels hlabels', haccepted.map_labels hlabels, hparts]

theorem accepted_closing_iff (hletter : ¬ FullStop c) (hsep : FullStop sep) :
    Accepted (cs ++ [c, sep]) parts ↔ Accepted (cs ++ [c]) parts := by
  have hspelled : Spelled (cs ++ [c, sep]) parts ↔ Spelled (cs ++ [c]) parts := by
    rw [spelled_iff, spelled_iff, dropFinalSeparator_of_letter hletter,
      show cs ++ [c, sep] = (cs ++ [c]) ++ [sep] by simp,
      dropFinalSeparator_closed (by simp) hsep]
  exact ⟨fun h => { h with spelled := hspelled.1 h.spelled },
    fun h => { h with spelled := hspelled.2 h.spelled }⟩

theorem readsAs_closing_iff (hletter : ¬ FullStop c) (hsep : FullStop sep)
    {ls : List Label} : ReadsAs (cs ++ [c, sep]) ls ↔ ReadsAs (cs ++ [c]) ls := by
  have hroot : ∀ ds, c ∈ ds → ¬ RootText (String.ofList ds).toList := by
    intro ds hc h
    rw [String.toList_ofList] at h
    exact hletter (h.2 c hc)
  refine exists_congr fun n => and_congr_left fun _ => ?_
  rw [ofText_eq_ok_iff (hroot _ (by simp)), ofText_eq_ok_iff (hroot _ (by simp)),
    String.toList_ofList, String.toList_ofList]
  simp only [accepted_closing_iff hletter hsep]

theorem Alike.readsAs_iff (h : Alike cs ds) {ls : List Label} :
    ReadsAs cs ls ↔ ReadsAs ds ls := by
  induction h with
  | spelling h =>
    have hback := List.Forall₂.flip (h.imp fun _ _ hcd => hcd.symm)
    exact ⟨fun hcs => hcs.spelling h, fun hds => hds.spelling hback⟩
  | closing hletter hsep => exact (readsAs_closing_iff hletter hsep).symm
  | symm _ ih => exact ih.symm
  | trans _ _ ih ih' => exact ih.trans ih'

/-- **The reader of text accepts the grammar.** Text is read as a name other than the root exactly
if it spells at most 128 labels, and these are the labels of the name, root first. It is the root
exactly if it is nothing but at most two full stops, and all other text is refused. Texts that
differ only in their full stops, in the case of ASCII letters or in a single full stop at the end
are read as the same name or both refused. -/
theorem ofText_accepts_text (text : String) :
    (∀ n, ofText text = .ok n ∧ n ≠ root ↔ ∃ parts, Accepted text.toList parts ∧
      n.rawLabels.map Label.octets = parts.reverse.map (List.map Label.octetOf)) ∧
    (ofText text = .ok root ↔ RootText text.toList) ∧
    ((∃ e, ofText text = .error e) ↔
      ¬ RootText text.toList ∧ ¬ ∃ parts, Accepted text.toList parts) ∧
    ∀ other : String, Alike text.toList other.toList →
      (∃ e e', ofText text = .error e ∧ ofText other = .error e') ∨
        ∃ n m, ofText text = .ok n ∧ ofText other = .ok m ∧ n.same m = true := by
  refine ⟨fun n => ofText_ne_root_iff, ofText_eq_root_iff, ⟨?_, ?_⟩, fun other halike => ?_⟩
  · rintro ⟨e, he⟩
    refine ⟨fun hroot => ?_, fun ⟨parts, haccepted⟩ => ?_⟩
    · cases he.symm.trans (ofText_of_rootText hroot)
    · obtain ⟨n, hn, _⟩ := exists_ofText_of_accepted haccepted
      cases he.symm.trans hn
  · rintro ⟨hroot, hnone⟩
    cases htext : ofText text with
    | error e => exact ⟨e, rfl⟩
    | ok n =>
      obtain ⟨parts, haccepted, _⟩ := (ofText_eq_ok_iff hroot).1 htext
      exact absurd ⟨parts, haccepted⟩ hnone
  · have hreads : ∀ ls, (∃ n, ofText text = .ok n ∧ n.labels = ls) ↔
        ∃ m, ofText other = .ok m ∧ m.labels = ls := by
      intro ls
      rw [← readsAs_toList, ← readsAs_toList, halike.readsAs_iff]
    cases htext : ofText text with
    | ok n =>
      obtain ⟨m, hm, hlabels⟩ := (hreads n.labels).1 ⟨n, htext, rfl⟩
      exact .inr ⟨n, m, rfl, hm, same_iff.2 hlabels.symm⟩
    | error e =>
      cases hother : ofText other with
      | error e' => exact .inl ⟨e, e', rfl, rfl⟩
      | ok m =>
        obtain ⟨n, hn, _⟩ := (hreads m.labels).2 ⟨m, hother, rfl⟩
        cases htext.symm.trans hn

/-- A text with other stops and letters than the first, and one more stop. -/
theorem ofText_accepts_text_two_spellings :
    Alike "Ex。a．".toList "eX.a".toList ∧
      ∃ n m, ofText "Ex。a．" = .ok n ∧ ofText "eX.a" = .ok m ∧ n.same m = true := by
  have hclosing : Alike (['E', 'x', '。'] ++ ['a']) (['E', 'x', '。'] ++ ['a', '．']) :=
    .closing (by decide) (by decide)
  have hspelling : List.Forall₂ AlikeChar ['E', 'x', '。', 'a'] ['e', 'X', '.', 'a'] :=
    .cons (.inr rfl) (.cons (.inr rfl) (.cons (.inl (by decide)) (.cons (.inr rfl) .nil)))
  have halike : Alike "Ex。a．".toList "eX.a".toList := .trans (.symm hclosing) (.spelling hspelling)
  obtain ⟨_, _, _, hagree⟩ := ofText_accepts_text "Ex。a．"
  rcases hagree "eX.a" halike with ⟨e, e', _, he'⟩ | hsame
  · cases he'
  · exact ⟨halike, hsame⟩

end Name

end StubResolver
