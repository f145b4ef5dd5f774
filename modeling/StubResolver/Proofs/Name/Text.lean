import StubResolver.Proofs.Label.Text
import StubResolver.Proofs.Name.Labels

/-!
# The grammar of name text

Name text is a row of labels with a full stop between each two and perhaps one at the end
(`Spelled`). The reader drops the last stop, writes a dot for every stop, and cuts at the dots.

1. Cutting at the dots after the stops are written as dots is cutting at the stops
   (`splitOn_foldSeparators`), and the pieces are the labels of the row (`Joined.splitOnP_eq`,
   `joined_of_splitOnP`).
2. A label is at most 63 characters of ASCII. The reader looks at the number of labels, at each label
   and at the whole text in turn (`ofAce_eq_ok_iff`, `ofParts_eq_ok_iff`).
3. Only full stops, and at most two of them, are the root (`RootText`).
-/

namespace StubResolver

namespace Name

variable {c sep : Char} {cs ds : List Char} {part : List Char} {parts : List (List Char)}
  {text : String} {n : Name}

/-! ## The grammar -/

/-- One of the characters that end a label. -/
def FullStop (c : Char) : Prop :=
  c = '\u002E' ∨ c = '\u3002' ∨ c = '\uFF0E' ∨ c = '\uFF61'

instance : DecidablePred FullStop := fun _ => inferInstanceAs (Decidable (_ ∨ _))

/-- Parts without full stops, none of them empty, with one full stop between each two. -/
inductive Joined : List Char → List (List Char) → Prop
  | last {part : List Char} (hne : part ≠ []) (hpart : ∀ c ∈ part, ¬ FullStop c) :
      Joined part [part]
  | next {part rest : List Char} {sep : Char} {parts : List (List Char)} (hne : part ≠ [])
      (hpart : ∀ c ∈ part, ¬ FullStop c) (hsep : FullStop sep) (hrest : Joined rest parts) :
      Joined (part ++ sep :: rest) (part :: parts)

/-- Joined parts, with or without a full stop behind them. -/
inductive Spelled : List Char → List (List Char) → Prop
  | plain {cs : List Char} {parts : List (List Char)} (h : Joined cs parts) : Spelled cs parts
  | closed {cs : List Char} {sep : Char} {parts : List (List Char)} (h : Joined cs parts)
      (hsep : FullStop sep) : Spelled (cs ++ [sep]) parts

/-- Text of a name that is not the root. -/
structure Accepted (cs : List Char) (parts : List (List Char)) : Prop where
  spelled : Spelled cs parts
  count_le : parts.length ≤ 128
  length_le : ∀ part ∈ parts, part.length ≤ 63
  ascii : ∀ part ∈ parts, ∀ c ∈ part, c.toNat < 128

/-- Text of the root: nothing, or one or two full stops. -/
def RootText (cs : List Char) : Prop :=
  cs.length ≤ 2 ∧ ∀ c ∈ cs, FullStop c

/-! ## Cutting the text -/

theorem isSeparator_iff : isSeparator c = true ↔ FullStop c := by
  simp only [isSeparator, FullStop, Bool.or_eq_true, beq_iff_eq, or_assoc]

theorem isSeparator_eq_false_iff : isSeparator c = false ↔ ¬ FullStop c := by
  rw [← isSeparator_iff, Bool.not_eq_true]

theorem splitOn_foldSeparators (cs : List Char) :
    (foldSeparators cs).splitOn '.' = cs.splitOnP isSeparator := by
  induction cs with
  | nil => rfl
  | cons c cs ih =>
    rw [List.splitOnP_cons_eq_if_modifyHead, ← ih, foldSeparators, List.map_cons,
      List.splitOn_cons_eq_if_modifyHead]
    by_cases hc : isSeparator c = true
    · simp only [if_pos hc, beq_self_eq_true, if_true]
      rfl
    · have hdot : c ≠ '.' := by
        rintro rfl
        exact hc rfl
      simp only [if_neg hc, beq_eq_false_iff_ne.2 hdot]
      rfl

theorem Joined.ne_nil (h : Joined cs parts) : cs ≠ [] := by
  cases h with
  | last hne => exact hne
  | next hne => exact List.append_ne_nil_of_left_ne_nil hne _

theorem Joined.parts_ne_nil (h : Joined cs parts) : parts ≠ [] := by
  cases h <;> exact List.cons_ne_nil _ _

/-- Joined parts end in a letter of the last one. -/
theorem Joined.getLast? (h : Joined cs parts) : ∃ c, cs.getLast? = some c ∧ ¬ FullStop c := by
  induction h with
  | @last part hne hpart =>
    exact ⟨part.getLast hne, List.getLast?_eq_some_getLast hne, hpart _ (List.getLast_mem hne)⟩
  | @next part rest sep parts hne hpart hsep hrest ih =>
    obtain ⟨c, hc, hletter⟩ := ih
    refine ⟨c, ?_, hletter⟩
    rw [List.getLast?_append, List.getLast?_cons, hc]
    rfl

theorem Joined.ne_nil_of_mem (h : Joined cs parts) (hpart : part ∈ parts) : part ≠ [] := by
  induction h with
  | last hne => exact List.mem_singleton.1 hpart ▸ hne
  | next hne _ _ _ ih =>
    rcases List.mem_cons.1 hpart with rfl | hpart
    · exact hne
    · exact ih hpart

/-- The letters of the text are those of the parts. -/
theorem Joined.mem_iff (h : Joined cs parts) :
    c ∈ cs ∧ ¬ FullStop c ↔ ∃ part ∈ parts, c ∈ part := by
  induction h with
  | last hne hpart =>
    simp only [List.mem_singleton, exists_eq_left]
    exact ⟨fun h => h.1, fun h => ⟨h, hpart c h⟩⟩
  | next hne hpart hsep hrest ih =>
    rw [List.mem_append, List.mem_cons, List.exists_mem_cons_iff, ← ih]
    constructor
    · rintro ⟨hc | rfl | hc, hletter⟩
      · exact .inl hc
      · exact absurd hsep hletter
      · exact .inr ⟨hc, hletter⟩
    · rintro (hc | ⟨hc, hletter⟩)
      · exact ⟨.inl hc, hpart c hc⟩
      · exact ⟨.inr (.inr hc), hletter⟩

theorem Joined.splitOnP_eq (h : Joined cs parts) : cs.splitOnP isSeparator = parts := by
  induction h with
  | last hne hpart =>
    exact List.splitOnP_eq_singleton fun c hc => isSeparator_eq_false_iff.2 (hpart c hc)
  | next hne hpart hsep hrest ih =>
    rw [List.splitOnP_append_cons_of_forall_mem
      (fun c hc => isSeparator_eq_false_iff.2 (hpart c hc)) _ (isSeparator_iff.2 hsep), ih]

/-- Text that is cut into parts none of which is empty is these parts joined. -/
theorem joined_of_splitOnP (h : cs.splitOnP isSeparator = parts) (hne : ∀ part ∈ parts, part ≠ []) :
    Joined cs parts := by
  -- each part but the last is what stands before the first stop
  induction parts generalizing cs with
  | nil => exact absurd h (List.splitOnP_ne_nil _ _)
  | cons part parts ih =>
    cases hfind : cs.find? isSeparator with
    | none =>
      have hletters := List.find?_eq_none.1 hfind
      rw [List.splitOnP_eq_singleton fun c hc => Bool.not_eq_true _ ▸ hletters c hc] at h
      cases h
      exact .last (hne _ List.mem_cons_self) fun c hc => isSeparator_iff.not.1 (hletters c hc)
    | some sep =>
      obtain ⟨hsep, front, rest, rfl, hletters⟩ := List.find?_eq_some_iff_append.1 hfind
      have hfront : ∀ c ∈ front, isSeparator c = false := fun c hc => by simpa using hletters c hc
      rw [List.splitOnP_append_cons_of_forall_mem hfront _ hsep, List.cons.injEq] at h
      obtain ⟨rfl, hrest⟩ := h
      exact .next (hne _ List.mem_cons_self)
        (fun c hc => isSeparator_eq_false_iff.1 (hfront c hc)) (isSeparator_iff.1 hsep)
        (ih hrest fun p hp => hne p (List.mem_cons_of_mem _ hp))

/-! ## The full stop at the end -/

theorem dropFinalSeparator_closed (hne : cs ≠ []) (hsep : FullStop sep) :
    dropFinalSeparator (cs ++ [sep]) = cs := by
  have hlen := List.length_pos_iff.2 hne
  rw [dropFinalSeparator, if_pos, List.dropLast_concat]
  rw [List.length_append, List.getLast?_concat, Option.map_some, isSeparator_iff.2 hsep]
  exact ⟨by simp only [List.length_singleton]; omega, rfl⟩

theorem dropFinalSeparator_of_letter (hletter : ¬ FullStop c) :
    dropFinalSeparator (cs ++ [c]) = cs ++ [c] := by
  rw [dropFinalSeparator, List.getLast?_concat, if_neg]
  rintro ⟨-, hsep⟩
  exact hletter (isSeparator_iff.1 (Option.some.inj hsep))

theorem Joined.dropFinalSeparator_eq (h : Joined cs parts) : dropFinalSeparator cs = cs := by
  obtain ⟨c, hc, hletter⟩ := h.getLast?
  obtain ⟨front, rfl⟩ := List.getLast?_eq_some_iff.1 hc
  exact dropFinalSeparator_of_letter hletter

theorem Spelled.joined (h : Spelled cs parts) : Joined (dropFinalSeparator cs) parts := by
  cases h with
  | plain h => rwa [h.dropFinalSeparator_eq]
  | closed h hsep => rwa [dropFinalSeparator_closed h.ne_nil hsep]

/-- The text is that without the stop at its end, or has one there. -/
theorem eq_or_eq_append_of_dropFinalSeparator (cs : List Char) :
    cs = dropFinalSeparator cs ∨ ∃ sep, FullStop sep ∧ cs = dropFinalSeparator cs ++ [sep] := by
  unfold dropFinalSeparator
  split_ifs with h
  · obtain ⟨-, hlast⟩ := h
    obtain ⟨sep, hlast, hsep⟩ := Option.map_eq_some_iff.1 hlast
    exact .inr ⟨sep, isSeparator_iff.1 hsep, (List.dropLast_append_getLast? sep hlast).symm⟩
  · exact .inl rfl

theorem spelled_of_joined (h : Joined (dropFinalSeparator cs) parts) : Spelled cs parts := by
  rcases eq_or_eq_append_of_dropFinalSeparator cs with heq | ⟨sep, hsep, heq⟩
  · rw [heq]
    exact .plain h
  · rw [heq]
    exact .closed h hsep

theorem spelled_iff : Spelled cs parts ↔ Joined (dropFinalSeparator cs) parts :=
  ⟨Spelled.joined, spelled_of_joined⟩

/-! ## The labels of the parts -/

theorem ofParts_eq_ok_iff {ls : List Label} :
    ofParts text parts = .ok ls ↔
      (∀ part ∈ parts, part ≠ [] ∧ part.length ≤ 63 ∧ ∀ c ∈ part, c.toNat < 256) ∧
        ls.map Label.octets = parts.map (List.map Label.octetOf) := by
  induction parts generalizing ls with
  | nil =>
    rw [ofParts, List.map_nil, List.map_eq_nil_iff]
    simp [eq_comm]
  | cons part parts ih =>
    rw [ofParts, List.forall_mem_cons]
    by_cases hne : part = []
    · rw [if_pos hne]
      exact iff_of_false (fun h => by cases h) (fun h => h.1.1.1 hne)
    · rw [if_neg hne, bind_eq_ok_iff]
      simp only [bind_eq_ok_iff]
      constructor
      · rintro ⟨l, hl, rest, hrest, h⟩
        obtain ⟨hcs, hlen, hoctets⟩ := Label.ofText_eq_ok_iff.1 hl
        obtain ⟨hparts, hlabels⟩ := ih.1 hrest
        cases h
        exact ⟨⟨⟨hne, hlen, hcs⟩, hparts⟩, by rw [List.map_cons, List.map_cons, hoctets, hlabels]⟩
      · rintro ⟨⟨⟨_, hlen, hcs⟩, hparts⟩, hlabels⟩
        cases ls with
        | nil => cases hlabels
        | cons l ls =>
          rw [List.map_cons, List.map_cons, List.cons.injEq] at hlabels
          exact ⟨l, Label.ofText_eq_ok_iff.2 ⟨hcs, hlen, hlabels.1⟩, ls, ih.2 ⟨hparts, hlabels.2⟩,
            rfl⟩

theorem ofAce_eq_ok_iff {ace : List Char} (h : ¬ (ace = [] ∨ ace = ['.'])) :
    Forms.ofAce text ace = .ok n.forms ↔
      (ace.splitOn '.').length ≤ 128 ∧
        ofParts text (ace.splitOn '.').reverse = .ok n.rawLabels := by
  unfold Forms.ofAce
  rw [if_neg h]
  dsimp only
  split_ifs with hcount
  · exact iff_of_false (fun h => by cases h) (fun h => Nat.not_le.2 hcount h.1)
  · rw [bind_eq_ok_iff, and_iff_right (Nat.not_lt.1 hcount)]
    constructor
    · rintro ⟨ls, hls, hforms⟩
      rwa [← ofRawLabels_eq_forms_iff.1 (Except.ok.inj hforms)]
    · intro hn
      exact ⟨_, hn, congrArg Except.ok (ofRawLabels_eq_forms_iff.2 rfl)⟩

/-! ## Reading text -/

theorem dropFinalSeparator_subset (cs : List Char) : dropFinalSeparator cs ⊆ cs := by
  unfold dropFinalSeparator
  split_ifs
  · exact List.dropLast_subset cs
  · exact List.Subset.refl cs

/-- Text that is not the root's is converted and cut. -/
theorem ofTextWith_eq_bind (h : ¬ RootText text.toList) :
    Forms.ofTextWith asciiOnly text =
      asciiOnly (String.ofList (foldSeparators (dropFinalSeparator text.toList))) >>=
        fun ace => Forms.ofAce text ace.toList := by
  unfold Forms.ofTextWith
  dsimp only
  rw [if_neg]
  rintro (hnil | ⟨hlen, hall⟩)
  · exact h (hnil ▸ ⟨by simp, by simp⟩)
  · exact h ⟨by omega, fun c hc => isSeparator_iff.1 (List.all_eq_true.1 hall c hc)⟩

theorem foldSeparators_ne (h : ¬ RootText cs) :
    ¬ (foldSeparators (dropFinalSeparator cs) = [] ∨
      foldSeparators (dropFinalSeparator cs) = ['.']) := by
  intro hshort
  -- what is left is nothing or a stop, so the text is at most a stop more
  have hleft : (dropFinalSeparator cs).length ≤ 1 ∧ ∀ c ∈ dropFinalSeparator cs, FullStop c := by
    rcases hshort with hnil | hdot
    · rw [List.map_eq_nil_iff.1 hnil]
      exact ⟨by simp, by simp⟩
    · obtain ⟨a, ha, hdot⟩ := List.map_eq_singleton_iff.1 hdot
      rw [ha, List.forall_mem_singleton]
      refine ⟨Nat.le_refl 1, ?_⟩
      by_cases hstop : isSeparator a = true
      · exact isSeparator_iff.1 hstop
      · rw [if_neg hstop] at hdot
        exact .inl hdot
  obtain ⟨hlen, hstops⟩ := hleft
  rcases eq_or_eq_append_of_dropFinalSeparator cs with heq | ⟨sep, hsep, heq⟩
  · rw [heq] at h
    exact h ⟨by omega, hstops⟩
  · rw [heq] at h
    refine h ⟨?_, List.forall_mem_append.2 ⟨hstops, List.forall_mem_singleton.2 hsep⟩⟩
    rw [List.length_append, List.length_singleton]
    omega

theorem all_ascii_foldSeparators :
    ((foldSeparators cs).all fun c => c.toNat < 128) = true ↔
      ∀ c ∈ cs, ¬ FullStop c → c.toNat < 128 := by
  simp only [foldSeparators, List.all_map, List.all_eq_true, Function.comp_apply, decide_eq_true_eq]
  refine forall₂_congr fun c _ => ?_
  by_cases hc : FullStop c
  · rw [if_pos (isSeparator_iff.2 hc)]
    exact iff_of_true (by decide) (fun h => absurd hc h)
  · rw [if_neg (isSeparator_iff.not.2 hc)]
    exact ⟨fun h _ => h, fun h => h hc⟩

theorem ofText_of_not_ascii (hc : c ∈ dropFinalSeparator text.toList) (hletter : ¬ FullStop c)
    (hascii : 128 ≤ c.toNat) :
    ofText text =
      .error (.noAsciiForm
        (String.ofList (foldSeparators (dropFinalSeparator text.toList)))) := by
  have hroot : ¬ RootText text.toList := fun h => hletter (h.2 c (dropFinalSeparator_subset _ hc))
  rw [ofText, ofTextWith, pmapExcept_eq_error_iff, ofTextWith_eq_bind hroot, asciiOnly, if_neg]
  · rfl
  · rw [String.toList_ofList, all_ascii_foldSeparators]
    exact fun h => absurd (h c hc hletter) (Nat.not_lt.2 hascii)

theorem ofText_eq_ok_iff_ofAce (h : ¬ RootText text.toList) :
    ofText text = .ok n ↔
      (∀ c ∈ dropFinalSeparator text.toList, ¬ FullStop c → c.toNat < 128) ∧
        Forms.ofAce text (foldSeparators (dropFinalSeparator text.toList)) = .ok n.forms := by
  rw [ofText, ofTextWith_eq_ok_iff, ofTextWith_eq_bind h, asciiOnly, String.toList_ofList,
    ← all_ascii_foldSeparators]
  split_ifs with hascii
  · simp only [bind_eq_ok_iff, Except.ok.injEq, exists_eq_left', String.toList_ofList,
      and_iff_right hascii]
  · exact iff_of_false (fun h => by cases h) (fun h => hascii h.1)

/-- Text that is not the root's is read if its parts are labels. -/
theorem ofText_eq_ok_iff (h : ¬ RootText text.toList) :
    ofText text = .ok n ↔ ∃ parts, Accepted text.toList parts ∧
      n.rawLabels.map Label.octets = parts.reverse.map (List.map Label.octetOf) := by
  rw [ofText_eq_ok_iff_ofAce h, ofAce_eq_ok_iff (foldSeparators_ne h), splitOn_foldSeparators,
    ofParts_eq_ok_iff]
  simp only [List.mem_reverse]
  constructor
  · rintro ⟨hascii, hcount, hlabels, hoctets⟩
    have hjoined := joined_of_splitOnP rfl fun part hpart => (hlabels part hpart).1
    refine ⟨_, ⟨spelled_of_joined hjoined, hcount, fun part hpart => (hlabels part hpart).2.1,
      fun part hpart c hc => ?_⟩, hoctets⟩
    obtain ⟨hmem, hletter⟩ := hjoined.mem_iff.2 ⟨part, hpart, hc⟩
    exact hascii c hmem hletter
  · rintro ⟨parts, haccepted, hoctets⟩
    have hjoined := haccepted.spelled.joined
    rw [hjoined.splitOnP_eq]
    refine ⟨fun c hc hletter => ?_, haccepted.count_le, fun part hpart => ?_, hoctets⟩
    · obtain ⟨part, hpart, hc⟩ := hjoined.mem_iff.1 ⟨hc, hletter⟩
      exact haccepted.ascii part hpart c hc
    · exact ⟨hjoined.ne_nil_of_mem hpart, haccepted.length_le part hpart,
        fun c hc => Nat.lt_trans (haccepted.ascii part hpart c hc) (by decide)⟩

theorem ofText_of_rootText (h : RootText text.toList) : ofText text = .ok root := by
  obtain ⟨hlen, hstops⟩ := h
  rw [ofText, ofTextWith_eq_ok_iff]
  unfold Forms.ofTextWith
  -- of two stops the last is dropped, and the dot for the first is the root to the converter
  match hcs : text.toList, hlen, hstops with
  | [], _, _ => rfl
  | [a], _, hstops =>
    have ha := isSeparator_iff.2 (hstops a List.mem_cons_self)
    rw [if_pos (.inr ⟨rfl, by simpa using ha⟩)]
    rfl
  | [a, b], _, hstops =>
    have ha := isSeparator_iff.2 (hstops a List.mem_cons_self)
    have hdrop := dropFinalSeparator_closed (List.cons_ne_nil a []) (hstops b (by simp))
    rw [if_neg (by simp), show [a, b] = [a] ++ [b] from rfl, hdrop, foldSeparators, List.map_cons,
      if_pos ha]
    rfl

theorem Accepted.not_rootText (h : Accepted cs parts) : ¬ RootText cs := by
  obtain ⟨c, hc, hletter⟩ := h.spelled.joined.getLast?
  exact fun hroot => hletter
    (hroot.2 c (dropFinalSeparator_subset cs (List.mem_of_getLast? hc)))

theorem Accepted.parts_ne_nil (h : Accepted cs parts) : parts ≠ [] :=
  h.spelled.joined.parts_ne_nil

theorem ofText_eq_root_iff : ofText text = .ok root ↔ RootText text.toList := by
  refine ⟨fun h => ?_, ofText_of_rootText⟩
  by_contra hroot
  obtain ⟨parts, haccepted, hlabels⟩ := (ofText_eq_ok_iff hroot).1 h
  refine haccepted.parts_ne_nil (List.reverse_eq_nil_iff.1 ?_)
  exact List.map_eq_nil_iff.1 hlabels.symm

/-- Whatever is neither the root's text nor that of another name is refused. -/
theorem ofText_ne_root_iff :
    ofText text = .ok n ∧ n ≠ root ↔ ∃ parts, Accepted text.toList parts ∧
      n.rawLabels.map Label.octets = parts.reverse.map (List.map Label.octetOf) := by
  by_cases hroot : RootText text.toList
  · refine iff_of_false ?_ fun ⟨parts, h, _⟩ => h.not_rootText hroot
    rintro ⟨h, hn⟩
    cases h.symm.trans (ofText_of_rootText hroot)
    exact hn rfl
  · rw [← ofText_eq_ok_iff hroot, and_iff_left_iff_imp]
    rintro h rfl
    exact hroot (ofText_eq_root_iff.1 h)

theorem exists_ofText_of_accepted (h : Accepted text.toList parts) :
    ∃ n, ofText text = .ok n ∧
      n.rawLabels.map Label.octets = parts.reverse.map (List.map Label.octetOf) := by
  have hcount : (parts.reverse.map (List.map Label.octetOf)).length ≤ 128 := by
    rw [List.length_map, List.length_reverse]
    exact h.count_le
  obtain ⟨n, hn⟩ := exists_rawLabels hcount <| List.forall_mem_map.2 fun part hpart => by
    rw [List.mem_reverse] at hpart
    rw [List.length_map]
    exact ⟨List.length_pos_iff.2 (h.spelled.joined.ne_nil_of_mem hpart), h.length_le part hpart⟩
  exact ⟨n, (ofText_ne_root_iff.2 ⟨parts, h, hn⟩).1, hn⟩

end Name

end StubResolver
