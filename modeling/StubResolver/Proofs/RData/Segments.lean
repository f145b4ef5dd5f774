import Mathlib.Data.List.Forall2
import StubResolver.Proofs.RData

/-!
# Character strings of a text

A blob that is accepted consists of its character strings, each behind an octet with its length
(`blobOf_segmentsOf`), and any strings of at most 255 octets are those of the blob made of them
(`segmentsOf_blobOf`). What is made of strings of any length has their pieces (`Cut`) for its
character strings, so nothing but the places of the cuts is lost.
-/

namespace StubResolver.TextStrings

variable {data s : Octets} {strings : List Octets} {t x y : TextStrings}

/-! ## Walking a blob -/

theorem segmentsOf_blobOf (h : ∀ s ∈ strings, s.length ≤ 255) :
    segmentsOf (blobOf strings) = strings := by
  induction strings with
  | nil => rw [blobOf, List.flatMap_nil, segmentsOf]
  | cons s ss ih =>
    obtain ⟨hs, hss⟩ := List.forall_mem_cons.1 h
    rw [blobOf, List.flatMap_cons, List.cons_append, segmentsOf, Octets.toNat_length hs,
      if_pos (Octets.atLeast_iff.2 (by rw [List.length_append]; omega)), List.take_left,
      List.drop_left]
    exact congrArg _ (ih hss)

theorem blobOf_segmentsOf (h : check data = .ok ()) : blobOf (segmentsOf data) = data := by
  fun_induction segmentsOf data with
  | case1 => rfl
  | case2 n rest hlen ih =>
    rw [check, if_pos hlen] at h
    have hlength := List.length_take_of_le (Octets.atLeast_iff.1 hlen)
    rw [blobOf, List.flatMap_cons, hlength, UInt8.ofNat_toNat, List.cons_append]
    exact congrArg _ ((congrArg _ (ih h)).trans (List.take_append_drop _ _))
  | case3 n rest hlen =>
    rw [check, if_neg hlen] at h
    cases h

theorem length_le_of_mem_segmentsOf (h : s ∈ segmentsOf data) : s.length ≤ 255 := by
  fun_induction segmentsOf data with
  | case1 => cases h
  | case2 n rest hlen ih =>
    rcases List.mem_cons.1 h with rfl | h
    · have := n.toNat_lt
      exact Nat.le_trans (List.length_take_le _ _) (by omega)
    · exact ih h
  | case3 => cases h

theorem check_eq_ok_iff :
    check data = .ok () ↔ ∃ strings, (∀ s ∈ strings, s.length ≤ 255) ∧ data = blobOf strings := by
  constructor
  · intro h
    exact ⟨segmentsOf data, fun s => length_le_of_mem_segmentsOf, (blobOf_segmentsOf h).symm⟩
  · rintro ⟨strings, h, rfl⟩
    exact check_blobOf h

/-! ## Pieces of a string -/

/-- The character strings for one string: an empty one for the empty string, and otherwise full ones
of 255 octets before a last one that may be shorter. -/
def Cut (s : Octets) (strings : List Octets) : Prop :=
  s = [] ∧ strings = [[]] ∨
    ∃ full last, strings = full ++ [last] ∧ (∀ p ∈ full, p.length = 255) ∧
      1 ≤ last.length ∧ last.length ≤ 255 ∧ s = full.flatten ++ last

theorem pieces_append {full : List Octets} {last : Octets} (hfull : ∀ p ∈ full, p.length = 255)
    (hpos : 1 ≤ last.length) (hlast : last.length ≤ 255) :
    pieces (full.flatten ++ last) = full ++ [last] := by
  induction full with
  | nil =>
    have hne : ¬ last.isEmpty = true := by simpa using List.length_pos_iff.1 hpos
    rw [List.flatten_nil, List.nil_append, pieces, if_neg hne, List.take_of_length_le hlast,
      List.drop_of_length_le hlast, pieces]
    rfl
  | cons p full ih =>
    obtain ⟨hp, hfull⟩ := List.forall_mem_cons.1 hfull
    rw [List.flatten_cons, List.append_assoc, pieces,
      if_neg (by simp [← List.length_eq_zero_iff, hp]), ← hp, List.take_left, List.drop_left,
      ih hfull, List.cons_append]

theorem exists_pieces_eq (hs : s ≠ []) :
    ∃ full last, pieces s = full ++ [last] ∧ (∀ p ∈ full, p.length = 255) ∧
      1 ≤ last.length ∧ last.length ≤ 255 ∧ s = full.flatten ++ last := by
  fun_induction pieces s with
  | case1 s h => exact absurd (List.isEmpty_iff.1 h) hs
  | case2 s h ih =>
    have hpos := List.length_pos_iff.2 hs
    by_cases hrest : s.drop 255 = []
    · -- what is left is one piece
      have hlast : s.length ≤ 255 := List.drop_eq_nil_iff.1 hrest
      rw [hrest, pieces, List.take_of_length_le hlast]
      exact ⟨[], s, rfl, by simp, hpos, hlast, rfl⟩
    · obtain ⟨full, last, hpieces, hfull, hlast⟩ := ih hrest
      have hpiece : (s.take 255).length = 255 :=
        List.length_take_of_le (Nat.le_of_lt (Nat.not_le.1 (mt List.drop_eq_nil_iff.2 hrest)))
      refine ⟨s.take 255 :: full, last, by rw [hpieces, List.cons_append],
        List.forall_mem_cons.2 ⟨hpiece, hfull⟩, hlast.1, hlast.2.1, ?_⟩
      rw [List.flatten_cons, List.append_assoc, ← hlast.2.2, List.take_append_drop]

/-- A string is cut in one way. -/
theorem cut_iff : Cut s strings ↔ strings = stringsOf s := by
  unfold stringsOf
  constructor
  · rintro (⟨rfl, rfl⟩ | ⟨full, last, rfl, hfull, hpos, hlast, rfl⟩)
    · rfl
    · rw [if_neg (by simp [← List.length_eq_zero_iff]; omega), pieces_append hfull hpos hlast]
  · rintro rfl
    split_ifs with h
    · exact .inl ⟨List.isEmpty_iff.1 h, rfl⟩
    · exact .inr (exists_pieces_eq (mt List.isEmpty_iff.2 h))

theorem Cut.flatten_eq (h : Cut s strings) : strings.flatten = s := by
  rcases h with ⟨rfl, rfl⟩ | ⟨full, last, rfl, _, _, _, rfl⟩
  · rfl
  · rw [List.flatten_append, List.flatten_singleton]

theorem stringsOf_of_length_le (h : s.length ≤ 255) : stringsOf s = [s] := by
  refine (cut_iff.1 ?_).symm
  by_cases hs : s = []
  · exact .inl ⟨hs, by rw [hs]⟩
  · exact .inr ⟨[], s, rfl, by simp, List.length_pos_iff.2 hs, h, rfl⟩

/-! ## Texts made of strings -/

theorem segments_ofStrings (strings : List Octets) :
    (ofStrings strings).segments = strings.flatMap stringsOf := by
  refine segmentsOf_blobOf fun p hp => ?_
  obtain ⟨s, _, hs⟩ := List.mem_flatMap.1 hp
  exact length_le_of_mem_stringsOf hs

theorem characters_ofStrings (strings : List Octets) :
    (ofStrings strings).characters = strings.flatten := by
  rw [characters, segments_ofStrings]
  induction strings with
  | nil => rfl
  | cons s ss ih =>
    rw [List.flatMap_cons, List.flatten_append, ih, (cut_iff.2 rfl).flatten_eq, List.flatten_cons]

/-- The character strings of a text are not cut again. -/
theorem Genuine.ofStrings_segments (h : t.Genuine) : ofStrings t.segments = t := by
  have hcut : t.segments.flatMap stringsOf = t.segments.flatMap fun s => [s] :=
    List.flatMap_congr fun s hs => stringsOf_of_length_le (length_le_of_mem_segmentsOf hs)
  rw [ofStrings, hcut, List.flatMap_singleton', segments, blobOf_segmentsOf (genuine_iff.1 h)]

/-- The character strings say what a genuine text is. -/
theorem Genuine.eq_of_segments (hx : x.Genuine) (hy : y.Genuine) (h : x.segments = y.segments) :
    x = y := by
  rw [← hx.ofStrings_segments, h, hy.ofStrings_segments]

/-- **Nothing is lost in cutting.** A text made of strings is accepted. Its character strings are
those that each string is cut into, one string after the other, and its characters are the strings
in a row, wherever they were cut. A received text is covered by its character strings, each behind
its length, and is what is made of them. -/
theorem segments_cover :
    (∀ strings : List Octets,
      ofOctets (ofStrings strings).blob = .ok (ofStrings strings) ∧
      (∃ cuts, List.Forall₂ Cut strings cuts ∧ (ofStrings strings).segments = cuts.flatten) ∧
      (ofStrings strings).characters = strings.flatten) ∧
    (∀ xs ys : List Octets, xs.flatten = ys.flatten →
      (ofStrings xs).characters = (ofStrings ys).characters) ∧
    ∀ (data : Octets) (t : TextStrings), ofOctets data = .ok t →
      t.blob = data ∧ (∀ s ∈ t.segments, s.length ≤ 255) ∧
      (t.segments.flatMap fun s => UInt8.ofNat s.length :: s) = data ∧
      (ofStrings t.segments).blob = data := by
  refine ⟨fun strings => ⟨?_, ⟨strings.map stringsOf, ?_, ?_⟩, characters_ofStrings strings⟩,
    fun xs ys h => ?_, fun data t h => ?_⟩
  · exact ofOctets_eq_ok_iff.2 ⟨check_ofStrings strings, rfl⟩
  · rw [List.forall₂_map_right_iff, List.forall₂_same]
    exact fun s _ => cut_iff.2 rfl
  · rw [segments_ofStrings, List.flatMap_def]
  · rw [characters_ofStrings, characters_ofStrings, h]
  · obtain ⟨hcheck, rfl⟩ := ofOctets_eq_ok_iff.1 h
    exact ⟨rfl, fun s => length_le_of_mem_segmentsOf, blobOf_segmentsOf hcheck,
      congrArg blob (genuine_iff.2 hcheck).ofStrings_segments⟩

/-- An empty string among others, received as it was made, and the same octets cut elsewhere. -/
theorem segments_cover_empty_string :
    let strings : List Octets := [[104, 105], [], [33]]
    let others : List Octets := [[104], [105, 33]]
    let data : Octets := [2, 104, 105, 0, 1, 33]
    (strings.flatten = others.flatten ∧ ofOctets data = .ok (ofStrings strings)) ∧
      (ofStrings strings).characters = (ofStrings others).characters ∧
      ((ofStrings strings).segments.flatMap fun s => UInt8.ofNat s.length :: s) = data ∧
      (ofStrings (ofStrings strings).segments).blob = data := by
  intro strings others data
  obtain ⟨hmade, hsame, hreceived⟩ := segments_cover
  have hflatten : strings.flatten = others.flatten := rfl
  have hread : ofOctets data = .ok (ofStrings strings) := by
    have hdata : (ofStrings strings).blob = data := by
      show (ofStrings [[104, 105], [], [33]]).blob = [2, 104, 105, 0, 1, 33]
      cbv
    exact hdata ▸ (hmade strings).1
  exact ⟨⟨hflatten, hread⟩, hsame _ _ hflatten, (hreceived data _ hread).2.2⟩

end StubResolver.TextStrings
