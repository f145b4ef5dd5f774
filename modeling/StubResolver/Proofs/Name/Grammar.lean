import Mathlib.Logic.Relation
import StubResolver.Proofs.Name.Labels

/-!
# The grammar of names on the wire

`Spells` is the grammar of names (RFC 1035 §4.1.4) without any bound or bookkeeping: a derivation is
finite, and that is all that keeps pointers from running in circles. The reader finds exactly the
derivations of at most 128 labels.

1. A place leads to at most one other (`Leads.unique`), so a place with a derivation does not lead
   back to itself (`Spells.not_cycle`).
2. The reader keeps `Trail`: every target it has followed leads to where it stands. A target that
   comes up twice therefore leads back to itself.
3. `readFrom_of_spells` and `readFrom_of_spells_long` follow the derivation, and
   `spells_of_readFrom` follows the reader.
-/

namespace StubResolver.Name

open Relation

/-! ## The grammar -/

/-- A name of some labels, leaf first, stands at `pos`, and what follows it begins at `next`. -/
inductive Spells (message : Array UInt8) : Nat → List Octets → Nat → Prop
  /-- A zero octet ends the name. -/
  | root {pos : Nat} (hzero : message[pos]? = some 0) : Spells message pos [] (pos + 1)
  /-- An octet from 1 to 63 is the length of the label behind it. -/
  | label {pos next : Nat} {length : UInt8} {labels : List Octets}
      (hlength : message[pos]? = some length) (hpos : 1 ≤ length.toNat) (hle : length.toNat ≤ 63)
      (hstop : pos + 1 + length.toNat ≤ message.size)
      (hrest : Spells message (pos + 1 + length.toNat) labels next) :
      Spells message pos
        ((message.extract (pos + 1) (pos + 1 + length.toNat)).toList :: labels) next
  /-- Two octets, the first from 192 on, are a pointer to where the name goes on. -/
  | pointer {pos next : Nat} {high low : UInt8} {labels : List Octets}
      (hhigh : message[pos]? = some high) (hge : 192 ≤ high.toNat)
      (hlow : message[pos + 1]? = some low)
      (hrest : Spells message (256 * (high.toNat - 192) + low.toNat) labels next) :
      Spells message pos labels (pos + 2)

/-- Where the name at a place goes on: behind its first label, or at its pointer's target. -/
inductive Leads (message : Array UInt8) : Nat → Nat → Prop
  | label {pos : Nat} {length : UInt8} (hlength : message[pos]? = some length)
      (hpos : 1 ≤ length.toNat) (hle : length.toNat ≤ 63) :
      Leads message pos (pos + 1 + length.toNat)
  | pointer {pos : Nat} {high low : UInt8} (hhigh : message[pos]? = some high)
      (hge : 192 ≤ high.toNat) (hlow : message[pos + 1]? = some low) :
      Leads message pos (256 * (high.toNat - 192) + low.toNat)

variable {message : Array UInt8} {pos next : Nat} {labels : List Octets}

theorem pointerTarget_eq {high : UInt8} (low : UInt8) (hge : 192 ≤ high.toNat) :
    pointerTarget high low = 256 * (high.toNat - 192) + low.toNat := by
  have := high.toNat_lt
  unfold pointerTarget
  omega

theorem Leads.unique {q q' : Nat} (h : Leads message pos q) (h' : Leads message pos q') :
    q = q' := by
  cases h with
  | label hlength hpos hle =>
    cases h' with
    | label hlength' => rw [hlength] at hlength'; cases hlength'; rfl
    | pointer hhigh hge => rw [hlength] at hhigh; cases hhigh; omega
  | pointer hhigh hge hlow =>
    cases h' with
    | label hlength' hpos' hle' => rw [hhigh] at hlength'; cases hlength'; omega
    | pointer hhigh' hge' hlow' =>
      rw [hhigh] at hhigh'; cases hhigh'
      rw [hlow] at hlow'; cases hlow'
      rfl

/-- A derivation goes on wherever its place leads to. -/
theorem Spells.of_leads {q : Nat} (h : Spells message pos labels next)
    (hq : Leads message pos q) : ∃ labels' next', Spells message q labels' next' := by
  cases h with
  | root hzero =>
    cases hq with
    | label hlength hpos => rw [hzero] at hlength; cases hlength; exact absurd hpos (by decide)
    | pointer hhigh hge => rw [hzero] at hhigh; cases hhigh; exact absurd hge (by decide)
  | label hlength hpos hle _ hrest => exact (Leads.label hlength hpos hle).unique hq ▸ ⟨_, _, hrest⟩
  | pointer hhigh hge hlow hrest => exact (Leads.pointer hhigh hge hlow).unique hq ▸ ⟨_, _, hrest⟩

theorem Spells.of_leads_star {q : Nat} (h : Spells message pos labels next)
    (hq : ReflTransGen (Leads message) pos q) :
    ∃ labels' next', Spells message q labels' next' := by
  induction hq with
  | refl => exact ⟨_, _, h⟩
  | tail _ hstep ih =>
    obtain ⟨_, _, hmid⟩ := ih
    exact hmid.of_leads hstep

/-- **No circles.** Where there is a derivation, the place does not lead back to itself. -/
theorem Spells.not_cycle (h : Spells message pos labels next) :
    ¬ TransGen (Leads message) pos pos := by
  -- a circle through `pos` is also one through the place that `pos` leads to
  have shift : ∀ {p q : Nat}, Leads message p q → TransGen (Leads message) p p →
      TransGen (Leads message) q q := by
    intro p q hpq hcycle
    obtain ⟨r, hpr, hrp⟩ := TransGen.head'_iff.1 hcycle
    rw [hpr.unique hpq] at hrp
    exact TransGen.tail' hrp hpq
  induction h with
  | root hzero =>
    intro hcycle
    obtain ⟨r, hr, _⟩ := TransGen.head'_iff.1 hcycle
    cases hr with
    | label hlength hpos => rw [hzero] at hlength; cases hlength; exact absurd hpos (by decide)
    | pointer hhigh hge => rw [hzero] at hhigh; cases hhigh; exact absurd hge (by decide)
  | label hlength hpos hle _ _ ih => exact fun hcycle => ih (shift (.label hlength hpos hle) hcycle)
  | pointer hhigh hge hlow _ ih => exact fun hcycle => ih (shift (.pointer hhigh hge hlow) hcycle)

/-- What follows a name begins behind its place and within the message or at its end. -/
theorem Spells.next_bounds (h : Spells message pos labels next) :
    pos < next ∧ next ≤ message.size := by
  induction h with
  | root hzero => exact ⟨Nat.lt_succ_self _, (Array.getElem?_eq_some_iff.1 hzero).1⟩
  | label _ _ _ _ _ ih => exact ⟨by omega, ih.2⟩
  | pointer _ _ hlow _ _ => exact ⟨by omega, (Array.getElem?_eq_some_iff.1 hlow).1⟩

/-! ## One step of the reader -/

variable (read : List Label) {visited : Targets} (resume : Option Nat)

theorem readFrom_root (hzero : message[pos]? = some 0) :
    readFrom message pos read visited resume = .ok (read, resume.getD (pos + 1)) := by
  obtain ⟨hpos, hoctet⟩ := Array.getElem?_eq_some_iff.1 hzero
  rw [readFrom, dif_pos hpos, dif_pos (by rw [hoctet]; rfl)]

theorem readFrom_label (visited : Targets) {length : UInt8} (hlength : message[pos]? = some length)
    (hpos : 1 ≤ length.toNat) (hle : length.toNat ≤ 63)
    (hstop : pos + 1 + length.toNat ≤ message.size) (hcount : read.length ≠ 128) :
    ∃ label : Label,
      label.octets = (message.extract (pos + 1) (pos + 1 + length.toNat)).toList ∧
      readFrom message pos read visited resume =
        readFrom message (pos + 1 + length.toNat) (label :: read) visited resume := by
  obtain ⟨hlt, rfl⟩ := Array.getElem?_eq_some_iff.1 hlength
  refine ⟨⟨_, length_extract_le (Nat.lt_succ_of_le hle)⟩, rfl, ?_⟩
  rw [readFrom, dif_pos hlt, dif_neg (by omega), dif_pos (by omega), dif_pos hstop, if_neg hcount]

theorem readFrom_label_full {length : UInt8} (hlength : message[pos]? = some length)
    (hpos : 1 ≤ length.toNat) (hle : length.toNat ≤ 63)
    (hstop : pos + 1 + length.toNat ≤ message.size) (hcount : read.length = 128) :
    readFrom message pos read visited resume = .error (.tooManyLabels 129) := by
  obtain ⟨hlt, rfl⟩ := Array.getElem?_eq_some_iff.1 hlength
  rw [readFrom, dif_pos hlt, dif_neg (by omega), dif_pos (by omega), dif_pos hstop, if_pos hcount]

theorem readFrom_pointer {high low : UInt8} (hhigh : message[pos]? = some high)
    (hge : 192 ≤ high.toNat) (hlow : message[pos + 1]? = some low)
    (hseen : ¬ visited.contains (pointerTarget high low) = true) :
    readFrom message pos read visited resume =
      readFrom message (pointerTarget high low) read (visited.insert (pointerTarget high low))
        (resume.or (some (pos + 2))) := by
  obtain ⟨hlt, rfl⟩ := Array.getElem?_eq_some_iff.1 hhigh
  obtain ⟨hlt', rfl⟩ := Array.getElem?_eq_some_iff.1 hlow
  rw [readFrom, dif_pos hlt, dif_neg (by omega), dif_neg (by omega), if_neg (by omega),
    dif_pos hlt', dif_neg hseen]

/-! ## The targets followed -/

/-- Every target followed leads to where the reader stands. -/
def Trail (message : Array UInt8) (visited : Targets) (pos : Nat) : Prop :=
  ∀ t, visited.contains t = true → ReflTransGen (Leads message) t pos

theorem Trail.empty : Trail message .empty pos := by
  intro t ht
  simp at ht

theorem Trail.step {q : Nat} (h : Trail message visited pos) (hq : Leads message pos q) :
    Trail message visited q :=
  fun t ht => (h t ht).tail hq

theorem Trail.insert {t : Nat} (h : Trail message visited pos) (ht : Leads message pos t) :
    Trail message (visited.insert t) t := by
  intro x hx
  rw [Targets.contains_insert, Bool.or_eq_true, decide_eq_true_iff] at hx
  rcases hx with hx | rfl
  · exact h.step ht x hx
  · exact .refl

/-- A target that comes up again leads back to itself. -/
theorem Trail.cycle {t : Nat} (h : Trail message visited pos) (ht : Leads message pos t)
    (hseen : visited.contains t = true) : TransGen (Leads message) t t :=
  TransGen.tail' (h t hseen) ht

theorem Trail.not_seen {t : Nat} (h : Trail message visited pos) (ht : Leads message pos t)
    (hspells : Spells message t labels next) : ¬ visited.contains t = true :=
  fun hseen => hspells.not_cycle (h.cycle ht hseen)

/-! ## The reader follows the grammar -/

/-- The reader finds the labels of a derivation that there is room for. -/
theorem readFrom_of_spells (h : Spells message pos labels next)
    (htrail : Trail message visited pos) (hcount : read.length + labels.length ≤ 128) :
    ∃ ls : List Label, ls.map Label.octets = labels.reverse ++ read.map Label.octets ∧
      readFrom message pos read visited resume = .ok (ls, resume.getD next) := by
  induction h generalizing read visited resume with
  | root hzero => exact ⟨read, rfl, readFrom_root read resume hzero⟩
  | label hlength hpos hle hstop _ ih =>
    rw [List.length_cons] at hcount
    obtain ⟨label, hoctets, hstep⟩ :=
      readFrom_label read resume visited hlength hpos hle hstop (by omega)
    obtain ⟨ls, hls, hread⟩ := ih (label :: read) resume
      (htrail.step (.label hlength hpos hle)) (by rw [List.length_cons]; omega)
    refine ⟨ls, ?_, hstep.trans hread⟩
    rw [hls, List.map_cons, hoctets, List.reverse_cons, List.append_assoc, List.singleton_append]
  | pointer hhigh hge hlow hrest ih =>
    have hleads := Leads.pointer hhigh hge hlow
    have hnew := htrail.not_seen hleads hrest
    have hnext := htrail.insert hleads
    rw [← pointerTarget_eq _ hge] at hnew hnext
    rw [pointerTarget_eq _ hge] at hnext
    obtain ⟨ls, hls, hread⟩ := ih read (resume.or (some _)) hnext hcount
    refine ⟨ls, hls, ?_⟩
    rw [readFrom_pointer _ _ hhigh hge hlow hnew, pointerTarget_eq _ hge, hread]
    cases resume <;> rfl

/-- A derivation of too many labels is refused for that and nothing else. -/
theorem readFrom_of_spells_long (h : Spells message pos labels next)
    (htrail : Trail message visited pos) (hread : read.length ≤ 128)
    (hcount : 128 < read.length + labels.length) :
    readFrom message pos read visited resume = .error (.tooManyLabels 129) := by
  induction h generalizing read visited resume with
  | root hzero =>
    rw [List.length_nil] at hcount
    omega
  | label hlength hpos hle hstop _ ih =>
    by_cases hfull : read.length = 128
    · exact readFrom_label_full _ _ hlength hpos hle hstop hfull
    · obtain ⟨label, -, hstep⟩ :=
        readFrom_label read resume visited hlength hpos hle hstop hfull
      rw [List.length_cons] at hcount
      rw [hstep]
      refine ih _ _ (htrail.step (.label hlength hpos hle)) ?_ ?_
      all_goals
        rw [List.length_cons]
        omega
  | pointer hhigh hge hlow hrest ih =>
    have hleads := Leads.pointer hhigh hge hlow
    have hnew := htrail.not_seen hleads hrest
    rw [← pointerTarget_eq _ hge] at hnew
    rw [readFrom_pointer _ _ hhigh hge hlow hnew, pointerTarget_eq _ hge]
    exact ih _ _ (htrail.insert hleads) hread hcount

variable {read resume}

/-- What the reader returns has a derivation. -/
theorem spells_of_readFrom {ls : List Label} {stop : Nat}
    (h : readFrom message pos read visited resume = .ok (ls, stop)) :
    ∃ labels next, Spells message pos labels next ∧
      ls.map Label.octets = labels.reverse ++ read.map Label.octets ∧ stop = resume.getD next := by
  fun_induction readFrom message pos read visited resume with
  | case1 pos read visited resume hpos octet length hroot =>
    cases h
    have hzero : octet = 0 := UInt8.toNat_inj.1 hroot
    have hsome : message[pos]? = some 0 := by
      rw [Array.getElem?_eq_getElem hpos]
      exact congrArg some hzero
    exact ⟨[], _, .root hsome, rfl, rfl⟩
  | case3 pos read visited resume hpos octet length hroot hlabel stop hstop hfull label ih =>
    have hoctet : message[pos]? = some octet := Array.getElem?_eq_getElem hpos
    obtain ⟨labels, next, hspells, hls, hnext⟩ := ih h
    refine ⟨_, next, .label hoctet (by omega) (by omega) hstop hspells, ?_, hnext⟩
    rw [hls, List.reverse_cons, List.append_assoc]
    rfl
  | case7 pos read visited resume hpos octet length hroot hlabel hkind hlow target hseen hlt ih =>
    obtain ⟨labels, next, hspells, hls, hnext⟩ := ih h
    have hge : 192 ≤ octet.toNat := by omega
    rw [show target = _ from pointerTarget_eq _ hge] at hspells
    refine ⟨labels, pos + 2, .pointer (Array.getElem?_eq_getElem hpos) hge
      (Array.getElem?_eq_getElem hlow) hspells, hls, ?_⟩
    rw [hnext]
    cases resume <;> rfl
  | case2 | case4 | case5 | case6 | case8 | case9 => cases h

/-- The reader reports a circle only where the place leads into one. -/
theorem cycle_of_readFrom {t : Nat} (htrail : Trail message visited pos)
    (h : readFrom message pos read visited resume = .error (.compressionLoop t)) :
    ∃ q, ReflTransGen (Leads message) pos q ∧ TransGen (Leads message) q q := by
  fun_induction readFrom message pos read visited resume with
  | case3 pos read visited resume hpos octet length hroot hlabel stop hstop hfull label ih =>
    have hleads : Leads message pos stop :=
      .label (Array.getElem?_eq_getElem hpos) (by omega) (by omega)
    obtain ⟨q, hq, hcycle⟩ := ih (htrail.step hleads) h
    exact ⟨q, .head hleads hq, hcycle⟩
  | case6 pos read visited resume hpos octet length hroot hlabel hkind hlow target hseen =>
    have hleads : Leads message pos target := by
      rw [show target = _ from pointerTarget_eq _ (by omega)]
      exact .pointer (Array.getElem?_eq_getElem hpos) (by omega) (Array.getElem?_eq_getElem hlow)
    exact ⟨target, .single hleads, htrail.cycle hleads hseen⟩
  | case7 pos read visited resume hpos octet length hroot hlabel hkind hlow target hseen hlt ih =>
    have hleads : Leads message pos target := by
      rw [show target = _ from pointerTarget_eq _ (by omega)]
      exact .pointer (Array.getElem?_eq_getElem hpos) (by omega) (Array.getElem?_eq_getElem hlow)
    obtain ⟨q, hq, hcycle⟩ := ih (htrail.insert hleads) h
    exact ⟨q, .head hleads hq, hcycle⟩
  | case1 | case2 | case4 | case5 | case8 | case9 => cases h

/-- The reader finds the name of a derivation. -/
theorem readAt_of_spells {n : Name} (h : Spells message pos labels next)
    (hn : n.rawLabels.map Label.octets = labels.reverse) :
    readAt message pos = .ok ⟨n, next⟩ := by
  have hlen := congrArg List.length hn
  rw [List.length_map, List.length_reverse] at hlen
  have hcount := n.count_le
  obtain ⟨ls, hls, hread⟩ := readFrom_of_spells [] none h .empty (by simpa [← hlen] using hcount)
  rw [List.map_nil, List.append_nil, ← hn] at hls
  exact readAt_eq_ok_iff.2 (Label.octets_injective.list_map hls ▸ hread)

/-- A name that was read has a derivation. -/
theorem spells_of_readAt {reading : Reading} (h : readAt message pos = .ok reading) :
    ∃ labels, Spells message pos labels reading.next ∧
      reading.name.rawLabels.map Label.octets = labels.reverse := by
  obtain ⟨labels, next, hspells, hls, hnext⟩ := spells_of_readFrom (readAt_eq_ok_iff.1 h)
  rw [show reading.next = next from hnext]
  exact ⟨labels, hspells, hls.trans (List.append_nil _)⟩

/-- Where a derivation has at most 128 labels, a name is read. -/
theorem exists_readAt_of_spells (h : Spells message pos labels next) (hlen : labels.length ≤ 128) :
    ∃ reading, readAt message pos = .ok reading := by
  obtain ⟨ls, -, hread⟩ := readFrom_of_spells [] none h .empty (by simpa using hlen)
  obtain ⟨hcount, hne⟩ := bounds_of_readFrom hread (Nat.zero_le _) (List.forall_mem_nil _)
  refine ⟨⟨ofLabels ls hcount hne, next⟩, readAt_eq_ok_iff.2 ?_⟩
  rwa [rawLabels_ofLabels]

theorem readAt_of_spells_long (h : Spells message pos labels next) (hlen : 128 < labels.length) :
    readAt message pos = .error (.tooManyLabels 129) :=
  readAt_eq_error_iff.2 <|
    readFrom_of_spells_long [] none h .empty (Nat.zero_le _) (by simpa using hlen)

/-- **The reader accepts the grammar.** A name is read exactly where a derivation of at most 128
labels stands; its labels are those of the derivation, root first, and it ends behind the first
pointer or, without one, behind the zero octet. A circle is reported only where there is no
derivation at all, and a derivation of more labels is refused for their number. -/
theorem readAt_accepts_grammar (message : Array UInt8) (pos : Nat) :
    ((∃ reading, readAt message pos = .ok reading) ↔
      ∃ labels next, Spells message pos labels next ∧ labels.length ≤ 128) ∧
    (∀ reading, readAt message pos = .ok reading ↔
      ∃ labels, Spells message pos labels reading.next ∧
        reading.name.rawLabels.map Label.octets = labels.reverse) ∧
    (∀ reading, readAt message pos = .ok reading →
      pos < reading.next ∧ reading.next ≤ message.size) ∧
    (∀ target, readAt message pos = .error (.compressionLoop target) →
      ¬ ∃ labels next, Spells message pos labels next) ∧
    ∀ labels next, Spells message pos labels next → 128 < labels.length →
      readAt message pos = .error (.tooManyLabels 129) := by
  refine ⟨⟨?_, ?_⟩, fun reading => ⟨spells_of_readAt, ?_⟩, ?_, ?_, ?_⟩
  · rintro ⟨reading, h⟩
    obtain ⟨labels, hspells, hname⟩ := spells_of_readAt h
    have hlen := congrArg List.length hname
    rw [List.length_map, List.length_reverse] at hlen
    exact ⟨labels, reading.next, hspells, hlen ▸ reading.name.count_le⟩
  · rintro ⟨labels, next, hspells, hlen⟩
    exact exists_readAt_of_spells hspells hlen
  · rintro ⟨labels, hspells, hlabels⟩
    exact readAt_of_spells hspells hlabels
  · intro reading h
    obtain ⟨labels, hspells, _⟩ := spells_of_readAt h
    exact hspells.next_bounds
  · rintro target h ⟨labels, next, hspells⟩
    obtain ⟨q, hq, hcycle⟩ := cycle_of_readFrom .empty (readAt_eq_error_iff.1 h)
    obtain ⟨_, _, hq⟩ := hspells.of_leads_star hq
    exact hq.not_cycle hcycle
  · intro labels next hspells hlen
    exact readAt_of_spells_long hspells hlen

/-- A pointer forward, a label and a pointer back: the name ends behind the first pointer. -/
theorem readAt_forward_pointer :
    Spells #[0xC0, 4, 0, 0, 1, 97, 0xC0, 2] 0 [[97]] 2 ∧
      readAt #[0xC0, 4, 0, 0, 1, 97, 0xC0, 2] 0 =
        .ok ⟨ofLabels [⟨[97], by decide⟩] (by decide) (by decide), 2⟩ := by
  have hend : Spells #[0xC0, 4, 0, 0, 1, 97, 0xC0, 2] 2 [] 3 := .root rfl
  have hback : Spells #[0xC0, 4, 0, 0, 1, 97, 0xC0, 2] 6 [] 8 :=
    .pointer rfl (by decide) rfl hend
  have hlength : (#[0xC0, 4, 0, 0, 1, 97, 0xC0, 2] : Array UInt8)[4]? = some 1 := rfl
  have hlabel : Spells #[0xC0, 4, 0, 0, 1, 97, 0xC0, 2] 4 [[97]] 8 :=
    .label hlength (by decide) (by decide) (by decide) hback
  have hall : Spells #[0xC0, 4, 0, 0, 1, 97, 0xC0, 2] 0 [[97]] 2 :=
    .pointer rfl (by decide) rfl hlabel
  exact ⟨hall, ((readAt_accepts_grammar _ 0).2.1 _).2 ⟨[[97]], hall, rfl⟩⟩

end StubResolver.Name
