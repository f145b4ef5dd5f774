import StubResolver.RData

/-!
# Written payloads

A payload is read back as it is from its wire form, as long as it was made as payloads are made
(`RData.Genuine`) and its length fits in the length field. What the reader can make of the data of
a record type is said once by `RData.Reads`; the round trips follow from it in both directions.
-/

namespace StubResolver

namespace TextStrings

theorem length_le_of_mem_pieces {s p : Octets} (h : p ∈ pieces s) : p.length ≤ 255 := by
  fun_induction pieces s with
  | case1 => simp at h
  | case2 s hs ih =>
    rcases List.mem_cons.1 h with rfl | h
    · exact List.length_take_le 255 s
    · exact ih h

theorem length_le_of_mem_stringsOf {s p : Octets} (h : p ∈ stringsOf s) : p.length ≤ 255 := by
  unfold stringsOf at h
  split at h
  · obtain rfl : p = [] := by simpa using h
    exact Nat.zero_le _
  · exact length_le_of_mem_pieces h

/-- Strings that fit behind their length octets fill the blob. -/
theorem check_blobOf {strings : List Octets} (h : ∀ s ∈ strings, s.length ≤ 255) :
    check (blobOf strings) = .ok () := by
  induction strings with
  | nil => rw [blobOf, List.flatMap_nil, check]
  | cons s ss ih =>
    obtain ⟨hs, hss⟩ := List.forall_mem_cons.1 h
    rw [blobOf, List.flatMap_cons, List.cons_append, check, Octets.toNat_length hs,
      if_pos (Octets.atLeast_iff.2 (by rw [List.length_append]; omega)), List.drop_left]
    exact ih hss

theorem check_ofStrings (strings : List Octets) : check (ofStrings strings).blob = .ok () := by
  refine check_blobOf fun p hp => ?_
  obtain ⟨s, _, hs⟩ := List.mem_flatMap.1 hp
  exact length_le_of_mem_stringsOf hs

theorem ofOctets_eq_ok_iff {data : Octets} {t : TextStrings} :
    ofOctets data = .ok t ↔ check data = .ok () ∧ t.blob = data := by
  unfold ofOctets
  rw [bind_eq_ok_iff]
  constructor
  · rintro ⟨_, hcheck, h⟩
    cases h
    exact ⟨hcheck, rfl⟩
  · rintro ⟨hcheck, rfl⟩
    exact ⟨_, hcheck, rfl⟩

/-- What was made of strings or received. -/
def Genuine (t : TextStrings) : Prop :=
  (∃ strings, t = ofStrings strings) ∨ ∃ data, ofOctets data = .ok t

/-- A text is genuine if character strings fill its blob. -/
theorem genuine_iff {t : TextStrings} : t.Genuine ↔ check t.blob = .ok () := by
  constructor
  · rintro (⟨strings, rfl⟩ | ⟨data, h⟩)
    · exact check_ofStrings strings
    · obtain ⟨hcheck, rfl⟩ := ofOctets_eq_ok_iff.1 h
      exact hcheck
  · exact fun h => .inr ⟨_, ofOctets_eq_ok_iff.2 ⟨h, rfl⟩⟩

end TextStrings

namespace EdnsOption

theorem lengthField_toNat {n : Nat} (h : n ≤ 65535) : (lengthField n).toNat = n := by
  rw [lengthField, UInt16.toNat_ofNat', Nat.min_eq_left h]
  omega

@[simp] theorem length_toWire (o : EdnsOption) : o.toWire.length = o.wireLength := by
  simp only [toWire, wireLength, List.length_append, Octets.length_ofWord16]

theorem readAll_toWire (offset : Nat) {options : List EdnsOption}
    (h : ∀ o ∈ options, o.data.length ≤ 65535) :
    readAll offset (options.flatMap toWire) = .ok options := by
  induction options generalizing offset with
  | nil => rw [List.flatMap_nil, readAll]
  | cons o os ih =>
    have hlen := lengthField_toNat (h o (List.mem_cons_self ..))
    have hrest := ih (offset + 4 + o.data.length)
      fun x hx => h x (List.mem_cons_of_mem _ hx)
    rw [List.flatMap_cons, toWire, Octets.ofWord16, Octets.ofWord16]
    simp only [List.cons_append, List.nil_append]
    rw [readAll]
    simp only [Octets.word16_octets]
    rw [hlen, if_pos (Octets.atLeast_iff.2 (by rw [List.length_append]; omega)), List.drop_left,
      hrest, List.take_left]

theorem lengthField_word (length : UInt16) : lengthField length.toNat = length := by
  apply UInt16.toNat_inj.1
  have := length.toNat_lt
  exact lengthField_toNat (by omega)

/-- Options are read from their wire forms only. -/
theorem flatMap_toWire_of_readAll {offset : Nat} {data : Octets} {options : List EdnsOption}
    (h : readAll offset data = .ok options) : options.flatMap toWire = data := by
  fun_induction readAll offset data generalizing options
  case case5 a b c d rest code length hlen tail hread ih =>
    obtain rfl := Except.ok.inj h
    have hlength := List.length_take_of_le (Octets.atLeast_iff.1 hlen)
    rw [List.flatMap_cons, ih hread, toWire, hlength, lengthField_word, Octets.ofWord16_word16,
      Octets.ofWord16_word16]
    simp only [List.cons_append, List.nil_append]
    rw [List.take_append_drop]
  case case1 => cases h; rfl
  all_goals cases h

theorem length_le_of_readAll {offset : Nat} {data : Octets} {options : List EdnsOption}
    (h : readAll offset data = .ok options) : ∀ o ∈ options, o.data.length ≤ 65535 := by
  fun_induction readAll offset data generalizing options
  case case5 a b c d rest code length hlen tail hread ih =>
    cases h
    have hlength : length < 65536 := (Octets.word16 c d).toNat_lt
    refine List.forall_mem_cons.2 ⟨?_, ih hread⟩
    exact Nat.le_trans (List.length_take_le _ _) (Nat.le_of_lt_succ hlength)
  case case1 => cases h; simp
  all_goals cases h

theorem readAll_eq_ok_iff {offset : Nat} {data : Octets} {options : List EdnsOption} :
    readAll offset data = .ok options ↔
      (∀ o ∈ options, o.data.length ≤ 65535) ∧ data = options.flatMap toWire := by
  constructor
  · exact fun h => ⟨length_le_of_readAll h, (flatMap_toWire_of_readAll h).symm⟩
  · rintro ⟨h, rfl⟩
    exact readAll_toWire offset h

end EdnsOption

theorem IPv4.ofOctets?_octets (a : IPv4) : IPv4.ofOctets? a.octets = some a :=
  dif_pos a.length_eq

theorem IPv4.octets_of_ofOctets? {data : Octets} {a : IPv4} (h : IPv4.ofOctets? data = some a) :
    a.octets = data := by
  unfold IPv4.ofOctets? at h
  split at h
  · cases h; rfl
  · cases h

theorem IPv6.ofOctets?_octets (a : IPv6) : IPv6.ofOctets? a.octets = some a :=
  dif_pos a.length_eq

theorem IPv6.octets_of_ofOctets? {data : Octets} {a : IPv6} (h : IPv6.ofOctets? data = some a) :
    a.octets = data := by
  unfold IPv6.ofOctets? at h
  split at h
  · cases h; rfl
  · cases h

namespace RData

@[simp] theorem length_toWire (r : RData) : r.toWire.length = r.wireLength := by
  cases r with
  | a address => exact address.length_eq
  | aaaa address => exact address.length_eq
  | txt strings => rfl
  | opt options =>
    show (options.flatMap EdnsOption.toWire).length = options.foldr (fun o n => o.wireLength + n) 0
    induction options with
    | nil => rfl
    | cons o os ih =>
      rw [List.flatMap_cons, List.length_append, ih, EdnsOption.length_toWire, List.foldr_cons]
  | unknown code data => rfl

/-- A payload made as payloads are made: strings are genuine, and opaque data is not that of a
type whose payload is decoded. -/
def Genuine : RData → Prop
  | txt strings => strings.Genuine
  | unknown code _ => ∀ t ∈ [RecordType.a, .aaaa, .txt, .opt], code ≠ t.code
  | a _ | aaaa _ | opt _ => True

theorem eq_known_of_known? {t : TypeCode} {k : RecordType} (h : t.known? = some k) :
    t = .known k := by
  cases t with
  | known t => cases h; rfl
  | unknown n => cases h

/-- What is read from the data of a type. -/
inductive Reads : TypeCode → Octets → RData → Prop
  | a (address : IPv4) : Reads (.known .a) address.octets (.a address)
  | aaaa (address : IPv6) : Reads (.known .aaaa) address.octets (.aaaa address)
  | txt {strings : TextStrings} (h : strings.Genuine) :
      Reads (.known .txt) strings.blob (.txt strings)
  | opt {options : List EdnsOption} (h : ∀ o ∈ options, o.data.length ≤ 65535) :
      Reads (.known .opt) (options.flatMap EdnsOption.toWire) (.opt options)
  | other {type : TypeCode} (h : ∀ t ∈ [RecordType.a, .aaaa, .txt, .opt], type ≠ .known t)
      (data : Octets) : Reads type data (.unknown type.code data)

theorem reads_of_ofOctets {type : TypeCode} {data : Octets} {r : RData}
    (h : ofOctets type data = .ok r) : Reads type data r := by
  unfold ofOctets at h
  split at h
  · next hknown =>
    obtain rfl := eq_known_of_known? hknown
    split at h
    · next address haddress =>
      cases h
      exact IPv4.octets_of_ofOctets? haddress ▸ .a address
    · cases h
  · next hknown =>
    obtain rfl := eq_known_of_known? hknown
    split at h
    · next address haddress =>
      cases h
      exact IPv6.octets_of_ofOctets? haddress ▸ .aaaa address
    · cases h
  · next hknown =>
    obtain rfl := eq_known_of_known? hknown
    obtain ⟨strings, hread, h⟩ := map_eq_ok_iff.1 h
    cases h
    obtain ⟨hcheck, rfl⟩ := TextStrings.ofOctets_eq_ok_iff.1 hread
    exact .txt (TextStrings.genuine_iff.2 hcheck)
  · next hknown =>
    obtain rfl := eq_known_of_known? hknown
    obtain ⟨options, hread, h⟩ := map_eq_ok_iff.1 h
    cases h
    obtain ⟨hfit, rfl⟩ := EdnsOption.readAll_eq_ok_iff.1 hread
    exact .opt hfit
  · next ha haaaa htxt hopt =>
    cases h
    refine .other (fun t ht htype => ?_) data
    have hknown : type.known? = some t := htype ▸ rfl
    simp only [List.mem_cons, List.not_mem_nil, or_false] at ht
    rcases ht with rfl | rfl | rfl | rfl
    · exact ha hknown
    · exact haaaa hknown
    · exact htxt hknown
    · exact hopt hknown

theorem Reads.ofOctets_eq {type : TypeCode} {data : Octets} {r : RData} (h : Reads type data r) :
    ofOctets type data = .ok r := by
  cases h with
  | a address => simp only [ofOctets, TypeCode.known?, IPv4.ofOctets?_octets]
  | aaaa address => simp only [ofOctets, TypeCode.known?, IPv6.ofOctets?_octets]
  | txt h =>
    have hcheck := TextStrings.genuine_iff.1 h
    exact map_eq_ok_iff.2 ⟨_, TextStrings.ofOctets_eq_ok_iff.2 ⟨hcheck, rfl⟩, rfl⟩
  | opt h => exact map_eq_ok_iff.2 ⟨_, EdnsOption.readAll_eq_ok_iff.2 ⟨h, rfl⟩, rfl⟩
  | other h =>
    have hknown : ∀ t ∈ [RecordType.a, .aaaa, .txt, .opt], type.known? ≠ some t :=
      fun t ht hk => h t ht (eq_known_of_known? hk)
    unfold ofOctets
    split
    · exact absurd ‹_› (hknown .a (by decide))
    · exact absurd ‹_› (hknown .aaaa (by decide))
    · exact absurd ‹_› (hknown .txt (by decide))
    · exact absurd ‹_› (hknown .opt (by decide))
    · rfl

theorem ofOctets_eq_ok_iff {type : TypeCode} {data : Octets} {r : RData} :
    ofOctets type data = .ok r ↔ Reads type data r :=
  ⟨reads_of_ofOctets, Reads.ofOctets_eq⟩

/-- The data of each option fits behind its length. -/
def OptionsFit : RData → Prop
  | opt options => ∀ o ∈ options, o.data.length ≤ 65535
  | a _ | aaaa _ | txt _ | unknown _ _ => True

theorem data_length_le {options : List EdnsOption} {n : Nat}
    (h : options.foldr (fun o n => o.wireLength + n) 0 ≤ n) : ∀ o ∈ options, o.data.length ≤ n := by
  induction options with
  | nil => simp
  | cons o os ih =>
    rw [List.foldr_cons, EdnsOption.wireLength] at h
    intro x hx
    rcases List.mem_cons.1 hx with rfl | hx
    · omega
    · exact ih (by omega) x hx

theorem optionsFit_of_wireLength_le {r : RData} (h : r.wireLength ≤ 65535) : r.OptionsFit := by
  cases r with
  | opt options => exact data_length_le h
  | a | aaaa | txt | unknown => trivial

/-- A genuine payload whose options fit is what its wire form holds, however long that is. -/
theorem reads_toWire {r : RData} (h : r.Genuine) (hfit : r.OptionsFit) :
    Reads r.type r.toWire r := by
  cases r with
  | a address => exact .a address
  | aaaa address => exact .aaaa address
  | txt strings => exact .txt h
  | opt options => exact .opt hfit
  | unknown code data =>
    have hother : ∀ t ∈ [RecordType.a, .aaaa, .txt, .opt], TypeCode.ofCode code ≠ .known t := by
      intro t ht htype
      refine h t ht ?_
      rw [← TypeCode.code_ofCode code, htype, TypeCode.code]
    have hreads := Reads.other hother data
    rwa [TypeCode.code_ofCode] at hreads

/-- **Payloads.** A genuine payload of a length that fits is read back from its wire form. -/
theorem ofOctets_toWire {r : RData} (h : r.Genuine) (hlen : r.wireLength ≤ 65535) :
    ofOctets r.type r.toWire = .ok r :=
  (reads_toWire h (optionsFit_of_wireLength_le hlen)).ofOctets_eq

/-- What is read is genuine, and is written as it was. -/
theorem Reads.genuine {type : TypeCode} {data : Octets} {r : RData} (h : Reads type data r)
    (htype : type.Canonical) : r.toWire = data ∧ r.type = type ∧ r.Genuine := by
  cases h with
  | a | aaaa | opt => exact ⟨rfl, rfl, trivial⟩
  | txt h => exact ⟨rfl, rfl, h⟩
  | other h =>
    refine ⟨rfl, htype, fun t ht hcode => h t ht ?_⟩
    rw [← htype, hcode, TypeCode.ofCode_known]

/-- A payload is read from its wire form only, for its own type, and is genuine. -/
theorem of_ofOctets {code : UInt16} {data : Octets} {r : RData}
    (h : ofOctets (.ofCode code) data = .ok r) :
    r.toWire = data ∧ r.type = .ofCode code ∧ r.Genuine :=
  (reads_of_ofOctets h).genuine (TypeCode.canonical_ofCode code)

end RData

end StubResolver
