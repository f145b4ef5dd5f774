import StubResolver.Proofs.RData.Segments

/-!
# The layout of payloads

What the data of a record looks like is said by its type (`Laid`): addresses have their length,
texts are strings behind their lengths, EDNS options have a code and a length in front, and the data
of every other type may be anything. Such data is read and no other (`exists_ofOctets_iff`), and
writing gives back what was read.
-/

namespace StubResolver

theorem EdnsOption.toWire_eq {o : EdnsOption} (h : o.data.length ≤ 65535) :
    o.toWire =
      Octets.ofWord16 o.code ++ Octets.ofWord16 (UInt16.ofNat o.data.length) ++ o.data := by
  rw [toWire, lengthField, Nat.min_eq_left h]

namespace RData

variable {type : TypeCode} {data : Octets} {r : RData}

/-- How the data of a type is laid out. -/
inductive Laid : TypeCode → Octets → Prop
  | a {data : Octets} (h : data.length = 4) : Laid (.known .a) data
  | aaaa {data : Octets} (h : data.length = 16) : Laid (.known .aaaa) data
  | txt {strings : List Octets} (h : ∀ s ∈ strings, s.length ≤ 255) :
      Laid (.known .txt) (strings.flatMap fun s => UInt8.ofNat s.length :: s)
  | opt {options : List EdnsOption} (h : ∀ o ∈ options, o.data.length ≤ 65535) :
      Laid (.known .opt) (options.flatMap fun o =>
        Octets.ofWord16 o.code ++ Octets.ofWord16 (UInt16.ofNat o.data.length) ++ o.data)
  | other {type : TypeCode} (h : ∀ t ∈ [RecordType.a, .aaaa, .txt, .opt], type ≠ .known t)
      (data : Octets) : Laid type data

theorem Reads.laid (h : Reads type data r) : Laid type data := by
  cases h with
  | a address => exact .a address.length_eq
  | aaaa address => exact .aaaa address.length_eq
  | txt h =>
    obtain ⟨strings, hstrings, hblob⟩ :=
      TextStrings.check_eq_ok_iff.1 (TextStrings.genuine_iff.1 h)
    exact hblob ▸ .txt hstrings
  | opt h =>
    rw [List.flatMap_congr fun o ho => EdnsOption.toWire_eq (h o ho)]
    exact .opt h
  | other h data => exact .other h data

theorem Laid.exists_reads (h : Laid type data) : ∃ r, Reads type data r := by
  cases h with
  | a h => exact ⟨_, .a ⟨data, h⟩⟩
  | aaaa h => exact ⟨_, .aaaa ⟨data, h⟩⟩
  | @txt strings h =>
    have hgenuine : (TextStrings.mk (TextStrings.blobOf strings)).Genuine :=
      TextStrings.genuine_iff.2 (TextStrings.check_blobOf h)
    exact ⟨_, .txt hgenuine⟩
  | @opt options h =>
    rw [← List.flatMap_congr fun o ho => EdnsOption.toWire_eq (h o ho)]
    exact ⟨_, .opt h⟩
  | other h => exact ⟨_, .other h data⟩

theorem exists_ofOctets_iff : (∃ r, ofOctets type data = .ok r) ↔ Laid type data := by
  simp only [ofOctets_eq_ok_iff]
  exact ⟨fun ⟨_, h⟩ => h.laid, Laid.exists_reads⟩

/-- **Payloads are exact.** The data of a type is read if it is laid out as the type says, and only
then. What is read is written as the same data, is as long as that, and is of that type. A genuine
payload is read from what it is written as. -/
theorem payloads_exact :
    (∀ type : TypeCode, type.Canonical → ∀ data : Octets,
      (∃ r, ofOctets type data = .ok r) ↔ Laid type data) ∧
    (∀ type : TypeCode, type.Canonical → ∀ (data : Octets) (r : RData),
      ofOctets type data = .ok r →
        r.toWire = data ∧ r.wireLength = data.length ∧ r.type = type) ∧
    ∀ r : RData, r.Genuine → r.OptionsFit → ofOctets r.type r.toWire = .ok r := by
  refine ⟨fun type _ data => exists_ofOctets_iff, fun type htype data r h => ?_,
    fun r h hfit => (reads_toWire h hfit).ofOctets_eq⟩
  obtain ⟨rfl, hkind, _⟩ := (ofOctets_eq_ok_iff.1 h).genuine htype
  exact ⟨rfl, (length_toWire r).symm, hkind⟩

/-- An OPT payload of an option with data and one without. -/
theorem payloads_exact_two_options :
    let r : RData := .opt [⟨10, [0xab, 0xcd]⟩, ⟨12, []⟩]
    let data : Octets := [0, 10, 0, 2, 0xab, 0xcd, 0, 12, 0, 0]
    ((TypeCode.known .opt).Canonical ∧ r.Genuine ∧ r.OptionsFit ∧
        ofOctets (.known .opt) data = .ok r) ∧
      Laid (.known .opt) data ∧ r.toWire = data ∧ r.wireLength = data.length ∧
      ofOctets r.type r.toWire = .ok r := by
  intro r data
  obtain ⟨hlaid, hread, hwritten⟩ := payloads_exact
  have hcanonical : (TypeCode.known .opt).Canonical := TypeCode.canonical_known .opt
  have hgenuine : r.Genuine := trivial
  have hfit : r.OptionsFit := by
    show ∀ o ∈ [(⟨10, [0xab, 0xcd]⟩ : EdnsOption), ⟨12, []⟩], o.data.length ≤ 65535
    decide
  have hback := hwritten r hgenuine hfit
  have hdata : ofOctets (.known .opt) data = .ok r := hback
  have hexact := hread _ hcanonical data r hdata
  exact ⟨⟨hcanonical, hgenuine, hfit, hdata⟩, (hlaid _ hcanonical data).1 ⟨r, hdata⟩, hexact.1,
    hexact.2.1, hback⟩

end RData

end StubResolver
