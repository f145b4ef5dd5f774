import Mathlib.Data.List.Destutter
import Mathlib.Data.List.Sort
import StubResolver.Proofs.RData.Segments
import StubResolver.Proofs.Resolver.Reuse
import StubResolver.Proofs.Text
import StubResolver.Proofs.Utf8
import StubResolver.Resolver.Discovery

/-!
# What discovery finds

The facade reads nothing of a response but the octets of its TXT records, each with its character
strings in a row (`published`). Since ASCII at the front of a text is ASCII at the front of the
octets, a value is what is behind the key in the octets, read as text (`valueOf?_eq_some_iff`). The
link is the first such value (`FirstLink`), and the texts and addresses are sets, in order and
without repetition (`mem_sorted`, `sorted_congr`).
-/

namespace StubResolver

/-- A TXT record whose character strings in a row are the octets. -/
def Record.HoldsText (r : Record) (octets : Octets) : Prop :=
  ∃ t, r.rdata = .txt t ∧ t.segments.flatten = octets

/-- What the TXT records among the answers hold, in order. -/
def Message.published (m : Message) : List Octets :=
  m.answers.filterMap fun r => r.rdata.strings?.map TextStrings.characters

/-- The value in the first TXT record that begins with the key of links. -/
def Message.FirstLink (m : Message) (value : String) : Prop :=
  ∃ front r back rest, m.answers = front ++ r :: back ∧
    (∀ x ∈ front, ∀ other, ¬ x.HoldsText (Utf8.encode "dnslink=" ++ other)) ∧
    r.HoldsText (Utf8.encode "dnslink=" ++ rest) ∧ Utf8.lossy rest = value

theorem Record.holdsText_iff {r : Record} {octets : Octets} :
    r.HoldsText octets ↔ r.rdata.strings?.map TextStrings.characters = some octets := by
  unfold HoldsText
  cases r.rdata <;> simp [RData.strings?, TextStrings.characters]

namespace Resolver

variable {σ τ : Type} {settings : Settings} {link : Link σ} {s : Shared} {w : σ}
  {host name key text value : String} {xs ys : List String} {r r' : Message}
  {e : ResolverError}

/-! ## Sets of texts -/

theorem eraseRepsBy_loop (a : String) (acc : List String) :
    List.eraseRepsBy.loop (· == ·) a xs acc = acc.reverse ++ xs.destutter' (· ≠ ·) a := by
  induction xs generalizing a acc with
  | nil => exact List.reverse_cons
  | cons b xs ih =>
    rw [List.eraseRepsBy.loop, List.destutter'_cons]
    by_cases h : a = b
    · rw [beq_iff_eq.2 h, if_neg (not_not_intro h)]
      exact ih a acc
    · rw [beq_eq_false_iff_ne.2 h, if_pos h]
      simp only [ih, List.reverse_cons, List.append_assoc, List.singleton_append]

theorem eraseReps_eq_destutter (xs : List String) :
    xs.eraseReps = xs.destutter (· ≠ ·) := by
  cases xs with
  | nil => rfl
  | cons a xs => exact eraseRepsBy_loop a []

theorem pairwise_mergeSort (xs : List String) :
    (xs.mergeSort fun a b => !decide (b < a)).Pairwise (· ≤ ·) := by
  have hle : ∀ a b : String, (!decide (b < a)) = true ↔ a ≤ b := by
    intro a b
    rw [Bool.not_eq_true', decide_eq_false_iff_not, String.not_lt]
  refine (List.pairwise_mergeSort (fun a b c => ?_) (fun a b => ?_) xs).imp (hle _ _).1
  · simp only [hle]
    exact String.le_trans
  · simp only [Bool.or_eq_true, hle]
    exact String.le_total a b

/-- Equal texts in order stand side by side. -/
theorem sorted_eq_dedup (xs : List String) :
    sorted xs = (xs.mergeSort fun a b => !decide (b < a)).dedup := by
  rw [sorted, eraseReps_eq_destutter, (pairwise_mergeSort xs).destutter_eq_dedup]

theorem mem_sorted : text ∈ sorted xs ↔ text ∈ xs := by
  rw [sorted_eq_dedup, List.mem_dedup, List.mem_mergeSort]

theorem pairwise_sorted (xs : List String) : (sorted xs).Pairwise (· < ·) := by
  rw [sorted_eq_dedup]
  exact ((pairwise_mergeSort xs).sublist (List.dedup_sublist _)).imp₂
    (fun _ _ => Std.lt_of_le_of_ne) (List.nodup_dedup _)

/-- The set is all that matters. -/
theorem sorted_congr (h : ∀ text, text ∈ xs ↔ text ∈ ys) : sorted xs = sorted ys :=
  (pairwise_sorted xs).eq_of_mem_iff (pairwise_sorted ys) fun text => by
    rw [mem_sorted, mem_sorted, h]

/-! ## Values -/

theorem valueAfter?_eq_some_iff : valueAfter? key text = some value ↔ text = key ++ value := by
  unfold valueAfter?
  rw [Option.ite_none_right_eq_some, Option.some.injEq, List.isPrefixOf_iff_prefix,
    List.prefix_iff_eq_append, ← String.toList_inj, ← String.toList_inj, String.toList_append,
    String.toList_ofList]
  constructor
  · rintro ⟨h, hvalue⟩
    rw [← hvalue, h]
  · intro h
    rw [h, List.drop_left]
    exact ⟨rfl, rfl⟩

/-- The value that a record publishes under a key. -/
def valueOf? (key : String) (r : Record) : Option String :=
  (r.rdata.strings?.map fun t => Utf8.lossy t.characters).bind (valueAfter? key)

/-- The key is sought in the text, and found if and only if it is in the octets. -/
theorem valueOf?_eq_some_iff {r : Record} (hkey : (key.toList.all fun c => c.toNat < 0x80) = true) :
    valueOf? key r = some value ↔
      ∃ rest, r.HoldsText (Utf8.encode key ++ rest) ∧ Utf8.lossy rest = value := by
  unfold valueOf?
  simp only [Record.holdsText_iff]
  cases r.rdata.strings? with
  | none => exact iff_of_false nofun nofun
  | some t =>
    rw [Option.map_some, Option.bind_some, valueAfter?_eq_some_iff, Utf8.lossy_eq_append_iff hkey]
    simp only [Option.map_some, Option.some.injEq]

theorem valueOf?_eq_none_iff {r : Record} (hkey : (key.toList.all fun c => c.toNat < 0x80) = true) :
    valueOf? key r = none ↔ ∀ rest, ¬ r.HoldsText (Utf8.encode key ++ rest) := by
  rw [Option.eq_none_iff_forall_ne_some]
  simp only [ne_eq, valueOf?_eq_some_iff hkey]
  exact ⟨fun h rest hr => h _ ⟨rest, hr, rfl⟩, fun h _ ⟨rest, hr, _⟩ => h rest hr⟩

theorem ascii_linkKey : ("dnslink=".toList.all fun c => c.toNat < 0x80) = true := by
  decide

theorem ascii_addressKey : ("dnsaddr=".toList.all fun c => c.toNat < 0x80) = true := by
  decide

theorem textValues_eq (r : Message) : textValues r = r.published.map Utf8.lossy := by
  unfold textValues Message.published
  rw [List.map_filterMap]
  simp only [Option.map_map]
  rfl

theorem values_eq (key : String) (r : Message) :
    (textValues r).filterMap (valueAfter? key) = r.answers.filterMap (valueOf? key) :=
  List.filterMap_filterMap

theorem linkIn?_eq (r : Message) : linkIn? r = r.answers.findSome? (valueOf? "dnslink=") := by
  rw [linkIn?, ← List.head?_filterMap, values_eq, List.head?_filterMap]

theorem mem_textValues : text ∈ textValues r ↔
    ∃ a ∈ r.answers, ∃ octets, a.HoldsText octets ∧ Utf8.lossy octets = text := by
  simp only [textValues_eq, Message.published, List.mem_map, List.mem_filterMap,
    Record.holdsText_iff]
  constructor
  · rintro ⟨octets, ⟨a, ha, hoctets⟩, htext⟩
    exact ⟨a, ha, octets, hoctets, htext⟩
  · rintro ⟨a, ha, octets, hoctets, htext⟩
    exact ⟨octets, ⟨a, ha, hoctets⟩, htext⟩

theorem mem_addressesIn : text ∈ addressesIn r ↔
    ∃ a ∈ r.answers, ∃ rest, a.HoldsText (Utf8.encode "dnsaddr=" ++ rest) ∧
      Utf8.lossy rest = text := by
  rw [addressesIn, mem_sorted, values_eq, List.mem_filterMap]
  simp only [valueOf?_eq_some_iff ascii_addressKey]

theorem mem_addressesIn_iff : text ∈ addressesIn r ↔ "dnsaddr=" ++ text ∈ textValues r := by
  rw [addressesIn, mem_sorted, List.mem_filterMap]
  simp only [valueAfter?_eq_some_iff, exists_eq_right]

theorem linkIn?_eq_some_iff : linkIn? r = some value ↔ r.FirstLink value := by
  rw [linkIn?_eq, List.findSome?_eq_some_iff]
  simp only [valueOf?_eq_some_iff ascii_linkKey, valueOf?_eq_none_iff ascii_linkKey]
  constructor
  · rintro ⟨front, a, back, hanswers, ⟨rest, hrest, hvalue⟩, hfront⟩
    exact ⟨front, a, back, rest, hanswers, hfront, hrest, hvalue⟩
  · rintro ⟨front, a, back, rest, hanswers, hfront, hrest, hvalue⟩
    exact ⟨front, a, back, hanswers, ⟨rest, hrest, hvalue⟩, hfront⟩

theorem linkIn?_eq_none_iff : linkIn? r = none ↔
    ∀ a ∈ r.answers, ∀ rest, ¬ a.HoldsText (Utf8.encode "dnslink=" ++ rest) := by
  rw [linkIn?_eq, List.findSome?_eq_none_iff]
  simp only [valueOf?_eq_none_iff ascii_linkKey]

/-! ## Responses that publish the same -/

theorem linkIn?_congr (h : r.published = r'.published) : linkIn? r = linkIn? r' := by
  rw [linkIn?, linkIn?, textValues_eq, textValues_eq, h]

theorem mem_textValues_congr (h : ∀ octets, octets ∈ r.published ↔ octets ∈ r'.published)
    (text : String) : text ∈ textValues r ↔ text ∈ textValues r' := by
  simp only [textValues_eq, List.mem_map, h]

theorem addressesIn_congr (h : ∀ octets, octets ∈ r.published ↔ octets ∈ r'.published) :
    addressesIn r = addressesIn r' :=
  sorted_congr fun text => by simp only [List.mem_filterMap, mem_textValues_congr h]

/-! ## Lookups -/

/-- Where and when a host is looked up. -/
structure Occasion where
  {World : Type}
  settings : Settings
  link : Link World
  shared : Shared
  world : World

namespace Occasion

/-- What the engine returns for the TXT records of a name. -/
def response (o : Occasion) (name : String) : Except ResolverError Message :=
  (query o.settings o.link o.shared o.world name (.known .txt)).result

/-- The texts found for a host. -/
def texts (o : Occasion) (host : String) : Except ResolverError (List String) :=
  (textsOf o.settings o.link o.shared o.world host).result

/-- The link found for a host. -/
def linkTo (o : Occasion) (host : String) : Except ResolverError String :=
  (linkOf o.settings o.link o.shared o.world host).result

/-- The addresses found for a host. -/
def addresses (o : Occasion) (host : String) : Except ResolverError (List String) :=
  (addressesOf o.settings o.link o.shared o.world host).result

theorem texts_eq (o : Occasion) (host : String) :
    o.texts host = (o.response host).map fun r => sorted (textValues r) :=
  rfl

theorem linkTo_eq (o : Occasion) (host : String) :
    o.linkTo host = (o.response (below "_dnslink" host)).bind fun r =>
      (linkIn? r).elim (.error (.noDnsLink host)) .ok := by
  unfold linkTo linkOf response
  dsimp only
  cases (query o.settings o.link o.shared o.world (below "_dnslink" host) (.known .txt)).result with
  | error e => rfl
  | ok r =>
    simp only [bind, Except.bind]
    cases linkIn? r <;> rfl

theorem addresses_eq (o : Occasion) (host : String) :
    o.addresses host = (o.response (below "_dnsaddr" host)).map addressesIn := by
  unfold addresses addressesOf response
  dsimp only
  cases (query o.settings o.link o.shared o.world (below "_dnsaddr" host) (.known .txt)).result <;>
    rfl

end Occasion

/-! ## Exactness -/

/-- The link found for a host is the one in the response. -/
structure LinkExact (host : String) (r : Message) (result : Except ResolverError String) : Prop where
  found : ∀ value, result = .ok value ↔ r.FirstLink value
  missing : result = .error (.noDnsLink host) ↔
    ∀ a ∈ r.answers, ∀ rest, ¬ a.HoldsText (Utf8.encode "dnslink=" ++ rest)

/-- The texts found are those in the response, in order and each once. -/
structure TextsExact (r : Message) (texts : List String) : Prop where
  ascending : texts.Pairwise (· < ·)
  mem_iff : ∀ text, text ∈ texts ↔
    ∃ a ∈ r.answers, ∃ octets, a.HoldsText octets ∧ Utf8.lossy octets = text

/-- The addresses found are those in the response, in order and each once. -/
structure AddressesExact (r : Message) (addresses : List String) : Prop where
  ascending : addresses.Pairwise (· < ·)
  mem_iff : ∀ text, text ∈ addresses ↔
    ∃ a ∈ r.answers, ∃ rest, a.HoldsText (Utf8.encode "dnsaddr=" ++ rest) ∧ Utf8.lossy rest = text

theorem textsExact_sorted (r : Message) : TextsExact r (sorted (textValues r)) where
  ascending := pairwise_sorted _
  mem_iff _ := mem_sorted.trans mem_textValues

theorem addressesExact (r : Message) : AddressesExact r (addressesIn r) where
  ascending := pairwise_sorted _
  mem_iff _ := mem_addressesIn

theorem linkExact (host : String) (r : Message) :
    LinkExact host r ((linkIn? r).elim (.error (.noDnsLink host)) .ok) := by
  constructor
  · intro value
    rw [← linkIn?_eq_some_iff]
    cases linkIn? r <;> simp
  · rw [← linkIn?_eq_none_iff]
    cases linkIn? r <;> simp

theorem below_eq {stem : String} (hstem : Text.EndTrimmed (· == '.') host.toList stem.toList)
    (label : String) : below label host = label ++ "." ++ stem := by
  rw [below, ← Text.endTrimmed_iff.1 hstem, String.ofList_toList]

/-- **Discovery is exact.** The names asked for are the host without full stops at its end below the
label in question, and an error of the engine is passed on. From a response the link is the first
one in it, and without one the host is reported as it was given. The addresses and the texts are the
sets in it, and an address is what follows the key in a text of the same response. Whatever else
differs, the link is the same if the TXT records hold the same octets in the same order, and the
sets are the same if they hold the same octets in any order, however often. -/
theorem discovery_exact (o : Occasion) (host stem : String)
    (hstem : Text.EndTrimmed (· == '.') host.toList stem.toList) :
    (∀ r, o.response ("_dnslink." ++ stem) = .ok r → LinkExact host r (o.linkTo host)) ∧
      (∀ r, o.response ("_dnsaddr." ++ stem) = .ok r →
        ∃ addresses texts, o.addresses host = .ok addresses ∧
          o.texts ("_dnsaddr." ++ stem) = .ok texts ∧ AddressesExact r addresses ∧
            ∀ text, text ∈ addresses ↔ "dnsaddr=" ++ text ∈ texts) ∧
      (∀ r, o.response host = .ok r → ∃ texts, o.texts host = .ok texts ∧ TextsExact r texts) ∧
      (∀ e, (o.response ("_dnslink." ++ stem) = .error e → o.linkTo host = .error e) ∧
        (o.response ("_dnsaddr." ++ stem) = .error e → o.addresses host = .error e) ∧
        (o.response host = .error e → o.texts host = .error e)) ∧
      ∀ (o' : Occasion) (r r' : Message),
        (o.response ("_dnslink." ++ stem) = .ok r → o'.response ("_dnslink." ++ stem) = .ok r' →
          r.published = r'.published → o.linkTo host = o'.linkTo host) ∧
        ((∀ octets, octets ∈ r.published ↔ octets ∈ r'.published) →
          (o.response ("_dnsaddr." ++ stem) = .ok r → o'.response ("_dnsaddr." ++ stem) = .ok r' →
            o.addresses host = o'.addresses host) ∧
          (o.response host = .ok r → o'.response host = .ok r' → o.texts host = o'.texts host)) := by
  have hlink : "_dnslink" ++ "." = "_dnslink." := rfl
  have haddr : "_dnsaddr" ++ "." = "_dnsaddr." := rfl
  simp only [Occasion.linkTo_eq, Occasion.addresses_eq, Occasion.texts_eq, below_eq hstem, hlink,
    haddr]
  refine ⟨fun r hr => ?_, fun r hr => ?_, fun r hr => ?_, fun e => ⟨fun he => ?_, fun he => ?_,
    fun he => ?_⟩, fun o' r r' => ⟨fun hr hr' h => ?_, fun h => ⟨fun hr hr' => ?_, fun hr hr' => ?_⟩⟩⟩
  · rw [hr]
    exact linkExact host r
  · rw [hr]
    exact ⟨_, _, rfl, rfl, addressesExact r, fun text => mem_addressesIn_iff.trans mem_sorted.symm⟩
  · rw [hr]
    exact ⟨_, rfl, textsExact_sorted r⟩
  · rw [he]; rfl
  · rw [he]; rfl
  · rw [he]; rfl
  · rw [hr, hr']
    show (linkIn? r).elim _ _ = (linkIn? r').elim _ _
    rw [linkIn?_congr h]
  · rw [hr, hr']
    exact congrArg Except.ok (addressesIn_congr h)
  · rw [hr, hr']
    exact congrArg Except.ok (sorted_congr (mem_textValues_congr h))

/-- Character strings that are cut in the key and in a character of two octets. -/
def cutLink : List Octets :=
  [[100, 110, 115, 108], [105, 110, 107, 61, 0xC3], [0xA9]]

/-- A response with id 7 from a server with recursion: an address, and a text. -/
def linkReply : Message :=
  Message.counted {
    header := ((Header.ofId 7).setFlag .qr true).setFlag .ra true
    questions := []
    answers := [.ofAddress .root 60 (.v4 ⟨[198, 51, 100, 7], rfl⟩),
      .ofClass .root (.known .txt) .internet 60 (.txt ⟨TextStrings.blobOf cutLink⟩)]
    authority := []
    additional := []
    optIndex := none
    receivedAt := 0 }

theorem writable_linkReply : linkReply.Writable := by
  have hgenuine : (TextStrings.mk (TextStrings.blobOf cutLink)).Genuine :=
    TextStrings.genuine_iff.2 (TextStrings.check_blobOf (by decide))
  refine Message.writable_counted (by decide) (by decide) (by decide) (by decide) (by decide) ?_ ?_
  · exact List.forall_mem_cons.2 ⟨⟨rfl, trivial⟩, List.forall_mem_singleton.2 ⟨rfl, hgenuine⟩⟩
  · exact List.forall_mem_cons.2 ⟨by decide, List.forall_mem_singleton.2 (by decide)⟩

theorem firstLink_linkReply (now : Int64) : (linkReply.received now).FirstLink "é" := by
  refine ⟨[_], _, [], [0xC3, 0xA9], rfl, List.forall_mem_singleton.2 fun other h => ?_,
    ⟨_, rfl, ?_⟩, rfl⟩
  · obtain ⟨t, ht, -⟩ := h
    cases ht
  · rw [TextStrings.segments, TextStrings.segmentsOf_blobOf (by decide)]
    rfl

/-- The link is found in the second answer, whole. -/
theorem discovery_exact_cut_link :
    let server : Endpoint := .v4 ⟨[192, 0, 2, 53], rfl⟩ 53
    let o : Occasion := ⟨.ofServers [server], scriptedLink 7 1000, .ofCapacity 4,
      [.ok linkReply.toWire]⟩
    Text.EndTrimmed (· == '.') "example.".toList "example".toList ∧
      o.response ("_dnslink." ++ "example") = .ok (linkReply.received 1000) ∧
        o.linkTo "example." = .ok "é" := by
  intro server o
  have hstem : Text.EndTrimmed (· == '.') "example.".toList "example".toList :=
    Text.endTrimmed_iff.2 rfl
  have hresponse : o.response ("_dnslink." ++ "example") = .ok (linkReply.received 1000) := by
    obtain ⟨n, hn⟩ : ∃ n, Name.ofText ("_dnslink." ++ "example") = .ok n := ⟨_, rfl⟩
    let l := Lookup.ofQuestion (.ofServers [server]) 7 (.ofName n (.known .txt))
    have hunmarked : ¬ (l.begin 1000 (.ofCapacity 4)).1.isMarked server := by
      rw [Shared.isMarked_iff, l.begin_nonRecursive]
      exact List.not_mem_nil
    have hcut : cutShort (Lookup.read (.ok linkReply.toWire) 1000) = false := by
      rw [Lookup.read_toWire writable_linkReply]
      decide
    have haccepted : accepted? 7 (Lookup.read (.ok linkReply.toWire) 1000) =
        some (linkReply.received 1000) := by
      rw [Lookup.read_toWire writable_linkReply]
      exact accepted?_eq_some_iff.2 ⟨rfl, by decide, by decide⟩
    have hrun : l.run (scriptedLink 7 1000) (.ofCapacity 4) [.ok linkReply.toWire] .asked =
        l.run (scriptedLink 7 1000) (l.begin 1000 (.ofCapacity 4)).1 [.ok linkReply.toWire]
          (.seeking [server] none) :=
      l.run_asked_of_none rfl
    have hquery : o.response ("_dnslink." ++ "example") =
        (l.run (scriptedLink 7 1000) (.ofCapacity 4) [.ok linkReply.toWire] .asked).result := by
      rw [Occasion.response, query, hn]
      rfl
    rw [hquery, hrun]
    exact l.run_of_accepted (scriptedLink 7 1000) _ [] none hunmarked hcut haccepted
  obtain ⟨hlink, -⟩ := discovery_exact o "example." "example" hstem
  exact ⟨hstem, hresponse, ((hlink _ hresponse).found "é").2 (firstLink_linkReply 1000)⟩

end Resolver

end StubResolver
