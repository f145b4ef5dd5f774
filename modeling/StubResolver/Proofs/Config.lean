import Mathlib.Data.List.Forall2
import Mathlib.Tactic.SplitIfs
import StubResolver.CommandLine.Program

/-!
# Sound configurations

A configuration is checked by its own rules, and the settings that come of it by those of the
resolver. The two ask the same of every value (`Config.Sound`, `Resolver.Settings.Sound`), so
settings are never rejected after the configuration has passed. The servers play no part in the
second check, so they may be replaced by others.
-/

namespace StubResolver

section Traversal

variable {α β ε : Type} {f : α → Except ε β} {xs : List α} {ys : List β} {e : ε}

theorem mapM_eq_ok_iff : xs.mapM f = .ok ys ↔ List.Forall₂ (fun x y => f x = .ok y) xs ys := by
  induction xs generalizing ys with
  | nil =>
    rw [List.forall₂_nil_left_iff]
    exact ⟨fun h => by cases h; rfl, fun h => h ▸ rfl⟩
  | cons x xs ih =>
    rw [List.mapM_cons, List.forall₂_cons_left_iff]
    simp only [← ih]
    cases f x with
    | error e => exact iff_of_false nofun nofun
    | ok y =>
      cases xs.mapM f with
      | error e => exact iff_of_false nofun nofun
      | ok rest =>
        constructor
        · intro h
          cases h
          exact ⟨y, rest, rfl, rfl, rfl⟩
        · rintro ⟨_, _, hy, hrest, rfl⟩
          cases hy
          cases hrest
          rfl

theorem exists_mapM_iff : (∃ ys, xs.mapM f = .ok ys) ↔ ∀ x ∈ xs, ∃ y, f x = .ok y := by
  simp only [mapM_eq_ok_iff]
  induction xs with
  | nil => exact iff_of_true ⟨[], .nil⟩ nofun
  | cons x xs ih =>
    rw [List.forall_mem_cons, ← ih]
    constructor
    · rintro ⟨_, _ | ⟨hx, hxs⟩⟩
      exact ⟨⟨_, hx⟩, _, hxs⟩
    · rintro ⟨⟨y, hx⟩, ys, hxs⟩
      exact ⟨y :: ys, .cons hx hxs⟩

theorem exists_error_of_mapM (h : xs.mapM f = .error e) : ∃ x ∈ xs, f x = .error e := by
  induction xs with
  | nil => cases h
  | cons x xs ih =>
    rw [List.mapM_cons] at h
    cases hx : f x with
    | error e' =>
      rw [hx] at h
      cases h
      exact ⟨x, List.mem_cons_self, hx⟩
    | ok y =>
      rw [hx] at h
      cases hxs : xs.mapM f with
      | error e' =>
        rw [hxs] at h
        cases h
        obtain ⟨z, hz, he⟩ := ih hxs
        exact ⟨z, List.mem_cons_of_mem x hz, he⟩
      | ok ys =>
        rw [hxs] at h
        cases h

end Traversal

/-! ## Settings of the resolver -/

namespace Resolver.Settings

/-- There is time and room, and the sizes are no smaller than those of messages without EDNS. -/
structure Sound (s : Settings) : Prop where
  timeout : s.timeoutMs ≠ 0
  capacity : s.cacheCapacity ≠ 0
  receiveBuffer : minimumSize ≤ s.receiveBufferSize.toNat
  udpPayload : minimumSize ≤ s.udpPayloadSize.toNat

variable {s : Settings}

theorem fault?_eq_none_iff : s.fault? = none ↔ s.Sound := by
  unfold fault?
  split_ifs with htimeout hcapacity hbuffer hpayload
  · exact iff_of_false nofun fun h => h.timeout htimeout
  · exact iff_of_false nofun fun h => h.capacity hcapacity
  · exact iff_of_false nofun fun h => Nat.not_lt.2 h.receiveBuffer hbuffer
  · exact iff_of_false nofun fun h => Nat.not_lt.2 h.udpPayload hpayload
  · exact iff_of_true rfl ⟨htimeout, hcapacity, Nat.not_lt.1 hbuffer, Nat.not_lt.1 hpayload⟩

theorem validate_eq_ok_iff : s.validate = .ok () ↔ s.Sound := by
  rw [← fault?_eq_none_iff, validate]
  cases s.fault? with
  | none => exact iff_of_true rfl rfl
  | some fault => exact iff_of_false nofun nofun

theorem Sound.withServers (h : s.Sound) (servers : List Endpoint) :
    { s with servers }.Sound := { h with }

end Resolver.Settings

theorem Resolver.Shared.ofSettings_of_valid {s : Resolver.Settings} (h : s.validate = .ok ()) :
    ofSettings s = .ok (.ofCapacity s.cacheCapacity.toNat) := by
  unfold ofSettings
  rw [h]
  rfl

/-! ## The section of the servers -/

namespace ResolverSection

/-- All servers are addresses, there is time, and the sizes are large enough. -/
structure Sound (s : ResolverSection) : Prop where
  servers : ∀ text ∈ s.servers, ∃ e, parseServer text = .ok e
  timeout : s.timeoutMs ≠ 0
  udpPayload : Resolver.minimumSize ≤ s.udpPayloadSize.toNat
  receiveBuffer : Resolver.minimumSize ≤ s.receiveBufferSize.toNat

/-- The checks in their order. -/
theorem validate_eq (s : ResolverSection) :
    s.validate = s.endpoints.bind fun _ =>
      if s.timeoutMs = 0 then .error (.tooSmall .timeout 1)
      else if s.udpPayloadSize.toNat < Resolver.minimumSize then
        .error (.tooSmall .udpPayloadSize Resolver.minimumSize)
      else if s.receiveBufferSize.toNat < Resolver.minimumSize then
        .error (.tooSmall .receiveBufferSize Resolver.minimumSize)
      else .ok () := by
  unfold validate
  cases s.endpoints with
  | error e => rfl
  | ok servers =>
    show _ = if _ then _ else _
    split_ifs
    all_goals rfl

variable {s : ResolverSection}

theorem validate_eq_ok_iff : s.validate = .ok () ↔ s.Sound := by
  rw [validate_eq]
  cases hservers : s.endpoints with
  | error e =>
    refine iff_of_false nofun fun h => ?_
    obtain ⟨servers, hparsed⟩ := exists_mapM_iff.2 h.servers
    cases hservers.symm.trans hparsed
  | ok servers =>
    have hparsed := exists_mapM_iff.1 ⟨servers, hservers⟩
    show (if _ then _ else _) = _ ↔ _
    split_ifs with htimeout hpayload hbuffer
    · exact iff_of_false nofun fun h => h.timeout htimeout
    · exact iff_of_false nofun fun h => Nat.not_lt.2 h.udpPayload hpayload
    · exact iff_of_false nofun fun h => Nat.not_lt.2 h.receiveBuffer hbuffer
    · exact iff_of_true rfl ⟨hparsed, htimeout, Nat.not_lt.1 hpayload, Nat.not_lt.1 hbuffer⟩

end ResolverSection

/-! ## Errors of a check

None of the checks says that the settings are at fault. -/

variable {fault : Resolver.SettingsFault}

theorem parseServer_ne_rejected (text : String) : parseServer text ≠ .error (.rejected fault) := by
  intro h
  unfold parseServer at h
  dsimp only at h
  split at h
  · cases h
  · split at h
    · cases h
    · cases h

theorem LogSection.settings_ne_rejected (s : LogSection) :
    s.settings ≠ .error (.rejected fault) := by
  intro h
  unfold settings at h
  split at h
  · cases h
  · split at h
    · cases h
    · cases h

theorem ResolverSection.validate_ne_rejected (s : ResolverSection) :
    s.validate ≠ .error (.rejected fault) := by
  rw [validate_eq]
  cases hservers : s.endpoints with
  | error e =>
    intro h
    cases h
    obtain ⟨text, _, htext⟩ := exists_error_of_mapM hservers
    exact parseServer_ne_rejected text htext
  | ok servers =>
    show (if _ then _ else _) ≠ _
    split_ifs
    all_goals nofun

/-! ## Configurations -/

namespace Config

/-- Each section is sound, and there is room for a response. -/
structure Sound (c : Config) : Prop where
  resolver : c.resolver.Sound
  capacity : c.cache.capacity ≠ 0
  logging : ∃ settings, c.logging.settings = .ok settings

/-- The checks in their order. -/
theorem validate_eq (c : Config) :
    c.validate = c.resolver.validate.bind fun _ =>
      if c.cache.capacity = 0 then .error (.tooSmall .cacheCapacity 1)
      else c.logging.settings.map fun _ => () := by
  unfold validate
  cases c.resolver.validate with
  | error e => rfl
  | ok u =>
    show _ = if _ then _ else _
    split_ifs
    · rfl
    · cases c.logging.settings with
      | error e => rfl
      | ok settings => rfl

variable {c : Config} {e : ConfigError} {s : Resolver.Settings}

theorem validate_eq_ok_iff : c.validate = .ok () ↔ c.Sound := by
  rw [validate_eq]
  cases hresolver : c.resolver.validate with
  | error e =>
    refine iff_of_false nofun fun h => ?_
    cases hresolver.symm.trans (ResolverSection.validate_eq_ok_iff.2 h.resolver)
  | ok u =>
    have hsound := ResolverSection.validate_eq_ok_iff.1 hresolver
    show (if _ then _ else _) = _ ↔ _
    split_ifs with hcapacity
    · exact iff_of_false nofun fun h => h.capacity hcapacity
    · cases hlogging : c.logging.settings with
      | error e =>
        refine iff_of_false nofun fun h => ?_
        obtain ⟨settings, hok⟩ := h.logging
        cases hlogging.symm.trans hok
      | ok settings => exact iff_of_true rfl ⟨hsound, hcapacity, settings, hlogging⟩

theorem validate_ne_rejected (c : Config) : c.validate ≠ .error (.rejected fault) := by
  rw [validate_eq]
  cases hresolver : c.resolver.validate with
  | error e =>
    intro h
    cases h
    exact c.resolver.validate_ne_rejected hresolver
  | ok u =>
    show (if _ then _ else _) ≠ _
    split_ifs
    · nofun
    · cases hlogging : c.logging.settings with
      | error e =>
        intro h
        cases h
        exact c.logging.settings_ne_rejected hlogging
      | ok settings => nofun

/-! ## The settings of a configuration -/

/-- The settings of a configuration: its servers, parsed in their order, and its other values. -/
structure Gives (c : Config) (s : Resolver.Settings) : Prop where
  servers : List.Forall₂ (fun text server => parseServer text = .ok server)
    c.resolver.servers s.servers
  timeoutMs : s.timeoutMs = c.resolver.timeoutMs
  udpPayloadSize : s.udpPayloadSize = c.resolver.udpPayloadSize
  receiveBufferSize : s.receiveBufferSize = c.resolver.receiveBufferSize
  cacheCapacity : s.cacheCapacity = c.cache.capacity
  useTcpFallback : s.useTcpFallback = c.resolver.tcpFallback

theorem Sound.of_gives (h : c.Sound) (hs : c.Gives s) : s.Sound where
  timeout := hs.timeoutMs ▸ h.resolver.timeout
  capacity := hs.cacheCapacity ▸ h.capacity
  receiveBuffer := hs.receiveBufferSize ▸ h.resolver.receiveBuffer
  udpPayload := hs.udpPayloadSize ▸ h.resolver.udpPayload

theorem resolverSettings_of_error (h : c.validate = .error e) : c.resolverSettings = .error e := by
  unfold resolverSettings
  rw [h]
  rfl

/-- After the check nothing is left that can fail. -/
theorem Sound.exists_resolverSettings (h : c.Sound) :
    ∃ s, c.resolverSettings = .ok s ∧ c.Gives s := by
  obtain ⟨servers, hservers⟩ := exists_mapM_iff.2 h.resolver.servers
  let s : Resolver.Settings := ⟨servers, c.resolver.timeoutMs, c.resolver.udpPayloadSize,
    c.resolver.receiveBufferSize, c.cache.capacity, c.resolver.tcpFallback⟩
  have hgives : c.Gives s := ⟨mapM_eq_ok_iff.1 hservers, rfl, rfl, rfl, rfl, rfl⟩
  have hfault : s.fault? = none := Resolver.Settings.fault?_eq_none_iff.2 (h.of_gives hgives)
  refine ⟨s, ?_, hgives⟩
  have hendpoints : c.resolver.endpoints = .ok servers := hservers
  unfold resolverSettings
  rw [validate_eq_ok_iff.2 h, hendpoints]
  simp only [bind, Except.bind]
  rw [hfault]
  rfl

theorem exists_resolverSettings_iff : (∃ s, c.resolverSettings = .ok s) ↔ c.Sound := by
  constructor
  · rintro ⟨s, hs⟩
    rw [← validate_eq_ok_iff]
    cases hvalid : c.validate with
    | error e => cases (resolverSettings_of_error hvalid).symm.trans hs
    | ok u => rfl
  · intro h
    obtain ⟨s, hs, -⟩ := h.exists_resolverSettings
    exact ⟨s, hs⟩

theorem gives_of_resolverSettings (h : c.resolverSettings = .ok s) : c.Sound ∧ c.Gives s := by
  have hsound := exists_resolverSettings_iff.1 ⟨s, h⟩
  obtain ⟨s', hs', hgives⟩ := hsound.exists_resolverSettings
  cases hs'.symm.trans h
  exact ⟨hsound, hgives⟩

theorem resolverSettings_ne_rejected (c : Config) :
    c.resolverSettings ≠ .error (.rejected fault) := by
  intro h
  cases hvalid : c.validate with
  | error e =>
    cases (resolverSettings_of_error hvalid).symm.trans h
    exact c.validate_ne_rejected hvalid
  | ok u =>
    obtain ⟨s, hs, -⟩ := (validate_eq_ok_iff.1 hvalid).exists_resolverSettings
    cases hs.symm.trans h

/-- The command line replaces nothing but the servers. -/
theorem of_commandLine {a : CommandLine.Arguments} {t t' : CommandLine.Transcript}
    (h : CommandLine.resolverSettings c a t = .ok s t') :
    ∃ own, c.resolverSettings = .ok own ∧ s = { own with servers := s.servers } := by
  unfold CommandLine.resolverSettings at h
  cases hown : c.resolverSettings with
  | error e =>
    rw [hown] at h
    cases h
  | ok own =>
    rw [hown] at h
    refine ⟨own, rfl, ?_⟩
    cases hempty : a.servers.isEmpty with
    | true =>
      simp only [hempty] at h
      cases h
      rfl
    | false =>
      cases hservers : a.servers.mapM parseServer with
      | error e =>
        simp only [hempty, hservers] at h
        cases h
      | ok servers =>
        simp only [hempty, hservers] at h
        cases h
        rfl

/-- **The checks agree.** A configuration gives settings if it passes its check, which is if it is
sound, and only then. Otherwise it fails as the check does, and never because the settings are at
fault. The settings pass the check of the resolver, have the servers of the configuration in their
order and keep its other values. Those of the command line pass as well, whatever servers replace
the others, and a resolver is made of them. -/
theorem settings_agree :
    (∀ c : Config, (∃ s, c.resolverSettings = .ok s) ↔ c.validate = .ok ()) ∧
      (∀ c : Config, c.validate = .ok () ↔ c.Sound) ∧
      (∀ (c : Config) (fault : Resolver.SettingsFault),
        c.resolverSettings ≠ .error (.rejected fault)) ∧
      (∀ (c : Config) (e : ConfigError), c.validate = .error e → c.resolverSettings = .error e) ∧
      (∀ (c : Config) (s : Resolver.Settings), c.resolverSettings = .ok s →
        s.validate = .ok () ∧ c.Gives s) ∧
      ∀ (c : Config) (a : CommandLine.Arguments) (s : Resolver.Settings)
        (t t' : CommandLine.Transcript), CommandLine.resolverSettings c a t = .ok s t' →
          s.validate = .ok () ∧
            Resolver.Shared.ofSettings s = .ok (.ofCapacity s.cacheCapacity.toNat) := by
  refine ⟨fun c => ?_, fun c => validate_eq_ok_iff, fun c fault => c.resolverSettings_ne_rejected,
    fun c e => resolverSettings_of_error, fun c s h => ?_, fun c a s t t' h => ?_⟩
  · rw [exists_resolverSettings_iff, validate_eq_ok_iff]
  · obtain ⟨hsound, hgives⟩ := gives_of_resolverSettings h
    exact ⟨Resolver.Settings.validate_eq_ok_iff.2 (hsound.of_gives hgives), hgives⟩
  · obtain ⟨own, hown, hs⟩ := of_commandLine h
    obtain ⟨hsound, hgives⟩ := gives_of_resolverSettings hown
    have hvalid : s.validate = .ok () := by
      rw [hs, Resolver.Settings.validate_eq_ok_iff]
      exact (hsound.of_gives hgives).withServers s.servers
    exact ⟨hvalid, Resolver.Shared.ofSettings_of_valid hvalid⟩

/-- Two servers, and every size at its limit. -/
def smallest : Config :=
  ⟨⟨["9.9.9.9", "[2620:fe::fe]:5353"], 1, 512, 512, false⟩, ⟨1⟩, .standard⟩

/-- No time is left. -/
def timeless : Config :=
  { smallest with resolver := { smallest.resolver with timeoutMs := 0 } }

/-- The settings at the limits, with one server of the command line in place of the two, and a
configuration that fails. -/
theorem settings_agree_smallest :
    let own : Resolver.Settings := ⟨[.v4 ⟨[9, 9, 9, 9], rfl⟩ 53,
      .v6 ⟨[0x26, 0x20, 0, 0xfe, 0, 0, 0, 0, 0, 0, 0, 0, 0, 0, 0, 0xfe], rfl⟩ 5353 0],
      1, 512, 512, 1, false⟩
    let s := { own with servers := [.v4 ⟨[127, 0, 0, 1], rfl⟩ 5300] }
    let a : CommandLine.Arguments := ⟨none, ["127.0.0.1:5300"], none, false, false, .txt "ipfs.io"⟩
    (smallest.resolverSettings = .ok own ∧ timeless.validate = .error (.tooSmall .timeout 1) ∧
        CommandLine.resolverSettings smallest a ⟨[]⟩ = .ok s ⟨[]⟩) ∧
      own.validate = .ok () ∧ smallest.Gives own ∧
        timeless.resolverSettings = .error (.tooSmall .timeout 1) ∧ s.validate = .ok () ∧
        Resolver.Shared.ofSettings s = .ok (.ofCapacity 1) := by
  intro own s a
  obtain ⟨-, -, -, hfails, hpasses, hreplaced⟩ := settings_agree
  have hown : smallest.resolverSettings = .ok own := rfl
  have htimeless : timeless.validate = .error (.tooSmall .timeout 1) := rfl
  have hs : CommandLine.resolverSettings smallest a ⟨[]⟩ = .ok s ⟨[]⟩ := rfl
  obtain ⟨hvalid, hgives⟩ := hpasses smallest own hown
  exact ⟨⟨hown, htimeless, hs⟩, hvalid, hgives, hfails timeless _ htimeless,
    hreplaced smallest a s _ _ hs⟩

end Config

end StubResolver
