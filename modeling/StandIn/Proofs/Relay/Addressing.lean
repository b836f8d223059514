import StandIn.Proofs.Http.Authority
import StandIn.Proofs.Relay.Location

/-!
# Where the scheduler is

The base of a relay is looked at once, when the relay is set up: it has to be an absolute identifier
of the web.  All requests go to the host and the port that it names.  That it names any is not looked
at, so the host may be empty, and what stands in the place of the port may be no port, which the relay
then does without.

* `Uri.IsAddressable` — a connection can be made as it is written.
* `isAddressable_iff_of_readScheduler` — which of the bases that can be set up are addressable.
* `scheduler_without_host_or_port` — some are not.
-/

namespace StandIn

open Http

namespace Http.Uri

/-- A connection can be made as it is written: there is a host, and if anything is written as the port
behind it, then that is a port, and it is the one that is connected to. -/
structure IsAddressable (u : Uri) : Prop where
  host : ∃ host, u.host? = some host ∧ host ≠ ""
  port : ∀ a ∈ u.authority, ∀ part ∈ Authority.portText? a,
    ∃ n, Authority.portNumber? part = some n ∧ u.port? = some n

lemma exists_authority_of_ofAbsolute {scheme : String} {cs : List Char} {u : Uri}
    (h : ofAbsolute scheme cs = .ok u) :
    ∃ a, u.authority = some a ∧ a.toList ≠ [] ∧ Authority.IsRead a.toList := by
  rw [ofAbsolute, bind_eq_ok_iff] at h
  obtain ⟨⟨front, rest⟩, hsplit, h⟩ := h
  dsimp only at h
  split_ifs at h with hempty
  obtain ⟨⟨path, query⟩, -, rfl⟩ := map_eq_ok_iff.1 h
  refine ⟨_, rfl, ?_, ?_⟩
  · rw [String.toList_ofList]
    simpa using hempty
  · rw [String.toList_ofList]
    exact Authority.isRead_of_split hsplit

/-- An identifier with a scheme has an authority, which was read as one. -/
lemma exists_authority_of_parse {s : String} {u : Uri} (h : parse s = .ok u)
    (hscheme : u.scheme.isSome = true) :
    ∃ a, u.authority = some a ∧ a.toList ≠ [] ∧ Authority.IsRead a.toList := by
  have hpath {cs : List Char} (h : ofPath cs = .ok u) : u.scheme = none := by
    rw [ofPath, map_eq_ok_iff] at h
    obtain ⟨⟨path, query⟩, -, rfl⟩ := h
    rfl
  have hauthority {cs : List Char} {excess : UriError} (h : ofAuthority cs excess = .ok u) :
      u.scheme = none := by
    rw [ofAuthority, bind_eq_ok_iff] at h
    obtain ⟨⟨front, rest⟩, -, h⟩ := h
    dsimp only at h
    split_ifs at h
    cases h
    rfl
  rw [parse] at h
  split at h
  · cases h
  split at h
  · cases h
  · cases h
    cases hscheme
  · simp [hpath h] at hscheme
  · split_ifs at h
    · simp [hauthority h] at hscheme
    · obtain ⟨⟨scheme, rest⟩, -, h⟩ := bind_eq_ok_iff.1 h
      cases scheme with
      | none => simp [hauthority h] at hscheme
      | some scheme => exact exists_authority_of_ofAbsolute h

/-- **Which identifiers are addressable**, told by the text of the authority. -/
lemma isAddressable_iff {u : Uri} {a : String} (ha : u.authority = some a)
    (hread : Authority.IsRead a.toList) (hne : a.toList ≠ []) :
    u.IsAddressable ↔ (Authority.hostAndPort a.toList).head? ≠ some ':' ∧
      ∀ part ∈ Authority.portText? a, Authority.IsPortText part := by
  have hhost : u.host? = some (Authority.host a) := by rw [host?, ha, Option.map_some]
  have hport : u.port? = Authority.port? a := by rw [port?, ha, Option.bind_some]
  have hempty : Authority.host a ≠ "" ↔
      (Authority.hostAndPort a.toList).head? ≠ some ':' := by
    rw [ne_eq, Authority.host_eq_empty_iff, not_or]
    exact and_iff_right (hread.hostAndPort_ne_nil hne)
  rw [← hempty]
  constructor
  · rintro ⟨⟨host, hhost', hne'⟩, hports⟩
    cases hhost.symm.trans hhost'
    refine ⟨hne', fun part hpart => ?_⟩
    obtain ⟨n, hn, -⟩ := hports a ha part hpart
    exact (Authority.portNumber?_isSome_iff part).1 (Option.isSome_of_eq_some hn)
  · rintro ⟨hne', hports⟩
    refine ⟨⟨_, hhost, hne'⟩, fun a' ha' part hpart => ?_⟩
    cases ha.symm.trans ha'
    have htext := hports part hpart
    obtain ⟨n, hn⟩ := Option.isSome_iff_exists.1 ((Authority.portNumber?_isSome_iff part).2 htext)
    refine ⟨n, hn, ?_⟩
    rw [hport, Authority.port?_of_portText? hpart (Authority.not_mem_colon_of_isPortText htext), hn]

end Http.Uri

namespace Settings

lemma scheme_of_readScheduler {value : String} {u : Uri} (h : readScheduler value = .ok u) :
    u.scheme = some "http" ∨ u.scheme = some "https" := by
  rw [readScheduler] at h
  dsimp only at h
  split at h
  · cases h
  split at h
  · cases h
  rename_i s hs
  split_ifs at h with hweb
  cases h
  rw [hs, Option.some.injEq, Option.some.injEq]
  by_contra hother
  exact hweb (not_or.1 hother)

lemma parse_of_readScheduler {value : String} {u : Uri} (h : readScheduler value = .ok u) :
    Uri.parse value = .ok u := by
  rw [readScheduler] at h
  dsimp only at h
  split at h
  · cases h
  rename_i hparse
  split at h
  · cases h
  split_ifs at h
  cases h
  exact hparse

end Settings

namespace Relay

/-- **Which schedulers can be addressed.**  The base is one that can be set up.  It is one of the web,
and its authority ends in a host and what stands behind it.  It can be addressed if that does not
start with a colon, and what is written as a port is the text of one; these two are not looked at when
the relay is set up.  All requests go to the host and the port of the base, whatever they ask for. -/
theorem isAddressable_iff_of_readScheduler {value : String} {base : Uri}
    (h : Settings.readScheduler value = .ok base) :
    (base.scheme = some "http" ∨ base.scheme = some "https") ∧
    (∃ a, base.authority = some a ∧
      Authority.hostAndPort a.toList = (Authority.host a).toList ++ Authority.behindHost a ∧
      (base.IsAddressable ↔ (Authority.hostAndPort a.toList).head? ≠ some ':' ∧
        ∀ part ∈ Authority.portText? a, Authority.IsPortText part)) ∧
    ∀ name s u w, Uri.parse s = .ok u → Target.locate ⟨name, base⟩ u = .ok w →
      w.scheme = base.scheme ∧ w.host? = base.host? ∧ w.port? = base.port? := by
  have habsolute := Settings.isAbsolute_of_readScheduler h
  obtain ⟨a, ha, hne, hread⟩ :=
    Uri.exists_authority_of_parse (Settings.parse_of_readScheduler h) habsolute.scheme
  refine ⟨Settings.scheme_of_readScheduler h, ⟨a, ha, ?_, Uri.isAddressable_iff ha hread hne⟩, ?_⟩
  · exact (Authority.host_append_behindHost hread).symm
  · intro name s u w hu hw
    have hlocated := Target.eq_located_of_locate habsolute (Uri.form_of_parse hu) hw
    rw [hlocated]
    simp only [Target.located, Uri.host?, Uri.port?, and_self]

/-- A literal address behind a name and a password, and a port. -/
theorem isAddressable_of_literal :
    ∃ base, Settings.readScheduler "HTTPS://u:1@[::1]:8889/base" = .ok base ∧
      base.IsAddressable := by
  have hread : Settings.readScheduler "HTTPS://u:1@[::1]:8889/base"
      = .ok ⟨some "https", some "u:1@[::1]:8889", "/base", none⟩ := by decide +kernel
  obtain ⟨-, ⟨a, ha, -, haddressable⟩, -⟩ := isAddressable_iff_of_readScheduler hread
  cases ha
  refine ⟨_, hread, haddressable.2 ⟨by decide +kernel, fun part hpart => ?_⟩⟩
  have hdigits : part = ['8', '8', '8', '9'] := by
    have htext : Authority.portText? "u:1@[::1]:8889" = some ['8', '8', '8', '9'] := by
      decide +kernel
    exact Option.some.inj (hpart.symm.trans htext)
  exact ⟨_, .inl hdigits, by decide, List.all_eq_true.1 (by decide), by decide +kernel⟩

/-- **Bases without a host or without a port.**  The first names no host.  The second names a port
that is none, and the relay connects to the usual one.  Both can be set up. -/
theorem scheduler_without_host_or_port :
    (∃ base, Settings.readScheduler "http://:80" = .ok base ∧ base.host? = some "" ∧
      ¬base.IsAddressable) ∧
    (∃ base, Settings.readScheduler "http://h:65536" = .ok base ∧
      Authority.portText? "h:65536" = some "65536".toList ∧ base.authority = some "h:65536" ∧
      base.port? = none ∧ ¬base.IsAddressable) := by
  refine ⟨⟨⟨some "http", some ":80", "", none⟩, by decide +kernel, by decide +kernel, ?_⟩,
    ⟨⟨some "http", some "h:65536", "", none⟩, by decide +kernel, by decide +kernel,
      rfl, by decide +kernel, ?_⟩⟩
  · rintro ⟨⟨host, hhost, hne⟩, -⟩
    have hempty : Uri.host? ⟨some "http", some ":80", "", none⟩ = some "" := by decide +kernel
    exact hne (Option.some.inj (hhost.symm.trans hempty))
  · rintro ⟨-, hports⟩
    obtain ⟨n, hn, -⟩ := hports "h:65536" rfl "65536".toList (by decide +kernel)
    have hnone : Authority.portNumber? "65536".toList = none := by decide +kernel
    cases hnone.symm.trans hn

end Relay

end StandIn
