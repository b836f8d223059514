import StandIn.Proofs.Net.AddressReading
import StandIn.Proofs.Relay.ForwardedFor
import StandIn.Proofs.Settings.Restriction
import StandIn.Proofs.Settings.Validation
import StandIn.Proofs.Text.Utf8

/-!
# Printed addresses stay what they are

The address to listen on is told when a stand-in starts, and the address of a client is put at the
end of a list that others read.  Either text stands for the address itself: it can be given back as
a setting, and nobody who reads the list can take one client for another.

* `Sources.withOverride` — sources with one more override.
* `Settings.exists_texts_insert` — reading a table after a text was inserted.
* `RelaySettings.load_withOverride_listen` — the printed address is given back as an override.
* `printed_address_survives` — both texts stand for the address.
-/

namespace StandIn

open Settings

/-! ## The address to listen on -/

namespace Sources

/-- The sources with one more override, which wins over all others. -/
def withOverride (s : Sources) (name value : String) : Sources :=
  { s with overrides := s.overrides ++ [(name, value)] }

end Sources

namespace Settings

lemma readOverrides_concat {overrides : List (String × String)} {name value : String}
    {path : KeyPath} (hname : KeyPath.parse name = .ok path) :
    readOverrides (overrides ++ [(name, value)])
      = (readOverrides overrides).map (· ++ [(path, value)]) := by
  induction overrides with
  | nil => simp [readOverrides, hname, Except.map]
  | cons o overrides ih =>
      rw [List.cons_append, readOverrides, readOverrides, ih]
      cases KeyPath.parse o.1 with
      | error e => rfl
      | ok p => cases readOverrides overrides <;> rfl

/-- Settings that can be read are texts or nothing. -/
lemma scalar_of_texts {settings : List String} {ms : Members} {found : List (String × String)}
    (h : texts settings ms = .ok found) :
    ∀ e ∈ ms, e.1 ∈ settings → e.2 = .null ∨ ∃ s, e.2 = .text s := by
  refine Members.scalar_of_unfit ?_
  cases hunfit : ms.unfit settings with
  | nil => rfl
  | cons e rest =>
      obtain ⟨f, -, herror⟩ := texts_of_unfit hunfit
      cases h.symm.trans herror

/-- A text that is inserted is read in the place of what was there, and all else as before. -/
lemma exists_texts_insert {settings : List String} {ms : Members} {found : List (String × String)}
    (hnodup : ms.names.Nodup) (h : texts settings ms = .ok found) (name value : String) :
    ∃ found', texts settings (ms.insert name (.text value)) = .ok found' ∧
      ∀ key ∈ settings,
        found'.lookup key = if name = key then some value else found.lookup key := by
  have hscalar := scalar_of_texts h
  have hscalar' : ∀ e ∈ ms.insert name (.text value), e.1 ∈ settings →
      e.2 = .null ∨ ∃ s, e.2 = .text s := by
    intro e he hkey
    rcases Members.mem_insert he with rfl | hmem
    · exact .inr ⟨value, rfl⟩
    · exact hscalar e hmem hkey
  obtain ⟨known, hknown, hlookup⟩ := exists_texts hnodup hscalar
  cases h.symm.trans hknown
  obtain ⟨found', hfound', hlookup'⟩ := exists_texts (Members.nodup_insert hnodup _ _) hscalar'
  refine ⟨found', hfound', fun key hkey => ?_⟩
  rw [hlookup' key hkey, Members.get?_insert, hlookup key hkey]
  split_ifs <;> rfl

lemma orFailure_eq_ok_iff {α : Type} {x : Except SettingsError α} {a : α} :
    orFailure x = .ok a ↔ x = .ok a := by
  cases x <;> simp [orFailure]

end Settings

namespace Sources

/-- One more override of the address to listen on changes that one member. -/
lemma merge_withOverride_listen {s : Sources} {files : Files} {stem : String}
    {defaults merged : Members} (h : s.merge files stem defaults = .ok merged) (value : String) :
    (s.withOverride listenKey value).merge files stem defaults
      = .ok (merged.insert listenKey (.text value)) := by
  have hpath : KeyPath.parse listenKey = .ok (.name listenKey) := by decide
  have hset (ms : Members) : ms.set (.text value) (.name listenKey)
      = ms.insert listenKey (.text value) := by
    rw [← Members.set_text isPlain_listenKey, isPlain_listenKey.path]
  rw [merge_eq_bind] at h ⊢
  obtain ⟨paths, hpaths, h⟩ := bind_eq_ok_iff.1 h
  obtain ⟨fromFile, hfile, rfl⟩ := map_eq_ok_iff.1 h
  have hfile' : (s.withOverride listenKey value).fileMembers files = .ok fromFile := hfile
  rw [hfile', withOverride, readOverrides_concat hpath, hpaths]
  simp only [Except.map, Except.bind, List.foldl_concat, hset]

end Sources

namespace RelaySettings

/-- Texts that are validated give settings of which the address is that of its text. -/
lemma ofTexts_congr_listen {found found' : List (String × String)} {settings : RelaySettings}
    (h : ofTexts found = .ok settings)
    (hlisten : found'.lookup listenKey = some settings.listen.render)
    (hothers : ∀ r ∈ required, found'.lookup r.key = found.lookup r.key) :
    ofTexts found' = .ok settings := by
  have hmissing : missing found required = [] := by
    by_contra hne
    rw [ofTexts_of_missing hne] at h
    cases h
  obtain ⟨url, ca, cert, key, hurl, hca, hcert, hkey, hvalid⟩ := ofTexts_of_given hmissing
  obtain ⟨url', ca', cert', key', hurl', hca', hcert', hkey', hvalid'⟩ :=
    ofTexts_of_given ((missing_congr hothers).trans hmissing)
  rw [hothers ⟨schedulerVariable, "url"⟩ (by decide), hurl] at hurl'
  rw [hothers ⟨"DIEGO_CA", "ca"⟩ (by decide), hca] at hca'
  rw [hothers ⟨"DIEGO_CLIENT_CERT", "client_cert"⟩ (by decide), hcert] at hcert'
  rw [hothers ⟨"DIEGO_CLIENT_KEY", "client_key"⟩ (by decide), hkey] at hkey'
  cases hurl'
  cases hca'
  cases hcert'
  cases hkey'
  obtain ⟨a, -, ha⟩ := bind_eq_ok_iff.1 (hvalid ▸ h)
  obtain ⟨u, -, hu⟩ := bind_eq_ok_iff.1 ha
  have hsame : settings.listen = a := by
    cases hu
    rfl
  rw [hvalid', hlisten, Option.getD_some, readListen_eq, Net.SocketAddress.parse?_render, hsame]
  exact ha

/-- **The printed address can be given back.**  As an override, it is the address again, and all
other settings stay as they are. -/
theorem load_withOverride_listen {s : Sources} {files : Files} {settings : RelaySettings}
    (h : load s files = .ok settings) :
    load (s.withOverride listenKey settings.listen.render) files = .ok settings := by
  obtain ⟨merged, hmerged, h⟩ := bind_eq_ok_iff.1 h
  obtain ⟨found, hfound, h⟩ := bind_eq_ok_iff.1 h
  rw [orFailure_eq_ok_iff] at hmerged hfound
  obtain ⟨found', hfound', hlookup⟩ := exists_texts_insert (nodup_merge hmerged) hfound
    listenKey settings.listen.render
  have hmerged' := Sources.merge_withOverride_listen hmerged settings.listen.render
  have hload : load (s.withOverride listenKey settings.listen.render) files = ofTexts found' := by
    rw [load, hmerged']
    change (orFailure (texts keys _)).bind ofTexts = _
    rw [hfound']
    rfl
  rw [hload]
  refine ofTexts_congr_listen h ?_ fun r hr => ?_
  · rw [hlookup listenKey (by decide), if_pos rfl]
  · have hother : listenKey ≠ r.key := by
      revert r
      decide
    rw [hlookup r.key (List.mem_cons_of_mem _ (List.mem_map_of_mem hr)), if_neg hother]

end RelaySettings

/-! ## The address of a client -/

/-- The relay puts the printed address at the end of the list. -/
lemma Relay.getLast?_clients_appendClient (h : Http.Headers) (a : Net.Address) :
    (clients (appendClient h a)).getLast? = some (Utf8.encode a.render) := by
  rw [clients_appendClient, List.getLast?_concat]

/-- **A printed address survives.**  The address that a stand-in was told to listen on is printed as
a text that is read as this address, and that is accepted in place of what was given: the relay
loads the same settings.  The address of a client is printed without commas and blanks and is read
back from what the relay writes, so that no two clients appear as the same one. -/
theorem printed_address_survives :
    (∀ (s : Sources) (files : Files) (settings : RelaySettings),
      RelaySettings.load s files = .ok settings →
        Net.SocketAddress.parse? settings.listen.render = some settings.listen ∧
        RelaySettings.load (s.withOverride listenKey settings.listen.render) files
          = .ok settings) ∧
    (∀ (h : Http.Headers) (remote : Net.SocketAddress),
      let text := remote.address.render
      (Relay.clients (Relay.appendClient h remote.address)).getLast? = some (Utf8.encode text) ∧
        ',' ∉ text.toList ∧ ' ' ∉ text.toList ∧
        Net.Address.parse? text = some remote.address) ∧
    ∀ (h h' : Http.Headers) (a a' : Net.Address),
      (Relay.clients (Relay.appendClient h a)).getLast?
          = (Relay.clients (Relay.appendClient h' a')).getLast? ↔ a = a' := by
  refine ⟨fun s files settings h => ?_, fun h remote => ?_, fun h h' a a' => ?_⟩
  · exact ⟨settings.listen.parse?_render, RelaySettings.load_withOverride_listen h⟩
  · have hchars := remote.address.isAddressText_render
    refine ⟨Relay.getLast?_clients_appendClient h _, fun hcomma => ?_, fun hblank => ?_,
      remote.address.parse?_render⟩
    · exact absurd (hchars ',' hcomma) (by decide)
    · exact absurd (hchars ' ' hblank) (by decide)
  · rw [Relay.getLast?_clients_appendClient, Relay.getLast?_clients_appendClient]
    constructor
    · intro heq
      exact Net.Address.render_injective (Utf8.encode_injective (Option.some.inj heq))
    · rintro rfl
      rfl

/-- An address with a run of zero groups, a scope and a port, all of which are printed in another
way than they were given. -/
theorem printed_address_survives_with_scope :
    let s : Sources := ⟨none, [("DIEGO_LISTEN_ADDR", "[FE80:0:0:0:0:0:0:1%07]:080")],
      [("url", "http://h"), ("ca", "a"), ("client_cert", "c"), ("client_key", "k")]⟩
    let listen : Net.SocketAddress := .v6 ⟨⟨#[0xfe80, 0, 0, 0, 0, 0, 0, 1], rfl⟩⟩ 80 7
    let settings : RelaySettings := ⟨listen, ⟨some "http", some "h", "", none⟩, ⟨"c", "k", "a"⟩⟩
    let files : Files := .ofList []
    RelaySettings.load s files = .ok settings ∧
    listen.render = "[fe80::1%7]:80" ∧
    RelaySettings.load (s.withOverride listenKey "[fe80::1%7]:80") files = .ok settings := by
  intro s listen settings files
  have hload : RelaySettings.load s files = .ok settings := by decide +kernel
  have hrender : listen.render = "[fe80::1%7]:80" := by decide +kernel
  have hsurvives := (printed_address_survives.1 s files settings hload).2
  exact ⟨hload, hrender, hrender ▸ hsurvives⟩

end StandIn
