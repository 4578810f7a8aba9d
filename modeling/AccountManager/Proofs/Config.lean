import AccountManager.Config
import AccountManager.Proofs.Json.Objects

/-!
# Which documents are configurations

A document says of each setting what it is, or leaves the default, and is read if what comes of it
does not contradict itself. Where the settings stand in the document, and what else it holds, makes
no difference; and what is written is read back. A document is what the grammar spells, so texts
with an escape for half a character are left out, which are read if nothing asks for that text.
-/

namespace AccountManager

open Json

namespace Config

variable {config : Config} {text : String} {members : List (String × Form)}

/-! ### The settings -/

def slots : List (Slot Config) := [
  ⟨⟨"remote_url", .text, false, fun value config => { config with remoteUrl := value }⟩,
    remoteUrl⟩,
  ⟨⟨"auth_server_url", .text, false, fun value config => { config with authServerUrl := value }⟩,
    authServerUrl⟩,
  ⟨⟨"key_lifetime_ms", .word "u64", false,
    fun value config => { config with keyLifetime := value }⟩, keyLifetime⟩,
  ⟨⟨"cert_lifetime_ms", .word "u64", false,
    fun value config => { config with certificateLifetime := value }⟩, certificateLifetime⟩,
  ⟨⟨"assertion_lifetime_ms", .word "u64", false,
    fun value config => { config with assertionLifetime := value }⟩, assertionLifetime⟩,
  ⟨⟨"verification_poll_interval_ms", .word "u64", false,
    fun value config => { config with pollInterval := value }⟩, pollInterval⟩,
  ⟨⟨"verification_max_polls", .word "usize", false,
    fun value config => { config with maxPolls := value }⟩, maxPolls⟩]

theorem consists_slots : shape.Consists slots where
  fields := rfl
  distinct := (show ["remote_url", "auth_server_url", "key_lifetime_ms", "cert_lifetime_ms",
    "assertion_lifetime_ms", "verification_poll_interval_ms", "verification_max_polls"].Nodup
      by decide)
  optional slot hslot := by
    simp only [slots, List.mem_cons, List.not_mem_nil, or_false] at hslot
    rcases hslot with rfl | rfl | rfl | rfl | rfl | rfl | rfl <;> rfl
  held_store slot hslot data record := by
    simp only [slots, List.mem_cons, List.not_mem_nil, or_false] at hslot
    rcases hslot with rfl | rfl | rfl | rfl | rfl | rfl | rfl <;> rfl
  held_store_of_ne slot hslot other hother hname data record := by
    simp only [slots, List.mem_cons, List.not_mem_nil, or_false] at hslot hother
    rcases hslot with rfl | rfl | rfl | rfl | rfl | rfl | rfl <;>
      rcases hother with rfl | rfl | rfl | rfl | rfl | rfl | rfl <;>
        first | rfl | exact absurd rfl hname
  ext left right hheld := by
    simp only [slots, List.forall_mem_cons] at hheld
    obtain ⟨hremote, hserver, hkey, hcertificate, hassertion, hinterval, hpolls, -⟩ := hheld
    cases left
    cases right
    simp only [Config.mk.injEq]
    exact ⟨hremote, hserver, hkey, hcertificate, hassertion, hinterval, hpolls⟩

/-- Whether a configuration is what the members of an object say, and the default where they say
nothing. -/
structure Follows (config : Config) (members : List (String × Form)) : Prop where
  remoteUrl : Stated members "remote_url" .text "https://accounts.firefox.com/" config.remoteUrl
  authServerUrl : Stated members "auth_server_url" .text "https://api.accounts.firefox.com/v1"
    config.authServerUrl
  keyLifetime : Stated members "key_lifetime_ms" (.word "u64") 43200000 config.keyLifetime
  certificateLifetime : Stated members "cert_lifetime_ms" (.word "u64") 21600000
    config.certificateLifetime
  assertionLifetime : Stated members "assertion_lifetime_ms" (.word "u64") 120000
    config.assertionLifetime
  pollInterval : Stated members "verification_poll_interval_ms" (.word "u64") 3000
    config.pollInterval
  maxPolls : Stated members "verification_max_polls" (.word "usize") 100 config.maxPolls

theorem follows_iff : config.Follows members ↔ Overrides slots members {} config := by
  simp only [Overrides, slots, List.forall_mem_cons]
  constructor
  · exact fun h => ⟨h.remoteUrl, h.authServerUrl, h.keyLifetime, h.certificateLifetime,
      h.assertionLifetime, h.pollInterval, h.maxPolls, nofun⟩
  · rintro ⟨hremote, hserver, hkey, hcertificate, hassertion, hinterval, hpolls, -⟩
    exact ⟨hremote, hserver, hkey, hcertificate, hassertion, hinterval, hpolls⟩

/-! ### Validation -/

/-- Whether certificates and assertions last, and keys outlive certificates. -/
structure Consistent (config : Config) : Prop where
  certificate : 0 < config.certificateLifetime
  key : config.certificateLifetime < config.keyLifetime
  assertion : 0 < config.assertionLifetime

theorem validate_eq_ok_iff : config.validate = .ok () ↔ config.Consistent := by
  unfold validate
  split
  · rename_i hzero
    refine ⟨nofun, fun h => ?_⟩
    rcases hzero with hzero | hzero
    · exact absurd hzero (UInt64.pos_iff_ne_zero.1 h.certificate)
    · exact absurd hzero (UInt64.pos_iff_ne_zero.1 h.assertion)
  · rename_i hpositive
    obtain ⟨hcertificate, hassertion⟩ := not_or.1 hpositive
    split
    · rename_i houtlived
      exact ⟨nofun, fun h => absurd houtlived (UInt64.not_le.2 h.key)⟩
    · rename_i houtlives
      exact ⟨fun _ => ⟨UInt64.pos_iff_ne_zero.2 hcertificate, UInt64.not_le.1 houtlives,
        UInt64.pos_iff_ne_zero.2 hassertion⟩, fun _ => rfl⟩

theorem read_eq_ok_iff :
    read text = .ok config ↔ shape.readText text = .ok config ∧ config.Consistent := by
  unfold read
  rw [← validate_eq_ok_iff]
  cases shape.readText text with
  | error error => exact ⟨nofun, nofun⟩
  | ok found =>
    rw [bind_eq_ok_iff]
    constructor
    · rintro ⟨⟨⟩, hvalid, ⟨⟩⟩
      exact ⟨rfl, hvalid⟩
    · rintro ⟨⟨⟩, hvalid⟩
      exact ⟨(), hvalid, rfl⟩

/-! ### The way there and back -/

theorem foldl_entriesOf (config : Config) :
    (entriesOf slots config).foldl Entry.put shape.blank = config := by
  simp only [entriesOf, slots, List.filterMap_cons, List.filterMap_nil, Slot.entry?,
    List.foldl_cons, List.foldl_nil, Entry.put]

theorem readText_write (config : Config) : shape.readText config.write = .ok config := by
  have hwritten : config.write = String.ofList (Entry.writtenAll (entriesOf slots config)) := rfl
  rw [Shape.readText, hwritten, Utf8.encode_ofList, (fits_entriesOf consists_slots config).read,
    foldl_entriesOf]

/-! ### Objects with distinct names -/

theorem read_object_iff (hspells : SpellsDocument (Utf8.encode text) (.object members))
    (hdistinct : (members.map Prod.fst).Nodup) :
    read text = .ok config ↔ config.Follows members ∧ config.Consistent := by
  rw [read_eq_ok_iff, Shape.readText, read_object_eq_ok_iff consists_slots hspells hdistinct,
    follows_iff]
  rfl

/-- If what is said of the settings is data for them, there is one configuration that follows it. -/
theorem typed_iff_exists_follows (hdistinct : (members.map Prod.fst).Nodup) :
    shape.Typed members ↔ ∃! config : Config, config.Follows members := by
  rw [← @exists_overrides_iff Config shape slots {} members consists_slots hdistinct]
  constructor
  · rintro ⟨config, h⟩
    exact ⟨config, follows_iff.2 h, fun other hother =>
      (follows_iff.1 hother).unique consists_slots h⟩
  · rintro ⟨config, h, -⟩
    exact ⟨config, follows_iff.1 h⟩

/-- Only the settings decide which configurations follow an object. -/
theorem follows_congr {others : List (String × Form)}
    (hsame : ∀ name field form, shape.field? name = some field →
      ((name, form) ∈ others ↔ (name, form) ∈ members)) :
    config.Follows others ↔ config.Follows members := by
  rw [follows_iff, follows_iff]
  exact overrides_congr fun slot hslot form =>
    hsame slot.field.name slot.field form (field?_of_mem consists_slots hslot)

/-- An object with distinct names is read as the configuration that it makes of the defaults, if
all that it says of the settings is data for them and comes to a consistent configuration, wherever
the settings stand and whatever else there is. A consistent configuration is read back from the
document that it is written as. -/
theorem documents_override_the_defaults :
    (∀ text members, SpellsDocument (Utf8.encode text) (.object members) →
      (members.map Prod.fst).Nodup →
        (∀ config, read text = .ok config ↔ config.Follows members ∧ config.Consistent) ∧
        (shape.Typed members ↔ ∃! config : Config, config.Follows members) ∧
        ∀ other others, SpellsDocument (Utf8.encode other) (.object others) →
          (others.map Prod.fst).Nodup →
          (∀ name field form, shape.field? name = some field →
            ((name, form) ∈ others ↔ (name, form) ∈ members)) →
            ∀ config, read other = .ok config ↔ read text = .ok config) ∧
    ∀ config, config.validate = .ok () → read config.write = .ok config := by
  refine ⟨fun text members hspells hdistinct => ⟨fun config => read_object_iff hspells hdistinct,
    typed_iff_exists_follows hdistinct, ?_⟩, fun config hvalid => ?_⟩
  · intro other others hother hothers hsame config
    rw [read_object_iff hspells hdistinct, read_object_iff hother hothers, follows_congr hsame]
  · exact read_eq_ok_iff.2 ⟨readText_write config, validate_eq_ok_iff.1 hvalid⟩

/-- A document that spells its settings in odd ways, among members that are none. -/
def scattered : String :=
  "\x7b \"other\": [1e999, \x7b\"cert_lifetime_ms\": 0, \"a\": \x7b\x7d\x7d]," ++
  "\"key\\u005flifetime_ms\" :18446744073709551615,\n" ++
  "\"remote_url\":\"https:\\/\\/example.com/\\ud83d\\ude00\", \"cert_lifetime_ms\":1 \x7d"

/-- The same settings the other way round. -/
def gathered : String :=
  "\x7b\"cert_lifetime_ms\":1,\"remote_url\":\"https://example.com/😀\"," ++
  "\"key_lifetime_ms\":18446744073709551615\x7d"

def saidMembers : List (String × Form) := [
  ("key_lifetime_ms", .number
    ⟨false, [1, 8, 4, 4, 6, 7, 4, 4, 0, 7, 3, 7, 0, 9, 5, 5, 1, 6, 1, 5], [], none⟩),
  ("remote_url", .text "https://example.com/😀"),
  ("cert_lifetime_ms", .number ⟨false, [1], [], none⟩)]

def otherMember : String × Form :=
  ("other", .array [.number ⟨false, [1], [], some (false, [9, 9, 9])⟩,
    .object [("cert_lifetime_ms", .number ⟨false, [0], [], none⟩), ("a", .object [])]])

/-- A configuration with the greatest lifetime of keys and the smallest of certificates. -/
def extreme : Config where
  remoteUrl := "https://example.com/😀"
  keyLifetime := 18446744073709551615
  certificateLifetime := 1

set_option maxRecDepth 4000 in
theorem scattered_settings_are_read :
    read scattered = .ok extreme ∧ extreme.Follows (otherMember :: saidMembers) ∧
      shape.Typed (otherMember :: saidMembers) ∧ read gathered = .ok extreme ∧
        read extreme.write = .ok extreme := by
  obtain ⟨hdocuments, hwritten⟩ := documents_override_the_defaults
  have hspells : SpellsDocument (Utf8.encode scattered) (.object (otherMember :: saidMembers)) :=
    spellsDocument_of_scan rfl rfl
  have hother : SpellsDocument (Utf8.encode gathered) (.object saidMembers.reverse) :=
    spellsDocument_of_scan rfl rfl
  obtain ⟨hread, htyped, hsame⟩ := hdocuments scattered _ hspells (by decide)
  have hextreme : read scattered = .ok extreme := of_toOption_eq_some (by decide +kernel)
  obtain ⟨hfollows, -⟩ := (hread extreme).1 hextreme
  refine ⟨hextreme, hfollows, htyped.2 ⟨extreme, hfollows, fun config hconfig => ?_⟩,
    (hsame gathered _ hother (by decide) (fun name field form hfield => ?_) extreme).2 hextreme,
    hwritten extreme (by decide)⟩
  · exact (follows_iff.1 hconfig).unique consists_slots (follows_iff.1 hfollows)
  · rw [List.mem_reverse, List.mem_cons, or_iff_right]
    intro hmember
    cases hmember
    cases hfield

end Config

end AccountManager
