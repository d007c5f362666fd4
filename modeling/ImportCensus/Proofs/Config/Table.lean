/-
ImportCensus/Proofs/Config/Table.lean

What a table says of settings.

A table may hold any of the seven settings, on two levels.  It holds settings if what it has of them is of
the right kind (`Fits`), and each setting is what the table has for it, or else as it would be without a table
(`Describes`); whatever stands under other keys does not matter (`SameSettings`).  Lists are left out of this:
they give settings by their order.

Both formats come to such a table.  A moment in a TOML text is not one, but it is read as a table without
entries (`settings_of_moment`).

Main statement: which tables hold settings, and which settings they hold (`settings_of_table`).
-/
import ImportCensus.Proofs.Config.Format
import ImportCensus.Proofs.FileSystem.Access

namespace ImportCensus

open RecordReader Toml

variable {α : Type} {fields fields' entries entries' : List (String × Datum)} {surplus : Decoder.Surplus}
  {r : RegistrySettings} {c : Config}

/-! ### Kinds of values -/

/-- Is a value of a TOML text a date, a time or both? -/
def Toml.Item.isMoment : Item → Bool
  | .moment _ => true
  | _ => false

namespace Datum

/-- Is this a text? -/
def IsText (d : Datum) : Prop :=
  ∃ s, d = .text s

/-- Is this a number from zero up to a limit? -/
def IsBelow (limit : Nat) (d : Datum) : Prop :=
  ∃ n < limit, d = .int (n : Nat)

end Datum

theorem IsWord.exists_iff {limit : Nat} {value : α → Nat} {word : Nat → α} (h : IsWord limit value word)
    (d : Datum) : (∃ x, d = .int (value x)) ↔ d.IsBelow limit := by
  constructor
  · rintro ⟨x, rfl⟩
    exact ⟨value x, h.lt x, rfl⟩
  · rintro ⟨n, hn, rfl⟩
    exact ⟨word n, by rw [h.value_word n hn]⟩

/-! ### Fields -/

namespace RecordReader

variable {name title : String} {total position : Nat}

theorem read_number_eq_value_iff {kind : Unsigned} {value : α → Nat} {word : Nat → α}
    (hword : IsWord kind.limit value word) {standard x : α} :
    (word <$> Decoder.field name (Decoder.unsigned kind) (.always (value standard))).read title total
        (.named fields) position = .value x ↔
      Takes (fun d x => d = .int (value x)) standard (Datum.lookup name fields) x := by
  rw [read_map_eq_value_iff]
  simp only [read_field_eq_value_iff, Decoder.unsigned_eq_ok_iff]
  cases Datum.lookup name fields with
  | none =>
    constructor
    · rintro ⟨n, ⟨⟩, rfl⟩
      rw [hword.word_value]
      exact .absent
    · rintro ⟨⟩
      exact ⟨_, .absent, hword.word_value standard⟩
  | some d =>
    constructor
    · rintro ⟨n, ⟨rfl, hn⟩, rfl⟩
      exact .given (by rw [hword.value_word n hn])
    · rintro ⟨h⟩
      exact ⟨value x, .given ⟨h, hword.lt x⟩, hword.word_value x⟩

end RecordReader

namespace Config

/-! ### Which tables hold settings -/

/-- Is what a table has of the settings of a registry of the right kind? -/
structure FitsRegistry (entries : List (String × Datum)) : Prop where
  registryUrl : ∀ d, Datum.lookup "registry_url" entries = some d → d.IsText
  downloadsUrl : ∀ d, Datum.lookup "downloads_url" entries = some d → d.IsText
  maxConcurrentRequests : ∀ d, Datum.lookup "max_concurrent_requests" entries = some d → d.IsBelow (2 ^ 64)
  requestsPerSecond : ∀ d, Datum.lookup "requests_per_second" entries = some d → d.IsBelow (2 ^ 32)
  requestTimeoutSecs : ∀ d, Datum.lookup "request_timeout_secs" entries = some d → d.IsBelow (2 ^ 64)

/-- Is what a table has of all settings of the right kind? -/
structure Fits (fields : List (String × Datum)) : Prop where
  version : ∀ d, Datum.lookup "version" fields = some d → d.IsText
  registry : ∀ d, Datum.lookup "registry" fields = some d → ∃ entries, d = .table entries ∧ FitsRegistry entries

/-! ### Which settings a table holds -/

/-- Is each setting of a registry what a table has for it, or else as it is without a table? -/
structure DescribesRegistry (entries : List (String × Datum)) (r : RegistrySettings) : Prop where
  registryUrl : Takes (fun d s => d = .text s) RegistrySettings.standard.registryUrl
    (Datum.lookup "registry_url" entries) r.registryUrl
  downloadsUrl : Takes (fun d s => d = .text s) RegistrySettings.standard.downloadsUrl
    (Datum.lookup "downloads_url" entries) r.downloadsUrl
  maxConcurrentRequests : Takes (fun d n => d = .int n.toNat) RegistrySettings.standard.maxConcurrentRequests
    (Datum.lookup "max_concurrent_requests" entries) r.maxConcurrentRequests
  requestsPerSecond : Takes (fun d n => d = .int n.toNat) RegistrySettings.standard.requestsPerSecond
    (Datum.lookup "requests_per_second" entries) r.requestsPerSecond
  requestTimeoutSecs : Takes (fun d n => d = .int n.toNat) RegistrySettings.standard.requestTimeoutSecs
    (Datum.lookup "request_timeout_secs" entries) r.requestTimeoutSecs

/-- Is each setting what a table has for it, or else as it is without a table? -/
structure Describes (fields : List (String × Datum)) (c : Config) : Prop where
  version : Takes (fun d s => d = .text s) Config.standard.version (Datum.lookup "version" fields) c.version
  registry : Takes (fun d r => ∃ entries, d = .table entries ∧ DescribesRegistry entries r)
    Config.standard.registry (Datum.lookup "registry" fields) c.registry

theorem DescribesRegistry.eq_standard (h : DescribesRegistry [] r) : r = .standard := by
  obtain ⟨registryUrl, downloadsUrl, requests, rate, timeout⟩ := r
  obtain ⟨⟨⟩, ⟨⟩, ⟨⟩, ⟨⟩, ⟨⟩⟩ := h
  rfl

theorem exists_describesRegistry_iff : (∃ r, DescribesRegistry entries r) ↔ FitsRegistry entries := by
  constructor
  · rintro ⟨r, h⟩
    refine ⟨exists_takes_iff.1 ⟨_, h.registryUrl⟩, exists_takes_iff.1 ⟨_, h.downloadsUrl⟩, ?_, ?_, ?_⟩
    · exact fun d hd => (isWord_size.exists_iff d).1 (exists_takes_iff.1 ⟨_, h.maxConcurrentRequests⟩ d hd)
    · exact fun d hd => (isWord_word32.exists_iff d).1 (exists_takes_iff.1 ⟨_, h.requestsPerSecond⟩ d hd)
    · exact fun d hd => (isWord_word64.exists_iff d).1 (exists_takes_iff.1 ⟨_, h.requestTimeoutSecs⟩ d hd)
  · intro h
    obtain ⟨registryUrl, hregistry⟩ := exists_takes_iff.2 h.registryUrl
    obtain ⟨downloadsUrl, hdownloads⟩ := exists_takes_iff.2 h.downloadsUrl
    obtain ⟨requests, hrequests⟩ := exists_takes_iff.2 fun d hd =>
      (isWord_size.exists_iff d).2 (h.maxConcurrentRequests d hd)
    obtain ⟨rate, hrate⟩ := exists_takes_iff.2 fun d hd =>
      (isWord_word32.exists_iff d).2 (h.requestsPerSecond d hd)
    obtain ⟨timeout, htimeout⟩ := exists_takes_iff.2 fun d hd =>
      (isWord_word64.exists_iff d).2 (h.requestTimeoutSecs d hd)
    exact ⟨⟨registryUrl, downloadsUrl, requests, rate, timeout⟩, hregistry, hdownloads, hrequests, hrate,
      htimeout⟩

theorem exists_describes_iff : (∃ c, Describes fields c) ↔ Fits fields := by
  constructor
  · rintro ⟨c, h⟩
    refine ⟨exists_takes_iff.1 ⟨_, h.version⟩, fun d hd => ?_⟩
    obtain ⟨r, entries, rfl, hr⟩ := exists_takes_iff.1 ⟨_, h.registry⟩ d hd
    exact ⟨entries, rfl, exists_describesRegistry_iff.1 ⟨r, hr⟩⟩
  · intro h
    obtain ⟨version, hversion⟩ := exists_takes_iff.2 h.version
    have hregistry : ∀ d, Datum.lookup "registry" fields = some d →
        ∃ r entries, d = .table entries ∧ DescribesRegistry entries r := by
      intro d hd
      obtain ⟨entries, rfl, hentries⟩ := h.registry d hd
      obtain ⟨r, hr⟩ := exists_describesRegistry_iff.2 hentries
      exact ⟨r, entries, rfl, hr⟩
    obtain ⟨registry, hr⟩ := exists_takes_iff.2 hregistry
    exact ⟨⟨version, registry⟩, hversion, hr⟩

/-- Settings of a registry are read from a table just if it describes them. -/
theorem registrySettings_table_iff :
    Decoder.registrySettings surplus (.table entries) = .ok r ↔ DescribesRegistry entries r := by
  rw [Decoder.registrySettings, record_table_eq_ok_iff]
  simp only [read_seq_eq_value_iff, read_map_eq_value_iff (f := RegistrySettings.mk), read_field_eq_value_iff,
    Decoder.text_eq_ok_iff, read_number_eq_value_iff isWord_size,
    read_number_eq_value_iff isWord_word32, read_number_eq_value_iff isWord_word64]
  -- the settings come out one by one, the last field first
  constructor
  · rintro ⟨_, timeout, ⟨_, rate, ⟨_, requests, ⟨_, downloadsUrl, ⟨registryUrl, hregistry, rfl⟩, hdownloads, rfl⟩,
      hrequests, rfl⟩, hrate, rfl⟩, htimeout, rfl⟩
    exact ⟨hregistry, hdownloads, hrequests, hrate, htimeout⟩
  · intro h
    exact ⟨_, _, ⟨_, _, ⟨_, _, ⟨_, _, ⟨_, h.registryUrl, rfl⟩, h.downloadsUrl, rfl⟩, h.maxConcurrentRequests, rfl⟩,
      h.requestsPerSecond, rfl⟩, h.requestTimeoutSecs, rfl⟩

/-- Nothing but tables and lists is read as settings of a registry. -/
theorem registrySettings_iff {d : Datum} (hd : ∀ items, d ≠ .list items) :
    Decoder.registrySettings surplus d = .ok r ↔ ∃ entries, d = .table entries ∧ DescribesRegistry entries r := by
  cases d with
  | table entries => simp [registrySettings_table_iff]
  | list items => exact absurd rfl (hd items)
  | _ => simp [Decoder.registrySettings, Decoder.record, Decoder.wrongKind]

theorem config_table_iff (hd : ∀ items, Datum.lookup "registry" fields ≠ some (.list items)) :
    Decoder.config surplus (.table fields) = .ok c ↔ Describes fields c := by
  have hregistry : ∀ d, Datum.lookup "registry" fields = some d → ∀ r,
      Decoder.registrySettings surplus d = .ok r ↔ ∃ entries, d = .table entries ∧ DescribesRegistry entries r := by
    rintro d hlookup r
    apply registrySettings_iff
    rintro items rfl
    exact hd items hlookup
  rw [Decoder.config, record_table_eq_ok_iff]
  simp only [read_seq_eq_value_iff, read_map_eq_value_iff, read_field_eq_value_iff, Decoder.text_eq_ok_iff]
  constructor
  · rintro ⟨_, r, ⟨version, hversion, rfl⟩, hr, rfl⟩
    exact ⟨hversion, hr.imp fun d hlookup => (hregistry d hlookup r).1⟩
  · intro h
    exact ⟨_, _, ⟨_, h.version, rfl⟩, h.registry.imp fun d hlookup => (hregistry d hlookup _).2, rfl⟩

/-! ### Tables that differ in other keys -/

/-- The keys of the settings of a registry. -/
def registryKeys : List String :=
  ["registry_url", "downloads_url", "max_concurrent_requests", "requests_per_second", "request_timeout_secs"]

/-- Are two values for the registry the same, or are they tables that have the same of its settings? -/
inductive SameRegistry : Option Datum → Option Datum → Prop
  | same (given : Option Datum) : SameRegistry given given
  | tables {entries entries' : List (String × Datum)}
      (h : ∀ key ∈ registryKeys, Datum.lookup key entries = Datum.lookup key entries') :
      SameRegistry (some (.table entries)) (some (.table entries'))

/-- Do two tables have the same of all settings? -/
structure SameSettings (fields fields' : List (String × Datum)) : Prop where
  version : Datum.lookup "version" fields = Datum.lookup "version" fields'
  registry : SameRegistry (Datum.lookup "registry" fields) (Datum.lookup "registry" fields')

/-- The settings of a registry are those under their keys. -/
theorem registrySettings_congr
    (h : ∀ key ∈ registryKeys, Datum.lookup key entries = Datum.lookup key entries') :
    Decoder.registrySettings surplus (.table entries) = Decoder.registrySettings surplus (.table entries') := by
  have hfield : ∀ {α : Type} {decode : Decoder α} {fallback : Fallback α} {key : String}, key ∈ registryKeys →
      (Decoder.field key decode fallback).SameOn entries entries' :=
    fun hkey => .field (by rw [h _ hkey])
  refine SameOn.record (.seq (.seq (.seq (.seq (.map (hfield ?_) _) (hfield ?_)) (.map (hfield ?_) _))
    (.map (hfield ?_) _)) (.map (hfield ?_) _)) "struct RegistrySettings" surplus <;>
    simp [registryKeys]

theorem SameRegistry.map_eq {given given' : Option Datum} (h : SameRegistry given given') :
    given.map (Decoder.registrySettings surplus) = given'.map (Decoder.registrySettings surplus) := by
  cases h with
  | same => rfl
  | tables hentries => exact congrArg some (registrySettings_congr hentries)

theorem SameSettings.not_list (h : SameSettings fields fields')
    (hlist : ∀ items, Datum.lookup "registry" fields ≠ some (.list items)) :
    ∀ items, Datum.lookup "registry" fields' ≠ some (.list items) := by
  intro items heq
  -- a list is the same as nothing but itself
  have hregistry := h.registry
  rw [heq] at hregistry
  generalize hgiven : Datum.lookup "registry" fields = given at hregistry
  cases hregistry
  exact hlist items hgiven

theorem config_congr (h : SameSettings fields fields') :
    Decoder.config surplus (.table fields) = Decoder.config surplus (.table fields') :=
  SameOn.record (.seq (.map (.field (by rw [h.version])) _) (.field h.registry.map_eq)) "struct TallyConfig" surplus

/-! ### TOML tables -/

/-- What is read from a TOML text is a table. -/
theorem exists_of_read {text : List Char} {item : Item} (h : Toml.read text = .ok item) :
    ∃ span items, item = .table span .headed items := by
  obtain ⟨items, -, hitem⟩ := exists_of_bind_ok h
  cases hitem
  exact ⟨_, items, rfl⟩

theorem exists_of_isMoment {item : Item} (h : item.isMoment = true) : ∃ place, item = .moment place := by
  cases item with
  | moment place => exact ⟨place, rfl⟩
  | _ => cases h

/-- Tables and moments are read as tables. -/
theorem toDatum_eq_table_iff {item : Item} : item.toDatum = .table entries ↔
    (∃ span origin items, item = .table span origin items ∧ Item.toEntries items = entries) ∨
      ∃ span, item = .moment span ∧ entries = [] := by
  cases item <;> simp [Item.toDatum, eq_comm]

theorem exists_of_lookup_toEntries {key : String} {items : Toml.Fields} {d : Datum}
    (h : Datum.lookup key (Item.toEntries items) = some d) : ∃ item, (key, item) ∈ items ∧ item.toDatum = d := by
  rw [Datum.lookup, toEntries_eq_map, Option.map_eq_some_iff] at h
  obtain ⟨entry, hfind, rfl⟩ := h
  obtain ⟨⟨key', item⟩, hmem, rfl⟩ := List.mem_map.1 (List.mem_reverse.1 (List.mem_of_find?_eq_some hfind))
  obtain rfl : key' = key := by simpa using List.find?_some hfind
  exact ⟨item, hmem, rfl⟩

/-- The value of a TOML table that gives the settings of a registry is a table or a moment. -/
theorem exists_registry_of_ofText {text : String} {span : Span} {items : Toml.Fields} {d : Datum}
    (hlist : ∀ items', Datum.lookup "registry" (Item.toEntries items) ≠ some (.list items'))
    (hread : Toml.read text.toList = .ok (.table span .headed items)) (hc : ofText text = .ok c)
    (hd : Datum.lookup "registry" (Item.toEntries items) = some d) :
    ∃ item, ("registry", item) ∈ items ∧ item.toDatum = d ∧
      ((∃ span origin inner, item = .table span origin inner) ∨ ∃ span, item = .moment span ∧ d = .table []) := by
  rw [ofText_eq_ok_iff hread, Item.toDatum, config_table_iff hlist] at hc
  obtain ⟨entries, rfl, -⟩ := (exists_describes_iff.1 ⟨c, hc⟩).registry d hd
  obtain ⟨item, hmem, hitem⟩ := exists_of_lookup_toEntries hd
  refine ⟨item, hmem, hitem, ?_⟩
  rcases toDatum_eq_table_iff.1 hitem with ⟨span, origin, inner, rfl, -⟩ | ⟨span, rfl, rfl⟩
  · exact .inl ⟨span, origin, inner, rfl⟩
  · exact .inr ⟨span, rfl, rfl⟩

/-! ### Settings from tables -/

/-- **Which tables hold settings, and which settings.**  If what a table has of the settings is of the right
kind, and only then, each setting is what the table has for it, or as it is without a table; so a registry
that is not there or has no entries is the standard one.  Tables with the same of all settings hold the same
settings or none, and the same is read from a TOML text that comes to such a table, in which the registry may
also be a moment. -/
theorem settings_of_table (hlist : ∀ items, Datum.lookup "registry" fields ≠ some (.list items)) :
    ((∃ c, ofDatum (.table fields) = .ok c) ↔ Fits fields) ∧
      (∀ c, ofDatum (.table fields) = .ok c ↔ Describes fields c) ∧
      (∀ c, ofDatum (.table fields) = .ok c →
        Datum.lookup "registry" fields = none ∨ Datum.lookup "registry" fields = some (.table []) →
          c.registry = .standard) ∧
      (∀ fields', SameSettings fields fields' → ofDatum (.table fields') = ofDatum (.table fields)) ∧
      ∀ text item, Toml.read text.toList = .ok item → ∃ span items, item = .table span .headed items ∧
        (SameSettings fields (Item.toEntries items) →
          (∀ c, ofText text = .ok c ↔ ofDatum (.table fields) = .ok c) ∧
          ∀ c d, ofText text = .ok c → Datum.lookup "registry" (Item.toEntries items) = some d →
            ∃ item, ("registry", item) ∈ items ∧ item.toDatum = d ∧
              ((∃ span origin inner, item = .table span origin inner) ∨
                ∃ span, item = .moment span ∧ d = .table [])) := by
  have hdescribes : ∀ c, ofDatum (.table fields) = .ok c ↔ Describes fields c := fun c => config_table_iff hlist
  refine ⟨?fits, hdescribes, ?standard, fun fields' h => (config_congr h).symm, ?toml⟩
  case fits => simp only [hdescribes, exists_describes_iff]
  case standard =>
    rintro ⟨version, registry⟩ hc hregistry
    have htaken := ((hdescribes _).1 hc).registry
    rcases hregistry with hnone | hempty
    · rw [hnone] at htaken
      cases htaken
      rfl
    · rw [hempty] at htaken
      obtain ⟨entries, ⟨⟩, hr⟩ := htaken
      exact hr.eq_standard
  case toml =>
    intro text item hread
    obtain ⟨span, items, rfl⟩ := exists_of_read hread
    refine ⟨span, items, rfl, fun hsame => ?_⟩
    have hlist' := hsame.not_list hlist
    constructor
    · intro c
      rw [ofText_eq_ok_iff hread, Item.toDatum, ← config_congr hsame, config_table_iff hlist, hdescribes]
    · exact fun c d hc hd => exists_registry_of_ofText hlist' hread hc hd

/-- Settings in TOML, under a header and among others. -/
def ratedText : String :=
  "title = \"x\"\n\n[registry]\nrate = \"\"\nrequests_per_second = 7 # of all hosts\n"

/-- Does a table give its registry a rate of seven and an empty text that nobody asks for, and no version? -/
def isRated : Datum → Bool
  | .table entries =>
    match Datum.lookup "version" entries, Datum.lookup "registry" entries with
    | none, some (.table [("rate", .text ""), ("requests_per_second", .int 7)]) => true
    | _, _ => false
  | _ => false

theorem of_isRated (h : isRated (.table entries) = true) : Datum.lookup "version" entries = none ∧
    Datum.lookup "registry" entries = some (.table [("rate", .text ""), ("requests_per_second", .int 7)]) := by
  simp only [isRated] at h
  split at h
  · next hversion hregistry => exact ⟨hversion, hregistry⟩
  · cases h

/-- A table with one setting, which is in its range or not, the same in TOML, and no settings in either format. -/
theorem settings_of_table_with_rate :
    let fields (rate : Int) : List (String × Datum) :=
      [("unknown", .null), ("registry", .table [("requests_per_second", .int rate), ("rate", .text "")])]
    let rated : Config := ⟨"1.0", { RegistrySettings.standard with requestsPerSecond := 7 }⟩
    ofDatum (.table (fields 7)) = .ok rated ∧ (¬∃ c, ofDatum (.table (fields 4294967296)) = .ok c) ∧
      ofText ratedText = .ok rated ∧ ofDatum (.table [("unknown", .null)]) = .ok .standard ∧
      ofText "" = .ok .standard := by
  intro fields rated
  have hlist : ∀ rate items, Datum.lookup "registry" (fields rate) ≠ some (.list items) := nofun
  obtain ⟨-, hrate, -, -, htoml⟩ := settings_of_table (hlist 7)
  obtain ⟨hrange, -⟩ := settings_of_table (hlist 4294967296)
  obtain ⟨-, hunknown, -, -, hempty⟩ := @settings_of_table [("unknown", .null)] nofun
  have hrated : ofDatum (.table (fields 7)) = .ok rated :=
    (hrate _).2 ⟨.absent, .given ⟨_, rfl, .absent, .absent, .absent, .given rfl, .absent⟩⟩
  have hstandard : ofDatum (.table [("unknown", .null)]) = .ok .standard :=
    (hunknown .standard).2 ⟨.absent, .absent⟩
  refine ⟨hrated, ?_, ?_, hstandard, ?_⟩
  · rw [hrange]
    intro h
    obtain ⟨entries, ⟨⟩, hentries⟩ := h.registry _ rfl
    obtain ⟨n, hn, hvalue⟩ := hentries.requestsPerSecond _ rfl
    rw [Datum.int.injEq] at hvalue
    omega
  · have hread : (Toml.read ratedText.toList).toOption.any (isRated ·.toDatum) = true := by decide +kernel
    obtain ⟨item, hitem, hrated'⟩ := Option.any_eq_true _ _ |>.1 hread
    obtain ⟨span, items, rfl, hsettings⟩ := htoml ratedText item (toOption_eq_some_iff.1 hitem)
    obtain ⟨hversion, hregistry⟩ := of_isRated hrated'
    -- the entries of the registry stand in another order
    have hsame : SameSettings (fields 7) (Item.toEntries items) := by
      refine ⟨hversion.symm, ?_⟩
      rw [hregistry]
      exact .tables (by simp [registryKeys, Datum.lookup])
    exact ((hsettings hsame).1 rated).2 hrated
  · obtain ⟨span, items, hitem, hsettings⟩ := hempty "" _ rfl
    cases hitem
    exact ((hsettings ⟨rfl, .same _⟩).1 .standard).2 hstandard

/-- **A date in the place of a table.**  It is not a table, but the settings of a registry are read from it. -/
theorem settings_of_moment :
    (∃ item place, Toml.read "registry = 1979-05-27\n".toList = .ok item ∧
      item.child? (.key "registry") = some (.moment place)) ∧
      ofText "registry = 1979-05-27\n" = .ok .standard := by
  have hmoment : ((Toml.read "registry = 1979-05-27\n".toList).toOption.bind
      (·.child? (.key "registry"))).any Item.isMoment = true := by decide +kernel
  rw [Option.any_eq_true] at hmoment
  obtain ⟨value, hvalue, hmoment⟩ := hmoment
  obtain ⟨item, hread, hchild⟩ := Option.bind_eq_some_iff.1 hvalue
  obtain ⟨place, rfl⟩ := exists_of_isMoment hmoment
  exact ⟨⟨item, place, toOption_eq_some_iff.1 hread, hchild⟩, by decide +kernel⟩

end Config

end ImportCensus
