/-
ImportCensus/Proofs/Config/Format.lean

Settings are read back from the TOML text in which they are stored.

The text is a document of the version and of the settings of the registry under their header, so what is
read are the settings as data (`read_toText`); and all settings are there, so none is taken from those that
nobody has changed.  A comment in front of the text does not change them (`ofText_behind_comment`).

Main statement: `ofText_toText`.
-/
import ImportCensus.Config.Format
import ImportCensus.Proofs.Datum.Decoder
import ImportCensus.Proofs.Toml.Reader

namespace ImportCensus

open RecordReader Toml

/-! ### Settings as data -/

/-- A type of machine numbers below a limit: what they are as numbers, and the other way round. -/
structure IsWord {α : Type} (limit : Nat) (value : α → Nat) (word : Nat → α) : Prop where
  lt : ∀ x, value x < limit
  value_word : ∀ n < limit, value (word n) = n
  word_value : ∀ x, word (value x) = x

theorem isWord_size : IsWord Unsigned.size.limit UInt64.toNat UInt64.ofNat :=
  ⟨UInt64.toNat_lt, fun _ => UInt64.toNat_ofNat_of_lt, fun _ => UInt64.ofNat_toNat⟩

theorem isWord_word64 : IsWord Unsigned.word64.limit UInt64.toNat UInt64.ofNat :=
  isWord_size

theorem isWord_word32 : IsWord Unsigned.word32.limit UInt32.toNat UInt32.ofNat :=
  ⟨UInt32.toNat_lt, fun _ => UInt32.toNat_ofNat_of_lt, fun _ => UInt32.ofNat_toNat⟩

namespace Decoder

theorem reads_number {α : Type} {kind : Unsigned} {value : α → Nat} {word : Nat → α}
    (hword : IsWord kind.limit value word) {fields : List (String × Datum)} {name : String} {fallback : Fallback Nat}
    {x : α} (hentry : Datum.lookup name fields = some (.int (value x))) :
    (word <$> field name (unsigned kind) fallback).Reads fields x := by
  have hread : (field name (unsigned kind) fallback).Reads fields (value x) :=
    .field hentry (unsigned_int (hword.lt x))
  have hmapped := hread.map word
  rwa [hword.word_value] at hmapped

theorem registrySettings_toDatum (surplus : Surplus) (r : RegistrySettings) :
    registrySettings surplus r.toDatum = .ok r := by
  obtain ⟨registryUrl, downloadsUrl, requests, rate, timeout⟩ := r
  rw [registrySettings, RegistrySettings.toDatum]
  apply Reads.record
  refine .seq (.seq (.seq (.seq (.map (.field ?_ (text_text registryUrl)) _)
    (.field ?_ (text_text downloadsUrl))) (reads_number isWord_size ?_)) (reads_number isWord_word32 ?_))
    (reads_number isWord_word64 ?_) <;>
    simp [Datum.lookup]

theorem config_toDatum (surplus : Surplus) (c : Config) : config surplus c.toDatum = .ok c := by
  obtain ⟨version, registry⟩ := c
  apply Reads.record
  refine .seq (.map (.field ?_ (text_text version)) _)
    (.field ?_ (registrySettings_toDatum surplus registry)) <;>
    simp [Datum.lookup]

end Decoder

namespace Config

/-! ### Settings as a text -/

/-- The line of a text setting. -/
def textSetting (key value : String) (h : isBareKey key = true) : Line :=
  ⟨key, Toml.writeText value.toList, .text value, h, readsAs_writeText value⟩

/-- The line of a number setting. -/
def numberSetting (key : String) (value : Nat) (h : isBareKey key = true)
    (hvalue : value < UInt64.size) : Line :=
  ⟨key, Nat.toDigits 10 value, .int value, h, readsAs_toDigits (Nat.lt_trans hvalue (by decide))⟩

/-- The lines of the settings of a registry. -/
def registryLines (r : RegistrySettings) : List Line :=
  [textSetting "registry_url" r.registryUrl (by decide),
   textSetting "downloads_url" r.downloadsUrl (by decide),
   numberSetting "max_concurrent_requests" r.maxConcurrentRequests.toNat (by decide) (UInt64.toNat_lt_size _),
   numberSetting "requests_per_second" r.requestsPerSecond.toNat (by decide)
    (Nat.lt_trans (UInt32.toNat_lt_size _) (by decide)),
   numberSetting "request_timeout_secs" r.requestTimeoutSecs.toNat (by decide) (UInt64.toNat_lt_size _)]

theorem toText_eq_document (c : Config) :
    c.toText.toList
      = document [textSetting "version" c.version (by decide)] "registry" (registryLines c.registry) := by
  rw [toText, String.toList_ofList]
  simp [document, registryLines, textSetting, numberSetting, Line.text, textLine, numberLine]

/-- What is read from the text of settings are these settings as data. -/
theorem read_toText (c : Config) :
    ∃ item, Toml.read c.toText.toList = .ok item ∧ item.toDatum = c.toDatum := by
  rw [toText_eq_document]
  exact read_document (by decide) (by simp [textSetting])
    (by simp [registryLines, textSetting, numberSetting])

theorem ofText_eq_ok_iff {text : String} {item : Item} {c : Config}
    (hread : Toml.read text.toList = .ok item) :
    ofText text = .ok c ↔ Decoder.config .ignored item.toDatum = .ok c := by
  rw [ofText, hread]
  show ofItem item = .ok c ↔ _
  rw [ofItem]
  cases Decoder.config .ignored item.toDatum <;> simp [Except.mapError]

theorem ofText_of_read {text : String} {item : Item} {c : Config} (hread : Toml.read text.toList = .ok item)
    (hitem : item.toDatum = c.toDatum) : ofText text = .ok c := by
  rw [ofText_eq_ok_iff hread, hitem, Decoder.config_toDatum]

/-- A comment in front of settings does not matter. -/
theorem ofText_behind_comment {comment : String} (h : ∀ c ∈ comment.toList, isRawControl c = false)
    (c : Config) : ofText ("#" ++ comment ++ "\n" ++ c.toText) = .ok c := by
  have hdocument : ∃ item, Toml.read ('#' :: (comment.toList ++ '\n' :: c.toText.toList)) = .ok item ∧
      item.toDatum = c.toDatum := by
    rw [toText_eq_document]
    exact read_document_behind_comment h (by decide) (by simp [textSetting])
      (by simp [registryLines, textSetting, numberSetting])
  obtain ⟨item, hread, hitem⟩ := hdocument
  refine ofText_of_read ?_ hitem
  rw [← hread]
  simp

/-- **Settings are read back from their text**, whatever their texts hold and however large their numbers
are. -/
theorem ofText_toText (c : Config) : ofText c.toText = .ok c := by
  obtain ⟨item, hread, hitem⟩ := read_toText c
  rw [ofText, hread]
  show ofItem item = .ok c
  rw [ofItem, hitem, Decoder.config_toDatum]
  rfl

end Config

end ImportCensus
