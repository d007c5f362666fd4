/-
ImportCensus/Proofs/Registry/Document.lean

What the document of a package says about the package.

A document is decoded first, and the decoded document is asked then.  What comes of both steps is said here
by the places of the data alone: a few keys have to lead to tables if they lead anywhere (`HasTables`), a
latest version has to be named (`NamesLatest`), and each field of the record is what stands at one place
(`Describes`).  The places of two fields depend on the latest version.

Main statement: a document is refused, names no latest version or describes a record, and it is said which;
documents that agree at the places make the same record (`record_of_document`).
-/
import ImportCensus.Proofs.Datum.Decoder
import ImportCensus.Proofs.Datum.Place
import ImportCensus.Registry.Document

namespace ImportCensus.Registry

open Decoder

/-! ### Places of a document -/

/-- Are those entries tables that have to be, as far as they are there? -/
def HasTables (d : Datum) : Prop :=
  ∀ key ∈ ["dist-tags", "time", "versions"], ∀ v, d.get? key = some v → ∃ fields, v = .table fields

/-- Does a document name its latest version? -/
def NamesLatest (d : Datum) (version : String) : Prop :=
  d.find? ["dist-tags", "latest"] = some (.text version) ∧ version ≠ ""

/-- A text that says something, or the text under another key of a table. -/
def statedText? (d : Datum) (key entry : String) : Option String :=
  ((d.textAt? [key]).filter (· ≠ "")).or (d.textAt? [key, entry])

/-- Does a document describe a package with this latest version by this record? -/
structure Describes (name : PackageName) (latest : String) (d : Datum) (r : PackageMetadata) :
    Prop where
  /-- The name is the one that was asked about, whatever the document says. -/
  name : r.name = name
  version : r.version = latest
  description : r.description = (d.textAt? ["description"]).getD ""
  license : r.license = (statedText? d "license" "type").getD "Unknown"
  homepage : r.homepage = d.textAt? ["homepage"]
  repository : r.repository = statedText? d "repository" "url"
  maintainers : r.maintainers = ((d.find? ["maintainers"]).bind Datum.items?).elim 0 List.length
  lastPublished : r.lastPublished = d.textAt? ["time", latest]
  /-- The packages that the latest version depends on. -/
  dependencies : ∀ key,
    key ∈ r.dependencies ↔ (d.find? ["versions", latest, "dependencies", key]).isSome = true
  /-- They stand in the order of their bytes, and none stands twice. -/
  ascending : r.dependencies.Pairwise BytesLt
  weeklyDownloads : r.weeklyDownloads = 0
  alternatives : r.alternatives = []
  error : r.error = none

/-- The places of a document at which its record is found. -/
def recordPlaces (version : String) : List (List String) :=
  [["description"], ["license"], ["homepage"], ["repository"], ["maintainers"], ["dist-tags", "latest"],
    ["time", version], ["versions", version, "dependencies"]]

/-- Do two documents say the same at these places? -/
def AgreesAt (places : List (List String)) (d other : Datum) : Prop :=
  ∀ keys ∈ places, other.find? keys = d.find? keys

variable {name : PackageName} {version : String} {d other : Datum} {r s : PackageMetadata}
  {fields : List (String × Datum)}

/-- A document describes one record at most. -/
theorem Describes.unique (hr : Describes name version d r) (hs : Describes name version d s) : r = s := by
  have hdependencies : r.dependencies = s.dependencies :=
    eq_of_bytesLt hr.ascending hs.ascending fun key => (hr.dependencies key).trans (hs.dependencies key).symm
  obtain ⟨⟩ := r
  obtain ⟨⟩ := s
  rw [PackageMetadata.mk.injEq]
  exact ⟨hr.name.trans hs.name.symm, hr.description.trans hs.description.symm,
    hr.version.trans hs.version.symm, hr.license.trans hs.license.symm, hr.homepage.trans hs.homepage.symm,
    hr.repository.trans hs.repository.symm, hr.maintainers.trans hs.maintainers.symm,
    hr.lastPublished.trans hs.lastPublished.symm, hdependencies,
    hr.weeklyDownloads.trans hs.weeklyDownloads.symm, hr.alternatives.trans hs.alternatives.symm,
    hr.error.trans hs.error.symm⟩

/-! ### Documents that agree -/

/-- What is below a place on which two documents agree is the same. -/
theorem AgreesAt.below {places : List (List String)} (h : AgreesAt places d other) {keys : List String}
    (hkeys : keys ∈ places) (more : List String) :
    other.find? (keys ++ more) = d.find? (keys ++ more) := by
  rw [Datum.find?_append, Datum.find?_append, h keys hkeys]

theorem AgreesAt.statedText?_eq {places : List (List String)} (h : AgreesAt places d other) {key : String}
    (hkey : [key] ∈ places) (entry : String) :
    statedText? other key entry = statedText? d key entry := by
  have hbelow : other.find? [key, entry] = d.find? [key, entry] := h.below hkey [entry]
  rw [statedText?, statedText?, Datum.textAt?, Datum.textAt?, Datum.textAt?, Datum.textAt?, h _ hkey, hbelow]

theorem AgreesAt.namesLatest (h : AgreesAt (recordPlaces version) d other) (hlatest : NamesLatest d version) :
    NamesLatest other version := by
  refine ⟨?_, hlatest.2⟩
  rw [h _ (by simp [recordPlaces]), hlatest.1]

/-- Documents that agree at the places of a record describe the same one. -/
theorem AgreesAt.describes (h : AgreesAt (recordPlaces version) d other)
    (hr : Describes name version d r) : Describes name version other r := by
  have hplace : ∀ keys ∈ recordPlaces version, other.textAt? keys = d.textAt? keys := by
    intro keys hkeys
    rw [Datum.textAt?, h keys hkeys, Datum.textAt?]
  refine ⟨hr.name, hr.version, ?_, ?_, ?_, ?_, ?_, ?_, ?_, hr.ascending, hr.weeklyDownloads,
    hr.alternatives, hr.error⟩
  · rw [hplace _ (by simp [recordPlaces]), hr.description]
  · rw [h.statedText?_eq (by simp [recordPlaces]), hr.license]
  · rw [hplace _ (by simp [recordPlaces]), hr.homepage]
  · rw [h.statedText?_eq (by simp [recordPlaces]), hr.repository]
  · rw [h _ (by simp [recordPlaces]), hr.maintainers]
  · rw [hplace _ (by simp [recordPlaces]), hr.lastPublished]
  · intro key
    have hdependencies : ["versions", version, "dependencies"] ∈ recordPlaces version := by
      simp [recordPlaces]
    have hbelow : other.find? ["versions", version, "dependencies", key]
        = d.find? ["versions", version, "dependencies", key] := h.below hdependencies [key]
    rw [hr.dependencies key, hbelow]

/-! ### Decoding -/

/-- The value of an entry, unless it is null. -/
def valueAt? (fields : List (String × Datum)) (key : String) : Option Datum :=
  (Datum.lookup key fields).bind fun
    | .null => none
    | v => some v

/-- The entries of a table among the entries of a document. -/
def tableAt (fields : List (String × Datum)) (key : String) : List (String × Datum) :=
  ((Datum.lookup key fields).bind Datum.fields?).elim [] Datum.sortedFields

/-- The document that the entries of a table make. -/
def documentOf (fields : List (String × Datum)) : Document where
  description := valueAt? fields "description"
  tags := tableAt fields "dist-tags"
  license := valueAt? fields "license"
  homepage := valueAt? fields "homepage"
  repository := valueAt? fields "repository"
  maintainers := valueAt? fields "maintainers"
  times := tableAt fields "time"
  versions := tableAt fields "versions"

theorem anyTable_table (t : List (String × Datum)) :
    Document.anyTable (.table t) = .ok (Datum.sortedFields t) := by
  have hentries : ∀ l : List (String × Datum), entriesOf .ok any l = .ok l := by
    intro l
    apply entriesOf_eq
    rw [List.forall₂_same]
    exact fun e _ => ⟨rfl, rfl⟩
  exact hentries _

theorem anyTable_of_not_table {v : Datum} (h : ∀ t, v ≠ .table t) :
    ∃ m, Document.anyTable v = .error m := by
  cases v with
  | table t => exact absurd rfl (h t)
  | _ => exact ⟨_, rfl⟩

/-- An entry of any kind is read as its value, whatever stands for a missing one. -/
theorem reads_valueAt? (fields : List (String × Datum)) (key : String) {fallback : Fallback (Option Datum)}
    (hfallback : fallback = .inTable none ∨ fallback = .always none) :
    (field key (nullable any) fallback).Reads fields (valueAt? fields key) := by
  rw [valueAt?]
  cases hentry : Datum.lookup key fields with
  | none =>
    rcases hfallback with rfl | rfl
    · exact .absent hentry
    · exact .field_always hentry
  | some v =>
    refine .field hentry ?_
    cases v <;> rfl

/-- An entry that has to be a table is read as its entries if it is one or is not there. -/
theorem reads_tableAt {key : String} (h : ∀ v, Datum.lookup key fields = some v → ∃ t, v = .table t) :
    (field key Document.anyTable (.always [])).Reads fields (tableAt fields key) := by
  rw [tableAt]
  cases hentry : Datum.lookup key fields with
  | none => exact .field_always hentry
  | some v =>
    obtain ⟨t, rfl⟩ := h v hentry
    exact .field hentry (anyTable_table t)

theorem decode_of_hasTables (h : HasTables (.table fields)) :
    Document.decode (.table fields) = .ok (documentOf fields) := by
  have htable : ∀ key ∈ ["dist-tags", "time", "versions"],
      (field key Document.anyTable (.always [])).Reads fields (tableAt fields key) :=
    fun key hkey => reads_tableAt (h key hkey)
  apply RecordReader.Reads.record
  exact ((((((((reads_valueAt? fields "description" (.inl rfl)).map Document.mk).seq
    (htable "dist-tags" (by simp))).seq (reads_valueAt? fields "license" (.inl rfl))).seq
    (reads_valueAt? fields "homepage" (.inl rfl))).seq (reads_valueAt? fields "repository" (.inl rfl))).seq
    (reads_valueAt? fields "maintainers" (.inr rfl))).seq (htable "time" (by simp))).seq
    (htable "versions" (by simp))

/-- An entry that is no table although it has to be one is a misfit of the whole document. -/
theorem decode_of_not_hasTables (h : ¬HasTables (.table fields)) :
    ∃ m, Document.decode (.table fields) = .error m := by
  simp only [HasTables, not_forall] at h
  obtain ⟨key, hkey, v, hentry, hv⟩ := h
  obtain ⟨m, hread⟩ := anyTable_of_not_table fun t heq => hv ⟨t, heq⟩
  have hfails : (field key Document.anyTable (.always [])).Fails fields := .field hentry hread
  rw [Document.decode]
  simp only [List.mem_cons, List.not_mem_nil, or_false] at hkey
  -- the fields behind the one that does not fit do not matter
  rcases hkey with rfl | rfl | rfl
  · exact ((((((hfails.right _).left _).left _).left _).left _).left _ |>.left _).record _ _
  · exact ((hfails.right _).left _).record _ _
  · exact (hfails.right _).record _ _

/-! ### Asking the decoded document -/

/-- The value at a key is the one that is read, apart from null. -/
theorem valueAt?_bind {α : Type} {f : Datum → Option α} (hf : f .null = none) (key : String) :
    (valueAt? fields key).bind f = (Datum.lookup key fields).bind f := by
  rw [valueAt?]
  cases Datum.lookup key fields with
  | none => rfl
  | some v =>
    cases v with
    | null => exact hf.symm
    | _ => rfl

/-- What stands in a table of a document. -/
theorem lookup_tableAt (key entry : String) :
    Datum.lookup entry (tableAt fields key) = (Datum.table fields).find? [key, entry] := by
  rw [tableAt, Datum.find?_cons, Datum.get?_table]
  cases Datum.lookup key fields with
  | none => rfl
  | some v =>
    rw [Option.bind_some, Option.bind_some, Datum.find?_singleton]
    cases v with
    | table t => exact Datum.lookup_sortedFields entry t
    | _ => rfl

theorem textAt_tableAt (key entry : String) :
    Document.textAt entry (tableAt fields key) = (Datum.table fields).textAt? [key, entry] := by
  rw [Document.textAt, lookup_tableAt, Datum.textAt?]

theorem text?_valueAt? (key : String) :
    (valueAt? fields key).bind Datum.text? = (Datum.table fields).textAt? [key] := by
  rw [valueAt?_bind rfl, Datum.textAt?, Datum.find?_singleton, Datum.get?_table]

theorem textOrEntry_valueAt? (key entry : String) :
    (valueAt? fields key).bind (Document.textOrEntry entry) = statedText? (.table fields) key entry := by
  rw [valueAt?_bind rfl, statedText?, Datum.textAt?, Datum.textAt?, Datum.find?_singleton, Datum.find?_cons,
    Datum.get?_table]
  cases Datum.lookup key fields with
  | none => rfl
  | some v =>
    rw [Option.bind_some, Option.bind_some, Option.bind_some, Datum.find?_singleton]
    cases v with
    | text s =>
      by_cases hs : s = ""
      · simp [Document.textOrEntry, Datum.text?, Datum.get?, Datum.fields?, hs, Option.filter]
      · simp [Document.textOrEntry, Datum.text?, Datum.get?, Datum.fields?, hs, Option.filter]
    | _ => rfl

theorem latest?_documentOf :
    (documentOf fields).latest? = some version ↔ NamesLatest (.table fields) version := by
  rw [Document.latest?, documentOf, textAt_tableAt, Option.filter_eq_some_iff, NamesLatest, bne_iff_ne,
    Datum.textAt?, Option.bind_eq_some_iff]
  constructor
  · rintro ⟨⟨v, hv, htext⟩, hne⟩
    cases v with
    | text s =>
      cases htext
      exact ⟨hv, hne⟩
    | _ => cases htext
  · rintro ⟨hv, hne⟩
    exact ⟨⟨_, hv, rfl⟩, hne⟩

theorem maintainerCount_documentOf :
    (documentOf fields).maintainerCount
      = (((Datum.table fields).find? ["maintainers"]).bind Datum.items?).elim 0 List.length := by
  have hvalue : (documentOf fields).maintainers = valueAt? fields "maintainers" := rfl
  rw [Document.maintainerCount, hvalue, valueAt?, Datum.find?_singleton, Datum.get?_table]
  cases Datum.lookup "maintainers" fields with
  | none => rfl
  | some v => cases v <;> rfl

theorem dependencies_documentOf (version : String) :
    (documentOf fields).dependencies version
      = (((Datum.table fields).find? ["versions", version, "dependencies"]).bind Datum.fields?).elim []
          fun t => (Datum.sortedFields t).map (·.1) := by
  have hplace : ((Datum.table fields).find? ["versions", version, "dependencies"])
      = ((Datum.table fields).find? ["versions", version]).bind (·.find? ["dependencies"]) :=
    Datum.find?_append (.table fields) ["versions", version] ["dependencies"]
  rw [Document.dependencies, documentOf, lookup_tableAt, hplace]
  simp only [Datum.find?_singleton]
  cases ((Datum.table fields).find? ["versions", version]).bind (·.get? "dependencies") with
  | none => rfl
  | some v => cases v <;> rfl

theorem mem_dependencies_documentOf (version key : String) :
    key ∈ (documentOf fields).dependencies version ↔
      ((Datum.table fields).find? ["versions", version, "dependencies", key]).isSome = true := by
  have hplace : ((Datum.table fields).find? ["versions", version, "dependencies", key])
      = ((Datum.table fields).find? ["versions", version, "dependencies"]).bind (·.find? [key]) :=
    Datum.find?_append (.table fields) ["versions", version, "dependencies"] [key]
  rw [dependencies_documentOf, hplace]
  cases (Datum.table fields).find? ["versions", version, "dependencies"] with
  | none => simp
  | some v =>
    cases v with
    | table t =>
      rw [Option.bind_some, Option.bind_some, Datum.find?_singleton, Datum.get?_table]
      exact Datum.mem_keys_sortedFields
    | _ => simp [Datum.get?, Datum.fields?]

theorem ascending_dependencies_documentOf (version : String) :
    ((documentOf fields).dependencies version).Pairwise BytesLt := by
  rw [dependencies_documentOf]
  cases ((Datum.table fields).find? ["versions", version, "dependencies"]).bind Datum.fields? with
  | none => exact .nil
  | some t => exact Datum.keys_sortedFields_ascending t

/-- A decoded document that names a latest version describes a record. -/
theorem exists_describes (name : PackageName) (hlatest : NamesLatest (.table fields) version) :
    ∃ r, (documentOf fields).metadata name = .ok r ∧ Describes name version (.table fields) r := by
  rw [Document.metadata, latest?_documentOf.2 hlatest]
  refine ⟨_, rfl, rfl, rfl, ?_, ?_, ?_, ?_, maintainerCount_documentOf, ?_,
    mem_dependencies_documentOf version, ascending_dependencies_documentOf version, rfl, rfl, rfl⟩
  · exact congrArg (·.getD "") (text?_valueAt? "description")
  · exact congrArg (·.getD "Unknown") (textOrEntry_valueAt? "license" "type")
  · exact text?_valueAt? "homepage"
  · exact textOrEntry_valueAt? "repository" "url"
  · exact textAt_tableAt "time" version

/-! ### Whole documents -/

theorem metadataOf_of_hasTables (name : PackageName) (h : HasTables (.table fields)) :
    metadataOf name (.table fields) = (documentOf fields).metadata name := by
  rw [metadataOf, decode_of_hasTables h]
  rfl

/-- What becomes of a document, said by its places. -/
inductive Reading (name : PackageName) (d : Datum) : Except Failure PackageMetadata → Prop
  | misfit {cause : Cause} (h : ¬HasTables d) : Reading name d (.error (.body (.misfit cause)))
  | unnamed (h : HasTables d) (hlatest : ∀ version, ¬NamesLatest d version) :
      Reading name d (.error (.noLatestVersion name.text))
  | record {version : String} {r : PackageMetadata} (h : HasTables d) (hlatest : NamesLatest d version)
      (hr : Describes name version d r) : Reading name d (.ok r)

theorem reading_metadataOf (name : PackageName) (fields : List (String × Datum)) :
    Reading name (.table fields) (metadataOf name (.table fields)) := by
  by_cases h : HasTables (.table fields)
  · rw [metadataOf_of_hasTables name h]
    cases hlatest : (documentOf fields).latest? with
    | none =>
      rw [Document.metadata, hlatest]
      refine .unnamed h fun version hnames => ?_
      rw [latest?_documentOf.2 hnames] at hlatest
      cases hlatest
    | some version =>
      have hnames := latest?_documentOf.1 hlatest
      obtain ⟨r, hr, hdescribes⟩ := exists_describes name hnames
      rw [hr]
      exact .record h hnames hdescribes
  · obtain ⟨m, hm⟩ := decode_of_not_hasTables h
    rw [metadataOf, hm]
    exact .misfit h

theorem NamesLatest.unique {version' : String} (h : NamesLatest d version) (h' : NamesLatest d version') :
    version = version' := by
  have hsame := h.1.symm.trans h'.1
  cases hsame
  rfl

namespace Reading

variable {result : Except Failure PackageMetadata}

theorem misfit_iff (h : Reading name d result) :
    (∃ cause, result = .error (.body (.misfit cause))) ↔ ¬HasTables d := by
  cases h with
  | misfit h => exact iff_of_true ⟨_, rfl⟩ h
  | unnamed h _ => exact iff_of_false (by simp) (not_not_intro h)
  | record h _ _ => exact iff_of_false (by simp) (not_not_intro h)

theorem unnamed_iff (h : Reading name d result) :
    result = .error (.noLatestVersion name.text) ↔ HasTables d ∧ ∀ version, ¬NamesLatest d version := by
  cases h with
  | misfit h => exact iff_of_false (by simp) fun ⟨htables, _⟩ => h htables
  | unnamed h hlatest => exact iff_of_true rfl ⟨h, hlatest⟩
  | record _ hlatest _ => exact iff_of_false (by simp) fun ⟨_, hnone⟩ => hnone _ hlatest

theorem record_iff (h : Reading name d result) :
    result = .ok r ↔ HasTables d ∧ ∃ version, NamesLatest d version ∧ Describes name version d r := by
  cases h with
  | misfit h => exact iff_of_false (by simp) fun ⟨htables, _⟩ => h htables
  | unnamed _ hnone => exact iff_of_false (by simp) fun ⟨_, version, hlatest, _⟩ => hnone version hlatest
  | record h hlatest hr =>
    constructor
    · intro heq
      cases heq
      exact ⟨h, _, hlatest, hr⟩
    · rintro ⟨_, version, hlatest', hr'⟩
      cases hlatest.unique hlatest'
      rw [hr.unique hr']

/-- A document comes to nothing in the two ways only. -/
theorem failure (h : Reading name d result) {failure : Failure} (hresult : result = .error failure) :
    (∃ cause, failure = .body (.misfit cause)) ∨ failure = .noLatestVersion name.text := by
  cases h with
  | misfit _ =>
    cases hresult
    exact .inl ⟨_, rfl⟩
  | unnamed _ _ =>
    cases hresult
    exact .inr rfl
  | record _ _ _ => cases hresult

end Reading

/-- **The record of a document is what stands at a few places of it.**  For every name that is asked about and
every document that is a table:

  * the document is refused as a misfit exactly if one of the entries that have to be tables is there and
    is none;
  * otherwise it is refused because it names no latest version exactly if there is no text under `latest`, or
    an empty one;
  * otherwise it makes the record that it describes, and no other one;
  * another document without such a misfit that says the same at the places of the record, and whatever
    elsewhere, makes the same record. -/
theorem record_of_document (name : PackageName) (fields : List (String × Datum)) :
    ((∃ cause, metadataOf name (.table fields) = .error (.body (.misfit cause))) ↔
      ¬HasTables (.table fields)) ∧
    (metadataOf name (.table fields) = .error (.noLatestVersion name.text) ↔
      HasTables (.table fields) ∧ ∀ version, ¬NamesLatest (.table fields) version) ∧
    (∀ r, metadataOf name (.table fields) = .ok r ↔
      HasTables (.table fields) ∧
        ∃ version, NamesLatest (.table fields) version ∧ Describes name version (.table fields) r) ∧
    (∀ failure, metadataOf name (.table fields) = .error failure →
      (∃ cause, failure = .body (.misfit cause)) ∨ failure = .noLatestVersion name.text) ∧
    ∀ version others, HasTables (.table fields) → HasTables (.table others) →
      NamesLatest (.table fields) version →
      AgreesAt (recordPlaces version) (.table fields) (.table others) →
      metadataOf name (.table others) = metadataOf name (.table fields) := by
  have hreading := reading_metadataOf name fields
  refine ⟨hreading.misfit_iff, hreading.unnamed_iff, fun _ => hreading.record_iff,
    fun _ => hreading.failure, ?_⟩
  intro version others htables hothers hlatest hagrees
  obtain ⟨r, hr, hdescribes⟩ := exists_describes name hlatest
  have hrecord : metadataOf name (.table fields) = .ok r := (metadataOf_of_hasTables name htables).trans hr
  rw [hrecord]
  exact (reading_metadataOf name others).record_iff.2
    ⟨hothers, version, hagrees.namesLatest hlatest, hagrees.describes hdescribes⟩

/-- Older versions, further tags and an entry for its name are of no account in a document. -/
theorem record_of_document_with_older_version :
    let name : PackageName := ⟨"zod", by decide⟩
    let version : Datum := .table [("dependencies", .table [("b", .text "1"), ("a", .null), ("b", .int 2)])]
    let fields : List (String × Datum) :=
      [("dist-tags", .table [("latest", .text "2.0.0")]), ("versions", .table [("2.0.0", version)]),
        ("license", .table [("type", .text "MIT")])]
    let others : List (String × Datum) :=
      [("license", .table [("type", .text "MIT")]), ("name", .text "other"),
        ("versions", .table [("2.0.0", version), ("1.0.0", .int 1)]),
        ("dist-tags", .table [("beta", .text "3.0.0"), ("latest", .text "2.0.0")])]
    HasTables (.table fields) ∧ HasTables (.table others) ∧ NamesLatest (.table fields) "2.0.0" ∧
      AgreesAt (recordPlaces "2.0.0") (.table fields) (.table others) ∧
      metadataOf name (.table others) = metadataOf name (.table fields) ∧
      ∃ r, metadataOf name (.table fields) = .ok r ∧ r.dependencies = ["a", "b"] ∧ r.license = "MIT" := by
  intro name version fields others
  have htables : HasTables (.table fields) := by
    simp [HasTables, fields, Datum.lookup]
  have hothers : HasTables (.table others) := by
    simp [HasTables, others, Datum.lookup]
  have hlatest : NamesLatest (.table fields) "2.0.0" := by
    simp [NamesLatest, fields, Datum.find?, Datum.lookup]
  have hagrees : AgreesAt (recordPlaces "2.0.0") (.table fields) (.table others) := by
    simp [AgreesAt, recordPlaces, fields, others, Datum.find?, Datum.get?, Datum.fields?, Datum.lookup]
  obtain ⟨-, -, -, -, hsame⟩ := record_of_document name fields
  exact ⟨htables, hothers, hlatest, hagrees, hsame "2.0.0" others htables hothers hlatest hagrees,
    _, rfl, by decide, by decide⟩

end ImportCensus.Registry
