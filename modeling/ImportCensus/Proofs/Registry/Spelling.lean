/-
ImportCensus/Proofs/Registry/Spelling.lean

Two spellings of what a document says.

The license of a package is given as a text, or as a table with the text under `type`; and so is its
repository, with the text under `url`.  A document in which one of the two is given in another way says the
same otherwise (`metadataOf_restated`), so that it remains to compare what the two spellings state.  They
state the same for all texts but the empty one, which states nothing by itself and is kept as it is in a table.

Main statement: the records that both spellings make, and when a record has an empty license or repository
(`record_of_spellings`).
-/
import ImportCensus.Proofs.Registry.ListedDocument

namespace ImportCensus.Registry

/-- Is the second document the first one with this value given for an entry, whatever stood there? -/
inductive Gives (key : String) (v : Datum) : Datum → Datum → Prop
  | table {fields fields' : List (String × Datum)} (hat : Datum.lookup key fields' = some v)
      (hother : ∀ other ≠ key, Datum.lookup other fields' = Datum.lookup other fields) :
      Gives key v (.table fields) (.table fields')
  | list {items : List Datum} {position : Nat} (hname : documentEntries[position]? = some key)
      (hlt : position < items.length) : Gives key v (.list items) (.list (items.set position v))

variable {name : PackageName} {key entry s : String} {v d d' : Datum} {r : PackageMetadata}
  {fields fields' entries : List (String × Datum)}

/-! ### Documents with another value for an entry -/

namespace Gives

theorem lookup_self (h : Gives key v d d') : Datum.lookup key (entriesOf d') = some v := by
  cases h with
  | table hat _ => exact hat
  | list hname hlt => exact (lookup_named hname).trans (List.getElem?_set_self hlt)

theorem lookup_other (h : Gives key v d d') {other : String} (hne : other ≠ key) :
    Datum.lookup other (entriesOf d') = Datum.lookup other (entriesOf d) := by
  cases h with
  | table _ hother => exact hother other hne
  | @list items position hname hlt =>
    show Datum.lookup other (named (items.set position v)) = Datum.lookup other (named items)
    by_cases hmem : other ∈ documentEntries
    · obtain ⟨elsewhere, hname'⟩ := List.mem_iff_getElem?.1 hmem
      have hpositions : position ≠ elsewhere := by
        rintro rfl
        exact hne (Option.some.inj (hname'.symm.trans hname))
      rw [lookup_named hname', lookup_named hname', List.getElem?_set_ne hpositions]
    · -- a name that no entry of a document has leads nowhere in either list
      have hnone : ∀ items : List Datum, Datum.lookup other (named items) = none := by
        refine fun items => Datum.lookup_eq_none fun e he heq => hmem ?_
        exact heq ▸ (List.of_mem_zip he).1
      rw [hnone, hnone]

/-- An entry that need not be a table may have any value. -/
theorem isDocument (h : Gives key v d d') (hd : IsDocument d)
    (hkey : key ∉ ["dist-tags", "time", "versions"]) : IsDocument d' := by
  have htables : HasTables (.table (entriesOf d')) := by
    intro other hother w hw
    have hne : other ≠ key := fun heq => hkey (heq ▸ hother)
    exact hd.hasTables other hother w ((h.lookup_other hne).symm.trans hw)
  cases h with
  | table _ _ => exact .table htables
  | list hname hlt =>
    cases hd with
    | list hlist =>
      refine .list ⟨?_, ?_, htables⟩
      · rw [List.length_set]
        exact hlist.least
      · rw [List.length_set]
        exact hlist.most

end Gives

/-! ### What remains the same -/

theorem documentOf_restated (h : ∀ key, key ≠ "license" → key ≠ "repository" →
    Datum.lookup key fields' = Datum.lookup key fields) :
    documentOf fields' = { documentOf fields with
      license := valueAt? fields' "license", repository := valueAt? fields' "repository" } := by
  have hvalue : ∀ key, key ≠ "license" → key ≠ "repository" → valueAt? fields' key = valueAt? fields key := by
    intro key hlicense hrepository
    rw [valueAt?, valueAt?, h key hlicense hrepository]
  have htable : ∀ key, key ≠ "license" → key ≠ "repository" → tableAt fields' key = tableAt fields key := by
    intro key hlicense hrepository
    rw [tableAt, tableAt, h key hlicense hrepository]
  rw [documentOf, documentOf, hvalue "description" (by decide) (by decide),
    htable "dist-tags" (by decide) (by decide), hvalue "homepage" (by decide) (by decide),
    hvalue "maintainers" (by decide) (by decide), htable "time" (by decide) (by decide),
    htable "versions" (by decide) (by decide)]

theorem metadata_restated (document : Document) (license repository : Option Datum) :
    { document with license := license, repository := repository }.metadata name
      = (document.metadata name).map fun r => { r with
          license := (license.bind (Document.textOrEntry "type")).getD "Unknown"
          repository := repository.bind (Document.textOrEntry "url") } := by
  have hlatest : { document with license := license, repository := repository }.latest?
      = document.latest? := rfl
  rw [Document.metadata, Document.metadata, hlatest]
  cases document.latest? <;> rfl

/-- **Documents that differ in the license and the repository only make records that differ in these
only.** -/
theorem metadataOf_restated (hd : IsDocument d) (hd' : IsDocument d') (h : metadataOf name d = .ok r)
    (hother : ∀ key, key ≠ "license" → key ≠ "repository" →
      Datum.lookup key (entriesOf d') = Datum.lookup key (entriesOf d)) :
    metadataOf name d' = .ok { r with
      license := (statedText? (.table (entriesOf d')) "license" "type").getD "Unknown"
      repository := statedText? (.table (entriesOf d')) "repository" "url" } := by
  rw [hd.metadataOf_eq, metadataOf_of_hasTables name hd.hasTables] at h
  rw [hd'.metadataOf_eq, metadataOf_of_hasTables name hd'.hasTables, documentOf_restated hother,
    metadata_restated, h, textOrEntry_valueAt?, textOrEntry_valueAt?]
  rfl

/-- What a document states at an entry is in the entry alone. -/
theorem statedText?_congr (h : Datum.lookup key fields' = Datum.lookup key fields) (entry : String) :
    statedText? (.table fields') key entry = statedText? (.table fields) key entry := by
  have hagrees : AgreesAt [[key]] (.table fields) (.table fields') := by
    intro keys hkeys
    rw [List.mem_singleton.1 hkeys, Datum.find?_singleton, Datum.find?_singleton]
    exact h
  exact hagrees.statedText?_eq List.mem_cons_self entry

theorem isDocument_of_metadataOf (h : metadataOf name d = .ok r) : IsDocument d := by
  by_contra hnot
  obtain ⟨cause, hmisfit⟩ := (misfit_iff_not_isDocument name d).2 hnot
  cases hmisfit.symm.trans h

theorem exists_describes_of_metadataOf (h : metadataOf name d = .ok r) :
    ∃ version, Describes name version (.table (entriesOf d)) r := by
  rw [(isDocument_of_metadataOf h).metadataOf_eq] at h
  obtain ⟨-, version, -, hr⟩ := (reading_metadataOf name (entriesOf d)).record_iff.1 h
  exact ⟨version, hr⟩

/-- Another license changes nothing else in the record. -/
theorem Gives.license (hgives : Gives "license" v d d') (h : metadataOf name d = .ok r) :
    metadataOf name d' = .ok { r with
      license := (statedText? (.table (entriesOf d')) "license" "type").getD "Unknown" } := by
  have hd := isDocument_of_metadataOf h
  obtain ⟨version, hr⟩ := exists_describes_of_metadataOf h
  have hsame : statedText? (.table (entriesOf d')) "repository" "url" = r.repository :=
    (statedText?_congr (hgives.lookup_other (by decide)) "url").trans hr.repository.symm
  rw [metadataOf_restated hd (hgives.isDocument hd (by decide)) h fun key hne _ => hgives.lookup_other hne,
    hsame]

/-- Another repository changes nothing else in the record. -/
theorem Gives.repository (hgives : Gives "repository" v d d') (h : metadataOf name d = .ok r) :
    metadataOf name d' = .ok { r with
      repository := statedText? (.table (entriesOf d')) "repository" "url" } := by
  have hd := isDocument_of_metadataOf h
  obtain ⟨version, hr⟩ := exists_describes_of_metadataOf h
  have hsame : (statedText? (.table (entriesOf d')) "license" "type").getD "Unknown" = r.license := by
    rw [statedText?_congr (hgives.lookup_other (by decide)) "type", hr.license]
  rw [metadataOf_restated hd (hgives.isDocument hd (by decide)) h fun key _ hne => hgives.lookup_other hne,
    hsame]

/-! ### The two spellings -/

/-- An empty text by itself states nothing. -/
theorem statedText?_text (h : Datum.lookup key fields = some (.text s)) (entry : String) :
    statedText? (.table fields) key entry = if s = "" then none else some s := by
  rw [← textOrEntry_valueAt?, valueAt?, h]
  rfl

/-- A text in a table is stated, also if it is empty. -/
theorem statedText?_table (h : Datum.lookup key fields = some (.table entries))
    (hentry : Datum.lookup entry entries = some (.text s)) :
    statedText? (.table fields) key entry = some s := by
  rw [← textOrEntry_valueAt?, valueAt?, h, Option.bind_some, Option.bind_some, Document.textOrEntry,
    Document.textAt, hentry]
  rfl

/-- An empty text is stated in a table only. -/
theorem statedText?_eq_empty_iff :
    statedText? d key entry = some "" ↔ d.textAt? [key, entry] = some "" := by
  rw [statedText?, Option.or_eq_some_iff, Option.filter_eq_some_iff, Option.filter_eq_none_iff]
  constructor
  · rintro (⟨-, hne⟩ | ⟨-, hentry⟩)
    · simp at hne
    · exact hentry
  · intro hentry
    refine .inr ⟨?_, hentry⟩
    intro s hs
    -- what has an entry is no text
    rw [Datum.textAt?, Datum.find?_singleton, Option.bind_eq_some_iff] at hs
    obtain ⟨w, hw, htext⟩ := hs
    rw [Datum.textAt?, Datum.find?_cons, hw] at hentry
    cases w with
    | text _ => cases hentry
    | _ => cases htext

/-- **The two spellings of the license and of the repository agree but for empty texts.**  Let a document make
a record for a package, and let its license be given instead as a text, and in another document as a table
with that text under `type`, whatever else is in the table.  Then both make the same record as before with
that text as the license, except that an empty text by itself counts as unknown, whereas in a table it is
taken as it is.  So the records are the same exactly if the text is not empty.  The repository goes the same
way, with the text under `url`, and an empty text by itself counts as none.  A record has an empty license or
an empty repository exactly if its document has an empty text in the table. -/
theorem record_of_spellings (h : metadataOf name d = .ok r) :
    (∀ s entries plain nested, Datum.lookup "type" entries = some (.text s) →
      Gives "license" (.text s) d plain → Gives "license" (.table entries) d nested →
        metadataOf name plain = .ok { r with license := if s = "" then "Unknown" else s } ∧
        metadataOf name nested = .ok { r with license := s } ∧
        (metadataOf name nested = metadataOf name plain ↔ s ≠ "")) ∧
    (∀ s entries plain nested, Datum.lookup "url" entries = some (.text s) →
      Gives "repository" (.text s) d plain → Gives "repository" (.table entries) d nested →
        metadataOf name plain = .ok { r with repository := if s = "" then none else some s } ∧
        metadataOf name nested = .ok { r with repository := some s } ∧
        (metadataOf name nested = metadataOf name plain ↔ s ≠ "")) ∧
    (r.license = "" ↔ (Datum.table (entriesOf d)).textAt? ["license", "type"] = some "") ∧
    (r.repository = some "" ↔ (Datum.table (entriesOf d)).textAt? ["repository", "url"] = some "") := by
  obtain ⟨version, hr⟩ := exists_describes_of_metadataOf h
  refine ⟨?_, ?_, ?_, ?_⟩
  -- what an entry states is in its value alone, and the rest of the record stays as it is
  · intro s entries plain nested hentry hplain hnested
    rw [hplain.license h, hnested.license h, statedText?_text hplain.lookup_self,
      statedText?_table hnested.lookup_self hentry]
    by_cases hs : s = "" <;> simp [hs]
  · intro s entries plain nested hentry hplain hnested
    rw [hplain.repository h, hnested.repository h, statedText?_text hplain.lookup_self,
      statedText?_table hnested.lookup_self hentry]
    by_cases hs : s = "" <;> simp [hs]
  · rw [hr.license, ← statedText?_eq_empty_iff]
    cases statedText? (.table (entriesOf d)) "license" "type" with
    | none => simp
    | some s => simp
  · rw [hr.repository, statedText?_eq_empty_iff]

/-- The license and the repository in both spellings, in a table and in a list. -/
theorem record_of_spelled_texts :
    let name : PackageName := ⟨"left-pad", by decide⟩
    let tags : Datum := .table [("latest", .text "1.0.0")]
    let d : Datum := .table [("dist-tags", tags), ("license", .int 1)]
    let listed : Datum := .list [.null, tags, .null, .null, .null]
    ∃ r r', metadataOf name d = .ok r ∧ metadataOf name listed = .ok r' ∧
      metadataOf name (.table [("dist-tags", tags), ("license", .text "MIT")])
        = .ok { r with license := "MIT" } ∧
      metadataOf name
          (.table [("license", .table [("url", .null), ("type", .text "MIT")]), ("dist-tags", tags)])
        = .ok { r with license := "MIT" } ∧
      metadataOf name (.list [.null, tags, .null, .null, .text ""]) = .ok { r' with repository := none } ∧
      metadataOf name (.list [.null, tags, .null, .null, .table [("url", .text "")]])
        = .ok { r' with repository := some "" } := by
  intro name tags d listed
  have hd : metadataOf name d = .ok (.ofVersion name "1.0.0") := rfl
  have hlisted : metadataOf name listed = .ok (.ofVersion name "1.0.0") := rfl
  have hplain : Gives "license" (.text "MIT") d (.table [("dist-tags", tags), ("license", .text "MIT")]) := by
    refine .table rfl fun other hne => ?_
    simp [Datum.lookup_cons, hne.symm]
  have hnested : Gives "license" (.table [("url", .null), ("type", .text "MIT")]) d
      (.table [("license", .table [("url", .null), ("type", .text "MIT")]), ("dist-tags", tags)]) := by
    refine .table rfl fun other hne => ?_
    simp [Datum.lookup_cons, hne.symm]
  have hposition : documentEntries[4]? = some "repository" := rfl
  have hempty : Gives "repository" (.text "") listed (.list [.null, tags, .null, .null, .text ""]) :=
    .list hposition (by decide)
  have htable : Gives "repository" (.table [("url", .text "")]) listed
      (.list [.null, tags, .null, .null, .table [("url", .text "")]]) :=
    .list hposition (by decide)
  obtain ⟨hlicense, -⟩ := record_of_spellings hd
  obtain ⟨-, hrepository, -⟩ := record_of_spellings hlisted
  obtain ⟨hmit, hmit', -⟩ := hlicense "MIT" _ _ _ rfl hplain hnested
  obtain ⟨hnone, hsome, -⟩ := hrepository "" _ _ _ rfl hempty htable
  exact ⟨_, _, hd, hlisted, hmit, hmit', hnone, hsome⟩

/-- The two spellings of an empty license do not agree. -/
theorem record_of_empty_license :
    ¬∀ (name : PackageName) (d plain nested : Datum) (r : PackageMetadata) (s : String)
      (entries : List (String × Datum)), metadataOf name d = .ok r →
      Datum.lookup "type" entries = some (.text s) →
      Gives "license" (.text s) d plain → Gives "license" (.table entries) d nested →
        ∃ r₁ r₂, metadataOf name plain = .ok r₁ ∧ metadataOf name nested = .ok r₂ ∧
          r₁.license = r₂.license := by
  intro h
  let name : PackageName := ⟨"left-pad", by decide⟩
  let document (license : Datum) : Datum :=
    .table [("dist-tags", .table [("latest", .text "1.0.0")]), ("license", license)]
  have hgives : ∀ v, Gives "license" v (document .null) (document v) := by
    refine fun v => .table rfl fun other hne => ?_
    simp [Datum.lookup_cons, hne.symm]
  obtain ⟨r₁, r₂, hplain, hnested, hlicense⟩ :=
    h name _ _ _ _ "" [("type", .text "")] rfl rfl (hgives _) (hgives _)
  cases hplain
  cases hnested
  exact absurd hlicense (by decide)

end ImportCensus.Registry
