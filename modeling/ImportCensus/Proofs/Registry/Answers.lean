/-
ImportCensus/Proofs/Registry/Answers.lean

What becomes of the answers of a registry.

The answer to the question for a document makes a record, or it is refused for one of five reasons, which
exclude each other (`Refuses`).  The answer to the question for the downloads counts or does not count
(`Counts`), and never refuses anything.

Main statement: the record of a package is degraded just if its document is refused, and says why; otherwise it
has the downloads that were counted, or none, and is the same otherwise (`record_of_answers`).
-/
import ImportCensus.Proofs.Json.Bytes
import ImportCensus.Proofs.Registry.Batch
import ImportCensus.Proofs.Registry.DownloadPoint
import ImportCensus.Registry.Client

namespace ImportCensus.Registry

open Text Batch

variable {transport : Transport} {addresses : Addresses} {name : PackageName} {url text : String}
  {response : Response} {body : Bytes} {d : Datum} {limit : Nat} {packages : PackageSet} {b : Batch}

/-! ### Bodies -/

/-- Are bytes a JSON text with these data? -/
def IsJson (body : Bytes) (d : Datum) : Prop :=
  ∃ text, decode? body = some text ∧ Json.read (some Json.nestingLimit) text = .ok d

theorem bodyDatum_eq_ok_iff : bodyDatum body = .ok d ↔ IsJson body d := by
  rw [IsJson, ← Json.readWhole_eq_ok_iff, bodyDatum]
  cases Json.readWhole (some Json.nestingLimit) (decodeEach body) <;> simp [Except.mapError]

/-- Does a status say that all went well? -/
def IsSuccess (status : Nat) : Prop :=
  200 ≤ status ∧ status < 300

theorem fetchBody_of_limited (h : send transport url = .ok response) (hlimited : response.status = 429) :
    fetchBody transport url = .error (.rateLimited url) := by
  simp [fetchBody, h, hlimited, Except.mapError, bind, Except.bind]

theorem fetchBody_of_success (h : send transport url = .ok response) (hstatus : IsSuccess response.status) :
    fetchBody transport url = .ok response.body := by
  have hlimited : response.status ≠ 429 := Nat.ne_of_lt (Nat.lt_trans hstatus.2 (by decide))
  simp [fetchBody, h, hlimited, hstatus.1, hstatus.2, Except.mapError, bind, Except.bind, pure, Except.pure]

theorem fetchBody_of_failure (h : send transport url = .ok response) (hlimited : response.status ≠ 429)
    (hstatus : ¬IsSuccess response.status) :
    fetchBody transport url = .error (.status response.status url) := by
  have hneither : ¬(200 ≤ response.status ∧ response.status < 300) := hstatus
  simp only [fetchBody, h, Except.mapError, bind, Except.bind, if_neg hlimited, if_neg hneither]

/-- There is a body just if there is an answer of which the status says that all went well. -/
theorem fetchBody_eq_ok_iff :
    fetchBody transport url = .ok body ↔
      ∃ response, send transport url = .ok response ∧ IsSuccess response.status ∧ response.body = body := by
  constructor
  · intro h
    cases hanswer : send transport url with
    | error fault =>
      rw [fetchBody, hanswer] at h
      cases h
    | ok response =>
      refine ⟨response, rfl, ?_⟩
      by_cases hstatus : IsSuccess response.status
      · rw [fetchBody_of_success hanswer hstatus] at h
        exact ⟨hstatus, Except.ok.inj h⟩
      · by_cases hlimited : response.status = 429
        · rw [fetchBody_of_limited hanswer hlimited] at h
          cases h
        · rw [fetchBody_of_failure hanswer hlimited hstatus] at h
          cases h
  · rintro ⟨response, hanswer, hstatus, rfl⟩
    exact fetchBody_of_success hanswer hstatus

/-! ### Documents -/

/-- Is the answer to the question for the document of a package refused, and how is this told? -/
inductive Refuses (name : PackageName) (url : String) (response : Response) : String → Prop
  | rateLimited (hstatus : response.status = 429) :
      Refuses name url response ("Rate limit exceeded for URL: " ++ url)
  | unsuccessful (hlimited : response.status ≠ 429) (hstatus : ¬IsSuccess response.status) :
      Refuses name url response ("HTTP " ++ toString response.status ++ " from " ++ url)
  | notJson {fault : Json.Fault} (hstatus : IsSuccess response.status) (hbody : ∀ d, ¬IsJson response.body d)
      (hfault : Json.readWhole (some Json.nestingLimit) (decodeEach response.body) = .error fault) :
      Refuses name url response
        ("Failed to parse JSON response: " ++ fault.message (Json.filled (decodeEach response.body)))
  | notDocument {d : Datum} {misfit : Mismatch} (hstatus : IsSuccess response.status)
      (hbody : IsJson response.body d) (hdecode : Document.decode d = .error misfit) :
      Refuses name url response ("Failed to parse JSON response: " ++ misfit.cause.message .scientific)
  /-- There is no text under `latest`, or an empty one. -/
  | unnamed {d : Datum} {document : Document} (hstatus : IsSuccess response.status)
      (hbody : IsJson response.body d) (hdecode : Document.decode d = .ok document)
      (hlatest : ∀ version, Datum.lookup "latest" document.tags = some (.text version) → version = "") :
      Refuses name url response ("Package '" ++ name.text ++ "' has no latest version")

theorem latest?_eq_none_iff {document : Document} :
    document.latest? = none ↔
      ∀ version, Datum.lookup "latest" document.tags = some (.text version) → version = "" := by
  rw [Document.latest?, Document.textAt, Option.filter_eq_none_iff]
  cases Datum.lookup "latest" document.tags with
  | none => simp
  | some d => cases d <;> simp [Datum.text?]

theorem bodyDatum_of_fault {fault : Json.Fault}
    (h : Json.readWhole (some Json.nestingLimit) (decodeEach body) = .error fault) :
    bodyDatum body
      = .error (.body (.placed (.fault fault.cause) (fault.position (Json.filled (decodeEach body))))) := by
  rw [bodyDatum]
  simp only [h]
  rfl

theorem fetchMetadata_of_body (h : fetchBody transport (documentUrl addresses.documents name) = .ok body) :
    fetchMetadata transport addresses name = bodyDatum body >>= metadataOf name := by
  rw [fetchMetadata, h]
  rfl

theorem metadataOf_of_mismatch {misfit : Mismatch} (h : Document.decode d = .error misfit) :
    metadataOf name d = .error (.body (.misfit misfit.cause)) := by
  rw [metadataOf, h]
  rfl

theorem metadataOf_of_unnamed {document : Document} (hdecode : Document.decode d = .ok document)
    (hlatest : ∀ version, Datum.lookup "latest" document.tags = some (.text version) → version = "") :
    metadataOf name d = .error (.noLatestVersion name.text) := by
  rw [metadataOf, hdecode]
  simp [Except.mapError, bind, Except.bind, Document.metadata, latest?_eq_none_iff.2 hlatest]

/-- What is refused fails, and its failure is told so. -/
theorem exists_error_of_refuses
    (hanswer : send transport (documentUrl addresses.documents name) = .ok response)
    (h : Refuses name (documentUrl addresses.documents name) response text) :
    ∃ failure, fetchMetadata transport addresses name = .error failure ∧ failure.message = text := by
  cases h with
  | rateLimited hlimited =>
    refine ⟨.rateLimited _, ?_, rfl⟩
    rw [fetchMetadata, fetchBody_of_limited hanswer hlimited]
    rfl
  | unsuccessful hlimited hstatus =>
    refine ⟨.status response.status _, ?_, rfl⟩
    rw [fetchMetadata, fetchBody_of_failure hanswer hlimited hstatus]
    rfl
  | @notJson fault hstatus _ hfault =>
    refine ⟨.body (.placed (.fault fault.cause) (fault.position _)), ?_, rfl⟩
    rw [fetchMetadata_of_body (fetchBody_of_success hanswer hstatus), bodyDatum_of_fault hfault]
    rfl
  | @notDocument d misfit hstatus hbody hdecode =>
    refine ⟨.body (.misfit misfit.cause), ?_, rfl⟩
    rw [fetchMetadata_of_body (fetchBody_of_success hanswer hstatus), bodyDatum_eq_ok_iff.2 hbody]
    exact metadataOf_of_mismatch hdecode
  | unnamed hstatus hbody hdecode hlatest =>
    refine ⟨.noLatestVersion name.text, ?_, rfl⟩
    rw [fetchMetadata_of_body (fetchBody_of_success hanswer hstatus), bodyDatum_eq_ok_iff.2 hbody]
    exact metadataOf_of_unnamed hdecode hlatest

/-- What fails is refused, as its failure is told. -/
theorem refuses_of_error {failure : Failure}
    (hanswer : send transport (documentUrl addresses.documents name) = .ok response)
    (h : fetchMetadata transport addresses name = .error failure) :
    Refuses name (documentUrl addresses.documents name) response failure.message := by
  -- what is asked in this order: the status, the body, the document in it, its latest version
  by_cases hstatus : IsSuccess response.status
  · rw [fetchMetadata_of_body (fetchBody_of_success hanswer hstatus)] at h
    cases hread : Json.readWhole (some Json.nestingLimit) (decodeEach response.body) with
    | error fault =>
      have hdatum := bodyDatum_of_fault hread
      rw [hdatum] at h
      cases h
      refine .notJson hstatus (fun d hbody => ?_) hread
      rw [bodyDatum_eq_ok_iff.2 hbody] at hdatum
      cases hdatum
    | ok d =>
      have hbody : IsJson response.body d := Json.readWhole_eq_ok_iff.1 hread
      rw [bodyDatum_eq_ok_iff.2 hbody] at h
      change metadataOf name d = .error failure at h
      cases hdecode : Document.decode d with
      | error misfit =>
        rw [metadataOf_of_mismatch hdecode] at h
        cases h
        exact .notDocument hstatus hbody hdecode
      | ok document =>
        cases hlatest : document.latest? with
        | some version =>
          rw [metadataOf, hdecode] at h
          simp [Except.mapError, bind, Except.bind, Document.metadata, hlatest] at h
        | none =>
          have hunnamed := latest?_eq_none_iff.1 hlatest
          rw [metadataOf_of_unnamed hdecode hunnamed] at h
          cases h
          exact .unnamed hstatus hbody hdecode hunnamed
  · by_cases hlimited : response.status = 429
    · rw [fetchMetadata, fetchBody_of_limited hanswer hlimited] at h
      cases h
      exact .rateLimited hlimited
    · rw [fetchMetadata, fetchBody_of_failure hanswer hlimited hstatus] at h
      cases h
      exact .unsuccessful hlimited hstatus

/-- What does not fail is the record of a document without an error. -/
theorem error_of_fetchMetadata {r : PackageMetadata} (h : fetchMetadata transport addresses name = .ok r) :
    r.error = none := by
  simp only [fetchMetadata, metadataOf, bind_eq_ok_iff] at h
  obtain ⟨_, -, _, -, document, -, hmetadata⟩ := h
  rw [Document.metadata] at hmetadata
  split at hmetadata
  · cases hmetadata
  · cases hmetadata
    rfl

/-- The question for the document is answered by the answer to it. -/
theorem fetchMetadata_congr {transport' : Transport}
    (h : send transport' (documentUrl addresses.documents name)
      = send transport (documentUrl addresses.documents name)) :
    fetchMetadata transport' addresses name = fetchMetadata transport addresses name := by
  rw [fetchMetadata, fetchMetadata, fetchBody, fetchBody, h]

/-! ### Downloads -/

/-- Does the registry answer that a package was downloaded so often? -/
def Counts (transport : Transport) (addresses : Addresses) (name : PackageName) (count : Nat) : Prop :=
  ∃ response, send transport (downloadsUrl addresses.downloads name) = .ok response ∧
    IsSuccess response.status ∧ bodyDownloads response.body = .ok count

theorem fetchDownloads_eq_ok_iff {count : Nat} :
    fetchDownloads transport addresses name = .ok count ↔ Counts transport addresses name count := by
  simp only [fetchDownloads, bind_eq_ok_iff, fetchBody_eq_ok_iff, Counts]
  constructor
  · rintro ⟨_, ⟨response, hanswer, hstatus, rfl⟩, hcount⟩
    exact ⟨response, hanswer, hstatus, hcount⟩
  · rintro ⟨response, hanswer, hstatus, hcount⟩
    exact ⟨_, ⟨response, hanswer, hstatus, rfl⟩, hcount⟩

/-- A body counts downloads just if it is an object with one entry for the count, or a list of the count. -/
theorem bodyDownloads_eq_ok_iff {count : Nat} :
    bodyDownloads body = .ok count ↔ IsPoint (Json.gaps (decodeEach body)) (Json.filled (decodeEach body)) count := by
  rw [bodyDownloads, mapError_eq_ok_iff, downloadsOf_eq_ok_iff]

/-- Counts are numbers of 64 bits. -/
theorem Counts.lt {count : Nat} (h : Counts transport addresses name count) : count < UInt64.size := by
  obtain ⟨response, -, -, hcount⟩ := h
  exact (bodyDownloads_eq_ok_iff.1 hcount).lt

/-! ### Records -/

/-- Is this the record of a package, as the answers about it have it? -/
structure Tells (transport : Transport) (addresses : Addresses) (name : PackageName) (response : Response)
    (record : PackageMetadata) : Prop where
  /-- It is degraded just if the document is refused. -/
  isDegraded_iff :
    record.isDegraded = true ↔ ∃ text, Refuses name (documentUrl addresses.documents name) response text
  /-- Then it says why and nothing else. -/
  refused : ∀ text, Refuses name (documentUrl addresses.documents name) response text →
    record.error = some text ∧ record.version = "" ∧ record.weeklyDownloads = 0
  counted : record.isDegraded = false → ∀ count, Counts transport addresses name count →
    record.weeklyDownloads = count ∧ count < UInt64.size
  uncounted : (∀ count, ¬Counts transport addresses name count) → record.weeklyDownloads = 0

theorem tells_recordFrom (hanswer : send transport (documentUrl addresses.documents name) = .ok response) :
    Tells transport addresses name response
      (recordFrom name (fetchMetadata transport addresses name) (fetchDownloads transport addresses name)) := by
  cases hmetadata : fetchMetadata transport addresses name with
  | error failure =>
    have hrefuses := refuses_of_error hanswer hmetadata
    refine ⟨iff_of_true rfl ⟨_, hrefuses⟩, ?_, nofun, fun _ => rfl⟩
    intro text htext
    obtain ⟨failure', hfailure, rfl⟩ := exists_error_of_refuses hanswer htext
    rw [hmetadata] at hfailure
    cases hfailure
    exact ⟨rfl, rfl, rfl⟩
  | ok r =>
    have hnot : ∀ text, ¬Refuses name (documentUrl addresses.documents name) response text := by
      intro text htext
      obtain ⟨failure, hfailure, -⟩ := exists_error_of_refuses hanswer htext
      rw [hmetadata] at hfailure
      cases hfailure
    have herror := error_of_fetchMetadata hmetadata
    refine ⟨iff_of_false ?_ fun ⟨text, htext⟩ => hnot text htext, fun text htext => absurd htext (hnot text),
      ?_, ?_⟩
    · simp [recordFrom, PackageMetadata.isDegraded, herror]
    · intro _ count hcount
      rw [fetchDownloads_eq_ok_iff.2 hcount]
      exact ⟨rfl, hcount.lt⟩
    · intro hnone
      cases hdownloads : fetchDownloads transport addresses name with
      | error failure => rfl
      | ok count => exact absurd (fetchDownloads_eq_ok_iff.1 hdownloads) (hnone count)

/-- Two records that are made from one answer about the document differ in the downloads only. -/
theorem recordFrom_downloads (metadata : Except Failure PackageMetadata) (downloads downloads' : Except Failure Nat) :
    { recordFrom name metadata downloads' with
        weeklyDownloads := (recordFrom name metadata downloads).weeklyDownloads }
      = recordFrom name metadata downloads := by
  cases metadata <;> rfl

/-- **The record of a package is what its answers say.**  Let the question for the document of a package that was
asked about be answered, in whatever way, and let the question for its downloads be answered in whatever way or
not at all.  Then there is one record of the package, whatever else is asked and in whatever order the answers
come, and `fetch` has it too:

  * it is degraded just if the answer is refused, and then says why, without a version and without downloads;
  * otherwise it has the downloads that were counted, or none if nothing was counted;
  * if the other questions are answered differently, the record is the same but for its downloads. -/
theorem record_of_answers (limit : Nat) (hname : name ∈ packages.toList)
    (hanswer : send transport (documentUrl addresses.documents name) = .ok response) :
    ∃ record, (∀ b, Completes (source transport addresses) limit packages b →
        b.results.get? name = some record) ∧
      (fetch (source transport addresses) limit packages).get? name = some record ∧
      Tells transport addresses name response record ∧
      ∀ transport' limit' packages' b', Completes (source transport' addresses) limit' packages' b' →
        name ∈ packages'.toList → send transport' (documentUrl addresses.documents name) = .ok response →
        ∃ record', b'.results.get? name = some record' ∧
          { record' with weeklyDownloads := record.weeklyDownloads } = record := by
  have hresults : ∀ b, Completes (source transport addresses) limit packages b → b.results.get? name
      = some (recordFrom name (fetchMetadata transport addresses name)
          (fetchDownloads transport addresses name)) :=
    fun b hb => hb.get?_results hname
  refine ⟨_, hresults, hresults _ (completes_finished _ limit packages), tells_recordFrom hanswer, ?_⟩
  intro transport' limit' packages' b' hb' hname' hanswer'
  refine ⟨_, hb'.get?_results hname', ?_⟩
  -- both records are made from one answer about the document
  have hsame : fetchMetadata transport' addresses name = fetchMetadata transport addresses name :=
    fetchMetadata_congr (hanswer'.trans hanswer.symm)
  exact hsame ▸ recordFrom_downloads _ _ _

/-- A registry that knows one package and is asked too often about all others. -/
def busyTransport : Transport := fun url =>
  if url.toText = "https://r.io/a".toList then
    some ⟨200, encode "\x7b\"dist-tags\": \x7b\"latest\": \"1\"\x7d\x7d".toList⟩
  else if url.toText = "https://d.io/downloads/point/last-week/a".toList then
    some ⟨200, encode "\x7b\"start\": \"2024-01-01\", \"downloads\": 7, \"package\": \"a\"\x7d".toList⟩
  else some ⟨429, []⟩

/-- Of two packages, one has its downloads, and nothing is known about the other one for that reason. -/
theorem record_of_busyTransport :
    let addresses : Addresses := ⟨"https://r.io", "https://d.io"⟩
    let known : PackageName := ⟨"a", by decide⟩
    let other : PackageName := ⟨"b", by decide⟩
    let packages : PackageSet := .ofList [known, other]
    let records := fetch (source busyTransport addresses) 2 packages
    (∃ record, records.get? known = some record ∧ record.isDegraded = false ∧ record.weeklyDownloads = 7) ∧
    ∃ record, records.get? other = some record ∧ record.isDegraded = true ∧
      record.error = some "Rate limit exceeded for URL: https://r.io/b" := by
  intro addresses known other packages records
  constructor
  · have hknown : known ∈ packages.toList := by decide
    have hanswer : send busyTransport (documentUrl addresses.documents known)
        = .ok ⟨200, encode "\x7b\"dist-tags\": \x7b\"latest\": \"1\"\x7d\x7d".toList⟩ := by decide +kernel
    have hcounts : Counts busyTransport addresses known 7 :=
      fetchDownloads_eq_ok_iff.1 (by decide +kernel)
    have hmetadata : (fetchMetadata busyTransport addresses known).toOption.isSome = true := by decide +kernel
    obtain ⟨record, -, hrecord, htells, -⟩ := record_of_answers 2 hknown hanswer
    have hdegraded : record.isDegraded = false := by
      rw [← Bool.not_eq_true, htells.isDegraded_iff]
      rintro ⟨text, hrefuses⟩
      obtain ⟨failure, hfailure, -⟩ := exists_error_of_refuses hanswer hrefuses
      rw [hfailure] at hmetadata
      cases hmetadata
    exact ⟨record, hrecord, hdegraded, (htells.counted hdegraded 7 hcounts).1⟩
  · have hother : other ∈ packages.toList := by decide
    have hanswer : send busyTransport (documentUrl addresses.documents other) = .ok ⟨429, []⟩ := by
      decide +kernel
    obtain ⟨record, -, hrecord, htells, -⟩ := record_of_answers 2 hother hanswer
    have hrefuses : Refuses other (documentUrl addresses.documents other) ⟨429, []⟩ _ := .rateLimited rfl
    have hurl : documentUrl addresses.documents other = "https://r.io/b" := by decide +kernel
    have herror := (htells.refused _ hrefuses).1
    rw [hurl] at herror
    exact ⟨record, hrecord, htells.isDegraded_iff.2 ⟨_, hrefuses⟩, herror⟩

end ImportCensus.Registry
