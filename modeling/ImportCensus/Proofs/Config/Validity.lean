/-
ImportCensus/Proofs/Config/Validity.lean

Which settings are of use.

Settings are checked one by one, and the first problem ends the check.  It ends well exactly if both addresses
are those of a server and no limit is zero (`IsUsable`), whatever the order.

Main statement: `validate_eq_ok_iff`.
-/
import ImportCensus.Config.Store
import ImportCensus.Proofs.FileSystem.Access
import Mathlib.Logic.Unique

namespace ImportCensus.Config

variable {c : Config} {field value : String}

/-- Is a text a URL from which something can be fetched? -/
def NamesServer (value : String) : Prop :=
  ∃ url, Url.read value.toList = .ok url ∧ (url.scheme = "http".toList ∨ url.scheme = "https".toList)

/-- Are settings of use? -/
structure IsUsable (c : Config) : Prop where
  documents : NamesServer c.registry.registryUrl
  downloads : NamesServer c.registry.downloadsUrl
  concurrency : c.registry.maxConcurrentRequests ≠ 0
  rate : c.registry.requestsPerSecond ≠ 0
  timeout : c.registry.requestTimeoutSecs ≠ 0

/-! ### Single checks -/

theorem isFetchable_iff {scheme : List Char} :
    Url.isFetchable scheme = true ↔ scheme = "http".toList ∨ scheme = "https".toList := by
  rw [Url.isFetchable, Bool.or_eq_true, beq_iff_eq, beq_iff_eq]

theorem checkUrl_eq_ok_iff : checkUrl field value = .ok () ↔ NamesServer value := by
  simp only [checkUrl, NamesServer, ← isFetchable_iff]
  cases Url.read value.toList with
  | error fault => simp
  | ok url => by_cases hscheme : Url.isFetchable url.scheme = true <;> simp [hscheme]

theorem checkLimit_eq_ok_iff {isZero : Bool} : checkLimit field isZero = .ok () ↔ isZero = false := by
  cases isZero <;> simp [checkLimit]

/-- The only problem of a limit is that it is zero. -/
theorem problem_of_checkLimit {isZero : Bool} {p : Problem} (h : checkLimit field isZero = .error p) :
    p = .zeroLimit field := by
  cases isZero with
  | false => cases h
  | true =>
    cases h
    rfl

/-! ### All checks -/

/-- Settings pass their checks exactly if they are of use. -/
theorem validate_eq_ok_iff : c.validate = .ok () ↔ c.IsUsable := by
  simp only [validate, bind_eq_ok_iff, Unique.exists_iff, PUnit.default_eq_unit, checkUrl_eq_ok_iff,
    checkLimit_eq_ok_iff, beq_eq_false_iff_ne]
  exact ⟨fun ⟨h₁, h₂, h₃, h₄, h₅⟩ => ⟨h₁, h₂, h₃, h₄, h₅⟩,
    fun ⟨h₁, h₂, h₃, h₄, h₅⟩ => ⟨h₁, h₂, h₃, h₄, h₅⟩⟩

theorem check_eq_ok_iff : c.check = .ok () ↔ c.IsUsable := by
  rw [← validate_eq_ok_iff, check]
  cases c.validate <;> simp [Except.mapError]

/-- If nothing but the number of packages that are asked about together can be wrong, it is what the checks
find. -/
theorem validate_of_concurrency (documents : NamesServer c.registry.registryUrl)
    (downloads : NamesServer c.registry.downloadsUrl) (rate : c.registry.requestsPerSecond ≠ 0)
    (timeout : c.registry.requestTimeoutSecs ≠ 0) :
    c.validate
      = checkLimit "registry.max_concurrent_requests" (c.registry.maxConcurrentRequests == 0) := by
  have hdocuments : checkUrl "registry.registry_url" c.registry.registryUrl = .ok () :=
    checkUrl_eq_ok_iff.2 documents
  have hdownloads : checkUrl "registry.downloads_url" c.registry.downloadsUrl = .ok () :=
    checkUrl_eq_ok_iff.2 downloads
  have hrate : checkLimit "registry.requests_per_second" (c.registry.requestsPerSecond == 0) = .ok () :=
    checkLimit_eq_ok_iff.2 (by simpa using rate)
  have htimeout : checkLimit "registry.request_timeout_secs" (c.registry.requestTimeoutSecs == 0) = .ok () :=
    checkLimit_eq_ok_iff.2 (by simpa using timeout)
  rw [validate, hdocuments, hdownloads, hrate, htimeout]
  cases checkLimit "registry.max_concurrent_requests" (c.registry.maxConcurrentRequests == 0) <;> rfl

/-- Settings that differ in that number from settings that are of use have no other problem. -/
theorem problem_of_isUsable {c' : Config} {problem : Problem} (h : c.IsUsable)
    (hregistry : c'.registry
      = { c.registry with maxConcurrentRequests := c'.registry.maxConcurrentRequests })
    (hproblem : c'.validate = .error problem) :
    problem = .zeroLimit "registry.max_concurrent_requests" := by
  have hvalidate := validate_of_concurrency (c := c') (hregistry ▸ h.documents) (hregistry ▸ h.downloads)
    (hregistry ▸ h.rate) (hregistry ▸ h.timeout)
  exact problem_of_checkLimit (hvalidate.symm.trans hproblem)

end ImportCensus.Config
