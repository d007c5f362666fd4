/-
ImportCensus/Proofs/Program/Access.lean

Settings are used as they are checked.

A run that asks the registry loads the settings, puts the user's word into them, checks them and makes the
addresses of the registry from them.  Each of these steps may fail.  The check of a file of settings takes only
the first and the third of them; but the last one never fails after the third, so both end alike.

Main statement: a run that has something to ask ends well exactly if the settings that it was given are loaded
and of use, just as the check of their file does; nothing of settings that were accepted is adjusted afterwards
(`run_agrees_with_check`).
-/
import ImportCensus.Program.Run
import ImportCensus.Proofs.Config.Validity
import ImportCensus.Proofs.Survey.Scan

namespace ImportCensus.Program

open CommandLine Survey

variable {env : Environment} {o : Analysis} {f : Path} {c : Config} {a : Registry.Addresses}
  {target : Target} {survey : Survey} {arguments arguments' : List String}

/-! ### Accepted settings -/

/-- Are settings used just as they are given? -/
structure UsedAsGiven (c : Config) : Prop where
  /-- There is a client for the registry. -/
  addresses : ∃ a, addresses c = .ok a
  concurrency :
    Registry.Batch.capacity c.registry.maxConcurrentRequests.toNat = c.registry.maxConcurrentRequests.toNat
  rate : Registry.pace c.registry.requestsPerSecond = c.registry.requestsPerSecond

theorem exists_address {base : String} (h : Config.NamesServer base) :
    ∃ text, Registry.address base = .ok text := by
  obtain ⟨url, hread, -⟩ := h
  exact ⟨_, by rw [Registry.address, hread]⟩

/-- A server can be asked at the addresses of settings that are of use. -/
theorem exists_addresses (h : c.IsUsable) : ∃ a, addresses c = .ok a := by
  obtain ⟨documents, hdocuments⟩ := exists_address h.documents
  obtain ⟨downloads, hdownloads⟩ := exists_address h.downloads
  exact ⟨⟨documents, downloads⟩, by rw [addresses, Registry.Addresses.ofBases, hdocuments, hdownloads]; rfl⟩

theorem usedAsGiven_of_isUsable (h : c.IsUsable) : UsedAsGiven c where
  addresses := exists_addresses h
  concurrency := by
    have hpositive : c.registry.maxConcurrentRequests.toNat ≠ 0 := by
      intro hzero
      exact h.concurrency (UInt64.toNat_inj.1 hzero)
    rw [Registry.Batch.capacity]
    omega
  rate := by rw [Registry.pace, if_neg h.rate]

/-! ### The user's word -/

/-- Settings with the user's word are of use if the word is no zero and everything else is in order. -/
theorem isUsable_withConcurrency_some {n : UInt64} :
    (withConcurrency c (some n)).IsUsable ↔
      n ≠ 0 ∧ Config.NamesServer c.registry.registryUrl ∧ Config.NamesServer c.registry.downloadsUrl ∧
        c.registry.requestsPerSecond ≠ 0 ∧ c.registry.requestTimeoutSecs ≠ 0 :=
  ⟨fun h => ⟨h.concurrency, h.documents, h.downloads, h.rate, h.timeout⟩,
    fun ⟨hn, hdocuments, hdownloads, hrate, htimeout⟩ => ⟨hdocuments, hdownloads, hn, hrate, htimeout⟩⟩

/-- The user's word repairs no other problem of settings, and makes no other one. -/
theorem problem_of_withConcurrency {n : UInt64} {problem : Config.Problem} :
    (c.validate = .error problem → (withConcurrency c (some n)).validate = .ok () →
      problem = .zeroLimit "registry.max_concurrent_requests") ∧
    (c.validate = .ok () → (withConcurrency c (some n)).validate = .error problem →
      problem = .zeroLimit "registry.max_concurrent_requests") := by
  constructor
  · intro hproblem hrepaired
    exact Config.problem_of_isUsable (Config.validate_eq_ok_iff.1 hrepaired) (by rfl) hproblem
  · intro hvalid hproblem
    exact Config.problem_of_isUsable (Config.validate_eq_ok_iff.1 hvalid) (by rfl) hproblem

/-! ### Access to the registry -/

theorem load_ne_noHome (files : FileSystem) (f : Path) : Config.load files f ≠ .error .noHome := by
  rw [Config.load]
  split
  · simp
  · simp
  · split
    · simp
    · split <;> simp

/-- The settings for a report are those of the file that the user names. -/
theorem loadSettings_eq_ok_iff (hfile : o.config = some f) :
    loadSettings env o = .ok c ↔ ∃ stored, Config.load env.files f = .ok stored ∧ stored.config = c := by
  have hload : Config.loadOrStandard env.files env.home o.config = Config.load env.files f := by
    rw [hfile, Config.loadOrStandard]
  rw [loadSettings, hload]
  cases hresult : Config.load env.files f with
  | ok stored => simp
  | error failure =>
    cases failure with
    | noHome => exact absurd hresult (load_ne_noHome env.files f)
    | _ => simp

theorem settings_eq_ok_iff_loaded :
    settings env o = .ok c ↔
      ∃ loaded, loadSettings env o = .ok loaded ∧ withConcurrency loaded o.concurrency = c ∧ c.IsUsable := by
  rw [settings, bind_eq_ok_iff]
  apply exists_congr
  intro loaded
  apply and_congr_right
  intro _
  rw [← Config.check_eq_ok_iff]
  generalize withConcurrency loaded o.concurrency = used
  dsimp only
  constructor
  · cases hcheck : used.check with
    | ok u =>
      intro h
      cases h
      exact ⟨rfl, hcheck⟩
    | error failure => nofun
  · rintro ⟨rfl, hcheck⟩
    rw [hcheck]
    rfl

/-- A run gets to the registry just if the settings of the file, with the user's word, are of use. -/
theorem registryAccess_eq_ok_iff (hfile : o.config = some f) :
    registryAccess env o = .ok (c, a) ↔ ∃ stored, Config.load env.files f = .ok stored ∧
      withConcurrency stored.config o.concurrency = c ∧ c.IsUsable ∧ addresses c = .ok a := by
  have haccess : registryAccess env o = .ok (c, a) ↔ settings env o = .ok c ∧ addresses c = .ok a := by
    simp only [registryAccess, bind_eq_ok_iff, pure, Except.pure, Except.ok.injEq, Prod.mk.injEq]
    constructor
    · rintro ⟨_, hsettings, _, haddresses, rfl, rfl⟩
      exact ⟨hsettings, haddresses⟩
    · rintro ⟨hsettings, haddresses⟩
      exact ⟨c, hsettings, a, haddresses, rfl, rfl⟩
  rw [haccess, settings_eq_ok_iff_loaded]
  simp only [loadSettings_eq_ok_iff hfile]
  constructor
  · rintro ⟨⟨_, ⟨stored, hload, rfl⟩, hused, husable⟩, haddresses⟩
    exact ⟨stored, hload, hused, husable, haddresses⟩
  · rintro ⟨stored, hload, hused, husable, haddresses⟩
    exact ⟨⟨_, ⟨stored, hload, rfl⟩, hused, husable⟩, haddresses⟩

/-- A run gets to the registry with some settings just if those that it was given are of use. -/
theorem exists_registryAccess_iff (hfile : o.config = some f) :
    (∃ access, registryAccess env o = .ok access) ↔ ∃ stored, Config.load env.files f = .ok stored ∧
      (withConcurrency stored.config o.concurrency).IsUsable := by
  simp only [Prod.exists, registryAccess_eq_ok_iff hfile]
  constructor
  · rintro ⟨_, _, stored, hload, rfl, husable, -⟩
    exact ⟨stored, hload, husable⟩
  · rintro ⟨stored, hload, husable⟩
    obtain ⟨a, haddresses⟩ := exists_addresses husable
    exact ⟨_, a, stored, hload, rfl, husable, haddresses⟩

/-! ### Runs -/

/-- Does a run have something to ask the registry? -/
structure Asks (env : Environment) (o : Analysis) (target : Target) (survey : Survey) : Prop where
  online : o.offline = false
  resolved : Target.ofPaths env.files o.paths = .ok target
  found : scan env.files target = .ok (.found survey)

theorem Asks.analyze_eq (h : Asks env o target survey) : analyze env o = reportOn env o target survey := by
  simp only [analyze, h.resolved, h.found]

/-- If there is a registry to ask, a run that has something to ask ends well. -/
theorem Asks.exit_of_ok (h : Asks env o target survey) {access : Config × Registry.Addresses}
    (haccess : registryAccess env o = .ok access) : (analyze env o).exit = 0 := by
  rw [h.analyze_eq, reportOn, h.online, haccess]
  rfl

/-- Otherwise it ends with the trouble that there is, and asks for nothing. -/
theorem Asks.analyze_of_error (h : Asks env o target survey) {t : Trouble}
    (haccess : registryAccess env o = .error t) : analyze env o = .failed env.files t := by
  rw [h.analyze_eq, reportOn, h.online, haccess]
  rfl

theorem Asks.exit_eq_zero_iff (h : Asks env o target survey) :
    (analyze env o).exit = 0 ↔ ∃ access, registryAccess env o = .ok access := by
  cases haccess : registryAccess env o with
  | ok access => simp [h.exit_of_ok haccess]
  | error t => simp [h.analyze_of_error haccess, Outcome.failed]

theorem Asks.exists_error_iff (h : Asks env o target survey) :
    (∃ t, registryAccess env o = .error t) ↔ (analyze env o).exit ≠ 0 := by
  rw [Ne, h.exit_eq_zero_iff]
  cases registryAccess env o <;> simp

/-- The check of a file ends well just if its settings are loaded and of use. -/
theorem exit_validate_eq_zero_iff (env : Environment) (f : Path) :
    (manageSettings env .validate (some f)).exit = 0 ↔
      ∃ stored, Config.load env.files f = .ok stored ∧ stored.config.IsUsable := by
  have hfile : (settingsFile env (some f)).bind (usableSettings env) = usableSettings env f := rfl
  rw [manageSettings, hfile, usableSettings]
  cases Config.load env.files f with
  | error failure => simp [Outcome.failed]
  | ok stored =>
    simp only [Except.ok.injEq, exists_eq_left', ← Config.check_eq_ok_iff]
    cases stored.config.check <;> simp [Outcome.failed, Outcome.printed]

/-- **Settings are used as they are checked.**  Let a run on source files have something to ask the registry,
and let the user name a file of settings.

  * The check of the file ends well exactly if its settings are loaded and of use: both addresses are URLs with
    `http` or `https`, and no limit is zero.
  * The run gets to the registry exactly if the settings of the file, with the user's word on how many packages
    may be asked about together, are of use, and then with these settings; otherwise it ends with that trouble.
    So it fails exactly if the check does, unless there is such a word.

Whatever settings are accepted, with or without the user's word, are used as they are given: there is a client
for their addresses, and no limit is raised to one.  The user's word counts before the check, and neither
repairs nor makes another problem than its own. -/
theorem run_agrees_with_check (hread : CommandLine.read arguments = .ok (.analysis o))
    (hread' : CommandLine.read arguments' = .ok (.config .validate (some f)))
    (hfile : o.config = some f) (hasks : Asks env o target survey) :
    ((run env arguments').exit = 0 ↔
      ∃ stored, Config.load env.files f = .ok stored ∧ stored.config.IsUsable) ∧
    (∀ c a, registryAccess env o = .ok (c, a) ↔ ∃ stored, Config.load env.files f = .ok stored ∧
      withConcurrency stored.config o.concurrency = c ∧ c.IsUsable ∧ addresses c = .ok a) ∧
    ((run env arguments).exit = 0 ↔ ∃ stored, Config.load env.files f = .ok stored ∧
      (withConcurrency stored.config o.concurrency).IsUsable) ∧
    (∀ t, registryAccess env o = .error t → run env arguments = .failed env.files t) ∧
    (o.concurrency = none →
      ((∃ t, registryAccess env o = .error t) ↔ (run env arguments').exit ≠ 0) ∧
      ((run env arguments).exit ≠ 0 ↔ (run env arguments').exit ≠ 0)) ∧
    (∀ c concurrency, (withConcurrency c concurrency).check = .ok () →
      UsedAsGiven (withConcurrency c concurrency)) ∧
    (∀ c n, (withConcurrency c (some n)).check = .ok () ↔
      n ≠ 0 ∧ Config.NamesServer c.registry.registryUrl ∧ Config.NamesServer c.registry.downloadsUrl ∧
        c.registry.requestsPerSecond ≠ 0 ∧ c.registry.requestTimeoutSecs ≠ 0) ∧
    ∀ c n problem,
      (c.validate = .error problem → (withConcurrency c (some n)).validate = .ok () →
        problem = .zeroLimit "registry.max_concurrent_requests") ∧
      (c.validate = .ok () → (withConcurrency c (some n)).validate = .error problem →
        problem = .zeroLimit "registry.max_concurrent_requests") := by
  have hrun : run env arguments = analyze env o := by
    rw [run, hread]
    rfl
  have hcheck : (run env arguments').exit = 0 ↔
      ∃ stored, Config.load env.files f = .ok stored ∧ stored.config.IsUsable := by
    rw [run, hread']
    exact exit_validate_eq_zero_iff env f
  have hexit : (run env arguments).exit = 0 ↔ ∃ stored, Config.load env.files f = .ok stored ∧
      (withConcurrency stored.config o.concurrency).IsUsable := by
    rw [hrun, hasks.exit_eq_zero_iff, exists_registryAccess_iff hfile]
  refine ⟨hcheck, fun c a => registryAccess_eq_ok_iff hfile, hexit,
    fun t h => hrun.trans (hasks.analyze_of_error h), ?_,
    fun c concurrency h => usedAsGiven_of_isUsable (Config.check_eq_ok_iff.1 h), ?_, ?_⟩
  · intro hconcurrency
    -- without the user's word, the run uses the settings that the check looks at
    have hsame : (run env arguments).exit = 0 ↔ (run env arguments').exit = 0 := by
      rw [hexit, hcheck, hconcurrency]
      rfl
    exact ⟨(hrun ▸ hasks.exists_error_iff).trans (not_congr hsame), not_congr hsame⟩
  · intro c n
    rw [Config.check_eq_ok_iff, isUsable_withConcurrency_some]
  · intro c n problem
    exact problem_of_withConcurrency

/-- A directory in which some file uses a package has a survey. -/
theorem exists_found_of_walk {files : FileSystem} {p : Path} (hroot : (walk files p).rootError = none)
    (hused : (aggregate (walk files p).finds.files.entries).isEmpty = false) :
    ∃ survey, scan files (.directory p) = .ok (.found survey) := by
  simp only [scan_directory, hroot, Survey.Outcome.ofFinds, hused]
  exact ⟨_, rfl⟩

/-- A project that uses a package, beside settings by which no package may be asked about. -/
def pausedProject : FileSystem :=
  ⟨.directory
    [("a.js", .file (Text.encode "import 'left-pad'".toList)),
     ("c.toml", .file (Text.encode "registry.max_concurrent_requests = 0".toList))], []⟩

/-- The settings of the paused project are not accepted, neither by the check nor by the run, unless the user says
how many packages may be asked about. -/
theorem run_of_pausedProject :
    let env : Environment := ⟨pausedProject, none, Registry.noTransport, false⟩
    (run env ["--config", "c.toml", "config", "validate"]).exit ≠ 0 ∧
    (run env ["--config", "c.toml"]).exit ≠ 0 ∧
    (run env ["--config", "c.toml", "--concurrency", "4"]).exit = 0 := by
  intro env
  let o : Analysis := ⟨[⟨"."⟩], some ⟨"c.toml"⟩, false, none, false, .human⟩
  have htarget : Target.ofPaths env.files o.paths = .ok (.directory ⟨"/"⟩) := rfl
  obtain ⟨survey, hscan⟩ : ∃ survey, scan env.files (.directory ⟨"/"⟩) = .ok (.found survey) :=
    exists_found_of_walk (by decide +kernel) (by decide +kernel)
  have hvalidate : CommandLine.read ["--config", "c.toml", "config", "validate"]
      = .ok (.config .validate (some ⟨"c.toml"⟩)) := by decide
  have hread : CommandLine.read ["--config", "c.toml"] = .ok (.analysis o) := by decide
  have hread' : CommandLine.read ["--config", "c.toml", "--concurrency", "4"]
      = .ok (.analysis { o with concurrency := some 4 }) := by decide
  have hfails : (run env ["--config", "c.toml", "config", "validate"]).exit ≠ 0 := by decide +kernel
  obtain ⟨-, -, -, -, hagree, -⟩ :=
    run_agrees_with_check hread hvalidate rfl ⟨rfl, htarget, hscan⟩
  obtain ⟨-, -, hword, -⟩ := run_agrees_with_check hread' hvalidate rfl ⟨rfl, htarget, hscan⟩
  have hload : Config.load env.files ⟨"c.toml"⟩
      = .ok ⟨⟨"c.toml"⟩, { Config.standard with
          registry := { RegistrySettings.standard with maxConcurrentRequests := 0 } }⟩ := by decide +kernel
  have husable : (withConcurrency { Config.standard with
      registry := { RegistrySettings.standard with maxConcurrentRequests := 0 } } (some 4)).IsUsable :=
    Config.validate_eq_ok_iff.1 (by decide +kernel)
  exact ⟨hfails, (hagree rfl).2.2 hfails, hword.2 ⟨_, hload, husable⟩⟩

end ImportCensus.Program
