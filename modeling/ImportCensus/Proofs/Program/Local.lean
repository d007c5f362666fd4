/-
ImportCensus/Proofs/Program/Local.lean

Runs on source files that do not need the registry.

A run stays local if the user wants that, or if there is nothing to ask about (`StaysLocal`).  What such a run
leaves behind is said without the settings, the home directory and the registry (`localOutcome`), and it
depends on the files only by the survey.  So two runs that differ in settings, home and registry, and in the
file with the settings, leave the same behind.

The survey may not look at that file.  It is not enough that the file is not scanned: a path that leads to it
is refused, and the refusal tells whether there is a file (`refusal_of_settings`).

Main statement: local runs do not tell of the settings and ask for nothing (`run_of_staysLocal`).
-/
import ImportCensus.Program.Run
import ImportCensus.Proofs.Survey.Removal

namespace ImportCensus.Program

open CommandLine Survey

variable {env env' : Environment} {o o' : Analysis} {target : Target} {survey : Survey} {place : Place}

/-! ### Local runs -/

/-- Does a run on source files end without the registry: because the user wants that, or because there is
nothing to ask about? -/
inductive StaysLocal (env : Environment) (o : Analysis) : Prop
  | offline (h : o.offline = true)
  | unresolved {problem : Problem} (h : Target.ofPaths env.files o.paths = .error problem)
  | unscanned {target : Target} {problem : Problem} (htarget : Target.ofPaths env.files o.paths = .ok target)
      (h : scan env.files target = .error problem)
  | nothing {target : Target} {filesScanned : Nat}
      (htarget : Target.ofPaths env.files o.paths = .ok target)
      (h : scan env.files target = .ok (.nothing filesScanned))

/-- What a local run leaves behind. -/
def localOutcome (env : Environment) (o : Analysis) : Outcome :=
  match Target.ofPaths env.files o.paths with
  | .error p => .failed env.files (.ofSurvey "Failed to resolve analysis target" p)
  | .ok target =>
    match scan env.files target with
    | .error p => .failed env.files (.ofSurvey "Scan failed" p)
    | .ok (.nothing _) => .printed env.files "" "No packages found\n"
    | .ok (.found survey) => .printed env.files (reportText env o target survey .empty ++ "\n") ""

theorem analyze_of_staysLocal (h : StaysLocal env o) : analyze env o = localOutcome env o := by
  cases h with
  | offline hoffline =>
    rw [analyze, localOutcome]
    cases Target.ofPaths env.files o.paths with
    | error p => rfl
    | ok target =>
      cases hscan : scan env.files target with
      | error p => simp only [hscan]
      | ok outcome =>
        cases outcome with
        | nothing filesScanned => simp only [hscan]
        | found survey => simp only [hscan, reportOn, hoffline, if_true]
  | unresolved hof => simp only [analyze, localOutcome, hof]
  | unscanned hof hscan => simp only [analyze, localOutcome, hof, hscan]
  | nothing hof hscan => simp only [analyze, localOutcome, hof, hscan]

theorem localOutcome_requests (env : Environment) (o : Analysis) : (localOutcome env o).requests = [] := by
  rw [localOutcome]
  split
  · rfl
  · split <;> rfl

theorem localOutcome_files (env : Environment) (o : Analysis) : (localOutcome env o).files = env.files := by
  rw [localOutcome]
  split
  · rfl
  · split <;> rfl

/-! ### What is printed -/

/-- Is this what a run prints: the report without records on the survey that was found, or nothing if none
was found? -/
inductive Prints (env : Environment) (o : Analysis) : String → Prop
  | report {target : Target} {survey : Survey} (htarget : Target.ofPaths env.files o.paths = .ok target)
      (hscan : scan env.files target = .ok (.found survey)) :
      Prints env o (reportText env o target survey .empty ++ "\n")
  | nothing (h : ∀ target survey, Target.ofPaths env.files o.paths = .ok target →
      scan env.files target ≠ .ok (.found survey)) : Prints env o ""

theorem prints_localOutcome (env : Environment) (o : Analysis) : Prints env o (localOutcome env o).output := by
  rw [localOutcome]
  split
  · next p hof =>
    refine .nothing fun target survey htarget => ?_
    rw [hof] at htarget
    cases htarget
  · next target hof =>
    have hother : (∀ survey, scan env.files target ≠ .ok (.found survey)) → Prints env o "" := by
      intro hnot
      refine .nothing fun target' survey htarget => ?_
      rw [hof] at htarget
      cases htarget
      exact hnot survey
    split
    · next p hscan => exact hother fun survey => by rw [hscan]; nofun
    · next hscan => exact hother fun survey => by rw [hscan]; nofun
    · next survey hscan => exact .report hof hscan

/-! ### Two runs -/

/-- Do two requests ask for the same report, whatever they say about the settings? -/
structure SameRequest (o o' : Analysis) : Prop where
  paths : o'.paths = o.paths
  offline : o'.offline = o.offline
  verbose : o'.verbose = o.verbose
  format : o'.format = o.format

/-- A report without records depends on the survey, its format and its colours. -/
theorem reportText_congr (ho : SameRequest o o') (hcolour : env'.colour = env.colour) :
    reportText env' o' target survey .empty = reportText env o target survey .empty := by
  rw [reportText, reportText, ho.format, ho.verbose, hcolour]

/-- Runs with one survey have one exit code, output and message. -/
theorem localOutcome_congr (ho : SameRequest o o') (hcolour : env'.colour = env.colour)
    (hsurvey : SameSurvey env.files env'.files o.paths) :
    localOutcome env' o' = { localOutcome env o with files := env'.files } := by
  rw [localOutcome, localOutcome, ho.paths, hsurvey.target]
  split
  · rfl
  · next target hof =>
    rw [hsurvey.scan hof]
    split
    · rfl
    · rfl
    · rw [reportText_congr ho hcolour]
      rfl

/-- A run stays local if another one with the same survey does. -/
theorem StaysLocal.congr (h : StaysLocal env o) (ho : SameRequest o o')
    (hsurvey : SameSurvey env.files env'.files o.paths) : StaysLocal env' o' := by
  have htarget : Target.ofPaths env'.files o'.paths = Target.ofPaths env.files o.paths := by
    rw [ho.paths, hsurvey.target]
  cases h with
  | offline h => exact .offline (ho.offline.trans h)
  | unresolved hof => exact .unresolved (htarget.trans hof)
  | unscanned hof h => exact .unscanned (htarget.trans hof) ((hsurvey.scan hof).trans h)
  | nothing hof h => exact .nothing (htarget.trans hof) ((hsurvey.scan hof).trans h)

/-- **Local runs do not tell of the settings and ask for nothing.**  Let the files of two runs be well-formed
and the same but for a file at which neither survey looks, and let the runs be asked for the same report,
whatever the arguments say about the settings.  If one of the runs stays local, then it prints the report
without records or nothing, it asks the registry for nothing and changes no file, and the other run leaves
just the same behind, wherever its home is and whatever its registry would answer. -/
theorem run_of_staysLocal {arguments arguments' : List String} (hfs : env.files.WellFormed)
    (hfs' : env'.files.WellFormed) (hfiles : env.files.SameBut place env'.files)
    (hread : CommandLine.read arguments = .ok (.analysis o))
    (hread' : CommandLine.read arguments' = .ok (.analysis o')) (ho : SameRequest o o')
    (hcolour : env'.colour = env.colour) (hlooks : ¬LooksAt env.files o.paths place)
    (hlooks' : ¬LooksAt env'.files o.paths place) (hlocal : StaysLocal env o) :
    Prints env o (run env arguments).output ∧ (run env arguments).requests = [] ∧
    (run env arguments).files = env.files ∧
    run env' arguments' = { run env arguments with files := env'.files } := by
  have hsurvey := sameSurvey_of_sameBut hfiles hfs hfs' hlooks hlooks'
  have hrun : run env arguments = localOutcome env o := by
    rw [run, hread]
    exact analyze_of_staysLocal hlocal
  have hrun' : run env' arguments' = localOutcome env' o' := by
    rw [run, hread']
    exact analyze_of_staysLocal (hlocal.congr ho hsurvey)
  rw [hrun, hrun']
  exact ⟨prints_localOutcome env o, localOutcome_requests env o, localOutcome_files env o,
    localOutcome_congr ho hcolour hsurvey⟩

/-! ### Settings next to sources -/

/-- A source file that uses a package, next to settings that cannot be read, or without them. -/
def projectFiles (withSettings : Bool) : FileSystem :=
  ⟨.directory (("a.js", .file (Text.encode "import 'left-pad'".toList))
    :: if withSettings then [("c.toml", .file (Text.encode "=".toList))] else []), []⟩

theorem not_looksAt_settings (withSettings : Bool) :
    ¬LooksAt (projectFiles withSettings) [⟨"."⟩] ["c.toml"] := by
  have hpaths : ∀ p ∈ [(⟨"."⟩ : Path)], Avoids (projectFiles withSettings) ["c.toml"] p := by
    intro p hp n hlocate
    cases List.mem_singleton.1 hp
    cases hlocate
  have htarget : Target.ofPaths (projectFiles withSettings) [⟨"."⟩] = .ok (.directory ⟨"/"⟩) := rfl
  have hroot : ((projectFiles withSettings).canonical ⟨"/"⟩).toOption.getD ⟨"/"⟩ = ⟨"/"⟩ := rfl
  have hlist : (projectFiles withSettings).list ⟨"/"⟩ = .ok _ := rfl
  apply not_looksAt hpaths htarget (.directory hroot hlist)
  cases withSettings <;> decide

/-- The project is reported on without the registry, whether its settings are there or not, also with a
concurrency that cannot be, another home and another registry. -/
theorem run_next_to_settings :
    let there : Environment := ⟨projectFiles true, none, Registry.noTransport, false⟩
    let gone : Environment := ⟨projectFiles false, some ⟨"/h"⟩, fun _ => some ⟨429, []⟩, false⟩
    let o : Analysis := ⟨[⟨"."⟩], some ⟨"c.toml"⟩, true, none, false, .json⟩
    let arguments := ["--offline", "--json", "--config", "c.toml"]
    let arguments' := ["--offline", "--json", "--concurrency", "0", "."]
    Prints there o (run there arguments).output ∧ (run there arguments).requests = [] ∧
    (run there arguments).files = there.files ∧
    run gone arguments' = { run there arguments with files := gone.files } := by
  intro there gone o arguments arguments'
  have hread : CommandLine.read arguments = .ok (.analysis o) := by decide
  have hread' : CommandLine.read arguments'
      = .ok (.analysis { o with config := none, concurrency := some 0 }) := by decide
  have hfiles : there.files.SameBut ["c.toml"] gone.files :=
    ⟨rfl, fun m hm => ⟨_, (Option.some.inj hm).symm⟩, fun m hm => by cases hm⟩
  exact run_of_staysLocal (by decide) (by decide) hfiles hread hread' ⟨rfl, rfl, rfl, rfl⟩ rfl
    (not_looksAt_settings true) (not_looksAt_settings false) (.offline rfl)

/-! ### Settings among the paths -/

/-- Settings that are among the paths are refused, and a refusal tells whether they are there, although
nothing is scanned. -/
theorem refusal_of_settings :
    let there : Environment :=
      ⟨⟨.directory [("c.toml", .file [])], []⟩, none, Registry.noTransport, false⟩
    let gone : Environment := { there with files := .empty }
    let o : Analysis := ⟨[⟨"c.toml"⟩], some ⟨"c.toml"⟩, true, none, false, .human⟩
    let arguments := ["--offline", "--config", "c.toml", "c.toml"]
    CommandLine.read arguments = .ok (.analysis o) ∧ StaysLocal there o ∧ StaysLocal gone o ∧
    there.files.locate ⟨"c.toml"⟩ = .ok (["c.toml"], .file []) ∧
    there.files.SameBut ["c.toml"] gone.files ∧
    (∀ target, Target.ofPaths there.files o.paths ≠ .ok target) ∧
    (∀ target, Target.ofPaths gone.files o.paths ≠ .ok target) ∧
    (run there arguments).messages ≠ (run gone arguments).messages := by
  refine ⟨by decide, .offline rfl, .offline rfl, rfl, ?_, ?_, ?_, by decide +kernel⟩
  · exact ⟨rfl, fun m hm => ⟨_, (Option.some.inj hm).symm⟩, fun m hm => by cases hm⟩
  · intro target h
    cases h
  · intro target h
    cases h

end ImportCensus.Program
