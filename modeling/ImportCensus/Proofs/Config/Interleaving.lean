/-
ImportCensus/Proofs/Config/Interleaving.lean

Saves of one file whose steps interleave.

Several savers may be at work on one file, each of them writing the temporary file and then putting it in
the place of the file.  The temporary file is the same for all of them, so what it holds is decided by the
step that came last: the settings of the saver who wrote, or nothing if it was moved away (`pendingAfter`).

Main statement: a step that replaces the file puts there what was written last, and fails if nothing was
written since the last such step; so two saves both do what they are to do exactly if one of them is over
before the other one starts (`saves_succeed_iff_apart`).  Two saves that overlap are in `saves_overlapping`.
-/
import ImportCensus.Proofs.Config.Writable

namespace ImportCensus

open Text FileSystem

/-- Is a list made of the items of two lists, each of them in its order? -/
inductive Merge {α : Type} : List α → List α → List α → Prop where
  | nil : Merge [] [] []
  | left {a : α} {as bs merged : List α} : Merge as bs merged → Merge (a :: as) bs (a :: merged)
  | right {b : α} {as bs merged : List α} : Merge as bs merged → Merge as (b :: bs) (b :: merged)

namespace Merge

variable {α : Type} {items merged : List α}

theorem eq_of_nil_left (h : Merge [] items merged) : merged = items := by
  induction items generalizing merged with
  | nil =>
    cases h
    rfl
  | cons item items ih =>
    cases h with
    | right h => rw [ih h]

theorem eq_of_nil_right (h : Merge items [] merged) : merged = items := by
  induction items generalizing merged with
  | nil =>
    cases h
    rfl
  | cons item items ih =>
    cases h with
    | left h => rw [ih h]

end Merge

namespace Config

/-- A step of one of several saves. -/
inductive SaveStep (ι : Type) where
  /-- The temporary file is written. -/
  | write (saver : ι)
  /-- The temporary file takes the place of the file. -/
  | replace (saver : ι)
  deriving DecidableEq

variable {ι : Type}

/-- The steps of a save, in their order. -/
def stepsOf (saver : ι) : List (SaveStep ι) :=
  [.write saver, .replace saver]

section Runs

variable (p : Path) (configs : ι → Config)

/-- What a step does, if it can be done; each saver has settings of its own. -/
def SaveStep.act (fs : FileSystem) : SaveStep ι → Except FileError FileSystem
  | .write saver => Stored.writeTemporary ⟨p, configs saver⟩ fs
  | .replace saver => Stored.replaceFile ⟨p, configs saver⟩ fs

/-- The file system after some steps.  A step that fails leaves everything as it was. -/
def afterSteps (fs : FileSystem) (steps : List (SaveStep ι)) : FileSystem :=
  steps.foldl (fun fs step => (step.act p configs fs).toOption.getD fs) fs

/-- What the temporary file holds after some steps. -/
def pendingAfter (pending : Option Bytes) (steps : List (SaveStep ι)) : Option Bytes :=
  match steps.getLast? with
  | some (.write saver) => some (encode (configs saver).toText.toList)
  | some (.replace _) => none
  | none => pending

/-- Does the last step of a save succeed, and does the file then hold the settings of its saver? -/
def Succeeds (fs : FileSystem) (steps : List (SaveStep ι)) (saver : ι) : Prop :=
  ∃ before behind files, steps = before ++ .replace saver :: behind ∧
    SaveStep.act p configs (afterSteps p configs fs before) (.replace saver) = .ok files ∧
    load files p = .ok ⟨p, configs saver⟩

end Runs

variable {p : Path} {configs : ι → Config} {fs : FileSystem} {name : String} {d : Place}
  {pending : Option Bytes} {steps : List (SaveStep ι)} {saver other : ι}

theorem afterSteps_concat (fs : FileSystem) (steps : List (SaveStep ι)) (step : SaveStep ι) :
    afterSteps p configs fs (steps ++ [step])
      = (step.act p configs (afterSteps p configs fs steps)).toOption.getD
          (afterSteps p configs fs steps) := by
  rw [afterSteps, List.foldl_append]
  rfl

/-- What the steps before the last one have left does not matter. -/
theorem pendingAfter_concat (pending pending' : Option Bytes) (steps : List (SaveStep ι)) (step : SaveStep ι) :
    pendingAfter configs pending (steps ++ [step]) = pendingAfter configs pending' [step] := by
  rw [pendingAfter, pendingAfter, List.getLast?_concat, List.getLast?_singleton]
  cases step <;> rfl

/-! ### Single steps -/

theorem act_write_eq (fs : FileSystem) (saver : ι) :
    SaveStep.act p configs fs (.write saver)
      = fs.write (temporaryPath p) (encode (configs saver).toText.toList) := rfl

theorem act_replace_eq (fs : FileSystem) (saver : ι) :
    SaveStep.act p configs fs (.replace saver) = fs.rename (temporaryPath p) p := rfl

/-- A step leaves a place where settings can be saved, and decides what the temporary file holds. -/
theorem IsWritable.step (h : IsWritable fs p name d pending) (step : SaveStep ι) :
    IsWritable ((step.act p configs fs).toOption.getD fs) p name d
      (pendingAfter configs pending [step]) := by
  cases step with
  | write saver =>
    obtain ⟨written, hwrite, w⟩ := h.exists_writes (encode (configs saver).toText.toList)
    rw [act_write_eq, hwrite]
    exact h.of_writes w
  | replace saver =>
    rw [act_replace_eq]
    cases pending with
    | none =>
      -- there is nothing to be moved, and all stays as it is
      rw [h.rename_eq_error]
      exact h
    | some bytes =>
      obtain ⟨moved, hrename, m⟩ := h.exists_moves
      rw [hrename]
      exact h.of_moves m

/-- **After any steps of any saves, the temporary file holds what the last step left in it.** -/
theorem IsWritable.run (h : IsWritable fs p name d pending) (configs : ι → Config)
    (steps : List (SaveStep ι)) :
    IsWritable (afterSteps p configs fs steps) p name d (pendingAfter configs pending steps) := by
  induction steps using List.reverseRecOn with
  | nil => exact h
  | append_singleton steps step ih =>
    rw [afterSteps_concat, pendingAfter_concat pending (pendingAfter configs pending steps)]
    exact ih.step step

/-! ### Steps in a run -/

/-- Writing the temporary file always succeeds, and the file keeps what it holds. -/
theorem act_write_of_run (h : IsWritable fs p name d pending) (configs : ι → Config)
    (steps : List (SaveStep ι)) (saver : ι) :
    ∃ files, SaveStep.act p configs (afterSteps p configs fs steps) (.write saver) = .ok files ∧
      ∀ bytes, Holds (afterSteps p configs fs steps) p name bytes → Holds files p name bytes := by
  obtain ⟨files, hwrite, w⟩ :=
    (h.run configs steps).exists_writes (encode (configs saver).toText.toList)
  exact ⟨files, hwrite, fun bytes => w.holds_iff.2⟩

/-- Right after a write, the file is replaced by the settings of the saver who wrote. -/
theorem act_replace_of_write (h : IsWritable fs p name d pending) (configs : ι → Config)
    (hlast : steps.getLast? = some (.write other)) (saver : ι) :
    ∃ files, SaveStep.act p configs (afterSteps p configs fs steps) (.replace saver) = .ok files ∧
      load files p = .ok ⟨p, configs other⟩ := by
  have hrun := h.run configs steps
  rw [pendingAfter, hlast] at hrun
  obtain ⟨files, hrename, m⟩ := hrun.exists_moves
  exact ⟨files, hrename, (m.holds hrun.replaceable).load⟩

/-- If the temporary file was moved and not written again, the file cannot be replaced. -/
theorem act_replace_of_replace (h : IsWritable fs p name d pending) (configs : ι → Config)
    (hlast : steps.getLast? = some (.replace other)) (saver : ι) :
    SaveStep.act p configs (afterSteps p configs fs steps) (.replace saver) = .error .noEntry := by
  have hrun := h.run configs steps
  rw [pendingAfter, hlast] at hrun
  exact hrun.rename_eq_error

/-- A save whose steps follow each other directly succeeds, whatever was done before. -/
theorem succeeds_of_adjacent (h : IsWritable fs p name d pending) (configs : ι → Config) (saver : ι)
    (before behind : List (SaveStep ι)) :
    Succeeds p configs fs (before ++ stepsOf saver ++ behind) saver := by
  have hlast : (before ++ [SaveStep.write saver]).getLast? = some (.write saver) := List.getLast?_concat
  obtain ⟨files, hact, hload⟩ := act_replace_of_write h configs hlast saver
  have hsteps : before ++ stepsOf saver ++ behind
      = (before ++ [.write saver]) ++ .replace saver :: behind := by simp [stepsOf]
  exact ⟨_, behind, files, hsteps, hact, hload⟩

/-! ### Two saves -/

/-- Two saves are done one after the other, or both of them write before either replaces the file. -/
theorem apart_or_overlapping {steps : List (SaveStep Bool)}
    (h : Merge (stepsOf true) (stepsOf false) steps) :
    (∃ saver, steps = stepsOf saver ++ stepsOf !saver) ∨
      ∃ saver other, steps = [.write saver, .write !saver, .replace other, .replace !other] := by
  cases h with
  | left h =>
    cases h with
    | left h => exact .inl ⟨true, by rw [h.eq_of_nil_left]; rfl⟩
    | right h =>
      cases h with
      | left h => exact .inr ⟨true, true, by rw [h.eq_of_nil_left]; rfl⟩
      | right h => exact .inr ⟨true, false, by rw [h.eq_of_nil_right]; rfl⟩
  | right h =>
    cases h with
    | left h =>
      cases h with
      | left h => exact .inr ⟨false, true, by rw [h.eq_of_nil_left]; rfl⟩
      | right h => exact .inr ⟨false, false, by rw [h.eq_of_nil_right]; rfl⟩
    | right h => exact .inl ⟨false, by rw [h.eq_of_nil_right]; rfl⟩

/-- Of two saves that overlap, the one that comes second to replace the file fails. -/
theorem not_succeeds_of_overlapping (h : IsWritable fs p name d pending) (configs : Bool → Config)
    (saver other : Bool) :
    ¬Succeeds p configs fs [.write saver, .write !saver, .replace other, .replace !other] !other := by
  rintro ⟨before, behind, files, hsteps, hact, -⟩
  -- the step that fails stands at the end and nowhere else
  have hfront : SaveStep.replace (!other) ∉ [.write saver, .write !saver, .replace other] := by
    simp
  obtain ⟨rfl, -, -⟩ := (List.append_cons_inj_of_notMem hfront List.not_mem_nil).1 hsteps
  rw [act_replace_of_replace h configs rfl] at hact
  cases hact

/-- **When two saves of one file both succeed.**  Let settings be saved at a place where they can be, by two
savers whose steps are done in any order in which each of them writes before it replaces the file.

  * Writing always succeeds, and the file keeps what it holds.
  * Replacing the file right after a write succeeds, and the file holds the settings of the saver who wrote,
    whoever replaced it.
  * Replacing it otherwise fails, as the temporary file is not there.
  * Both saves succeed, and the file holds the settings of each saver when its save is over, just if one save
    is over before the other one starts. -/
theorem saves_succeed_iff_apart {fs : FileSystem} {p : Path} {name : String} {d : Place}
    {pending : Option Bytes} (h : IsWritable fs p name d pending) (configs : Bool → Config)
    {steps : List (SaveStep Bool)} (hsteps : Merge (stepsOf true) (stepsOf false) steps) :
    (∀ before saver behind, steps = before ++ .write saver :: behind →
      ∃ files, SaveStep.act p configs (afterSteps p configs fs before) (.write saver) = .ok files ∧
        ∀ bytes, Holds (afterSteps p configs fs before) p name bytes → Holds files p name bytes) ∧
    (∀ before other saver behind, steps = before ++ .write other :: .replace saver :: behind →
      ∃ files, SaveStep.act p configs (afterSteps p configs fs (before ++ [.write other])) (.replace saver)
          = .ok files ∧
        load files p = .ok ⟨p, configs other⟩) ∧
    (∀ before other saver behind, steps = before ++ .replace other :: .replace saver :: behind →
      SaveStep.act p configs (afterSteps p configs fs (before ++ [.replace other])) (.replace saver)
        = .error .noEntry) ∧
    ((∀ saver, Succeeds p configs fs steps saver) ↔ ∃ saver, steps = stepsOf saver ++ stepsOf !saver) := by
  refine ⟨?_, ?_, ?_, ?_, ?_⟩
  · rintro before saver behind -
    exact act_write_of_run h configs before saver
  · rintro before other saver behind -
    exact act_replace_of_write h configs List.getLast?_concat saver
  · rintro before other saver behind -
    exact act_replace_of_replace h configs List.getLast?_concat saver
  · intro hboth
    obtain happart | ⟨saver, other, rfl⟩ := apart_or_overlapping hsteps
    · exact happart
    · exact absurd (hboth !other) (not_succeeds_of_overlapping h configs saver other)
  · rintro ⟨first, rfl⟩ saver
    by_cases hfirst : saver = first
    · subst hfirst
      exact succeeds_of_adjacent h configs saver [] (stepsOf !saver)
    · have hsecond : saver = !first := by cases saver <;> cases first <;> simp_all
      subst hsecond
      have hlast := succeeds_of_adjacent h configs (!first) (stepsOf first) []
      rwa [List.append_nil] at hlast

/-- A file of settings that is a link, with a temporary file that was left over. -/
def leftoverSettings : FileSystem :=
  ⟨.directory [("d", .directory [("config.toml", .link "shared.toml"), ("shared.toml", .file []),
    ("config.toml.tmp", .file [0])])], []⟩

theorem isWritable_leftoverSettings :
    IsWritable leftoverSettings ⟨"d/config.toml"⟩ "config.toml" ["d"] (some [0]) := by
  refine isWritable_of_check (by decide +kernel) rfl ?_
  rintro m ⟨⟩
  rfl

/-- The saver who writes last also replaces the file first; the other one has nothing left to move. -/
theorem saves_of_leftoverSettings :
    let p : Path := ⟨"d/config.toml"⟩
    let configs (saver : Bool) : Config := if saver then .standard else ⟨"2.0", .standard⟩
    let steps : List (SaveStep Bool) := [.write false, .write true, .replace true, .replace false]
    (∃ files, SaveStep.act p configs (afterSteps p configs leftoverSettings [.write false, .write true])
        (.replace true) = .ok files ∧ load files p = .ok ⟨p, .standard⟩) ∧
      SaveStep.act p configs
          (afterSteps p configs leftoverSettings [.write false, .write true, .replace true]) (.replace false)
        = .error .noEntry ∧
      ¬∀ saver, Succeeds p configs leftoverSettings steps saver := by
  intro p configs steps
  have hsteps : Merge (stepsOf true) (stepsOf false) steps := .right (.left (.left (.right .nil)))
  obtain ⟨-, hmoved, hgone, happart⟩ :=
    saves_succeed_iff_apart isWritable_leftoverSettings configs hsteps
  refine ⟨hmoved [.write false] true true [.replace false] rfl,
    hgone [.write false, .write true] true false [] rfl, ?_⟩
  rw [happart]
  decide

theorem isWritable_empty : IsWritable .empty ⟨"c.toml"⟩ "c.toml" [] none :=
  isWritable_of_check (by decide +kernel) rfl nofun

/-- **Two saves that overlap.**  Both write before the first of them replaces the file, which then holds the
settings of the other one; and that one finds no temporary file any more. -/
theorem saves_overlapping :
    let p : Path := ⟨"c.toml"⟩
    let configs (saver : Bool) : Config := if saver then .standard else ⟨"2.0", .standard⟩
    let before : List (SaveStep Bool) := [.write true, .write false]
    Merge (stepsOf true) (stepsOf false) (before ++ [.replace true, .replace false]) ∧
      configs false ≠ configs true ∧
      ∃ files, SaveStep.act p configs (afterSteps p configs .empty before) (.replace true) = .ok files ∧
        load files p = .ok ⟨p, configs false⟩ ∧
        SaveStep.act p configs files (.replace false) = .error .noEntry := by
  intro p configs before
  have hbefore : before.getLast? = some (.write false) := rfl
  have hreplaced : (before ++ [SaveStep.replace true]).getLast? = some (.replace true) := rfl
  obtain ⟨files, hact, hload⟩ := act_replace_of_write isWritable_empty configs hbefore true
  have hgone := act_replace_of_replace isWritable_empty configs hreplaced false
  rw [afterSteps_concat, hact] at hgone
  exact ⟨.left (.right (.left (.right .nil))), by decide, files, hact, hload, hgone⟩

end Config

end ImportCensus
