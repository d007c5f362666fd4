/-
ImportCensus/Proofs/Program/Settings.lean

Settings that were loaded can be stored and shown.

What is read from a text may be larger than what the text says: settings that are left out, lists in the
place of tables and numbers in other notations all come to the same settings.  These have a text of their
own, from which they are read back, whatever the text was from which they were loaded.  So the same holds of
the file after they were saved (`IsWritable.save`), and of what is shown, in which the path of the file is a
comment in front of that text (`ofText_shownText`).

Main statement: what loads can be saved and shown, and both are read as the same settings
(`settings_kept_of_load`).
-/
import ImportCensus.Program.Run
import ImportCensus.Proofs.Config.Writable

namespace ImportCensus.Program

open CommandLine Config Text

variable {env : Environment} {arguments : List String} {file : Option Path} {p : Path} {stored : Stored}

/-- What is shown of settings: their text behind the path of their file. -/
def shownText (stored : Stored) : String :=
  "# " ++ stored.path.text ++ "\n" ++ stored.config.toText

/-- What is shown is read as the settings, unless the path of their file does not fit into a comment. -/
theorem ofText_shownText (h : ∀ c ∈ stored.path.text.toList, Toml.isRawControl c = false) :
    ofText (shownText stored) = .ok stored.config := by
  have hcomment : ∀ c ∈ (" " ++ stored.path.text).toList, Toml.isRawControl c = false := by
    rw [String.toList_append, List.forall_mem_append]
    exact ⟨by simp [Toml.isRawControl], h⟩
  have hshown : shownText stored = "#" ++ (" " ++ stored.path.text) ++ "\n" ++ stored.config.toText := by
    rw [shownText, ← String.append_assoc]
    rfl
  rw [hshown]
  exact ofText_behind_comment hcomment stored.config

/-- Settings are loaded from the file that the user names, or from the default one. -/
theorem loadOrStandard_of_load (hfile : settingsFile env file = .ok p)
    (hload : load env.files p = .ok stored) : loadOrStandard env.files env.home file = .ok stored := by
  cases file with
  | some path =>
    cases hfile
    exact hload
  | none =>
    rw [settingsFile] at hfile
    cases hdefault : defaultPath env.home with
    | error f =>
      rw [hdefault] at hfile
      cases hfile
    | ok path =>
      rw [hdefault] at hfile
      cases hfile
      simp only [loadOrStandard, hdefault, bind, Except.bind, hload]

/-- The run that shows settings shows those that are loaded. -/
theorem run_display (harguments : CommandLine.read arguments = .ok (.config .display file))
    (hfile : settingsFile env file = .ok p) (hload : load env.files p = .ok stored) :
    run env arguments = .printed env.files (shownText stored) "" := by
  simp only [run, harguments, perform, manageSettings, showSettings, loadOrStandard_of_load hfile hload]
  rfl

/-- **What loads can be saved and shown.**  Saving fails for no reason but one of the file system, and so it
succeeds where files can be written; then the file has a text that is read as the settings, and they are
loaded from it.  The run that shows them goes well, and what it shows is read as the settings as well, if the
path of their file may stand in a comment. -/
theorem settings_kept_of_load (harguments : CommandLine.read arguments = .ok (.config .display file))
    (hfile : settingsFile env file = .ok p) (hload : load env.files p = .ok stored) :
    (∀ fs fs' f, stored.save fs = (fs', .error f) → ∃ cause, f = .file cause) ∧
      (∀ fs name d pending, IsWritable fs p name d pending →
        ∃ files text, stored.save fs = (files, .ok ()) ∧ files.readText p = .ok text ∧
          ofText text = .ok stored.config ∧ load files p = .ok stored) ∧
      ∃ shown, run env arguments = .printed env.files ("# " ++ p.text ++ "\n" ++ shown) "" ∧
        ofText shown = .ok stored.config ∧
        ((∀ c ∈ p.text.toList, Toml.isRawControl c = false) →
          ofText ("# " ++ p.text ++ "\n" ++ shown) = .ok stored.config) := by
  obtain rfl : stored.path = p := path_of_load hload
  have htext : ofText stored.config.toText = .ok stored.config := by
    obtain ⟨item, hread, hitem⟩ := read_toText stored.config
    exact ofText_of_read hread hitem
  refine ⟨fun _ _ _ => exists_cause_of_save_error, ?saved, ?shown⟩
  case saved =>
    intro fs name d pending hfs
    obtain ⟨files, hsave, -, hholds⟩ := hfs.save stored.config
    exact ⟨files, stored.config.toText, hsave, hholds.readText, htext, hholds.load⟩
  case shown => exact ⟨stored.config.toText, run_display harguments hfile hload, htext, ofText_shownText⟩

/-- A file of settings in which a list stands in the place of a table, with the largest number. -/
def listedSettings : FileSystem :=
  ⟨.directory [("c.toml", .file (encode "registry = ['', '', 18446744073709551615]\n".toList))], []⟩

theorem isWritable_listedSettings : IsWritable listedSettings ⟨"c.toml"⟩ "c.toml" [] none := by
  refine isWritable_of_check (by decide +kernel) rfl ?_
  rintro m ⟨⟩
  rfl

theorem settings_kept_listedSettings :
    let stored : Stored := ⟨⟨"c.toml"⟩, ⟨"1.0", ⟨"", "", 18446744073709551615, 10, 30⟩⟩⟩
    let env : Environment := ⟨listedSettings, none, Registry.noTransport, false⟩
    load listedSettings stored.path = .ok stored ∧
      (∃ files text, stored.save listedSettings = (files, .ok ()) ∧
        files.readText stored.path = .ok text ∧ ofText text = .ok stored.config ∧
        load files stored.path = .ok stored) ∧
      ∃ shown, run env ["config", "show", "--config", "c.toml"]
          = .printed listedSettings ("# c.toml\n" ++ shown) "" ∧
        ofText ("# c.toml\n" ++ shown) = .ok stored.config := by
  intro stored env
  have hload : load listedSettings stored.path = .ok stored := by decide +kernel
  have harguments : CommandLine.read ["config", "show", "--config", "c.toml"]
      = .ok (.config .display (some stored.path)) := by decide +kernel
  have hfile : settingsFile env (some stored.path) = .ok stored.path := rfl
  obtain ⟨-, hsaved, shown, hshown, -, hread⟩ := settings_kept_of_load harguments hfile hload
  have hcomment : ∀ c ∈ "c.toml".toList, Toml.isRawControl c = false := by simp [Toml.isRawControl]
  exact ⟨hload, hsaved _ _ _ _ isWritable_listedSettings, shown, hshown, hread hcomment⟩

end ImportCensus.Program
