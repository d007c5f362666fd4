/-
ImportCensus/Proofs/Config/Store.lean

How the file of settings is replaced.

The file and the one that is written first are entries of one directory (`directory?_temporaryPath`), under
different names (`temporaryName_ne`).  Unless one of them is a link that leads elsewhere, writing changes
the one and moving puts it in the place of the other, and all ways through the hierarchy stay as they were.

Main statements: settings that were saved are held by their file (`Holds`), from which they are loaded
(`Holds.load`), and nothing else has changed (`of_save_ok`); saving that fails or breaks off has left the
file as it was (`of_save_error`, `contents_breakOff`).
-/
import ImportCensus.Config.Store
import ImportCensus.Proofs.Config.Format
import ImportCensus.Proofs.FileSystem.Make
import ImportCensus.Proofs.FileSystem.Removal
import ImportCensus.Proofs.Text.Utf8

namespace ImportCensus

open Text FileSystem

namespace Config

variable {fs fs' : FileSystem} {p : Path} {name : String} {d : Place} {bytes : Bytes} {stored : Stored}

/-! ### The temporary file -/

/-- The name of the file to which settings are written first. -/
def temporaryName (name : String) : String :=
  Path.stem name ++ "." ++ "toml.tmp"

/-- A name that ends like that of the temporary file has a longer temporary name. -/
theorem temporaryName_ne (name : String) : temporaryName name ≠ name := by
  intro heq
  have hpoint : temporaryName name = (Path.stem name ++ "." ++ "toml") ++ "." ++ "tmp" := by
    simp [temporaryName, String.append_assoc]
  have hfront : Path.stem name ++ "." ++ "toml" ≠ "" := by simp
  have hstem : Path.stem name = Path.stem name ++ "." ++ "toml" := by
    conv_lhs => rw [← heq, hpoint, Path.stem_append hfront (by decide)]
  have hlength := congrArg String.length hstem
  have hdot : ".".length = 1 := rfl
  simp only [String.length_append] at hlength
  omega

theorem endsIn_temporaryPath (hp : p.fileName? = some name) :
    (temporaryPath p).components = p.components.dropLast ++ [.name (temporaryName name)] ∧
      (temporaryPath p).EndsIn (temporaryName name) :=
  Path.endsIn_withExtension hp
    (Path.isEntryName_withExtension (Path.isEntryName_of_fileName? hp) (by decide)
      (by decide : 't' ∈ "toml.tmp".toList) (by decide))

/-- **The temporary file has another path.** -/
theorem same_temporaryPath (hp : p.fileName? = some name) : (temporaryPath p).same p = false := by
  rw [Path.same, (endsIn_temporaryPath hp).1]
  conv_lhs => rw [Path.components_of_fileName? hp, List.dropLast_concat]
  simpa using temporaryName_ne name

/-- The temporary file is in the directory of the file. -/
theorem directory?_temporaryPath (hp : p.fileName? = some name) (fs : FileSystem) :
    fs.directory? (temporaryPath p) = fs.directory? p := by
  obtain ⟨hcomponents, hends⟩ := endsIn_temporaryPath hp
  exact directory?_eq hends.fileName hp (by rw [hcomponents, List.dropLast_concat])

/-! ### Directories for the file -/

theorem parent?_of_fileName? (hp : p.fileName? = some name) :
    p.parent? = some (.ofComponents p.components.dropLast) := by
  rw [Path.parent?, Path.components_of_fileName? hp, List.getLast?_concat, List.dropLast_concat]

theorem prepare_eq (hp : p.fileName? = some name) (fs : FileSystem) :
    prepare fs p = fs.makeDirectories (.ofComponents p.components.dropLast) := by
  rw [prepare, parent?_of_fileName? hp]

theorem spellable_dropLast (hp : p.fileName? = some name) : Path.Spellable p.components.dropLast := by
  have hall := Path.spellable_components p
  rw [Path.components_of_fileName? hp] at hall
  exact hall.of_append

/-- Where the file has a directory, no other one is made. -/
theorem prepare_of_directory (hp : p.fileName? = some name) (hd : fs.directory? p = some d) :
    (prepare fs p).1 = fs := by
  rw [prepare_eq hp]
  exact makeDirectories_of_directory (Path.components_of_fileName? hp) hd

theorem prepare_prepare (hp : p.fileName? = some name) (fs : FileSystem) :
    (prepare (prepare fs p).1 p).1 = (prepare fs p).1 := by
  rw [prepare_eq hp, prepare_eq hp]
  exact makeDirectories_makeDirectories fs (spellable_dropLast hp)

/-- All that is made are directories above the file. -/
theorem grown_prepare (hp : p.fileName? = some name) (fs : FileSystem) :
    ∃ parent, p.parent? = some parent ∧
      Grown (ancestors parent.components.length parent) fs (prepare fs p).1 := by
  refine ⟨_, parent?_of_fileName? hp, ?_⟩
  rw [prepare_eq hp]
  exact grown_makeDirectories fs (spellable_dropLast hp)

/-! ### What is in a file -/

/-- The bytes of the file that a path leads to, if it leads to one. -/
def contents? (fs : FileSystem) (p : Path) : Option Bytes :=
  (fs.read p).toOption

/-- Is a file with these bytes the entry of the last name of a path in its directory? -/
structure Holds (fs : FileSystem) (p : Path) (name : String) (bytes : Bytes) : Prop where
  endsIn : p.EndsIn name
  text : checkText p = .ok ()
  size : name.utf8ByteSize ≤ nameLimit
  entry : ∃ d, fs.directory? p = some d ∧ fs.root.find? (d ++ [name]) = some (.file bytes)

theorem Holds.read (h : Holds fs p name bytes) : fs.read p = .ok bytes := by
  obtain ⟨d, hd, hentry⟩ := h.entry
  exact read_of_directory h.endsIn hd h.text h.size hentry

theorem readText_of_read {text : String} (h : fs.read p = .ok (encode text.toList)) :
    fs.readText p = .ok text := by
  simp only [FileSystem.readText, h, bind, Except.bind, decode?_encode, String.ofList_toList]
  rfl

theorem Holds.readText {text : String} (h : Holds fs p name (encode text.toList)) :
    fs.readText p = .ok text :=
  readText_of_read h.read

theorem path_of_load (h : load fs p = .ok stored) : stored.path = p := by
  rw [load] at h
  split at h
  · cases h
  · cases h
  · split at h
    · cases h
    · split at h
      · cases h
      · cases h
        rfl

/-- **Settings are loaded from a file with their text.** -/
theorem load_of_read {config : Config} (h : fs.read p = .ok (encode config.toText.toList)) :
    load fs p = .ok ⟨p, config⟩ := by
  obtain ⟨found, hlocate, -⟩ := exists_of_bind_ok h
  have hthere : fs.tryExists p = .ok true := by rw [tryExists, hlocate]
  have hsettings : ofText config.toText = .ok config := by
    obtain ⟨item, hitem, hdatum⟩ := read_toText config
    exact ofText_of_read hitem hdatum
  rw [load, hthere]
  simp only [readText_of_read h, hsettings]

theorem Holds.load {config : Config} (h : Holds fs p name (encode config.toText.toList)) :
    load fs p = .ok ⟨p, config⟩ :=
  load_of_read h.read

/-! ### Writing the temporary file -/

/-- Can the file of a path be replaced so that nothing else is written, and is it on its path then?  The
temporary file is not a link, and if the file itself is one, its directory is reached without this link. -/
structure IsReplaceable (fs : FileSystem) (p : Path) : Prop where
  temporary : fs.link? (temporaryPath p) = none
  link : ∀ place ∈ fs.link? p, (fs.dropAt place).directory? p = fs.directory? p

theorem isReplaceable_iff : IsReplaceable fs p ↔ fs.link? (temporaryPath p) = none ∧
    (fs.link? p).all fun place => (fs.dropAt place).directory? p = fs.directory? p := by
  rw [Option.all_eq_true]
  constructor
  · intro h
    exact ⟨h.temporary, fun place hplace => decide_eq_true (h.link place hplace)⟩
  · rintro ⟨htemporary, hlink⟩
    exact ⟨htemporary, fun place hplace => of_decide_eq_true (hlink place hplace)⟩

instance (fs : FileSystem) (p : Path) : Decidable (IsReplaceable fs p) :=
  decidable_of_iff _ isReplaceable_iff.symm

/-- Does a path lead to its temporary file, or to where that would be? -/
def LeadsToTemporary (fs : FileSystem) (p : Path) : Prop :=
  (fs.aim? true p).isSome = true ∧ fs.aim? true p = fs.aim? false (temporaryPath p)

instance (fs : FileSystem) (p : Path) : Decidable (LeadsToTemporary fs p) :=
  inferInstanceAs (Decidable (_ ∧ _))

/-- Is a file system another one with these bytes in the temporary file of a path? -/
structure Writes (fs : FileSystem) (p : Path) (name : String) (bytes : Bytes) (d : Place)
    (fs' : FileSystem) : Prop where
  directory : fs.directory? p = some d
  text : checkText (temporaryPath p) = .ok ()
  size : (temporaryName name).utf8ByteSize ≤ nameLimit
  loose : IsLoose fs.root (d ++ [temporaryName name])
  eq : fs' = fs.put d (temporaryName name) (.file bytes)

theorem exists_directory_of_write (hp : p.fileName? = some name)
    (h : fs.write (temporaryPath p) bytes = .ok fs') : ∃ d, fs.directory? p = some d := by
  obtain ⟨spot, hspot, -⟩ := exists_of_bind_ok h
  obtain ⟨d, hd, -⟩ := exists_directory (endsIn_temporaryPath hp).2.fileName hspot
  exact ⟨d, by rwa [directory?_temporaryPath hp] at hd⟩

theorem exists_writes (hp : p.fileName? = some name) (hfs : IsReplaceable (prepare fs p).1 p)
    (h : fs.write (temporaryPath p) bytes = .ok fs') :
    IsReplaceable fs p ∧ ∃ d, Writes fs p name bytes d fs' := by
  -- what can be written has a directory already, so nothing is made for it
  obtain ⟨above, habove⟩ := exists_directory_of_write hp h
  rw [prepare_of_directory hp habove] at hfs
  obtain ⟨d, hd, htext, hsize, hbefore, heq⟩ :=
    exists_of_write (endsIn_temporaryPath hp).2 hfs.temporary h
  rw [directory?_temporaryPath hp] at hd
  refine ⟨hfs, d, hd, htext, hsize, ?_, heq⟩
  rcases hbefore with hnone | ⟨before, hfile⟩
  · exact isLoose_of_none hnone
  · exact isLoose_of_file hfile

namespace Writes

variable {q : Place}

theorem isDirectoryAt (w : Writes fs p name bytes d fs') : fs.root.IsDirectoryAt d :=
  isDirectoryAt_of_directory? w.directory

theorem directory_after (w : Writes fs p name bytes d fs') : fs'.directory? p = some d := by
  rw [w.eq]
  exact directory?_persist (persists_put w.isDirectoryAt w.loose) rfl w.directory

theorem find?_temporary (w : Writes fs p name bytes d fs') :
    fs'.root.find? (d ++ [temporaryName name]) = some (.file bytes) := by
  rw [w.eq]
  exact find?_put w.isDirectoryAt []

/-- The entry of the file itself stays. -/
theorem find?_name (w : Writes fs p name bytes d fs') :
    fs'.root.find? (d ++ [name]) = fs.root.find? (d ++ [name]) := by
  rw [w.eq]
  exact find?_put_ne w.isDirectoryAt (temporaryName_ne name) []

theorem look_eq (w : Writes fs p name bytes d fs') (hq : q ≠ d ++ [temporaryName name]) :
    fs'.root.look q = fs.root.look q := by
  rw [w.eq]
  exact look_put_ne w.isDirectoryAt (fun m hm => (w.loose m hm).1) rfl hq

/-- The file itself is a link only if it was one. -/
theorem link?_eq (w : Writes fs p name bytes d fs') (hp : p.fileName? = some name) :
    fs'.link? p = fs.link? p := by
  have hsame : p.EndsIn name → ∀ place, fs'.link? p = some place ↔ fs.link? p = some place := by
    intro hends place
    rw [link?_eq_some_iff_of_directory hends w.directory_after,
      link?_eq_some_iff_of_directory hends w.directory, w.find?_name]
  apply Option.ext
  intro place
  exact ⟨fun h => (hsame (endsIn_of_link? hp h) place).1 h, fun h => (hsame (endsIn_of_link? hp h) place).2 h⟩

/-- Also without the file itself, directories and links stay. -/
theorem persists_dropped (w : Writes fs p name bytes d fs') :
    Persists (fs.drop d name).root (fs'.drop d name).root := by
  have hbefore := w.isDirectoryAt
  have hafter := isDirectoryAt_of_directory? w.directory_after
  apply persists_of_look [d ++ [temporaryName name]]
  · rw [List.forall_mem_singleton]
    intro m hm
    rw [find?_drop_ne hbefore (temporaryName_ne name).symm []] at hm
    exact w.loose m hm
  · intro q hq
    rw [List.forall_mem_singleton] at hq
    by_cases hbelow : d ++ [name] <+: q
    · obtain ⟨rest, rfl⟩ := hbelow
      rw [List.append_assoc, List.singleton_append, Node.look_eq_none.2 (find?_drop hbefore rest),
        Node.look_eq_none.2 (find?_drop hafter rest)]
    · rw [look_drop hbefore hbelow, look_drop hafter hbelow, w.eq, look_put hbefore hq]

/-- The way to the directory still does not need the link. -/
theorem isReplaceable (w : Writes fs p name bytes d fs') (hp : p.fileName? = some name)
    (hfs : IsReplaceable fs p) : IsReplaceable fs' p where
  temporary := by
    have hd := (directory?_temporaryPath hp fs').trans w.directory_after
    apply link?_eq_none_of_directory (endsIn_temporaryPath hp).2 hd
    rw [w.find?_temporary]
    simp
  link place hplace := by
    rw [w.link?_eq hp] at hplace
    have hdropped := hfs.link place hplace
    obtain ⟨-, -, -, -, rfl⟩ :=
      (link?_eq_some_iff_of_directory (endsIn_of_link? hp hplace) w.directory).1 hplace
    rw [dropAt_concat, w.directory] at hdropped
    rw [dropAt_concat, w.directory_after]
    exact directory?_persist w.persists_dropped (by simp [w.eq]) hdropped

theorem holds_iff (w : Writes fs p name bytes d fs') {others : Bytes} :
    Holds fs' p name others ↔ Holds fs p name others := by
  constructor
  · rintro ⟨hends, htext, hsize, d', hd', hentry⟩
    rw [w.directory_after] at hd'
    cases hd'
    rw [w.find?_name] at hentry
    exact ⟨hends, htext, hsize, d, w.directory, hentry⟩
  · rintro ⟨hends, htext, hsize, d', hd', hentry⟩
    rw [w.directory] at hd'
    cases hd'
    rw [← w.find?_name] at hentry
    exact ⟨hends, htext, hsize, d, w.directory_after, hentry⟩

/-- The temporary file is, or would be, in the directory of the file. -/
theorem aim?_temporary (w : Writes fs p name bytes d fs') (hp : p.fileName? = some name) :
    fs.aim? false (temporaryPath p) = some (d ++ [temporaryName name]) := by
  have hends := (endsIn_temporaryPath hp).2
  have hd := (directory?_temporaryPath hp fs).trans w.directory
  rw [aim?_eq_some_iff]
  cases hbefore : fs.root.find? (d ++ [temporaryName name]) with
  | none => exact ⟨_, (spot_false_iff hends hd).2 ⟨w.text, w.size, .inl ⟨hbefore, rfl⟩⟩, rfl⟩
  | some m => exact ⟨_, (spot_false_iff hends hd).2 ⟨w.text, w.size, .inr ⟨m, hbefore, rfl⟩⟩, rfl⟩

/-- What is read at the path does not change, unless it leads to the temporary file. -/
theorem contents_eq (w : Writes fs p name bytes d fs') (hp : p.fileName? = some name)
    (hleads : ¬LeadsToTemporary fs p) : contents? fs' p = contents? fs p := by
  have hcurrent : fs'.current = fs.current := by simp [w.eq]
  have haim : fs.aim? true p ≠ some (d ++ [temporaryName name]) := fun h =>
    hleads ⟨by simp [h], h.trans (w.aim?_temporary hp).symm⟩
  apply Option.ext
  intro others
  rw [contents?, contents?, toOption_eq_some_iff, toOption_eq_some_iff]
  exact read_elsewhere hcurrent w.loose w.find?_temporary (fun _ => w.look_eq) haim

/-! ### Moving the temporary file -/

/-- If the temporary file cannot take the place of the file, there is no file that can be read, neither
before nor afterwards. -/
theorem contents_eq_of_rename {e : FileError} (w : Writes fs p name bytes d fs')
    (hp : p.fileName? = some name) (h : fs'.rename (temporaryPath p) p = .error e) :
    contents? fs' p = contents? fs p := by
  have hends := (endsIn_temporaryPath hp).2
  have hsource := (directory?_temporaryPath hp fs').trans w.directory_after
  -- where a file can be read, there is a name that the temporary file could have taken
  have hnot : ∀ m, p.EndsIn name → checkText p = .ok () → name.utf8ByteSize ≤ nameLimit →
      fs'.root.find? (d ++ [name]) = some m → m.isDirectory = true := by
    intro m hname htext hsize hentry
    by_contra hm
    have hreplace : ∀ m, fs'.root.find? (d ++ [name]) = some m → m.isDirectory = false := by
      intro m' hm'
      rw [hentry] at hm'
      cases hm'
      simpa using hm
    rw [rename_eq hends hname hsource w.directory_after (temporaryName_ne name) w.text w.size
      w.find?_temporary rfl htext hsize hreplace] at h
    cases h
  have hunread : ∀ {files}, files.directory? p = some d →
      files.root.find? (d ++ [name]) = fs'.root.find? (d ++ [name]) → contents? files p = none := by
    intro files hdirectory hfind
    rw [Option.eq_none_iff_forall_ne_some]
    intro others hothers
    obtain ⟨hname, htext, hsize, d', m, hd', hentry, hm⟩ :=
      exists_directory_of_read hp (toOption_eq_some_iff.1 hothers)
    rw [hdirectory] at hd'
    cases hd'
    rw [hfind] at hentry
    rw [hnot m hname htext hsize hentry] at hm
    cases hm
  rw [hunread w.directory_after rfl, hunread w.directory w.find?_name.symm]

end Writes

/-- Is a file system another one after the temporary file of a path has taken the place of its file? -/
structure Moves (fs : FileSystem) (p : Path) (name : String) (bytes : Bytes) (d : Place)
    (fs' : FileSystem) : Prop where
  directory : fs.directory? p = some d
  source : fs.root.find? (d ++ [temporaryName name]) = some (.file bytes)
  text : checkText (temporaryPath p) = .ok ()
  size : (temporaryName name).utf8ByteSize ≤ nameLimit
  endsIn : p.EndsIn name
  target_text : checkText p = .ok ()
  target_size : name.utf8ByteSize ≤ nameLimit
  not_directory : ∀ m, fs.root.find? (d ++ [name]) = some m → m.isDirectory = false
  eq : fs' = (fs.drop d (temporaryName name)).put d name (.file bytes)

theorem Writes.moves {written : FileSystem} (w : Writes fs p name bytes d written)
    (hp : p.fileName? = some name) (h : written.rename (temporaryPath p) p = .ok fs') :
    Moves written p name bytes d fs' := by
  have hsource := (directory?_temporaryPath hp written).trans w.directory_after
  obtain ⟨hends, htext, hsize, hnot, heq⟩ := exists_of_rename (endsIn_temporaryPath hp).2 hp hsource
    w.directory_after (temporaryName_ne name) w.find?_temporary rfl h
  exact ⟨w.directory_after, w.find?_temporary, w.text, w.size, hends, htext, hsize, hnot, heq⟩

namespace Moves

variable {q : Place}

theorem isDirectoryAt (w : Moves fs p name bytes d fs') : fs.root.IsDirectoryAt d :=
  isDirectoryAt_of_directory? w.directory

/-- The hierarchy without the temporary file has the same directories and links. -/
theorem persists_source (w : Moves fs p name bytes d fs') :
    Persists fs.root (fs.drop d (temporaryName name)).root :=
  persists_drop w.isDirectoryAt (isLoose_of_file w.source)

theorem isDirectoryAt_source (w : Moves fs p name bytes d fs') :
    (fs.drop d (temporaryName name)).root.IsDirectoryAt d :=
  w.persists_source.directory w.isDirectoryAt

/-- What was in the place of the file is no directory. -/
theorem not_directory_source (w : Moves fs p name bytes d fs') :
    ∀ m, (fs.drop d (temporaryName name)).root.find? (d ++ [name]) = some m → m.isDirectory = false := by
  intro m hm
  rw [find?_drop_ne w.isDirectoryAt (temporaryName_ne name) []] at hm
  exact w.not_directory m hm

theorem find?_name (w : Moves fs p name bytes d fs') :
    fs'.root.find? (d ++ [name]) = some (.file bytes) := by
  rw [w.eq]
  exact find?_put w.isDirectoryAt_source []

theorem find?_temporary (w : Moves fs p name bytes d fs') :
    fs'.root.find? (d ++ [temporaryName name]) = none := by
  rw [w.eq, find?_put_ne w.isDirectoryAt_source (temporaryName_ne name).symm []]
  exact find?_drop w.isDirectoryAt []

/-- Nothing but the two files looks different. -/
theorem look_eq (w : Moves fs p name bytes d fs') (hname : q ≠ d ++ [name])
    (htemporary : q ≠ d ++ [temporaryName name]) : fs'.root.look q = fs.root.look q := by
  have hfile : ∀ m, fs.root.find? (d ++ [temporaryName name]) = some m → m.isDirectory = false :=
    fun m hm => (isLoose_of_file w.source m hm).1
  rw [w.eq, look_put_ne w.isDirectoryAt_source w.not_directory_source rfl hname,
    look_drop_ne w.isDirectoryAt hfile htemporary]

/-- But for what was in the place of the file, directories and links stay. -/
theorem persists_dropped (w : Moves fs p name bytes d fs') : Persists (fs.drop d name).root fs'.root := by
  have hdirectory := w.isDirectoryAt
  apply persists_of_look [d ++ [temporaryName name], d ++ [name]]
  · rw [List.forall_mem_cons, List.forall_mem_singleton]
    constructor
    · intro m hm
      rw [find?_drop_ne hdirectory (temporaryName_ne name).symm []] at hm
      exact isLoose_of_file w.source m hm
    · exact isLoose_of_none (find?_drop hdirectory [])
  · intro q hq
    rw [List.forall_mem_cons, List.forall_mem_singleton] at hq
    obtain ⟨htemporary, hname⟩ := hq
    rw [w.eq, look_put w.isDirectoryAt_source hname, look_drop hdirectory htemporary,
      look_drop hdirectory hname]

/-- The directory of the file is the same as before, as it is reached without what was replaced. -/
theorem directory_after (w : Moves fs p name bytes d fs') (hfs : IsReplaceable fs p) :
    fs'.directory? p = some d := by
  have hwithout : (fs.drop d name).directory? p = some d := by
    by_cases hlink : ∃ target, fs.root.find? (d ++ [name]) = some (.link target)
    · obtain ⟨target, hentry⟩ := hlink
      have hplace : fs.link? p = some (d ++ [name]) :=
        (link?_eq_some_iff_of_directory w.endsIn w.directory).2
          ⟨w.target_text, w.target_size, target, hentry, rfl⟩
      rw [← dropAt_concat, hfs.link _ hplace, w.directory]
    · -- no way passes what is neither a directory nor a link
      have hloose : IsLoose fs.root (d ++ [name]) := by
        intro m hm
        refine ⟨w.not_directory m hm, ?_⟩
        rintro target rfl
        exact hlink ⟨target, hm⟩
      exact directory?_persist (persists_drop w.isDirectoryAt hloose) rfl w.directory
  exact directory?_persist w.persists_dropped (by simp [w.eq]) hwithout

theorem holds (w : Moves fs p name bytes d fs') (hfs : IsReplaceable fs p) : Holds fs' p name bytes :=
  ⟨w.endsIn, w.target_text, w.target_size, d, w.directory_after hfs, w.find?_name⟩

/-- A file that has been replaced can be replaced again. -/
theorem isReplaceable (w : Moves fs p name bytes d fs') (hp : p.fileName? = some name)
    (hfs : IsReplaceable fs p) : IsReplaceable fs' p where
  temporary := by
    have hd := (directory?_temporaryPath hp fs').trans (w.directory_after hfs)
    apply link?_eq_none_of_directory (endsIn_temporaryPath hp).2 hd
    rw [w.find?_temporary]
    simp
  link := by
    have hnone : fs'.link? p = none := by
      apply link?_eq_none_of_directory w.endsIn (w.directory_after hfs)
      rw [w.find?_name]
      simp
    simp [hnone]

end Moves

/-! ### Saving -/

/-- Is a file system another one with the file of a path replaced?  The temporary file is not there any
more, and nothing looks different but the entry of the file and the place of the temporary one. -/
structure Replaces (p : Path) (before after : FileSystem) : Prop where
  temporary : after.tryExists (temporaryPath p) = .ok false
  current : after.current = before.current
  others : ∃ d name other bytes,
    after.spot false p = .ok (.found (d ++ [name]) (.file bytes)) ∧
      after.spot false (temporaryPath p) = .ok (.vacant d other false) ∧
      ∀ q, q ≠ d ++ [name] → q ≠ d ++ [other] → after.root.look q = before.root.look q

theorem Moves.replaces {written : FileSystem} (m : Moves written p name bytes d fs')
    (w : Writes fs p name bytes d written) (hp : p.fileName? = some name)
    (hfs : IsReplaceable written p) : Replaces p fs fs' := by
  have hends := (endsIn_temporaryPath hp).2
  have hd := m.directory_after hfs
  have hd' := (directory?_temporaryPath hp fs').trans hd
  refine ⟨?_, by rw [m.eq, w.eq]; rfl, d, name, temporaryName name, bytes, ?_, ?_, ?_⟩
  · rw [tryExists, locate, spot_true_eq_vacant hends hd' m.text m.size m.find?_temporary]
    rfl
  · exact (spot_false_iff m.endsIn hd).2 ⟨m.target_text, m.target_size, .inr ⟨_, m.find?_name, rfl⟩⟩
  · exact (spot_false_iff hends hd').2 ⟨m.text, m.size, .inl ⟨m.find?_temporary, rfl⟩⟩
  · intro q hname htemporary
    rw [m.look_eq hname htemporary, w.look_eq htemporary]

/-- Does a file system stay one in which the file of a path can be replaced, and does the file keep what it
holds? -/
structure Keeps (p : Path) (name : String) (fs fs' : FileSystem) : Prop where
  replaceable : IsReplaceable (prepare fs' p).1 p
  holds : ∀ bytes, Holds fs p name bytes → Holds fs' p name bytes

theorem Writes.keeps (w : Writes fs p name bytes d fs') (hp : p.fileName? = some name)
    (hfs : IsReplaceable fs p) : Keeps p name fs fs' where
  replaceable := by
    rw [prepare_of_directory hp w.directory_after]
    exact w.isReplaceable hp hfs
  holds _ := w.holds_iff.2

theorem keeps_prepare (hp : p.fileName? = some name) (hfs : IsReplaceable (prepare fs p).1 p) :
    Keeps p name fs (prepare fs p).1 where
  replaceable := by rwa [prepare_prepare hp]
  holds others h := by
    obtain ⟨d, hd, -⟩ := h.entry
    rwa [prepare_of_directory hp hd]

/-- What can be read can still be read when the directories for the file are made. -/
theorem contents_prepare (hp : p.fileName? = some name) (h : contents? fs p = some bytes) :
    contents? (prepare fs p).1 p = some bytes := by
  obtain ⟨-, -, -, d, m, hd, -⟩ := exists_directory_of_read hp (toOption_eq_some_iff.1 h)
  rwa [prepare_of_directory hp hd]

/-- Saving that succeeds has written the temporary file and moved it. -/
theorem exists_of_save_ok (hs : stored.path = p) (h : stored.save fs = (fs', .ok ())) :
    ∃ written, fs.write (temporaryPath p) (encode stored.config.toText.toList) = .ok written ∧
      written.rename (temporaryPath p) p = .ok fs' := by
  subst hs
  unfold Stored.save at h
  split at h
  · cases h
  · next written hwritten =>
    split at h
    · cases h
    · next replaced hreplaced =>
      cases h
      exact ⟨written, hwritten, hreplaced⟩

/-- Saving that fails has changed nothing, or it has written the temporary file. -/
theorem exists_of_save_error {f : Failure} (hs : stored.path = p) (h : stored.save fs = (fs', .error f)) :
    fs' = fs ∨ ∃ e, fs.write (temporaryPath p) (encode stored.config.toText.toList) = .ok fs' ∧
      fs'.rename (temporaryPath p) p = .error e := by
  subst hs
  unfold Stored.save at h
  split at h
  · cases h
    exact .inl rfl
  · next written hwritten =>
    split at h
    · next e hfailed =>
      cases h
      exact .inr ⟨e, hwritten, hfailed⟩
    · cases h

/-- Nothing but the file system keeps settings from being saved. -/
theorem exists_cause_of_save_error {f : Failure} (h : stored.save fs = (fs', .error f)) :
    ∃ cause, f = .file cause := by
  unfold Stored.save at h
  split at h
  · next cause _ =>
    cases h
    exact ⟨cause, rfl⟩
  · split at h
    · next cause _ =>
      cases h
      exact ⟨cause, rfl⟩
    · cases h

/-- **What saving settings does.**  Their file holds them and can be replaced again, and nothing else has
changed. -/
theorem of_save_ok (hp : p.fileName? = some name) (hfs : IsReplaceable (prepare fs p).1 p)
    (hs : stored.path = p) (h : stored.save fs = (fs', .ok ())) :
    IsReplaceable (prepare fs' p).1 p ∧ Holds fs' p name (encode stored.config.toText.toList) ∧
      Replaces p fs fs' := by
  obtain ⟨written, hwritten, hreplaced⟩ := exists_of_save_ok hs h
  obtain ⟨hbefore, d, w⟩ := exists_writes hp hfs hwritten
  have hafter := w.isReplaceable hp hbefore
  have m := w.moves hp hreplaced
  refine ⟨?_, m.holds hafter, m.replaces w hp hafter⟩
  rw [prepare_of_directory hp (m.directory_after hafter)]
  exact m.isReplaceable hp hafter

/-- **Saving that fails leaves the file as it was.** -/
theorem of_save_error {f : Failure} (hp : p.fileName? = some name)
    (hfs : IsReplaceable (prepare fs p).1 p) (hs : stored.path = p)
    (h : stored.save fs = (fs', .error f)) :
    Keeps p name fs fs' ∧ contents? fs' p = contents? fs p := by
  rcases exists_of_save_error hs h with rfl | ⟨e, hwritten, hfailed⟩
  · exact ⟨⟨hfs, fun _ => id⟩, rfl⟩
  · obtain ⟨hbefore, d, w⟩ := exists_writes hp hfs hwritten
    exact ⟨w.keeps hp hbefore, w.contents_eq_of_rename hp hfailed⟩

/-! ### Breaking off -/

/-- Saving that breaks off before the temporary file takes the place of the file, perhaps after it wrote
these bytes. -/
def breakOff (fs : FileSystem) (p : Path) (written : Option Bytes) : FileSystem :=
  (written.bind fun bytes => (fs.write (temporaryPath p) bytes).toOption).getD fs

theorem breakOff_eq (fs : FileSystem) (p : Path) (written : Option Bytes) :
    breakOff fs p written = fs ∨ ∃ bytes, fs.write (temporaryPath p) bytes = .ok (breakOff fs p written) := by
  rw [breakOff]
  cases hwritten : written.bind fun bytes => (fs.write (temporaryPath p) bytes).toOption with
  | none => exact .inl rfl
  | some files =>
    obtain ⟨bytes, -, hbytes⟩ := Option.bind_eq_some_iff.1 hwritten
    exact .inr ⟨bytes, toOption_eq_some_iff.1 hbytes⟩

theorem keeps_breakOff (hp : p.fileName? = some name) (hfs : IsReplaceable (prepare fs p).1 p)
    (written : Option Bytes) : Keeps p name fs (breakOff fs p written) := by
  rcases breakOff_eq fs p written with heq | ⟨bytes, hbytes⟩
  · rw [heq]
    exact ⟨hfs, fun _ => id⟩
  · obtain ⟨hbefore, d, w⟩ := exists_writes hp hfs hbytes
    exact w.keeps hp hbefore

/-- **Saving that breaks off leaves the file as it was**, unless that is a link to the temporary file. -/
theorem contents_breakOff (hp : p.fileName? = some name) (hfs : IsReplaceable (prepare fs p).1 p)
    (hleads : ¬LeadsToTemporary fs p) (written : Option Bytes) :
    contents? (breakOff fs p written) p = contents? fs p := by
  rcases breakOff_eq fs p written with heq | ⟨bytes, hbytes⟩
  · rw [heq]
  · obtain ⟨hbefore, d, w⟩ := exists_writes hp hfs hbytes
    exact w.contents_eq hp hleads

/-! ### Making the file -/

/-- Making the file that succeeds has saved the standard settings where the directories for it were made. -/
theorem save_of_init_ok (h : init fs p = (fs', .ok stored)) :
    stored = ⟨p, .standard⟩ ∧ stored.save (prepare fs p).1 = (fs', .ok ()) := by
  rw [init] at h
  split at h
  · cases h
  · next prepared u hprepared =>
    dsimp only at h
    split at h
    · cases h
    · next replaced u' hsaved =>
      cases h
      rw [hprepared]
      exact ⟨rfl, hsaved⟩

/-- Making the file that fails has made directories for it, and perhaps it has failed to save the standard
settings there. -/
theorem save_of_init_error {f : Failure} (h : init fs p = (fs', .error f)) :
    fs' = (prepare fs p).1 ∨
      Stored.save ⟨p, .standard⟩ (prepare fs p).1 = (fs', .error f) := by
  rw [init] at h
  split at h
  · next prepared e hprepared =>
    cases h
    rw [hprepared]
    exact .inl rfl
  · next prepared u hprepared =>
    dsimp only at h
    split at h
    · next failed f' hsaved =>
      cases h
      rw [hprepared]
      exact .inr hsaved
    · cases h

end Config

end ImportCensus
