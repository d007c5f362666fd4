/-
ImportCensus/Proofs/Config/Standard.lean

What is loaded after settings were saved, and what if there is no file.

The file of the settings may be a link, and so may be the one that is written first.  When this has taken the
place of the file, the path may lead nowhere: a link then leads back to itself, or the directory of the file
was reached through what has been replaced.  But it leads to nothing else than what was written, so that
settings that can be loaded are those that were saved.

Main statements: settings that were saved are loaded, if their path leads anywhere (`load_of_save_ok`), and
the standard settings take the place of a file only if there is none (`fallsBack`).
-/
import ImportCensus.Proofs.Config.Store
import ImportCensus.Proofs.FileSystem.Moved

namespace ImportCensus

open Text FileSystem

namespace Config

variable {fs fs' : FileSystem} {p : Path} {q : Place} {n : Node} {stored : Stored}

/-! ### Saving -/

/-- Only a path with a last name can be saved to. -/
theorem exists_fileName_of_write {bytes : Bytes} (h : fs.write (temporaryPath p) bytes = .ok fs') :
    ∃ name, p.fileName? = some name := by
  cases hname : p.fileName? with
  | some name => exact ⟨name, rfl⟩
  | none =>
    -- then the temporary file would be the file itself, and such a path leads to a directory if anywhere
    have hpath : temporaryPath p = p := by rw [temporaryPath, Path.withExtension, hname]
    rw [hpath] at h
    obtain ⟨spot, hspot, hwritten⟩ := exists_of_bind_ok h
    obtain ⟨q, entries, rfl⟩ := exists_directory_of_nameless hname hspot
    cases hwritten

/-- After saving, a path that leads anywhere leads to what was written. -/
theorem locate_of_save_ok (hs : stored.path = p) (h : stored.save fs = (fs', .ok ()))
    (hthere : fs'.locate p = .ok (q, n)) : n = .file (encode stored.config.toText.toList) := by
  obtain ⟨written, hwrite, hrename⟩ := exists_of_save_ok hs h
  obtain ⟨name, hp⟩ := exists_fileName_of_write hwrite
  obtain ⟨place, hlocate⟩ := locate_of_write hwrite
  -- the temporary file is an entry of the directory in which the file is, and this entry is moved
  obtain ⟨hends, -, -, d, m, hd, hsource, hm⟩ :=
    exists_directory_of_locate (endsIn_temporaryPath hp).2.fileName hlocate rfl
  have hdp : written.directory? p = some d := by rwa [directory?_temporaryPath hp] at hd
  obtain ⟨hname, -, -, hentry, rfl⟩ :=
    exists_of_rename hends hp hd hdp (temporaryName_ne name) hsource hm hrename
  have hmoved := isMoved_drop_put (isDirectoryAt_of_directory? hd) (temporaryName_ne name) hm hsource hentry
  exact hmoved.locate_unique rfl hends hname hd hdp rfl hlocate hthere

/-- **Settings that were saved are loaded**, if the path of their file leads anywhere. -/
theorem load_of_save_ok (h : stored.save fs = (fs', .ok ())) (hthere : fs'.has stored.path = true) :
    load fs' stored.path = .ok stored := by
  obtain ⟨q, n, hlocate⟩ := has_eq_true_iff.1 hthere
  obtain rfl := locate_of_save_ok rfl h hlocate
  apply load_of_read
  rw [FileSystem.read, hlocate]
  rfl

/-! ### Making the file -/

/-- The standard settings are loaded from a file that was made, if its path leads anywhere. -/
theorem load_of_init_ok (h : init fs p = (fs', .ok stored)) (hthere : fs'.has p = true) :
    load fs' p = .ok ⟨p, .standard⟩ := by
  obtain ⟨rfl, hsave⟩ := save_of_init_ok h
  exact load_of_save_ok hsave hthere

/-- The path of a file that was made leads to it, if nothing but the file and the temporary one is replaced. -/
theorem has_of_init_ok (hfs : IsReplaceable (prepare fs p).1 p) (h : init fs p = (fs', .ok stored)) :
    fs'.has p = true := by
  obtain ⟨rfl, hsave⟩ := save_of_init_ok h
  obtain ⟨written, hwrite, -⟩ := exists_of_save_ok rfl hsave
  obtain ⟨name, hp⟩ := exists_fileName_of_write hwrite
  -- what has been prepared needs no more preparation
  rw [← prepare_prepare hp] at hfs
  obtain ⟨-, hholds, -⟩ := of_save_ok hp hfs rfl hsave
  obtain ⟨⟨q, n⟩, hlocate, -⟩ := exists_of_bind_ok hholds.read
  exact has_eq_true_iff.2 ⟨q, n, hlocate⟩

/-! ### Without a file -/

variable {home : Option Path}

/-- Do the standard settings take the place of the default file only if there is none? -/
structure FallsBack (fs : FileSystem) (home : Option Path) (p : Path) : Prop where
  absent : fs.tryExists p = .ok false → loadOrStandard fs home none = .ok ⟨p, .standard⟩
  /-- In any other case the file is loaded, or it is told why it is not. -/
  present : fs.tryExists p ≠ .ok false → loadOrStandard fs home none = load fs p
  /-- What stands in the way of the file is told. -/
  blocked : ∀ cause, fs.tryExists p = .error cause → loadOrStandard fs home none = .error (.file cause)
  /-- What is wrong in the file is told. -/
  malformed : ∀ contents fault, fs.readText p = .ok contents → ofText contents = .error fault →
    loadOrStandard fs home none = .error (.text contents fault)

theorem load_of_absent (h : fs.tryExists p = .ok false) : load fs p = .error (.notFound p) := by
  rw [load, h]

theorem load_of_blocked {cause : FileError} (h : fs.tryExists p = .error cause) :
    load fs p = .error (.file cause) := by
  rw [load, h]

theorem load_of_malformed {contents : String} {fault : TextFault} (h : fs.readText p = .ok contents)
    (hfault : ofText contents = .error fault) : load fs p = .error (.text contents fault) := by
  obtain ⟨bytes, hread, -⟩ := exists_of_bind_ok h
  obtain ⟨found, hlocate, -⟩ := exists_of_bind_ok hread
  have hthere : fs.tryExists p = .ok true := by rw [tryExists, hlocate]
  rw [load, hthere]
  simp only [h, hfault]

/-- Only where there is no file, none is found. -/
theorem tryExists_of_notFound {other : Path} (h : load fs p = .error (.notFound other)) :
    fs.tryExists p = .ok false := by
  rw [load] at h
  split at h
  · cases h
  · assumption
  · split at h
    · cases h
    · split at h <;> cases h

theorem loadOrStandard_of_present (hp : defaultPath home = .ok p) (h : fs.tryExists p ≠ .ok false) :
    loadOrStandard fs home none = load fs p := by
  simp only [loadOrStandard, hp, bind, Except.bind]
  split
  · next other hnone => exact absurd (tryExists_of_notFound hnone) h
  · rfl

/-- **The standard settings take the place of the default file only if there is none.** -/
theorem fallsBack (fs : FileSystem) (hp : defaultPath home = .ok p) : FallsBack fs home p where
  absent h := by
    simp only [loadOrStandard, hp, bind, Except.bind, load_of_absent h]
    rfl
  present := loadOrStandard_of_present hp
  blocked cause h := by
    rw [loadOrStandard_of_present hp (by simp [h]), load_of_blocked h]
  malformed contents fault h hfault := by
    have hload := load_of_malformed h hfault
    rw [loadOrStandard_of_present hp, hload]
    intro habsent
    rw [load_of_absent habsent] at hload
    cases hload

end Config

end ImportCensus
