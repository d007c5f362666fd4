/-
ImportCensus/Proofs/Config/Writable.lean

Where settings can be saved.

A file can be saved if its directory is there, no name or path is too long, and there is no directory in its
place and at most a file in that of the temporary one (`IsWritable`).  There both steps of saving do what
they are to do, as long as the temporary file is there for the second one; and the place stays one where
settings can be saved.

Main statement: saving succeeds there, and the file holds the settings (`IsWritable.save`).
-/
import ImportCensus.Proofs.Config.Store

namespace ImportCensus

open Text FileSystem

namespace Config

variable {fs fs' : FileSystem} {p : Path} {name : String} {d : Place} {bytes : Bytes}
  {pending : Option Bytes}

/-- Can the file of a path be saved in this directory, and is this what the temporary file holds, if it is
there? -/
structure IsWritable (fs : FileSystem) (p : Path) (name : String) (d : Place) (pending : Option Bytes) :
    Prop where
  replaceable : IsReplaceable fs p
  endsIn : p.EndsIn name
  directory : fs.directory? p = some d
  text : checkText p = .ok ()
  size : name.utf8ByteSize ≤ nameLimit
  temporary_text : checkText (temporaryPath p) = .ok ()
  temporary_size : (temporaryName name).utf8ByteSize ≤ nameLimit
  temporary : fs.root.find? (d ++ [temporaryName name]) = pending.map .file
  not_directory : ∀ m, fs.root.find? (d ++ [name]) = some m → m.isDirectory = false

/-- Everything but what stands at the places of the two files can be computed. -/
theorem isWritable_of_check
    (h : IsReplaceable fs p ∧ p.fileName? = some name ∧ (split '/' p.text.toList).getLast? = some name.toList ∧
      fs.directory? p = some d ∧ checkText p = .ok () ∧ name.utf8ByteSize ≤ nameLimit ∧
      checkText (temporaryPath p) = .ok () ∧ (temporaryName name).utf8ByteSize ≤ nameLimit)
    (htemporary : fs.root.find? (d ++ [temporaryName name]) = pending.map .file)
    (hnot : ∀ m, fs.root.find? (d ++ [name]) = some m → m.isDirectory = false) :
    IsWritable fs p name d pending := by
  obtain ⟨hreplaceable, hfile, hlast, hd, htext, hsize, htext', hsize'⟩ := h
  exact ⟨hreplaceable, ⟨hfile, hlast⟩, hd, htext, hsize, htext', hsize', htemporary, hnot⟩

/-- Saving succeeds just if both of its steps do, one after the other. -/
theorem save_eq_ok_iff {stored : Stored} : stored.save fs = (fs', .ok ()) ↔
    ∃ written, stored.writeTemporary fs = .ok written ∧ stored.replaceFile written = .ok fs' := by
  constructor
  · intro h
    exact exists_of_save_ok rfl h
  · rintro ⟨written, hwritten, hreplaced⟩
    simp only [Stored.save, hwritten, hreplaced]

namespace IsWritable

theorem temporary_endsIn (h : IsWritable fs p name d pending) :
    (temporaryPath p).EndsIn (temporaryName name) :=
  (endsIn_temporaryPath h.endsIn.fileName).2

/-- Both files are in one directory. -/
theorem temporary_directory (h : IsWritable fs p name d pending) :
    fs.directory? (temporaryPath p) = some d :=
  (directory?_temporaryPath h.endsIn.fileName fs).trans h.directory

/-! ### The first step -/

/-- The temporary file can be written, whether it is there or not. -/
theorem exists_writes (h : IsWritable fs p name d pending) (bytes : Bytes) :
    ∃ fs', fs.write (temporaryPath p) bytes = .ok fs' ∧ Writes fs p name bytes d fs' := by
  cases pending with
  | none =>
    have hentry : fs.root.find? (d ++ [temporaryName name]) = none := h.temporary
    have hspot := spot_true_eq_vacant h.temporary_endsIn h.temporary_directory h.temporary_text
      h.temporary_size hentry
    refine ⟨fs.put d (temporaryName name) (.file bytes), ?_, h.directory, h.temporary_text,
      h.temporary_size, isLoose_of_none hentry, rfl⟩
    rw [FileSystem.write, hspot]
    rfl
  | some before =>
    have hentry : fs.root.find? (d ++ [temporaryName name]) = some (.file before) := h.temporary
    have hspot := spot_true_eq_found h.temporary_endsIn h.temporary_directory h.temporary_text
      h.temporary_size hentry nofun
    refine ⟨fs.put d (temporaryName name) (.file bytes), ?_, h.directory, h.temporary_text,
      h.temporary_size, isLoose_of_file hentry, rfl⟩
    rw [FileSystem.write, hspot, ← putAt_concat]
    rfl

/-- Then the temporary file holds what was written, and the other file is as it was. -/
theorem of_writes (h : IsWritable fs p name d pending) (w : Writes fs p name bytes d fs') :
    IsWritable fs' p name d (some bytes) where
  replaceable := w.isReplaceable h.endsIn.fileName h.replaceable
  endsIn := h.endsIn
  directory := w.directory_after
  text := h.text
  size := h.size
  temporary_text := h.temporary_text
  temporary_size := h.temporary_size
  temporary := w.find?_temporary
  not_directory m hm := h.not_directory m (by rwa [w.find?_name] at hm)

/-! ### The second step -/

/-- A temporary file that is there can take the place of the file. -/
theorem exists_moves (h : IsWritable fs p name d (some bytes)) :
    ∃ fs', fs.rename (temporaryPath p) p = .ok fs' ∧ Moves fs p name bytes d fs' := by
  have hsource : fs.root.find? (d ++ [temporaryName name]) = some (.file bytes) := h.temporary
  have hrename := rename_eq h.temporary_endsIn h.endsIn h.temporary_directory h.directory
    (temporaryName_ne name) h.temporary_text h.temporary_size hsource rfl h.text h.size h.not_directory
  exact ⟨_, hrename, h.directory, hsource, h.temporary_text, h.temporary_size, h.endsIn, h.text, h.size,
    h.not_directory, rfl⟩

/-- Then it is not there any more. -/
theorem of_moves (h : IsWritable fs p name d (some bytes)) (m : Moves fs p name bytes d fs') :
    IsWritable fs' p name d none where
  replaceable := m.isReplaceable h.endsIn.fileName h.replaceable
  endsIn := h.endsIn
  directory := m.directory_after h.replaceable
  text := h.text
  size := h.size
  temporary_text := h.temporary_text
  temporary_size := h.temporary_size
  temporary := m.find?_temporary
  not_directory n hn := by
    rw [m.find?_name] at hn
    cases hn
    rfl

/-- Without a temporary file there is nothing to be moved. -/
theorem rename_eq_error (h : IsWritable fs p name d none) :
    fs.rename (temporaryPath p) p = .error .noEntry := by
  have hspot : fs.spot false (temporaryPath p) = .ok (.vacant d (temporaryName name) false) :=
    (spot_false_iff h.temporary_endsIn h.temporary_directory).2
      ⟨h.temporary_text, h.temporary_size, .inl ⟨h.temporary, rfl⟩⟩
  rw [FileSystem.rename, hspot]
  rfl

/-! ### Both steps -/

/-- **Settings are saved where they can be**, whatever the two files held, and their file holds them. -/
theorem save (h : IsWritable fs p name d pending) (config : Config) :
    ∃ files, Stored.save ⟨p, config⟩ fs = (files, .ok ()) ∧ IsWritable files p name d none ∧
      Holds files p name (encode config.toText.toList) := by
  obtain ⟨written, hwrite, w⟩ := h.exists_writes (encode config.toText.toList)
  have hwritten := h.of_writes w
  obtain ⟨files, hrename, m⟩ := hwritten.exists_moves
  exact ⟨files, save_eq_ok_iff.2 ⟨written, hwrite, hrename⟩, hwritten.of_moves m,
    m.holds hwritten.replaceable⟩

end IsWritable

end Config

end ImportCensus
