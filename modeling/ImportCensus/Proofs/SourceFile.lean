/-
ImportCensus/Proofs/SourceFile.lean

Which paths are paths of source files, read off their texts.

The last name of a path is looked for from the end of its text: slashes and dots behind slashes are left out,
and what stands before them, back to a slash or to the beginning, is the last component.  If that is a step
upwards, or if nothing is left, the path has no name, whatever stands further before.  The directory plays no
part in it.

Main statement: `isSourcePath_iff_hasLastName`.
-/
import ImportCensus.Proofs.Path.Bytes
import ImportCensus.Proofs.Path.Respelling

namespace ImportCensus

variable {p : Path} {name e : String}

theorem isSourceName_iff :
    isSourceName name = true ↔ ∃ suffix ∈ [".js", ".jsx", ".ts", ".tsx"], suffix.toList <:+ name.toList := by
  rw [isSourceName, List.any_eq_true]
  simp only [List.isSuffixOf_iff_suffix]
  rfl

theorem isSourcePath_eq_true_iff : isSourcePath p = true ↔ ∃ name, p.HasLastName name ∧
    ∃ suffix ∈ [".js", ".jsx", ".ts", ".tsx"], suffix.toList <:+ name.toList := by
  rw [isSourcePath_eq, Option.any_eq_true]
  simp only [Path.fileName?_eq_some_iff, isSourceName_iff]

theorem isSourcePath_of_nameless (h : p.fileName? = none) : isSourcePath p = false := by
  rw [isSourcePath_eq, h]
  rfl

theorem isSourcePath_append_ending (s : String) (h : Path.IsEnding e) :
    isSourcePath ⟨s ++ e⟩ = isSourcePath ⟨s⟩ := by
  rw [isSourcePath_eq, Path.fileName?_append_ending s h, isSourcePath_eq]

/-- **A path is that of a source file exactly if its last name ends in a suffix of source files.**  The last
name is what is left at the end of the text, back to a slash, when slashes and dots behind slashes are left
out, and no dot or step upwards; upper and lower case are told apart, and the whole name may be the suffix.
So there is none in the empty path, in slashes alone and in a path that ends in a step upwards; what can be
left out makes no difference; and for a name behind a slash it is the name alone that counts. -/
theorem isSourcePath_iff_hasLastName (p : Path) :
    (isSourcePath p = true ↔ ∃ name, p.HasLastName name ∧
      ∃ suffix ∈ [".js", ".jsx", ".ts", ".tsx"], suffix.toList <:+ name.toList) ∧
    isSourcePath ⟨""⟩ = false ∧
    ((∀ c ∈ p.text.toList, c = '/') → isSourcePath p = false) ∧
    (p.components.getLast? = some .parent → isSourcePath p = false) ∧
    (∀ front ending, Path.IsFront front → Path.IsEnding ending →
      isSourcePath ⟨front ++ ".." ++ ending⟩ = false) ∧
    (∀ text ending, Path.IsEnding ending → isSourcePath ⟨text ++ ending⟩ = isSourcePath ⟨text⟩) ∧
    ∀ dir name ending : String, IsEntryName name → Path.IsEnding ending →
      (isSourcePath ⟨dir ++ "/" ++ name ++ ending⟩ = true ↔
        ∃ suffix ∈ [".js", ".jsx", ".ts", ".tsx"], suffix.toList <:+ name.toList) := by
  refine ⟨isSourcePath_eq_true_iff, isSourcePath_of_nameless rfl, ?_, ?_, ?_, ?_, ?_⟩
  · intro h
    -- slashes alone are an ending of the empty path
    have hending : Path.IsEnding p.text := by simpa using Path.isEnding_of_slashes h
    have hp := Path.fileName?_append_ending "" hending
    rw [String.empty_append] at hp
    exact isSourcePath_of_nameless hp
  · intro h
    apply isSourcePath_of_nameless
    rw [Path.fileName?, h]
  · intro front ending hfront hending
    rw [isSourcePath_append_ending _ hending]
    exact isSourcePath_of_nameless (Path.fileName?_parent hfront)
  · exact fun text ending h => isSourcePath_append_ending text h
  · intro dir name ending hname hending
    rw [isSourcePath_append_ending _ hending, isSourcePath_eq, Path.fileName?_name (.inr ⟨dir, rfl⟩) hname]
    exact isSourceName_iff

/-- A name that is all suffix, before slashes and dots; the same in capitals; a step upwards behind a name; and
slashes alone. -/
theorem isSourcePath_iff_hasLastName_dottedPaths :
    IsEntryName ".js" ∧ Path.IsEnding "/.//." ∧ isSourcePath ⟨"src/../.js/.//."⟩ = true ∧
      isSourcePath ⟨"src/../.JS/.//."⟩ = false ∧ isSourcePath ⟨"a.ts/.././/."⟩ = false ∧
      isSourcePath ⟨"//"⟩ = false := by
  have hname : IsEntryName ".js" := by decide
  have hcapitals : IsEntryName ".JS" := by decide
  have hending : Path.IsEnding "/.//." := .dot (.slash (.dot .nil))
  obtain ⟨-, -, hslashes, -, hparent, -, hbehind⟩ := isSourcePath_iff_hasLastName ⟨"//"⟩
  have hplain := hbehind "src/.." ".js" _ hname hending
  have hcapital := hbehind "src/.." ".JS" _ hcapitals hending
  have hupwards := hparent "a.ts/" _ (.inr ⟨"a.ts", rfl⟩) hending
  simp only [String.reduceAppend] at hplain hcapital hupwards
  refine ⟨hname, hending, hplain.2 ⟨".js", List.mem_cons_self, List.suffix_refl _⟩, ?_, hupwards, ?_⟩
  · rw [← Bool.not_eq_true, hcapital, ← isSourceName_iff]
    decide
  · apply hslashes
    simp

end ImportCensus
