/-
ImportCensus/Proofs/Survey/Fragments.lean

Files that are put together from bytes with a separator between them, a semicolon and a line feed.

The bytes need not be text.  A character that is broken off where the first bytes end is replaced as it is at
the end of a file, because the semicolon does not go on with it; and bytes that start in the middle of a
character are replaced as they are at the start of a file, because the line feed is over.  So the texts that
are scanned are separated texts.

Main statement: the packages of the file are those of both fragments (`analyze_of_fragments`).
-/
import ImportCensus.Proofs.Source.Separation
import ImportCensus.Proofs.Text.Utf8
import ImportCensus.Survey.Scan

namespace ImportCensus.Survey

open Text

/-- The bytes that keep fragments of a file apart. -/
def separator : Bytes :=
  encode ";\n".toList

variable {front back : Bytes} {n : PackageName}

/-- Fragments are read apart from each other. -/
theorem decodeLossy_fragments (front back : Bytes) :
    decodeLossy (front ++ separator ++ back) = decodeLossy front ++ ';' :: '\n' :: decodeLossy back := by
  have hbytes : front ++ separator ++ back = front ++ 0x3B :: ([] ++ 0x0A :: back) := by
    rw [List.append_assoc]
    rfl
  rw [hbytes, decodeLossy_append (by decide), decodeLossy_append (by decide)]
  rfl

theorem mem_packagesOf_fragments :
    n ∈ (packagesOf (front ++ separator ++ back)).toList ↔
      n ∈ (packagesOf front).toList ∨ n ∈ (packagesOf back).toList := by
  rw [packagesOf, decodeLossy_fragments, Source.mem_packagesIn_append, packagesOf, packagesOf]

theorem analyze_of_read {fs : FileSystem} {p : Path} {contents : Bytes} (h : fs.read p = .ok contents) :
    analyze fs p = .ok (packagesOf contents) := by
  rw [analyze, h]

/-- **The packages of a file are those of its fragments**, whatever bytes the fragments are.  Each of the three
files may be in a file system of its own; all of them are analysed. -/
theorem analyze_of_fragments {fs fs₁ fs₂ : FileSystem} {p p₁ p₂ : Path}
    (h : fs.read p = .ok (front ++ separator ++ back)) (h₁ : fs₁.read p₁ = .ok front)
    (h₂ : fs₂.read p₂ = .ok back) :
    ∃ packages packages₁ packages₂ : PackageSet, analyze fs p = .ok packages ∧
      analyze fs₁ p₁ = .ok packages₁ ∧ analyze fs₂ p₂ = .ok packages₂ ∧
      ∀ n, n ∈ packages.toList ↔ n ∈ packages₁.toList ∨ n ∈ packages₂.toList :=
  ⟨_, _, _, analyze_of_read h, analyze_of_read h₁, analyze_of_read h₂, fun _ => mem_packagesOf_fragments⟩

/-- A file of two fragments.  The first one ends in three bytes of a character of four bytes and the other one
starts with the fourth, so that they would make a character if nothing stood between them. -/
def brokenCharacter : FileSystem :=
  let first := encode "require('a'); x('".toList ++ [0xF0, 0x9F, 0x98]
  let second := 0x80 :: encode "import \"b/c\"".toList ++ [0xFF]
  ⟨.directory [("a.js", .file first), ("b.js", .file second),
    ("c.js", .file (first ++ separator ++ second))], []⟩

theorem analyze_brokenCharacter :
    ∃ packages packages₁ packages₂ : PackageSet, analyze brokenCharacter ⟨"c.js"⟩ = .ok packages ∧
      analyze brokenCharacter ⟨"a.js"⟩ = .ok packages₁ ∧ analyze brokenCharacter ⟨"b.js"⟩ = .ok packages₂ ∧
      (∀ n, n ∈ packages.toList ↔ n ∈ packages₁.toList ∨ n ∈ packages₂.toList) ∧
      packages.toList.map (·.text) = ["a", "b"] := by
  have hfront : brokenCharacter.read ⟨"a.js"⟩
      = .ok (encode "require('a'); x('".toList ++ [0xF0, 0x9F, 0x98]) := by decide +kernel
  have hback : brokenCharacter.read ⟨"b.js"⟩
      = .ok (0x80 :: encode "import \"b/c\"".toList ++ [0xFF]) := by decide +kernel
  have hwhole : brokenCharacter.read ⟨"c.js"⟩ = .ok (encode "require('a'); x('".toList ++ [0xF0, 0x9F, 0x98]
      ++ separator ++ (0x80 :: encode "import \"b/c\"".toList ++ [0xFF])) := by decide +kernel
  obtain ⟨packages, packages₁, packages₂, h, h₁, h₂, hunion⟩ := analyze_of_fragments hwhole hfront hback
  have hnames : (analyze brokenCharacter ⟨"c.js"⟩).toOption.map (fun s => s.toList.map (·.text))
      = some ["a", "b"] := by decide +kernel
  rw [h] at hnames
  exact ⟨packages, packages₁, packages₂, h, h₁, h₂, hunion, Option.some.inj hnames⟩

end ImportCensus.Survey
