/-
ImportCensus/Proofs/Usage/FileMap.lean

What a map of files holds after files were put into it.

Files are told apart by the components of their paths.  The map has one entry for each class of paths with the
same components, whatever the paths were and in whatever order they came: it is spelled as the path that came
first, and holds the set that came last.  So the entries are known by the list of insertions alone
(`FileMap.IsMadeBy`), and a map that is put together from two is made by the entries of both.

Main statement: `fileMap_isMadeBy_insertions`, with the order of the entries and the classes of paths said
without the comparison.
-/
import ImportCensus.Proofs.Order.SortedMap
import ImportCensus.Proofs.Path.Order
import ImportCensus.Proofs.Path.Respelling
import ImportCensus.Usage

namespace ImportCensus

variable {l : List (Path × PackageSet)} {m : FileMap} {p : Path} {packages : PackageSet}

/-! ### The first and the last insertion -/

/-- Was this spelling inserted before all others of its path? -/
def IsFirstSpelling (l : List (Path × PackageSet)) (p : Path) : Prop :=
  ∃ before packages after, l = before ++ (p, packages) :: after ∧
    ∀ a ∈ before, a.1.components ≠ p.components

/-- Was this set inserted behind all others for the path, however that was spelled? -/
def IsLastSet (l : List (Path × PackageSet)) (p : Path) (packages : PackageSet) : Prop :=
  ∃ before q after, l = before ++ (q, packages) :: after ∧ q.components = p.components ∧
    ∀ a ∈ after, a.1.components ≠ p.components

theorem compare_beq_eq_iff {q : Path} : (compare p q == .eq) = true ↔ q.components = p.components := by
  rw [beq_iff_eq, Path.compare_eq_iff_components, eq_comm]

theorem isFirstSpelling_of_find? (h : (l.find? fun a => compare p a.1 == .eq).map (·.1) = some p) :
    IsFirstSpelling l p := by
  obtain ⟨⟨q, packages⟩, hfound, rfl⟩ := Option.map_eq_some_iff.1 h
  obtain ⟨-, before, after, hl, hbefore⟩ := List.find?_eq_some_iff_append.1 hfound
  refine ⟨before, packages, after, hl, ?_⟩
  intro a ha heq
  have hne := hbefore a ha
  rw [compare_beq_eq_iff.2 heq] at hne
  cases hne

theorem isLastSet_of_find?
    (h : (l.reverse.find? fun a => compare p a.1 == .eq).map (·.2) = some packages) :
    IsLastSet l p packages := by
  obtain ⟨⟨q, packages⟩, hfound, rfl⟩ := Option.map_eq_some_iff.1 h
  obtain ⟨hq, after, before, hl, hafter⟩ := List.find?_eq_some_iff_append.1 hfound
  refine ⟨before.reverse, q, after.reverse, ?_, compare_beq_eq_iff.1 hq, ?_⟩
  · rw [← List.reverse_reverse l, hl]
    simp
  · intro a ha heq
    have hne := hafter a (List.mem_reverse.1 ha)
    rw [compare_beq_eq_iff.2 heq] at hne
    cases hne

/-! ### Maps and insertions -/

/-- Does a map hold what a list of insertions leaves? -/
structure FileMap.IsMadeBy (m : FileMap) (l : List (Path × PackageSet)) : Prop where
  /-- Of two entries the first one has the path that stands first. -/
  ascending : m.entries.Pairwise fun a b => a.1.Precedes b.1
  /-- A path that was inserted has one entry. -/
  one : ∀ a ∈ l, ∃! e, e ∈ m.entries ∧ e.1.components = a.1.components
  /-- An entry is spelled as its path was first. -/
  first : ∀ e ∈ m.entries, IsFirstSpelling l e.1
  /-- An entry holds the set that came last. -/
  last : ∀ e ∈ m.entries, IsLastSet l e.1 e.2
  /-- An entry is found by each spelling of its path. -/
  found : ∀ e ∈ m.entries, ∀ p : Path, p.components = e.1.components → m.get? p = some e.2
  /-- A path that was not inserted is not found. -/
  missing : ∀ p : Path, (∀ a ∈ l, a.1.components ≠ p.components) → m.get? p = none

theorem get?_of_mem_entries {e : Path × PackageSet} (he : e ∈ m.entries)
    (hp : p.components = e.1.components) : m.get? p = some e.2 :=
  SortedMap.get?_eq_some_iff.2 ⟨e, he, Path.compare_eq_iff_components.2 hp, rfl⟩

theorem eq_of_mem_fileMap {a b : Path × PackageSet} (ha : a ∈ m.entries) (hb : b ∈ m.entries)
    (h : a.1.components = b.1.components) : a = b :=
  SortedMap.eq_of_mem_entries ha hb (Path.compare_eq_iff_components.2 h)

/-- A path that was inserted has an entry, perhaps by another spelling. -/
theorem exists_entry_ofList {a : Path × PackageSet} (ha : a ∈ l) :
    ∃ e ∈ (SortedMap.ofList l : FileMap).entries, e.1.components = a.1.components := by
  have hinserted : (l.reverse.find? fun b => compare a.1 b.1 == .eq).isSome := by
    rw [List.find?_isSome]
    exact ⟨a, List.mem_reverse.2 ha, compare_beq_eq_iff.2 rfl⟩
  obtain ⟨b, hb⟩ := Option.isSome_iff_exists.1 hinserted
  have hget : (SortedMap.ofList l : FileMap).get? a.1 = some b.2 := by
    rw [SortedMap.get?_ofList, hb, Option.map_some]
  obtain ⟨e, he, hkey, -⟩ := SortedMap.get?_eq_some_iff.1 hget
  exact ⟨e, he, (Path.compare_eq_iff_components.1 hkey).symm⟩

/-- The map that a list of insertions builds holds what the list leaves. -/
theorem isMadeBy_ofList (l : List (Path × PackageSet)) : FileMap.IsMadeBy (.ofList l) l where
  ascending := (SortedMap.ofList l).sorted.imp Path.compare_eq_lt_iff_precedes.1
  one := by
    intro a ha
    obtain ⟨e, he, hkey⟩ := exists_entry_ofList ha
    refine ⟨e, ⟨he, hkey⟩, ?_⟩
    rintro e' ⟨he', hkey'⟩
    exact eq_of_mem_fileMap he' he (hkey'.trans hkey.symm)
  first := by
    intro e he
    apply isFirstSpelling_of_find?
    rw [← SortedMap.key?_ofList]
    exact SortedMap.key?_of_mem_entries he
  last := by
    intro e he
    apply isLastSet_of_find?
    rw [← SortedMap.get?_ofList]
    exact get?_of_mem_entries he rfl
  found := fun _ he _ hp => get?_of_mem_entries he hp
  missing := by
    intro p hp
    rw [SortedMap.get?_ofList, Option.map_eq_none_iff, List.find?_eq_none]
    intro a ha heq
    exact hp a (List.mem_reverse.1 ha) (compare_beq_eq_iff.1 heq)

/-- **A map of files holds what the insertions leave.**  Whatever paths and sets are put one after the other into
an empty map, or into one whose entries count as put in before, there is one entry for each class of paths
with the same components.  The entries ascend; each is spelled as the path of its class that came first, holds
the set that came last, and is found by all spellings of the class.

The comparison is a total order: of two paths one precedes the other, unless their components are equal, and
that is so exactly if the paths differ by no more than repeated slashes, dots behind a slash and slashes at the
end, while a step upwards is a component.  A path precedes those below it; and a directory, with all that is in
it, precedes a sibling whose name goes on behind its own. -/
theorem fileMap_isMadeBy_insertions :
    (∀ l : List (Path × PackageSet), FileMap.IsMadeBy (.ofList l) l) ∧
    (∀ (m : FileMap) (l : List (Path × PackageSet)),
      FileMap.IsMadeBy (l.foldl (fun m a => m.insert a.1 a.2) m) (m.entries ++ l)) ∧
    (∀ p q : Path, (compare p q = .lt ↔ p.Precedes q) ∧
      (compare p q = .eq ↔ p.components = q.components) ∧ (compare p q = .gt ↔ q.Precedes p)) ∧
    (∀ p q r : Path, p.Precedes q → q.Precedes r → p.Precedes r) ∧
    (∀ p q : Path, p.components = q.components ↔ Relation.EqvGen Path.Respells p q) ∧
    (∀ s : String, (⟨s ++ "/.."⟩ : Path).components = (⟨s ++ "/"⟩ : Path).components ++ [.parent]) ∧
    (∀ p q : Path, p.components <+: q.components → p.components ≠ q.components → p.Precedes q) ∧
    ∀ (p q : Path) (dir inside beside : List Component) (s t : String), t ≠ "" →
      p.components = dir ++ .name s :: inside → q.components = dir ++ .name (s ++ t) :: beside →
      p.Precedes q := by
  refine ⟨isMadeBy_ofList, ?_, ?_, ?_, ?_, Path.components_slash_parent, ?_, ?_⟩
  · intro m l
    rw [SortedMap.foldl_insert_eq_ofList]
    exact isMadeBy_ofList (m.entries ++ l)
  · exact fun p q => ⟨Path.compare_eq_lt_iff_precedes, Path.compare_eq_iff_components,
      Path.compare_eq_gt_iff_precedes⟩
  · exact fun p q r => Path.Precedes.trans
  · exact fun p q => Path.components_eq_iff_eqvGen
  · exact fun p q => Path.precedes_of_prefix
  · exact fun p q dir inside beside s t => Path.precedes_of_sibling

/-- Two spellings of a file are one entry, before a sibling that comes first as a text. -/
theorem fileMap_isMadeBy_respelledFiles :
    let one : PackageSet := .ofList [⟨"x", by decide⟩]
    let both : PackageSet := .ofList [⟨"y", by decide⟩, ⟨"x", by decide⟩]
    let m : FileMap := .ofList [(⟨"a-b"⟩, one), (⟨"a/./b//"⟩, one), (⟨"a/.."⟩, one), (⟨"a//b"⟩, both)]
    (m.entries.map fun e => (e.1.text, e.2.toList.map (·.text)))
        = [("a/..", ["x"]), ("a/./b//", ["x", "y"]), ("a-b", ["x"])] ∧
      (∃! e, e ∈ m.entries ∧ e.1.components = (⟨"a//b"⟩ : Path).components) ∧
      (∃ e ∈ m.entries, m.get? ⟨"a/b/."⟩ = some e.2) ∧
      Relation.EqvGen Path.Respells ⟨"a/./b//"⟩ ⟨"a/b/."⟩ ∧
      Path.Precedes ⟨"a/./b//"⟩ ⟨"a-b"⟩ ∧ "a-b" < "a/./b//" := by
  intro one both m
  obtain ⟨hmade, -, -, -, hclass, -, -, hsibling⟩ := fileMap_isMadeBy_insertions
  have hm : m.IsMadeBy _ := hmade _
  have hone := hm.one (⟨"a//b"⟩, both) (by simp)
  obtain ⟨e, he, hkey⟩ := hone.exists
  refine ⟨by decide, hone, ⟨e, he, hm.found e he _ ?_⟩, ?_, ?_, by decide⟩
  · rw [hkey]
    decide
  · rw [← hclass]
    decide
  · exact hsibling _ _ [] [.name "b"] [] "a" "-b" (by decide) (by decide) (by decide)

end ImportCensus
