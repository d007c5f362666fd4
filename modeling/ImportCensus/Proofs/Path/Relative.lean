/-
ImportCensus/Proofs/Path/Relative.lean

Paths as they are seen from a directory, and as they are shown.

A path below a directory is shown by what is left of its own spelling behind the components of the
directory.  The pieces that are cut off are counted by components, not by characters, so that slashes that
are repeated and dots do not matter, and a sibling whose name merely goes on is not below the directory.
What is left starts with a piece that stands for something, or it is empty; so it is never read as a path
from the root, and behind the directory it stands for the components that were not cut off.

Main statements: a path that is a text and is shown is found again from the root of the view, so that no two
of them are shown alike (`path_identifies`), which does not hold of paths of any bytes or of spellings
(`path_not_identifies`).
-/
import ImportCensus.Proofs.Path.Bytes
import ImportCensus.Proofs.Path.Spelling
import ImportCensus.Proofs.Text.Split
import ImportCensus.Report.Human
import Mathlib.Data.List.DropRight

namespace ImportCensus

open Text

namespace Path

variable {c : Char} {p q base : Path} {pieces : List (List Char)}

/-! ### Some pieces of a path -/

theorem trimRight_sublist (pieces : List (List Char)) : (trimRight pieces).Sublist pieces := by
  simpa [trimRight] using (List.dropWhile_sublist isSilent (l := pieces.reverse)).reverse

theorem dropPieces_sublist (n : Nat) (pieces : List (List Char)) :
    (dropPieces n pieces).Sublist pieces := by
  fun_induction dropPieces n pieces with
  | case1 => exact .refl _
  | case2 => exact .refl _
  | case3 n piece pieces _ ih => exact ih.cons piece
  | case4 n piece pieces _ ih => exact ih.cons piece

theorem piecesBehind_sublist (n : Nat) (p : Path) :
    (piecesBehind n p).Sublist (Text.split '/' p.text.toList) := by
  unfold piecesBehind
  split
  · next first rest h =>
    rw [h]
    split
    · exact (dropPieces_sublist _ rest).cons first
    · exact dropPieces_sublist _ _
  · exact .refl _

/-- What is left is the beginning. -/
theorem trimRight_prefix (pieces : List (List Char)) : trimRight pieces <+: pieces :=
  List.rdropWhile_prefix isSilent pieces

/-! ### Pieces that stand for nothing -/

theorem isSilent_iff {piece : List Char} : isSilent piece = true ↔ componentOf? piece = none := by
  rw [isSilent, Option.isNone_iff_eq_none]

theorem filterMap_of_isSilent (h : ∀ piece ∈ pieces, isSilent piece = true) :
    pieces.filterMap componentOf? = [] := by
  rw [List.filterMap_eq_nil_iff]
  exact fun piece hpiece => isSilent_iff.1 (h piece hpiece)

/-- What is cut off are components. -/
theorem filterMap_dropPieces (n : ℕ) (pieces : List (List Char)) :
    (dropPieces n pieces).filterMap componentOf? = (pieces.filterMap componentOf?).drop n := by
  fun_induction dropPieces n pieces with
  | case1 => rfl
  | case2 => rfl
  | case3 n piece pieces hsilent ih =>
    rw [ih, List.filterMap_cons_none (isSilent_iff.1 hsilent)]
  | case4 n piece pieces hpiece ih =>
    obtain ⟨c, hc⟩ := Option.ne_none_iff_exists'.1 (mt isSilent_iff.2 hpiece)
    rw [ih, List.filterMap_cons_some hc, List.drop_succ_cons]

theorem filterMap_dropWhile_isSilent (pieces : List (List Char)) :
    (pieces.dropWhile isSilent).filterMap componentOf? = pieces.filterMap componentOf? := by
  conv_rhs => rw [← List.takeWhile_append_dropWhile (p := isSilent) (l := pieces)]
  rw [List.filterMap_append, filterMap_of_isSilent (List.all_eq_true.1 List.all_takeWhile),
    List.nil_append]

theorem filterMap_trimRight (pieces : List (List Char)) :
    (trimRight pieces).filterMap componentOf? = pieces.filterMap componentOf? := by
  rw [trimRight, List.filterMap_reverse, filterMap_dropWhile_isSilent, List.filterMap_reverse,
    List.reverse_reverse]

/-- Pieces that are joined to a text are found in it, but for none at all. -/
theorem filterMap_split_join (h : ∀ piece ∈ pieces, '/' ∉ piece) :
    (split '/' (Text.join '/' pieces)).filterMap componentOf? = pieces.filterMap componentOf? := by
  by_cases hne : pieces = []
  · subst hne
    rfl
  · rw [split_join hne h]

/-- Pieces that start with one that stands for something are the components of their text. -/
theorem components_join_pieces (h : ∀ piece ∈ pieces, '/' ∉ piece)
    (hhead : ∀ piece ∈ pieces.head?, isSilent piece = false) :
    components ⟨String.ofList (Text.join '/' pieces)⟩ = pieces.filterMap componentOf? := by
  cases pieces with
  | nil => rfl
  | cons first rest =>
    have hfirst : isSilent first = false := hhead first rfl
    have hempty : first ≠ [] := by
      rintro rfl
      cases hfirst
    have hcurrent : first ≠ ['.'] := by
      rintro rfl
      cases hfirst
    rw [components, String.toList_ofList, split_join (List.cons_ne_nil _ _) h]
    simp only [hempty, hcurrent, if_false]

/-- No piece behind the first one stands for the root. -/
theorem root_notMem_filterMap : Component.root ∉ pieces.filterMap componentOf? := by
  intro h
  obtain ⟨piece, -, hpiece⟩ := List.mem_filterMap.1 h
  rw [componentOf?] at hpiece
  split at hpiece
  · cases hpiece
  · split at hpiece <;> cases hpiece

/-! ### Paths from the root -/

theorem components_of_split {rest : List (List Char)} (h : split '/' p.text.toList = [] :: rest)
    (hrest : rest ≠ []) : p.components = .root :: rest.filterMap componentOf? := by
  rw [components, h]
  simp [hrest]

/-- The pieces of a path from the root. -/
theorem exists_split_of_isAbsolute (h : p.isAbsolute = true) :
    ∃ rest, split '/' p.text.toList = [] :: rest ∧ rest ≠ [] := by
  have hroot : p.text.toList.head? = some '/' := by
    rw [head?_text]
    simpa [isAbsolute] using h
  obtain ⟨r, hr⟩ := List.head?_eq_some_iff.1 hroot
  refine ⟨split '/' r, ?_, split_ne_nil _ _⟩
  rw [hr]
  exact split_append_sep [] r

/-- A path behind a directory from the root stands for the components of its pieces. -/
theorem components_join (hp : p.isAbsolute = true) (hq : q.isAbsolute = false) :
    (p.join q).components = p.components ++ (split '/' q.text.toList).filterMap componentOf? := by
  obtain ⟨text⟩ := p
  rcases join_cases ⟨text⟩ hq with ⟨htext, -⟩ | ⟨front, htext, hjoin⟩ | ⟨htext, hjoin⟩
  · obtain rfl : text = "" := htext
    cases hp
  · obtain rfl : text = front ++ "/" := htext
    rw [hjoin, components_append_slash]
  · rw [hjoin, components_append_slash, components_slash htext]

/-! ### Paths as they are seen from a directory -/

/-- What is left of the pieces of a path behind the root, when components are cut off. -/
def piecesBelow (n : ℕ) (pieces : List (List Char)) : List (List Char) :=
  trimRight ((dropPieces n pieces).dropWhile isSilent)

theorem piecesBelow_sublist (n : ℕ) (pieces : List (List Char)) :
    (piecesBelow n pieces).Sublist pieces :=
  ((trimRight_sublist _).trans (List.dropWhile_sublist _)).trans (dropPieces_sublist n pieces)

/-- What is left are the components that were not cut off. -/
theorem filterMap_piecesBelow (n : ℕ) (pieces : List (List Char)) :
    (piecesBelow n pieces).filterMap componentOf? = (pieces.filterMap componentOf?).drop n := by
  rw [piecesBelow, filterMap_trimRight, filterMap_dropWhile_isSilent, filterMap_dropPieces]

/-- What is left starts with a piece that stands for something. -/
theorem head?_piecesBelow (n : ℕ) (pieces : List (List Char)) :
    ∀ piece ∈ (piecesBelow n pieces).head?, isSilent piece = false := by
  intro piece hpiece
  obtain ⟨rest, hrest⟩ := List.head?_eq_some_iff.1 hpiece
  obtain ⟨silent, hsilent⟩ := trimRight_prefix ((dropPieces n pieces).dropWhile isSilent)
  have hfirst : ((dropPieces n pieces).dropWhile isSilent).head? = some piece := by
    rw [← hsilent, ← piecesBelow, hrest]
    rfl
  have hstands := List.head?_dropWhile_not isSilent (dropPieces n pieces)
  rwa [hfirst] at hstands

/-- A path from the root is seen from a directory above it by the pieces that are left. -/
theorem relativeTo?_of_split {rest : List (List Char)} {n : ℕ}
    (hrest : split '/' p.text.toList = [] :: rest) (hlength : base.components.length = n + 1)
    (h : base.components <+: p.components) :
    p.relativeTo? base = some ⟨String.ofList (Text.join '/' (piecesBelow n rest))⟩ := by
  have htake : p.components.take base.components.length = base.components :=
    (List.prefix_iff_eq_take.1 h).symm
  have hbehind : piecesBehind (n + 1) p = dropPieces n rest := by
    unfold piecesBehind
    rw [hrest]
    rfl
  rw [relativeTo?]
  simp only [htake, if_true]
  simp only [hlength, Nat.succ_ne_zero, if_false, hbehind]
  rfl

/-- A path below a directory is seen by the components behind those of the directory, and it is not read as
a path from the root. -/
theorem exists_relativeTo? (hbase : base.isAbsolute = true) (h : base.components <+: p.components) :
    ∃ q, p.relativeTo? base = some q ∧ q.isAbsolute = false ∧
      q.components = p.components.drop base.components.length ∧
      (split '/' q.text.toList).filterMap componentOf? = p.components.drop base.components.length := by
  obtain ⟨others, hothers, hne⟩ := exists_split_of_isAbsolute hbase
  have hbaseComponents := components_of_split hothers hne
  have hlength : base.components.length = (others.filterMap componentOf?).length + 1 := by
    rw [hbaseComponents, List.length_cons]
  have hp : p.isAbsolute = true := by
    obtain ⟨cs, hcs⟩ := h
    rw [isAbsolute, ← hcs, hbaseComponents]
    rfl
  obtain ⟨rest, hrest, hrest_ne⟩ := exists_split_of_isAbsolute hp
  -- the piece before the first slash stands for the root, so it is not among those that are cut off
  have hslash : ∀ piece ∈ piecesBelow (others.filterMap componentOf?).length rest, '/' ∉ piece := by
    intro piece hpiece
    apply sep_notMem_of_mem_split
    rw [hrest]
    exact List.mem_cons_of_mem _ ((piecesBelow_sublist _ rest).subset hpiece)
  have hmeans : (piecesBelow (others.filterMap componentOf?).length rest).filterMap componentOf?
      = p.components.drop base.components.length := by
    rw [filterMap_piecesBelow, components_of_split hrest hrest_ne, hlength, List.drop_succ_cons]
  have hcomponents := components_join_pieces hslash (head?_piecesBelow _ rest)
  refine ⟨_, relativeTo?_of_split hrest hlength h, ?_, ?_, ?_⟩
  · rw [isAbsolute, hcomponents, beq_eq_false_iff_ne]
    exact fun hroot => root_notMem_filterMap (List.mem_of_mem_head? hroot)
  · rw [hcomponents, hmeans]
  · rw [String.toList_ofList, filterMap_split_join hslash, hmeans]

/-! ### Characters of paths as they are seen -/

theorem mem_of_mem_trimmed (h : c ∈ p.trimmed.text.toList) : c = '/' ∨ c ∈ p.text.toList := by
  obtain ⟨first, rest, hsplit⟩ := List.exists_cons_of_ne_nil (Text.split_ne_nil '/' p.text.toList)
  have hjoined : c = '/' ∨ c ∈ Text.join '/' (first :: trimRight rest) := by
    rw [trimmed, hsplit] at h
    dsimp only at h
    split at h
    · split at h
      · exact absurd h (by simp)
      · exact .inl (by simpa using h)
    · exact .inr (by simpa using h)
  rcases hjoined with h | h
  · exact .inl h
  · exact Text.mem_of_mem_join_sublist (hsplit ▸ (trimRight_sublist rest).cons_cons first) h

/-- A path that is seen from another one is spelled by its own characters. -/
theorem mem_of_mem_relativeTo? (hq : p.relativeTo? base = some q) (h : c ∈ q.text.toList) :
    c = '/' ∨ c ∈ p.text.toList := by
  unfold relativeTo? at hq
  dsimp only at hq
  split at hq
  · split at hq
    · rw [← Option.some.inj hq] at h
      exact mem_of_mem_trimmed h
    · rw [← Option.some.inj hq, String.toList_ofList] at h
      refine Text.mem_of_mem_join_sublist ?_ h
      exact ((trimRight_sublist _).trans (List.dropWhile_sublist _)).trans (piecesBehind_sublist _ p)
  · cases hq

end Path

/-! ### Paths as they are shown -/

namespace Report.View

variable {v : View} {root p : Path}

/-- A path that is a text is shown as it is seen from the root of the view, if that is possible. -/
theorem path_eq (v : View) (p : Path) : v.path p = ((v.root.bind p.relativeTo?).getD p).text :=
  RawPath.displayFrom_ofPath v.root p

/-- A path that is below the root of the view is shown as it is seen from there. -/
theorem path_of_below (hroot : v.root = some root) (hr : root.isAbsolute = true)
    (h : root.components <+: p.components) :
    (⟨v.path p⟩ : Path).isAbsolute = false ∧
      (⟨v.path p⟩ : Path).components = p.components.drop root.components.length ∧
      (root.join ⟨v.path p⟩).components = p.components := by
  obtain ⟨q, hseen, hrelative, hcomponents, hpieces⟩ := Path.exists_relativeTo? hr h
  have hshown : (⟨v.path p⟩ : Path) = q := by
    rw [path_eq, hroot, Option.bind_some, hseen, Option.getD_some]
  rw [hshown]
  refine ⟨hrelative, hcomponents, ?_⟩
  calc (root.join q).components
      = root.components ++ p.components.drop root.components.length := by
        rw [Path.components_join hr hrelative, hpieces]
    _ = p.components := by
        obtain ⟨behind, hbehind⟩ := h
        rw [← hbehind, List.drop_left]

/-- A path elsewhere is shown as it is spelled. -/
theorem path_of_elsewhere (hroot : v.root = some root)
    (h : ¬ root.components <+: p.components) : v.path p = p.text := by
  have hnone : p.relativeTo? root = none := by
    rw [Path.relativeTo?]
    exact if_neg fun htake => h (List.prefix_iff_eq_take.2 htake.symm)
  rw [path_eq, hroot, Option.bind_some, hnone, Option.getD_none]

/-- A path that is shown is found again from the root of the view. -/
theorem components_join_path (hroot : v.root = some root) (hr : root.isAbsolute = true)
    (hp : p.isAbsolute = true) : (root.join ⟨v.path p⟩).components = p.components := by
  by_cases h : root.components <+: p.components
  · exact (path_of_below hroot hr h).2.2
  · rw [path_of_elsewhere hroot h, Path.join, if_pos hp]

/-- **A shown path identifies the file.**  Behind the root of the view it is the path that was shown; what
is below the root is shown by the components that are left, anything else as it is spelled; and paths that
are shown alike are the same path. -/
theorem path_identifies (v : View) (root : Path) (hroot : v.root = some root)
    (hr : root.isAbsolute = true) (p : Path) (hp : p.isAbsolute = true) :
    (root.join ⟨v.path p⟩).components = p.components ∧
      (root.components <+: p.components →
        (⟨v.path p⟩ : Path).isAbsolute = false ∧
        (⟨v.path p⟩ : Path).components = p.components.drop root.components.length) ∧
      (¬ root.components <+: p.components → v.path p = p.text) ∧
      ∀ q : Path, q.isAbsolute = true → v.path q = v.path p → q.components = p.components := by
  refine ⟨components_join_path hroot hr hp, fun h => ?_, path_of_elsewhere hroot, fun q hq h => ?_⟩
  · have hbelow := path_of_below hroot hr h
    exact ⟨hbelow.1, hbelow.2.1⟩
  · calc q.components
        = (root.join ⟨v.path q⟩).components := (components_join_path hroot hr hq).symm
      _ = (root.join ⟨v.path p⟩).components := by rw [h]
      _ = p.components := components_join_path hroot hr hp

/-- A root with silent pieces, a file below it whose spelling has others, and a sibling. -/
theorem path_identifies_sibling :
    (⟨some ⟨"/p/./q//"⟩, true, false⟩ : View).path ⟨"/p//q/r.js/."⟩ = "r.js" ∧
      (⟨some ⟨"/p/./q//"⟩, true, false⟩ : View).path ⟨"/p/qr"⟩ = "/p/qr" ∧
      ((⟨"/p/./q//"⟩ : Path).join ⟨"r.js"⟩).components = (⟨"/p//q/r.js/."⟩ : Path).components := by
  have hbelow := path_identifies ⟨some ⟨"/p/./q//"⟩, true, false⟩ ⟨"/p/./q//"⟩ rfl (by decide)
    ⟨"/p//q/r.js/."⟩ (by decide)
  have hbeside := path_identifies ⟨some ⟨"/p/./q//"⟩, true, false⟩ ⟨"/p/./q//"⟩ rfl (by decide)
    ⟨"/p/qr"⟩ (by decide)
  have hshown : (⟨some ⟨"/p/./q//"⟩, true, false⟩ : View).path ⟨"/p//q/r.js/."⟩ = "r.js" := by decide
  refine ⟨hshown, hbeside.2.2.1 (by decide), ?_⟩
  rw [← hshown]
  exact hbelow.1

/-- **A shown text alone does not tell a path.**  Of two paths that differ in bytes that are no text, both are
shown by the replacement character, so that neither is found again; and two spellings of one path are shown
alike. -/
theorem path_not_identifies :
    (∃ p q root : RawPath, root = .ofPath ⟨"/p"⟩ ∧
      p.spelled.isAbsolute = true ∧ q.spelled.isAbsolute = true ∧
      p.spelled.components ≠ q.spelled.components ∧
      p.displayFrom (some root) = q.displayFrom (some root) ∧
      (RawPath.ofPath ((⟨"/p"⟩ : Path).join ⟨p.displayFrom (some root)⟩)).spelled.components
        ≠ p.spelled.components) ∧
    ∃ p q : Path, p.isAbsolute = true ∧ q.isAbsolute = true ∧ p ≠ q ∧
      (⟨some ⟨"/p"⟩, false, false⟩ : View).path p = (⟨some ⟨"/p"⟩, false, false⟩ : View).path q := by
  refine ⟨⟨⟨encode "/p/".toList ++ 0xE9 :: encode "/a.js".toList⟩,
    ⟨encode "/p/".toList ++ 0xE8 :: encode "/a.js".toList⟩, .ofPath ⟨"/p"⟩, rfl, ?_⟩,
    ⟨"/p//a.js"⟩, ⟨"/p/a.js"⟩, ?_⟩
  · decide +kernel
  · decide +kernel

end Report.View

end ImportCensus
