/-
ImportCensus/Proofs/FileSystem/SamePath.lean

Two spellings of one path.

Spellings with the same components need not both lead to a file, since nothing may follow the name of a file
but the end of the path.  If both do, they lead to the same one: they start at the same place, and a way is
determined by the pieces that stand for something.

Main statements: ways that differ in pieces that stand for nothing have one end and follow as many links
(`Goes.unique`), and what is read at two spellings of one path is the same (`read_unique`).
-/
import ImportCensus.Proofs.FileSystem.Directory

namespace ImportCensus.FileSystem

open Text

variable {root : Node} {links links' left left' : Nat} {place q q' : Place} {xs ys before rest : List (List Char)}

/-! ### Ways -/

namespace Goes

/-- A way goes on from where it is behind pieces that stand for nothing. -/
theorem behind_silent (hbefore : ∀ piece ∈ before, isSilent piece = true)
    (h : Goes root links place (before ++ rest) left q) : Goes root links place rest left q := by
  induction before with
  | nil => exact h
  | cons piece before ih =>
    obtain ⟨hpiece, hbefore⟩ := List.forall_mem_cons.1 hbefore
    rw [List.cons_append] at h
    cases h with
    | silent hplace hsilent hrest => exact ih hbefore hrest
    | up hplace hrest => cases hpiece
    | enter hplace hstep => exact absurd hpiece (by simp [hstep.not_silent])
    | follow hplace hstep => exact absurd hpiece (by simp [hstep.not_silent])

/-- A way whose next piece that stands for something is known comes to that piece. -/
theorem exists_of_filter {piece : List Char} {pieces : List (List Char)}
    (h : Goes root links place ys left q) (hpieces : piece :: pieces = ys.filter (!isSilent ·)) :
    ∃ rest, Goes root links place (piece :: rest) left q ∧ isSilent piece = false ∧
      pieces = rest.filter (!isSilent ·) := by
  obtain ⟨before, rest, rfl, hbefore, hpiece, hrest⟩ := List.filter_eq_cons_iff.1 hpieces.symm
  exact ⟨rest, behind_silent (by simpa using hbefore) h, by simpa using hpiece, hrest.symm⟩

/-- **Ways that differ in pieces that stand for nothing have one end**, and they follow equally many links. -/
theorem unique (h : Goes root links place xs left q) (h' : Goes root links' place ys left' q')
    (hpieces : xs.filter (!isSilent ·) = ys.filter (!isSilent ·)) :
    q = q' ∧ links + left' = links' + left := by
  induction h generalizing ys links' with
  | done =>
    have hsilent : ∀ piece ∈ ys, isSilent piece = true := by
      simpa using List.filter_eq_nil_iff.1 hpieces.symm
    rw [← List.append_nil ys] at h'
    cases behind_silent hsilent h'
    exact ⟨rfl, Nat.add_comm _ _⟩
  | silent hplace hpiece hrest ih =>
    apply ih h'
    rw [← hpieces, List.filter_cons_of_neg (by simp [hpiece])]
  | up hplace hrest ih =>
    rw [List.filter_cons_of_pos rfl] at hpieces
    -- behind its own silent pieces the other way comes to the same piece, so it takes the same step
    obtain ⟨rest', hway, hpiece, hrest'⟩ := exists_of_filter h' hpieces
    cases hway with
    | silent hplace' hsilent => cases hsilent
    | up hplace' hway => exact ih hway hrest'
    | enter hplace' hstep => exact absurd rfl hstep.not_parent
    | follow hplace' hstep => exact absurd rfl hstep.not_parent
  | enter hplace hstep hentry hn hrest ih =>
    rw [List.filter_cons_of_pos (by simp [hstep.not_silent])] at hpieces
    obtain ⟨rest', hway, hpiece, hrest'⟩ := exists_of_filter h' hpieces
    cases hway with
    | silent hplace' hsilent => exact absurd hsilent (by simp [hpiece])
    | up hplace' => exact absurd rfl hstep.not_parent
    | enter hplace' hstep' hentry' hn' hway => exact ih hway hrest'
    | follow hplace' hstep' hentry' => exact absurd (Option.some.inj (hentry.symm.trans hentry')) (hn _)
  | follow hplace hstep hentry htarget hrest ih =>
    rw [List.filter_cons_of_pos (by simp [hstep.not_silent])] at hpieces
    obtain ⟨rest', hway, hpiece, hrest'⟩ := exists_of_filter h' hpieces
    cases hway with
    | silent hplace' hsilent => exact absurd hsilent (by simp [hpiece])
    | up hplace' => exact absurd rfl hstep.not_parent
    | enter hplace' hstep' hentry' hn' => exact absurd (Option.some.inj (hentry'.symm.trans hentry)) (hn' _)
    | follow hplace' hstep' hentry' htarget' hway =>
      cases hentry.symm.trans hentry'
      have hrests := ih hway (by rw [List.filter_append, List.filter_append, hrest'])
      exact ⟨hrests.1, by omega⟩

end Goes

/-! ### Files -/

variable {fs : FileSystem} {p t : Path} {n n' : Node}

theorem exists_goes_of_locate (h : fs.locate p = .ok (q, n)) :
    (∃ left, Goes fs.root linkLimit (fs.start p) (split '/' p.text.toList) left q) ∧
      fs.root.find? q = some n := by
  obtain ⟨-, hwalk⟩ := locate_eq_ok_iff.1 h
  obtain ⟨left, hgoes, hfind⟩ := exists_goes_of_found hwalk
  exact ⟨⟨left, hgoes⟩, hfind⟩

/-- Two spellings of one path lead to one entry, if both lead somewhere. -/
theorem locate_unique (h : p.components = t.components) (hp : fs.locate p = .ok (q, n))
    (ht : fs.locate t = .ok (q', n')) : q = q' ∧ n = n' := by
  obtain ⟨⟨left, hgoes⟩, hfind⟩ := exists_goes_of_locate hp
  obtain ⟨⟨left', hgoes'⟩, hfind'⟩ := exists_goes_of_locate ht
  have hstart : fs.start p = fs.start t := start_eq (by rw [h])
  have hpieces : (split '/' p.text.toList).filter (!isSilent ·)
      = (split '/' t.text.toList).filter (!isSilent ·) := by
    simp only [isSilent_eq]
    rw [Path.filter_split, Path.filter_split, h]
  rw [← hstart] at hgoes'
  obtain ⟨rfl, -⟩ := hgoes.unique hgoes' hpieces
  exact ⟨rfl, Option.some.inj (hfind.symm.trans hfind')⟩

/-- **What is read at two spellings of one path is the same.** -/
theorem read_unique {contents contents' : Bytes} (h : p.components = t.components)
    (hp : fs.read p = .ok contents) (ht : fs.read t = .ok contents') : contents = contents' := by
  obtain ⟨⟨q, n⟩, hlocate, hcontents⟩ := exists_of_bind_ok hp
  obtain ⟨⟨q', n'⟩, hlocate', hcontents'⟩ := exists_of_bind_ok ht
  obtain ⟨rfl, rfl⟩ := locate_unique h hlocate hlocate'
  exact Except.ok.inj (hcontents.symm.trans hcontents')

end ImportCensus.FileSystem
