/-
ImportCensus/Proofs/Url/Reader.lean

Where a query or a fragment of a URL comes from.

Whatever is cut off in front of the end of a URL, its scheme, user, host and port, has neither a question
mark nor a hash sign, so the end has the ones of the whole text.

Main statement: a URL has neither query nor fragment just if its text has neither of the signs
(`query_and_fragment_eq_none_iff`).
-/
import ImportCensus.Proofs.FileSystem.Access
import ImportCensus.Url.Reader
import Mathlib.Data.List.TakeWhile

namespace ImportCensus.Url

variable {s rest t : List Char} {u : Url}

/-- Is the second text left of the first one if a part without a question mark or a hash sign is cut off
in front? -/
def CutsTo (s rest : List Char) : Prop :=
  ∃ cut, s = cut ++ rest ∧ ∀ c ∈ cut, c ≠ '?' ∧ c ≠ '#'

namespace CutsTo

theorem refl (s : List Char) : CutsTo s s :=
  ⟨[], rfl, nofun⟩

theorem trans (h : CutsTo s rest) (h' : CutsTo rest t) : CutsTo s t := by
  obtain ⟨cut, rfl, hcut⟩ := h
  obtain ⟨cut', rfl, hcut'⟩ := h'
  refine ⟨cut ++ cut', (List.append_assoc ..).symm, fun c hc => ?_⟩
  exact (List.mem_append.1 hc).elim (hcut c) (hcut' c)

theorem cons {c : Char} (hc : c ≠ '?' ∧ c ≠ '#') (s : List Char) : CutsTo (c :: s) s :=
  ⟨[c], rfl, by simpa using hc⟩

theorem dropWhile {p : Char → Bool} (h : ∀ c, p c = true → c ≠ '?' ∧ c ≠ '#') (s : List Char) :
    CutsTo s (s.dropWhile p) :=
  ⟨s.takeWhile p, List.takeWhile_append_dropWhile.symm, fun c hc => h c (List.mem_takeWhile_imp hc)⟩

theorem mem_iff (h : CutsTo s rest) {c : Char} (hc : c = '?' ∨ c = '#') : c ∈ s ↔ c ∈ rest := by
  obtain ⟨cut, rfl, hcut⟩ := h
  rw [List.mem_append, or_iff_right]
  intro hmem
  exact hc.elim (hcut c hmem).1 (hcut c hmem).2

end CutsTo

/-! ### The end of a URL -/

theorem drop_length_takeWhile (p : Char → Bool) (s : List Char) :
    s.drop (s.takeWhile p).length = s.dropWhile p :=
  calc s.drop (s.takeWhile p).length
      = (s.takeWhile p ++ s.dropWhile p).drop (s.takeWhile p).length := by
        rw [List.takeWhile_append_dropWhile]
    _ = s.dropWhile p := List.drop_left

/-- Nothing stands behind a sign just if the sign is not there. -/
theorem tail?_drop_eq_none_iff (sign : Char) (s : List Char) :
    (s.drop (s.takeWhile (· != sign)).length).tail? = none ↔ sign ∉ s := by
  have htail : ∀ l : List Char, l.tail? = none ↔ l = [] := fun l => by cases l <;> simp
  rw [drop_length_takeWhile, htail, List.dropWhile_eq_nil_iff]
  constructor
  · intro h hsign
    simpa using h sign hsign
  · intro h c hc
    rw [bne_iff_ne]
    rintro rfl
    exact h hc

/-- A URL has neither of the two parts just if its end has neither of the signs. -/
theorem splitEnding_eq_none_iff (scheme s : List Char) :
    (splitEnding scheme s).query = none ∧ (splitEnding scheme s).fragment = none
      ↔ '?' ∉ s ∧ '#' ∉ s := by
  simp only [splitEnding, Option.map_eq_none_iff, tail?_drop_eq_none_iff]
  refine and_congr_left fun hhash => ?_
  have hbody : s.takeWhile (· != '#') = s := by
    rw [List.takeWhile_eq_self_iff]
    intro c hc
    rw [bne_iff_ne]
    rintro rfl
    exact hhash hc
  rw [hbody]

/-! ### What is cut off -/

theorem cutsTo_readScheme {scheme : List Char} (h : readScheme s = some (scheme, rest)) :
    CutsTo s rest := by
  unfold readScheme at h
  split at h
  · cases h
  · next c r =>
    split at h
    · next hc =>
      split at h
      · next behind hbehind =>
        cases h
        have hletter : c ≠ '?' ∧ c ≠ '#' := by
          constructor <;> rintro rfl <;> cases hc
        have hword := CutsTo.dropWhile (p := isSchemeChar) (by
          intro c hc
          constructor <;> rintro rfl <;> cases hc) r
        rw [hbehind] at hword
        exact (CutsTo.cons hletter r).trans (hword.trans (.cons (by decide) rest))
      · cases h
    · cases h

theorem exists_of_splitAtLast {sign : Char} {before behind : List Char}
    (h : splitAtLast sign s = some (before, behind)) : s = before ++ sign :: behind := by
  induction s generalizing before behind with
  | nil => cases h
  | cons c r ih =>
    rw [splitAtLast] at h
    split at h
    · next before' behind' hr =>
      cases h
      rw [ih hr]
      rfl
    · split at h
      · next hc =>
        cases h
        rw [hc]
        rfl
      · cases h

theorem ne_of_not_endsAuthority {web : Bool} {c : Char} (h : endsAuthority web c = false) :
    c ≠ '?' ∧ c ≠ '#' := by
  constructor <;> rintro rfl <;> cases h

theorem cutsTo_readUser {web : Bool} {user password : List Char}
    (h : readUser web s = .ok (user, password, rest)) : CutsTo s rest := by
  unfold readUser at h
  dsimp only at h
  split at h
  · cases h
    exact .refl s
  · next before behind hsplit =>
    split at h
    · cases h
    · cases h
      have hauthority := exists_of_splitAtLast hsplit
      refine ⟨before ++ ['@'], ?_, fun c hc => ?_⟩
      · rw [List.append_assoc, List.singleton_append, ← List.cons_append, ← List.append_assoc,
          ← hauthority, List.takeWhile_append_dropWhile]
      · have hmem : c ∈ s.takeWhile (!endsAuthority web ·) := by
          rw [hauthority]
          simp only [List.mem_append, List.mem_cons, List.not_mem_nil, or_false] at hc ⊢
          exact hc.imp_right .inl
        have hc := List.mem_takeWhile_imp hmem
        rw [Bool.not_eq_true'] at hc
        exact ne_of_not_endsAuthority hc

theorem cutsTo_splitHost (web bracketed : Bool) (s : List Char) :
    CutsTo s (splitHost web bracketed s).2 := by
  induction s generalizing bracketed with
  | nil => exact .refl []
  | cons c r ih =>
    rw [splitHost]
    split
    · exact .refl _
    · next h =>
      rw [Bool.or_eq_true, not_or, Bool.not_eq_true, Bool.not_eq_true] at h
      exact (CutsTo.cons (ne_of_not_endsAuthority h.2) r).trans (ih _)

theorem cutsTo_readPort {scheme : List Char} {port : Option Nat}
    (h : readPort scheme s = .ok (port, rest)) : CutsTo s rest := by
  have hdigits : CutsTo s (s.dropWhile Char.isDigit) := by
    refine CutsTo.dropWhile (fun c hc => ?_) s
    constructor <;> rintro rfl <;> cases hc
  unfold readPort at h
  dsimp only at h
  split at h
  · cases h
  · split at h <;> cases h <;> exact hdigits

theorem cutsTo_readAuthority {scheme : List Char} (h : readAuthority scheme s = .ok u) :
    ∃ url path rest, CutsTo s rest ∧ u = finish url path rest := by
  unfold readAuthority at h
  obtain ⟨⟨user, password, behind⟩, huser, h⟩ := exists_of_bind_ok h
  have hbehind := (cutsTo_readUser huser).trans (cutsTo_splitHost (isKnownScheme scheme) false behind)
  dsimp only at h
  generalize (splitHost (isKnownScheme scheme) false behind).2 = behindHost at h hbehind
  split at h
  · cases h
  · split at h <;>
    · obtain ⟨host, -, h⟩ := exists_of_bind_ok h
      split at h
      · cases h
      · split at h
        · -- a port stands between the host and the end
          obtain ⟨⟨port, rest⟩, hport, h⟩ := exists_of_bind_ok h
          cases h
          exact ⟨_, _, rest, hbehind.trans ((CutsTo.cons (by decide) _).trans (cutsTo_readPort hport)), rfl⟩
        · cases h
          exact ⟨_, _, _, hbehind, rfl⟩

theorem cutsTo_readFile {scheme : List Char} (h : readFile scheme s = .ok u) :
    ∃ url path rest, CutsTo s rest ∧ u = finish url path rest := by
  unfold readFile at h
  dsimp only at h
  split at h
  · next hslashes =>
    have hdrop : CutsTo s (s.drop 2) := by
      refine ⟨s.take 2, (List.take_append_drop 2 s).symm, fun c hc => ?_⟩
      have hslash := List.all_eq_true.1 hslashes.2 c hc
      constructor <;> rintro rfl <;> cases hslash
    split at h
    · cases h
      exact ⟨_, _, _, hdrop, rfl⟩
    · obtain ⟨host, -, h⟩ := exists_of_bind_ok h
      cases h
      refine ⟨_, _, _, hdrop.trans ?_, rfl⟩
      rw [drop_length_takeWhile]
      refine CutsTo.dropWhile (fun c hc => ?_) _
      rw [Bool.not_eq_true'] at hc
      exact ne_of_not_endsAuthority hc
  · cases h
    exact ⟨_, _, s, .refl s, rfl⟩

theorem cutsTo_readBehindScheme {scheme : List Char} (h : readBehindScheme scheme s = .ok u) :
    ∃ url path rest, CutsTo s rest ∧ u = finish url path rest := by
  unfold readBehindScheme at h
  split at h
  · exact cutsTo_readFile h
  · split at h
    · have hslashes : CutsTo s (s.dropWhile isSlash) := by
        refine CutsTo.dropWhile (fun c hc => ?_) s
        constructor <;> rintro rfl <;> cases hc
      obtain ⟨url, path, rest, hrest, rfl⟩ := cutsTo_readAuthority h
      exact ⟨url, path, rest, hslashes.trans hrest, rfl⟩
    · split at h
      · next r =>
        obtain ⟨url, path, rest, hrest, rfl⟩ := cutsTo_readAuthority h
        exact ⟨url, path, rest,
          (CutsTo.cons (by decide) _).trans ((CutsTo.cons (by decide) r).trans hrest), rfl⟩
      · cases h
        exact ⟨_, _, _, .refl _, rfl⟩
      · cases h
        exact ⟨_, _, _, .refl _, rfl⟩

theorem mem_dropWhile_iff {p : Char → Bool} {c : Char} (hc : p c = false) :
    c ∈ s.dropWhile p ↔ c ∈ s := by
  refine ⟨fun h => (List.dropWhile_sublist p).subset h, fun h => ?_⟩
  rw [← List.takeWhile_append_dropWhile (p := p) (l := s)] at h
  refine (List.mem_append.1 h).resolve_left fun hmem => ?_
  rw [List.mem_takeWhile_imp hmem] at hc
  cases hc

/-- The signs of a text are not dropped before it is read. -/
theorem mem_relevant_iff {c : Char} (hc : c = '?' ∨ c = '#') : c ∈ relevant s ↔ c ∈ s := by
  have hinside : isOutside c = false := by
    rcases hc with rfl | rfl <;> decide
  have hkept : (!isIgnored c) = true := by
    rcases hc with rfl | rfl <;> decide
  rw [relevant, List.mem_filter, and_iff_left hkept, List.mem_reverse, mem_dropWhile_iff hinside,
    List.mem_reverse, mem_dropWhile_iff hinside]

/-! ### Whole URLs -/

/-- **A URL has neither query nor fragment just if its text has neither of the signs.** -/
theorem query_and_fragment_eq_none_iff (h : read s = .ok u) :
    u.query = none ∧ u.fragment = none ↔ '?' ∉ s ∧ '#' ∉ s := by
  unfold read at h
  split at h
  · next scheme behind hscheme =>
    obtain ⟨url, path, rest, hrest, rfl⟩ := cutsTo_readBehindScheme h
    have hcut := (cutsTo_readScheme hscheme).trans hrest
    rw [← mem_relevant_iff (.inl rfl), ← mem_relevant_iff (.inr rfl), hcut.mem_iff (.inl rfl),
      hcut.mem_iff (.inr rfl)]
    exact splitEnding_eq_none_iff url.scheme rest
  · cases h

end ImportCensus.Url
