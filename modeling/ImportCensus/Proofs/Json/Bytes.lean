/-
ImportCensus/Proofs/Json/Bytes.lean

JSON is read from the bytes of a text, and from no others.

The reader of bytes takes in what the reader of texts takes in, as long as no filler is in it.  It gets to the
end of what it reads only by taking in all of it; so it ends well only if there is no filler at all, and then it
reads the text of which the bytes are.

Main statement: `readWhole_eq_ok_iff`.
-/
import ImportCensus.Json.Bytes
import ImportCensus.Proofs.Text.Utf8

namespace ImportCensus

namespace Text

/-! ### Characters of bytes -/

variable {bytes : Bytes} {text : List Char} {skip : Nat}

/-- The characters of an encoding are those of its text. -/
theorem decodeEachFrom_of_decodeFrom? (h : decodeFrom? skip bytes = some text) :
    decodeEachFrom skip bytes = text.map some := by
  induction bytes generalizing skip text with
  | nil =>
    cases h
    rfl
  | cons b r ih =>
    cases skip with
    | succ skip => exact ih h
    | zero =>
      rw [decodeFrom?] at h
      rw [decodeEachFrom]
      cases hhead : head b r with
      | mk first more =>
        cases first with
        | none => simp [hhead] at h
        | some c =>
          simp only [hhead, Option.map_eq_some_iff] at h
          obtain ⟨behind, hbehind, rfl⟩ := h
          rw [List.map_cons, ← ih hbehind]

/-- What is no encoding has a byte that belongs to no character. -/
theorem none_mem_decodeEachFrom (h : decodeFrom? skip bytes = none) : none ∈ decodeEachFrom skip bytes := by
  induction bytes generalizing skip with
  | nil => cases h
  | cons b r ih =>
    cases skip with
    | succ skip => exact ih h
    | zero =>
      rw [decodeFrom?] at h
      rw [decodeEachFrom]
      cases hhead : head b r with
      | mk first more =>
        cases first with
        | none => exact List.mem_cons_self
        | some c =>
          simp only [hhead, Option.map_eq_none_iff] at h
          exact List.mem_cons_of_mem _ (ih h)

end Text

namespace Json

open Text

variable {limit : Option Nat} {state : State} {s : List Char} {d : Datum} {characters : List (Option Char)}

/-! ### Fillers -/

@[simp] theorem filled_some (text : List Char) : filled (text.map some) = text := by
  simp [filled]

@[simp] theorem gaps_some (text : List Char) : gaps (text.map some) = [] := by
  induction text with
  | nil => rfl
  | cons c r ih => exact ih

/-- A byte that belongs to no character is a gap in the text. -/
theorem exists_gap (h : none ∈ characters) :
    ∃ gap ∈ gaps characters, 0 < gap ∧ gap ≤ (filled characters).length := by
  induction characters with
  | nil => cases h
  | cons first r ih =>
    cases first with
    | none => exact ⟨r.length + 1, List.mem_cons_self, Nat.succ_pos _, by simp [filled]⟩
    | some c =>
      have hr : none ∈ r := by simpa using h
      obtain ⟨gap, hgap, hpos, hle⟩ := ih hr
      exact ⟨gap, hgap, hpos, Nat.le_succ_of_le hle⟩

theorem isTorn_eq_false_iff {gaps : List Nat} {rest : List Char} :
    isTorn gaps s rest = false ↔ ∀ gap ∈ gaps, rest.length < gap → s.length < gap := by
  simp [isTorn]

/-! ### Reading -/

theorem readWholeFrom_cons {gaps : List Nat} {c : Char} {r : List Char} :
    readWholeFrom limit gaps state (c :: r)
      = takeInWhole limit gaps state c r >>= fun p => readWholeFrom limit gaps p.1 p.2 := by
  rw [readWholeFrom]
  split
  · next hfault =>
    simp only [hfault]
    rfl
  · next hstep =>
    simp only [hstep]
    rfl

theorem takeInWhole_nil {c : Char} {r : List Char} : takeInWhole limit [] state c r = takeIn limit state c r := by
  rw [takeInWhole]
  cases takeIn limit state c r <;> rfl

/-- Without gaps, bytes are read as the text. -/
theorem readWholeFrom_nil : readWholeFrom limit [] state s = readFrom limit state s := by
  fun_induction readFrom limit state s with
  | case1 => rw [readWholeFrom]
  | case2 state c r hspace ih =>
    rw [readWholeFrom_cons, takeInWhole_nil, takeIn, if_pos hspace]
    exact ih
  | case3 state c r hspace f hfault =>
    rw [readWholeFrom_cons, takeInWhole_nil, takeIn, if_neg hspace, hfault]
    rfl
  | case4 state c r hspace state' rest hstep hle ih =>
    rw [readWholeFrom_cons, takeInWhole_nil, takeIn, if_neg hspace, hstep]
    exact ih

/-- What is read to its end has no gap. -/
theorem lt_of_readWholeFrom {gaps : List Nat} (h : readWholeFrom limit gaps state s = .ok d) :
    ∀ gap ∈ gaps, 0 < gap → s.length < gap := by
  fun_induction readWholeFrom limit gaps state s with
  | case1 => exact fun _ _ => id
  | case2 => cases h
  | case3 state c r state' rest hstep hle ih =>
    have hwhole := (takeIn_of_takeInWhole hstep).2
    intro gap hgap hpos
    exact isTorn_eq_false_iff.1 hwhole gap hgap (ih h gap hgap hpos)

/-- **JSON is read from the bytes of a text, and from no others.** -/
theorem readWhole_eq_ok_iff {bytes : Bytes} :
    readWhole limit (decodeEach bytes) = .ok d ↔
      ∃ text, decode? bytes = some text ∧ Json.read limit text = .ok d := by
  cases htext : decode? bytes with
  | none =>
    obtain ⟨gap, hgap, hpos, hle⟩ := exists_gap (none_mem_decodeEachFrom htext)
    constructor
    · intro h
      have hlt := lt_of_readWholeFrom h gap hgap hpos
      exact absurd hlt (Nat.not_lt.2 hle)
    · rintro ⟨_, h, -⟩
      cases h
  | some text =>
    have hcharacters : decodeEach bytes = text.map some := decodeEachFrom_of_decodeFrom? htext
    rw [readWhole, hcharacters, gaps_some, filled_some, readWholeFrom_nil]
    simp [Json.read]

end Json

end ImportCensus
