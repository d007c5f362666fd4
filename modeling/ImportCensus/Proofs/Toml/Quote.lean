/-
ImportCensus/Proofs/Toml/Quote.lean

Texts are read back from what is written for them, in whichever of the four ways they are quoted.

Three things could go wrong, and each has its lemma.  An escape could be read as something else: what is
written for a character is one unit, and it is read as that character (`isUnit_writeUnit`).  Quotes in a
text on several lines could be taken for its end: the writer lets at most two stand next to each other, so
that a run of quotes ends the text only if it starts with the closing quotes
(`MayFollow.closesAt_eq_false`).  And the line break behind the opening quotes is dropped: there is one to
drop if the text has breaks, and none at its start otherwise (`dropFirstBreak_opening`).

Main statement: `readText_writeText`.
-/
import ImportCensus.Toml.Quote
import Mathlib.Data.List.Basic

namespace ImportCensus.Toml

open Text

variable {literal several : Bool} {c x : Char} {r s w ds rest : List Char}

/-! ### Escapes -/

/-- The escape of a control is read as the control. -/
theorem escaped?_control (hc : c.toNat < 0x80) (s : List Char) :
    escaped? ('u' :: '0' :: '0' :: capitalHexDigit (c.toNat / 16) :: capitalHexDigit (c.toNat % 16) :: s)
      = some (c, 5) := by
  have hzero : hexValue? '0' = some 0 := by decide
  have hnumber : hexNumber? 4
      ('0' :: '0' :: capitalHexDigit (c.toNat / 16) :: capitalHexDigit (c.toNat % 16) :: s)
      = some c.toNat := by
    rw [hexNumber?, if_neg (by simp)]
    simp only [List.take_succ_cons, List.take_zero, List.foldl_cons, List.foldl_nil, hzero,
      hexValue?_capitalHexDigit (show c.toNat / 16 < 16 by omega),
      hexValue?_capitalHexDigit (show c.toNat % 16 < 16 by omega)]
    show some (16 * (16 * (16 * (16 * 0 + 0) + 0) + c.toNat / 16) + c.toNat % 16) = some c.toNat
    congr 1
    omega
  have hvalid : c.toNat.isValidChar := c.valid
  rw [escaped?, numbered?, hnumber, Option.bind_some, if_pos hvalid, Char.ofNat_toNat]

/-- Is this one unit of a basic text that is read as the character: an escape, or the character itself? -/
inductive IsUnit (c : Char) : List Char → Prop
  | escape {e : Char} {w : List Char} (hgap : isGap e = false)
      (hread : ∀ r, escaped? (e :: w ++ r) = some (c, w.length + 1)) : IsUnit c ('\\' :: e :: w)
  | plain (hslash : c ≠ '\\') (hquote : c ≠ '"') (hcontrol : isRawControl c = false) : IsUnit c [c]

/-- What is written for a character is a unit that is read as that character. -/
theorem isUnit_writeUnit (hquote : c ≠ '"') : IsUnit c (writeUnit c) := by
  unfold writeUnit
  split
  case h_6 _ _ _ _ _ hslash =>
    split
    case isTrue hcontrol =>
      refine .escape (by decide) fun r => ?_
      apply escaped?_control
      simp only [isRawControl, Bool.or_eq_true, Bool.and_eq_true, decide_eq_true_eq, beq_iff_eq] at hcontrol
      rcases hcontrol with ⟨hlow, -⟩ | rfl
      · omega
      · decide
    case isFalse hcontrol => exact .plain hslash hquote (by simpa using hcontrol)
  all_goals exact .escape (by decide) fun r => rfl

theorem isUnit_quote : IsUnit '"' ['\\', '"'] :=
  .escape (by decide) fun _ => rfl

theorem isRawControl_eq_false (h : isRawControl c = false) : c ≠ '\n' ∧ c ≠ '\r' := by
  constructor <;> rintro rfl <;> exact absurd h (by decide)

/-- No unit starts with a quote or a line break. -/
theorem IsUnit.exists_eq_cons (h : IsUnit c w) :
    ∃ u more, w = u :: more ∧ u ≠ '"' ∧ u ≠ '\n' ∧ u ≠ '\r' := by
  cases h with
  | escape => exact ⟨'\\', _, rfl, by decide, by decide, by decide⟩
  | plain _ hquote hcontrol => exact ⟨c, [], rfl, hquote, isRawControl_eq_false hcontrol⟩

/-! ### Steps of the reader -/

/-- The character that quotes a text. -/
def mark (literal : Bool) : Char :=
  if literal then '\'' else '"'

/-- The number of quotes at the head of a text. -/
def quotes (x : Char) (s : List Char) : Nat :=
  (s.takeWhile (· == x)).length

theorem quotes_cons_self : quotes x (x :: s) = quotes x s + 1 := by
  rw [quotes, List.takeWhile_cons_of_pos (by simp)]
  rfl

theorem quotes_cons_of_ne (h : c ≠ x) : quotes x (c :: s) = 0 := by
  rw [quotes, List.takeWhile_cons_of_neg (by simpa using h)]
  rfl

/-- Behind three quotes no fourth one comes. -/
theorem quotes_closing (hrest : ∀ c ∈ rest.head?, c ≠ x) :
    quotes x (List.replicate 3 x ++ rest) = 3 := by
  have hend : quotes x rest = 0 := by
    cases rest with
    | nil => rfl
    | cons c r => exact quotes_cons_of_ne (hrest c rfl)
  simp only [List.replicate, List.cons_append, List.nil_append, quotes_cons_self, hend]

/-- Characters that were taken in already are passed over. -/
theorem readBody_append (skipped s : List Char) :
    readBody literal several skipped.length (skipped ++ s) = readBody literal several 0 s := by
  induction skipped with
  | nil => rfl
  | cons c r ih =>
    rw [List.length_cons, List.cons_append, readBody]
    exact ih

/-- Only a line break and the blanks around it are left out behind a backslash. -/
theorem foldedBreak?_cons (h : isGap c = false) : foldedBreak? (c :: s) = none := by
  rw [foldedBreak?, List.takeWhile_cons_of_neg (by simp [h])]
  rfl

/-- Does a text go on with this character: if it is a quote, does the run that it starts not end the
text? -/
def StaysOpen (literal several : Bool) (c : Char) (r : List Char) : Prop :=
  c = mark literal → several = true ∧ closesAt (quotes (mark literal) (c :: r)) = false

/-- One unit of a text that goes on. -/
theorem readBody_step {n : Nat} (hopen : StaysOpen literal several c r)
    (hfolded : c = '\\' → literal = false → foldedBreak? r = none)
    (hunit : readUnit literal several c r = .ok (x, n))
    (h : readBody literal several n r = .ok (ds, rest)) :
    readBody literal several 0 (c :: r) = .ok (x :: ds, rest) := by
  have hone : ¬ (c = mark literal ∧ (!several) = true) := by
    rintro ⟨hc, hseveral⟩
    simp [(hopen hc).1] at hseveral
  have hthree : ¬ (c = mark literal ∧ closesAt (quotes (mark literal) (c :: r)) = true) := by
    rintro ⟨hc, hcloses⟩
    simp [(hopen hc).2] at hcloses
  have hnone : (if c = '\\' ∧ (!literal) = true ∧ several = true then foldedBreak? r else none)
      = none := by
    split
    · next hc => exact hfolded hc.1 (by simpa using hc.2.1)
    · rfl
  rw [readBody]
  refine (if_neg hone).trans ((if_neg hthree).trans ?_)
  simp only [hnone, hunit, h]

/-- A character that is neither a backslash nor a control is read as itself, and so is a line feed in a
text on several lines. -/
theorem readUnit_plain (hslash : literal = true ∨ c ≠ '\\')
    (hcontrol : (several = true ∧ c = '\n') ∨ isRawControl c = false) :
    readUnit literal several c r = .ok (c, 0) := by
  have hescape : ¬ (c = '\\' ∧ (!literal) = true) := by
    rintro ⟨hc, hliteral⟩
    rcases hslash with rfl | hne
    · cases hliteral
    · exact hne hc
  rw [readUnit, if_neg hescape]
  rcases hcontrol with ⟨rfl, rfl⟩ | hcontrol
  · rfl
  · have hbreak := isRawControl_eq_false hcontrol
    rw [if_neg (by simp [hbreak]), if_neg (by simp [hbreak]), if_neg (by simp [hcontrol])]

theorem readBody_plain (hopen : StaysOpen literal several c r) (hslash : literal = true ∨ c ≠ '\\')
    (hcontrol : (several = true ∧ c = '\n') ∨ isRawControl c = false)
    (h : readBody literal several 0 r = .ok (ds, rest)) :
    readBody literal several 0 (c :: r) = .ok (c :: ds, rest) := by
  refine readBody_step hopen (fun hc hliteral => ?_) (readUnit_plain hslash hcontrol) h
  rcases hslash with rfl | hne
  · cases hliteral
  · exact absurd hc hne

/-- A unit of a basic text is read as the character that it stands for. -/
theorem readBody_unit (hunit : IsUnit c w) (h : readBody false several 0 r = .ok (ds, rest)) :
    readBody false several 0 (w ++ r) = .ok (c :: ds, rest) := by
  cases hunit with
  | plain hslash hquote hcontrol =>
    exact readBody_plain (fun hc => absurd hc hquote) (.inr hslash) (.inr hcontrol) h
  | @escape e w hgap hread =>
    have hskip : readBody false several (w.length + 1) (e :: w ++ r) = .ok (ds, rest) :=
      (readBody_append (e :: w) r).trans h
    have hone : readUnit false several '\\' (e :: w ++ r) = .ok (c, w.length + 1) := by
      rw [readUnit, if_pos ⟨rfl, rfl⟩, hread]
    exact readBody_step (fun hc => absurd hc (by decide)) (fun _ _ => foldedBreak?_cons hgap) hone hskip

/-! ### The end of a text -/

/-- The quote of a text on one line ends it. -/
theorem readBody_closed : readBody literal false 0 (mark literal :: rest) = .ok ([], rest) := by
  rw [readBody]
  exact if_pos ⟨rfl, rfl⟩

/-- Three quotes, and no fourth one behind them, end a text on several lines. -/
theorem readBody_closedThrice (hrest : ∀ c ∈ rest.head?, c ≠ mark literal) :
    readBody literal true 0 (List.replicate 3 (mark literal) ++ rest) = .ok ([], rest) := by
  have hcloses : closesAt (quotes (mark literal) (List.replicate 3 (mark literal) ++ rest)) = true := by
    rw [quotes_closing hrest]
    rfl
  simp only [List.replicate, List.cons_append, List.nil_append] at hcloses ⊢
  rw [readBody]
  exact (if_neg (by simp)).trans (if_pos ⟨rfl, hcloses⟩)

/-! ### Texts on one line -/

theorem readBody_literal (h : ∀ c ∈ s, c ≠ '\'' ∧ isRawControl c = false) :
    readBody true false 0 (s ++ '\'' :: rest) = .ok (s, rest) := by
  induction s with
  | nil => exact readBody_closed
  | cons c s ih =>
    obtain ⟨hquote, hcontrol⟩ := h c List.mem_cons_self
    apply readBody_plain (fun hc => absurd hc hquote) (.inl rfl) (.inr hcontrol)
    exact ih fun c hc => h c (List.mem_cons_of_mem _ hc)

/-- A basic text on one line is written unit by unit. -/
theorem writeBasic_cons (c : Char) (s : List Char) :
    ∃ w, IsUnit c w ∧ writeBasic (c :: s) = w ++ writeBasic s := by
  refine ⟨_, ?_, List.flatMap_cons⟩
  by_cases hquote : c = '"'
  · subst hquote
    exact isUnit_quote
  by_cases hbreak : c = '\n'
  · subst hbreak
    exact .escape (by decide) fun r => rfl
  rw [if_neg hquote, if_neg hbreak]
  exact isUnit_writeUnit hquote

theorem readBody_writeBasic (s rest : List Char) :
    readBody false false 0 (writeBasic s ++ '"' :: rest) = .ok (s, rest) := by
  induction s with
  | nil => exact readBody_closed
  | cons c s ih =>
    obtain ⟨w, hunit, hwritten⟩ := writeBasic_cons c s
    rw [hwritten, List.append_assoc]
    exact readBody_unit hunit ih

/-! ### Texts on several lines -/

/-- Behind `run` quotes of a text, may so many quotes follow of which only the last three end it? -/
def MayFollow (run n : Nat) : Prop :=
  run + n ≤ 2 ∨ (3 ≤ n ∧ run + n ≤ 5)

theorem MayFollow.before {run n : Nat} (h : MayFollow (run + 1) n) : MayFollow run (n + 1) := by
  unfold MayFollow at *
  omega

/-- The first quote of such a run does not end the text. -/
theorem MayFollow.closesAt_eq_false {run n : Nat} (h : MayFollow (run + 1) n) :
    closesAt (n + 1) = false := by
  unfold MayFollow at h
  simp only [closesAt, Bool.or_eq_false_iff, beq_eq_false_iff_ne, decide_eq_false_iff_not]
  omega

theorem mayFollow_closing {run : Nat} (hrun : run ≤ 2) (hrest : ∀ c ∈ rest.head?, c ≠ x) :
    MayFollow run (quotes x (List.replicate 3 x ++ rest)) := by
  rw [quotes_closing hrest]
  exact .inr ⟨Nat.le_refl 3, by omega⟩

theorem mayFollow_of_ne {run : Nat} (hrun : run ≤ 2) (h : c ≠ x) : MayFollow run (quotes x (c :: s)) := by
  rw [quotes_cons_of_ne h]
  exact .inl hrun

/-- The writer lets at most two quotes stand next to each other. -/
theorem mayFollow_writeSeveral {run : Nat} (hrun : run ≤ 2) (hrest : ∀ c ∈ rest.head?, c ≠ '"') :
    MayFollow run (quotes '"' (writeSeveral run s ++ (List.replicate 3 '"' ++ rest))) := by
  induction s generalizing run with
  | nil => exact mayFollow_closing hrun hrest
  | cons c s ih =>
    rw [writeSeveral]
    split
    case isTrue hquote =>
      split
      case isTrue => exact mayFollow_of_ne hrun (by decide)
      case isFalse =>
        rw [List.cons_append, quotes_cons_self]
        exact (ih (by omega)).before
    case isFalse hquote =>
      split
      case isTrue => exact mayFollow_of_ne hrun (by decide)
      case isFalse =>
        obtain ⟨u, more, hwritten, hu, -⟩ := (isUnit_writeUnit hquote).exists_eq_cons
        rw [hwritten]
        exact mayFollow_of_ne hrun hu

theorem readBody_writeSeveral {run : Nat} (hrun : run ≤ 2) (hrest : ∀ c ∈ rest.head?, c ≠ '"') :
    readBody false true 0 (writeSeveral run s ++ (List.replicate 3 '"' ++ rest)) = .ok (s, rest) := by
  induction s generalizing run with
  | nil => exact readBody_closedThrice hrest
  | cons c s ih =>
    rw [writeSeveral]
    split
    case isTrue hquote =>
      subst hquote
      split
      case isTrue =>
        -- the third quote in a row is escaped, and the count starts again
        have hread := readBody_unit isUnit_quote (ih (Nat.zero_le 2))
        exact hread
      case isFalse =>
        have hopen : closesAt (quotes '"'
            ('"' :: (writeSeveral (run + 1) s ++ (List.replicate 3 '"' ++ rest)))) = false := by
          rw [quotes_cons_self]
          exact (mayFollow_writeSeveral (by omega) hrest).closesAt_eq_false
        exact readBody_plain (fun _ => ⟨rfl, hopen⟩) (.inr (by decide)) (.inr (by decide))
          (ih (by omega))
    case isFalse hquote =>
      split
      case isTrue hbreak =>
        subst hbreak
        exact readBody_plain (fun hc => absurd hc hquote) (.inr (by decide)) (.inl ⟨rfl, rfl⟩)
          (ih (Nat.zero_le 2))
      case isFalse =>
        rw [List.append_assoc]
        exact readBody_unit (isUnit_writeUnit hquote) (ih (Nat.zero_le 2))

/-! ### Runs of quotes -/

/-- The length of the run of a character that a text ends in, and of its longest one, with one more
character. -/
def countRun (x : Char) (p : Nat × Nat) (c : Char) : Nat × Nat :=
  if c = x then (p.1 + 1, max p.2 (p.1 + 1)) else (0, p.2)

theorem longestRun_eq (x : Char) (s : List Char) : longestRun x s = (s.foldl (countRun x) (0, 0)).2 := rfl

theorem countRun_self (p : Nat × Nat) : countRun x p x = (p.1 + 1, max p.2 (p.1 + 1)) :=
  if_pos rfl

theorem countRun_le (x : Char) (p : Nat × Nat) (c : Char) : (countRun x p c).1 ≤ (countRun x p c).2 := by
  rw [countRun]
  split
  · exact Nat.le_max_right _ _
  · exact Nat.zero_le _

theorem le_foldl_countRun (x : Char) (s : List Char) (p : Nat × Nat) :
    p.2 ≤ (s.foldl (countRun x) p).2 := by
  induction s generalizing p with
  | nil => exact Nat.le_refl _
  | cons c s ih =>
    have hstep : p.2 ≤ (countRun x p c).2 := by
      rw [countRun]
      split
      · exact Nat.le_max_left _ _
      · exact Nat.le_refl _
    exact Nat.le_trans hstep (ih _)

/-- Where the longest run has no length, the character does not occur. -/
theorem notMem_of_foldl_countRun {p : Nat × Nat} (h : (s.foldl (countRun x) p).2 = 0) : x ∉ s := by
  induction s generalizing p with
  | nil => exact List.not_mem_nil
  | cons c s ih =>
    have hc : x ≠ c := by
      rintro rfl
      have hlonger := le_foldl_countRun x s (countRun x p x)
      rw [List.foldl_cons] at h
      rw [h, countRun_self] at hlonger
      exact absurd (Nat.le_trans (Nat.le_max_right _ _) hlonger) (Nat.not_succ_le_zero _)
    rw [List.mem_cons, not_or]
    exact ⟨hc, ih h⟩

/-- A text without three quotes in a row does not end early, whatever quotes it starts or ends with. -/
theorem mayFollow_literal {p : Nat × Nat} (hp : p.1 ≤ p.2) (h : (s.foldl (countRun x) p).2 ≤ 2)
    (hrest : ∀ c ∈ rest.head?, c ≠ x) :
    MayFollow p.1 (quotes x (s ++ (List.replicate 3 x ++ rest))) := by
  have hrun : p.1 ≤ 2 := Nat.le_trans hp (Nat.le_trans (le_foldl_countRun x s p) h)
  induction s generalizing p with
  | nil => exact mayFollow_closing hrun hrest
  | cons c s ih =>
    by_cases hc : c = x
    · subst hc
      have hordered := countRun_le c p c
      have hbound := Nat.le_trans hordered (Nat.le_trans (le_foldl_countRun c s _) h)
      have hnext : MayFollow (countRun c p c).1 (quotes c (s ++ (List.replicate 3 c ++ rest))) :=
        ih hordered h hbound
      rw [countRun_self] at hnext
      rw [List.cons_append, quotes_cons_self]
      exact hnext.before
    · exact mayFollow_of_ne hrun hc

theorem readBody_severalLiteral {p : Nat × Nat} (hrun : (s.foldl (countRun '\'') p).2 ≤ 2)
    (hcodes : ∀ c ∈ s, isCode c = false) (hrest : ∀ c ∈ rest.head?, c ≠ '\'') :
    readBody true true 0 (s ++ (List.replicate 3 '\'' ++ rest)) = .ok (s, rest) := by
  induction s generalizing p with
  | nil => exact readBody_closedThrice hrest
  | cons c s ih =>
    have hfirst : (true = true ∧ c = '\n') ∨ isRawControl c = false := by
      have hcode := hcodes c List.mem_cons_self
      simp only [isCode, Bool.and_eq_false_iff, bne_eq_false_iff_eq] at hcode
      tauto
    have hopen : StaysOpen true true c (s ++ (List.replicate 3 '\'' ++ rest)) := by
      rintro rfl
      have hnext := mayFollow_literal (countRun_le '\'' p '\'') hrun hrest
      rw [countRun_self] at hnext
      refine ⟨rfl, ?_⟩
      rw [mark, if_pos rfl, quotes_cons_self]
      exact hnext.closesAt_eq_false
    exact readBody_plain hopen (.inl rfl) hfirst
      (ih hrun fun c hc => hcodes c (List.mem_cons_of_mem _ hc))

/-! ### Whole texts -/

/-- A text on one line does not start with two quotes and a third one. -/
theorem take_two_ne {body : List Char} (hbody : ∀ c ∈ body.head?, c ≠ x)
    (hrest : ∀ c ∈ rest.head?, c ≠ x) : (body ++ x :: rest).take 2 ≠ [x, x] := by
  intro heq
  cases body with
  | cons u more => exact hbody u rfl (List.cons.inj heq).1
  | nil =>
    cases rest with
    | nil => simp at heq
    | cons c r => exact hrest c rfl (by simpa using heq)

theorem readText_line (literal : Bool) (h : r.take 2 ≠ [mark literal, mark literal]) :
    readText (mark literal :: r) = readBody literal false 0 r := by
  cases literal
  all_goals
    rw [mark] at h ⊢
    unfold readText
    split
    all_goals simp_all

theorem readText_lines (literal : Bool) (r : List Char) :
    readText (List.replicate 3 (mark literal) ++ r) = readBody literal true 0 (dropFirstBreak r) := by
  cases literal <;> rfl

/-- The line break behind the opening quotes is the one that is dropped. -/
theorem dropFirstBreak_opening {body : List Char}
    (h : s.contains '\n' = false → ∃ u more, body = u :: more ∧ u ≠ '\n' ∧ u ≠ '\r') :
    dropFirstBreak ((if s.contains '\n' then ['\n'] else []) ++ body) = body := by
  cases hbreak : s.contains '\n' with
  | true => rfl
  | false =>
    obtain ⟨u, more, rfl, hfeed, hreturn⟩ := h hbreak
    show dropFirstBreak (u :: more) = u :: more
    unfold dropFirstBreak
    split
    · next heq => exact absurd (List.cons.inj heq).1 hfeed
    · next heq => exact absurd (List.cons.inj heq).1 hreturn
    · rfl

theorem isRawControl_of_isCode (hcode : isCode c = false) (hbreak : c ≠ '\n') :
    isRawControl c = false := by
  simpa [isCode, hbreak] using hcode

theorem isCode_of_any (h : s.any isCode = false) : ∀ c ∈ s, isCode c = false :=
  fun c hc => by simpa using List.any_eq_false.1 h c hc

theorem ne_of_contains (h : s.contains x = false) (hc : c ∈ s) : c ≠ x := by
  rintro rfl
  simp [hc] at h

/-- A literal text on one line holds only what can stand as it is. -/
theorem plain_of_quotingFor_literal (h : quotingFor s = .literal) :
    ∀ c ∈ s, c ≠ '\'' ∧ isRawControl c = false := by
  have hmet : s.any isCode = false ∧ longestRun '\'' s = 0 ∧ s.contains '\n' = false := by
    unfold quotingFor at h
    grind
  obtain ⟨hcodes, hrun, hbreaks⟩ := hmet
  rw [longestRun_eq] at hrun
  have hquote : '\'' ∉ s := notMem_of_foldl_countRun hrun
  intro c hc
  refine ⟨fun heq => hquote (heq ▸ hc), ?_⟩
  exact isRawControl_of_isCode (isCode_of_any hcodes c hc) (ne_of_contains hbreaks hc)

/-- On several lines it may hold line feeds too, and quotes of which at most two stand in a row. -/
theorem plain_of_quotingFor_severalLiteral (h : quotingFor s = .severalLiteral) :
    (∀ c ∈ s, isCode c = false) ∧ (s.foldl (countRun '\'') (0, 0)).2 ≤ 2 := by
  have hmet : s.any isCode = false ∧ longestRun '\'' s ≤ 2 := by
    unfold quotingFor at h
    grind
  rw [longestRun_eq] at hmet
  exact ⟨isCode_of_any hmet.1, hmet.2⟩

/-- Behind the opening quotes of a basic text on several lines, only a line feed is one. -/
theorem exists_writeSeveral_eq_cons (h : s.contains '\n' = false) :
    ∃ u more, writeSeveral 0 s ++ (List.replicate 3 '"' ++ rest) = u :: more ∧
      u ≠ '\n' ∧ u ≠ '\r' := by
  cases s with
  | nil => exact ⟨'"', _, rfl, by decide, by decide⟩
  | cons c s =>
    rw [writeSeveral]
    split
    case isTrue => exact ⟨'"', _, rfl, by decide, by decide⟩
    case isFalse hquote =>
      have hbreak : c ≠ '\n' := ne_of_contains h List.mem_cons_self
      obtain ⟨u, more, hwritten, -, hfeed, hreturn⟩ := (isUnit_writeUnit hquote).exists_eq_cons
      rw [if_neg hbreak, hwritten]
      exact ⟨u, _, rfl, hfeed, hreturn⟩

theorem exists_literal_eq_cons (hcodes : ∀ c ∈ s, isCode c = false) (h : s.contains '\n' = false) :
    ∃ u more, s ++ (List.replicate 3 '\'' ++ rest) = u :: more ∧ u ≠ '\n' ∧ u ≠ '\r' := by
  cases s with
  | nil => exact ⟨'\'', _, rfl, by decide, by decide⟩
  | cons c s =>
    have hbreak : c ≠ '\n' := ne_of_contains h List.mem_cons_self
    exact ⟨c, _, rfl, isRawControl_eq_false (isRawControl_of_isCode (hcodes c List.mem_cons_self) hbreak)⟩

/-- **A text is read back from what is written for it**, whatever is in it, if no quote follows. -/
theorem readText_writeText (s : List Char) (hrest : ∀ c ∈ rest.head?, c ≠ '"' ∧ c ≠ '\'') :
    readText (writeText s ++ rest) = .ok (s, rest) := by
  have hdouble : ∀ c ∈ rest.head?, c ≠ mark false := fun c hc => (hrest c hc).1
  have hsingle : ∀ c ∈ rest.head?, c ≠ mark true := fun c hc => (hrest c hc).2
  rw [writeText]
  cases hquoting : quotingFor s with
  | basic =>
    -- an empty text is two quotes, and what is behind it may not make them three
    simp only [List.cons_append, List.append_assoc, List.nil_append]
    refine (readText_line false (take_two_ne ?_ hdouble)).trans (readBody_writeBasic s rest)
    cases s with
    | nil => nofun
    | cons c s =>
      obtain ⟨w, hunit, hwritten⟩ := writeBasic_cons c s
      obtain ⟨u, more, rfl, hu, -⟩ := hunit.exists_eq_cons
      rw [hwritten]
      intro d hd
      obtain rfl := Option.some.inj hd
      exact hu
  | literal =>
    have hplain := plain_of_quotingFor_literal hquoting
    simp only [List.cons_append, List.append_assoc, List.nil_append]
    refine (readText_line true (take_two_ne ?_ hsingle)).trans (readBody_literal hplain)
    exact fun c hc => (hplain c (List.mem_of_mem_head? hc)).1
  | severalBasic =>
    simp only [List.append_assoc]
    refine (readText_lines false _).trans ?_
    rw [dropFirstBreak_opening exists_writeSeveral_eq_cons]
    exact readBody_writeSeveral (Nat.zero_le 2) hdouble
  | severalLiteral =>
    obtain ⟨hcodes, hrun⟩ := plain_of_quotingFor_severalLiteral hquoting
    simp only [List.append_assoc]
    refine (readText_lines true _).trans ?_
    rw [dropFirstBreak_opening (exists_literal_eq_cons hcodes)]
    exact readBody_severalLiteral hrun hcodes hsingle

end ImportCensus.Toml
