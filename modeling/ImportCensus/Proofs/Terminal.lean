/-
ImportCensus/Proofs/Terminal.lean

Taking the escape sequences out of a text.

`strip` decides character by character what belongs to a sequence.  `Strips` says the same without looking
ahead: a sequence at the head of the text goes, and any other character stays.  For texts that were
decorated piece by piece this is what matters (`Decorates`), since such texts can be put together: no piece
ends in the middle of a sequence.

Main statements: stripping takes out the sequences and nothing else (`strip_eq_iff`), and what was
decorated is stripped to what it was (`Decorates.strip_eq`).
-/
import ImportCensus.Terminal
import Mathlib.Data.List.Forall2

namespace ImportCensus.Terminal

variable {parameters s s' t t' : List Char} {c : Char}

/-! ### Sequences -/

/-- Does a text start with an escape sequence? -/
def StartsSequence (s : List Char) : Prop :=
  ∃ parameters rest, (∀ c ∈ parameters, isParameter c = true) ∧ s = sequence parameters ++ rest

/-- Is the second text the first one without its escape sequences? -/
inductive Strips : List Char → List Char → Prop
  | nil : Strips [] []
  | sequence {parameters rest t : List Char} (hparameters : ∀ c ∈ parameters, isParameter c = true)
      (hrest : Strips rest t) : Strips (sequence parameters ++ rest) t
  | char {c : Char} {rest t : List Char} (hstart : ¬StartsSequence (c :: rest))
      (hrest : Strips rest t) : Strips (c :: rest) (c :: t)

theorem ne_escape_of_isParameter (h : isParameter c = true) : c ≠ escape := by
  rintro rfl
  cases h

theorem not_startsSequence_of_ne (h : c ≠ escape) (rest : List Char) : ¬StartsSequence (c :: rest) := by
  rintro ⟨parameters, rest', -, heq⟩
  exact h (List.cons.inj heq).1

/-! ### What stripping does -/

theorem strip_cons (h : c ≠ escape) (s : List Char) : strip (c :: s) = c :: strip s := by
  rw [strip, stripFrom, if_neg h]
  rfl

/-- Behind the start of a sequence, the parameters are passed over. -/
theorem stripFrom_parameters (hparameters : ∀ c ∈ parameters, isParameter c = true)
    (before rest : List Char) :
    stripFrom (escape :: '[' :: before) (parameters ++ rest)
      = stripFrom (escape :: '[' :: (before ++ parameters)) rest := by
  induction parameters generalizing before with
  | nil => simp
  | cons c r ih =>
    obtain ⟨hc, hr⟩ := List.forall_mem_cons.1 hparameters
    have hend : c ≠ 'm' := by
      rintro rfl
      cases hc
    rw [List.cons_append, stripFrom, if_neg hend, if_pos hc]
    rw [List.cons_append, List.cons_append, ih hr, List.append_assoc]
    rfl
    all_goals exact nofun

/-- A sequence is taken out. -/
theorem strip_sequence_append (hparameters : ∀ c ∈ parameters, isParameter c = true)
    (rest : List Char) : strip (sequence parameters ++ rest) = strip rest := by
  have hopened : strip (sequence parameters ++ rest)
      = stripFrom [escape, '['] (parameters ++ 'm' :: rest) := by
    simp [strip, sequence, stripFrom]
  rw [hopened, stripFrom_parameters hparameters, stripFrom, if_pos rfl]
  rfl
  all_goals exact nofun

/-- The start of a sequence that does not come to its end stays. -/
theorem stripFrom_of_unfinished (hend : ∀ parameters rest, (∀ c ∈ parameters, isParameter c = true) →
    s ≠ parameters ++ 'm' :: rest) (before : List Char) :
    stripFrom (escape :: '[' :: before) s = escape :: '[' :: before ++ strip s := by
  induction s generalizing before with
  | nil => simp [strip, stripFrom]
  | cons c r ih =>
    have hc : c ≠ 'm' := by
      rintro rfl
      exact hend [] r (List.forall_mem_nil _) rfl
    rw [stripFrom, if_neg hc]
    · by_cases hparameter : isParameter c = true
      · -- the sequence has one parameter more, and still does not end
        have hr := ih (fun parameters rest hparameters heq =>
          hend (c :: parameters) rest (List.forall_mem_cons.2 ⟨hparameter, hparameters⟩)
            (congrArg (c :: ·) heq)) (before ++ [c])
        rw [if_pos hparameter, strip_cons (ne_escape_of_isParameter hparameter)]
        simpa using hr
      · rw [if_neg hparameter]
        by_cases hescape : c = escape
        · rw [if_pos hescape, hescape]
          rfl
        · rw [if_neg hescape, strip_cons hescape]
          rfl
    all_goals exact nofun

/-- What starts no sequence stays. -/
theorem strip_of_not_startsSequence (h : ¬StartsSequence (c :: s)) :
    strip (c :: s) = c :: strip s := by
  by_cases hc : c = escape
  · subst hc
    cases s with
    | nil => rfl
    | cons d r =>
      by_cases hd : d = '['
      · subst hd
        have hend : ∀ parameters rest, (∀ c ∈ parameters, isParameter c = true) →
            r ≠ parameters ++ 'm' :: rest := by
          rintro parameters rest hparameters rfl
          exact h ⟨parameters, rest, hparameters, by simp [sequence]⟩
        have hopened : strip (escape :: '[' :: r) = stripFrom [escape, '['] r := rfl
        rw [hopened, stripFrom_of_unfinished hend, strip_cons (by decide)]
        rfl
      · by_cases hescape : d = escape
        · subst hescape
          rfl
        · rw [strip_cons hescape]
          simp [strip, stripFrom, hd, hescape]
  · exact strip_cons hc s

/-- **Stripping takes out the sequences and nothing else.** -/
theorem strip_eq_iff : strip s = t ↔ Strips s t := by
  constructor
  · rintro rfl
    -- a sequence is longer than one character, so that the induction is on the length
    induction hlength : s.length using Nat.strongRecOn generalizing s with
    | ind length ih =>
      subst hlength
      by_cases hstart : StartsSequence s
      · obtain ⟨parameters, rest, hparameters, rfl⟩ := hstart
        rw [strip_sequence_append hparameters]
        exact .sequence hparameters (ih _ (by simp [sequence]; omega) rfl)
      · cases s with
        | nil => exact .nil
        | cons c r =>
          rw [strip_of_not_startsSequence hstart]
          exact .char hstart (ih _ (by simp) rfl)
  · intro h
    induction h with
    | nil => rfl
    | sequence hparameters _ ih => rw [strip_sequence_append hparameters, ih]
    | char hstart _ ih => rw [strip_of_not_startsSequence hstart, ih]

/-! ### Decorated texts -/

/-- Is the first text the second one with whole sequences put into it?  The second text has no escape
character of its own. -/
inductive Decorates : List Char → List Char → Prop
  | nil : Decorates [] []
  | sequence {parameters s t : List Char} (hparameters : ∀ c ∈ parameters, isParameter c = true)
      (hrest : Decorates s t) : Decorates (sequence parameters ++ s) t
  | char {c : Char} {s t : List Char} (hc : c ≠ escape) (hrest : Decorates s t) :
      Decorates (c :: s) (c :: t)

namespace Decorates

/-- A text without escape characters is as it was. -/
theorem of_notMem (h : escape ∉ s) : Decorates s s := by
  induction s with
  | nil => exact .nil
  | cons c r ih =>
    rw [List.mem_cons, not_or] at h
    exact .char (Ne.symm h.1) (ih h.2)

/-- Decorated texts are put together. -/
theorem append (h : Decorates s t) (h' : Decorates s' t') : Decorates (s ++ s') (t ++ t') := by
  induction h with
  | nil => exact h'
  | sequence hparameters hrest ih =>
    rw [List.append_assoc]
    exact .sequence hparameters ih
  | char hc hrest ih => exact .char hc ih

/-- A sequence behind a text is put there as well. -/
theorem append_sequence (h : Decorates s t) (hparameters : ∀ c ∈ parameters, isParameter c = true) :
    Decorates (s ++ Terminal.sequence parameters) t := by
  have hend : Decorates (Terminal.sequence parameters) [] := by
    simpa using Decorates.sequence hparameters .nil
  simpa using h.append hend

/-- Lines that are decorated one by one are decorated together. -/
theorem flatMap {lines lines' : List (List Char)} (h : List.Forall₂ Decorates lines lines') :
    Decorates (lines.flatMap (· ++ ['\n'])) (lines'.flatMap (· ++ ['\n'])) := by
  induction h with
  | nil => exact .nil
  | cons hline _ ih => exact (hline.append (.of_notMem (by decide))).append ih

/-- **What was decorated is stripped to what it was.** -/
theorem strip_eq (h : Decorates s t) : strip s = t := by
  rw [strip_eq_iff]
  induction h with
  | nil => exact .nil
  | sequence hparameters _ ih => exact .sequence hparameters ih
  | char hc _ ih => exact .char (not_startsSequence_of_ne hc _) ih

end Decorates

/-! ### Styles -/

theorem isParameter_parameters (style : Style) : ∀ c ∈ style.parameters, isParameter c = true := by
  rw [← List.all_eq_true]
  cases style <;> rfl

/-- A text that does not reset styles is left as it is. -/
theorem restyle_of_notMem (h : escape ∉ s) (on : List Char) : restyle on s = s := by
  induction s with
  | nil => rfl
  | cons c r ih =>
    rw [List.mem_cons, not_or] at h
    rw [restyle, ih h.2]
    exact fun r' hc _ => h.1 hc.symm

/-- What stands between the sequences of a style is decorated by them. -/
theorem decorates_styled (h : escape ∉ s) (style : Style) :
    Decorates (sequence style.parameters ++ s ++ reset) s := by
  have hreset : ∀ c ∈ ['0'], isParameter c = true := List.all_eq_true.1 rfl
  rw [List.append_assoc]
  exact .sequence (isParameter_parameters style) ((Decorates.of_notMem h).append_sequence hreset)

/-- A text in a style is the text, decorated. -/
theorem decorates_paint (h : escape ∉ s) (style : Style) :
    Decorates (paint true style s) (paint false style s) := by
  rw [paint_plain]
  simp only [paint, if_true, restyle_of_notMem h]
  exact decorates_styled h style

end ImportCensus.Terminal
