/-
ImportCensus/Proofs/Source/Shape.lean

What stands at the head of a text where a form of reference is found.  Every form is an opening, a
literal and a closing,

    front  quote  body  quote  back

where the front holds the keyword and what may follow it, and the back is the parenthesis of a call or
nothing.  `Form.Opens` and `Form.Closes` say which fronts and backs a form has.

Main statement: a form is found at the head of a text exactly if the text has its shape
(`at_eq_some_iff`).  `Form.at` takes the longest run of blanks wherever blanks may stand, and everything
up to the first quote, semicolon or backtick as the bindings; nothing is lost by that, because a run of
blanks is always followed by a character that is no blank, and bindings by a quote.
-/
import ImportCensus.Source.Reference
import Mathlib.Data.List.Basic
import Mathlib.Data.Option.Basic

namespace ImportCensus.Source

open Text

/-! ### Shapes -/

/-- A text of blanks. -/
def AllBlank (s : List Char) : Prop :=
  ∀ c ∈ s, isBlank c = true

/-- A text that starts with an opening, a literal and a closing. -/
structure Shape (opens closes : List Char → Prop) (s : List Char) where
  front : List Char
  quote : Char
  body : List Char
  back : List Char
  rest : List Char
  opens_front : opens front
  isQuote_quote : isQuote quote = true
  isBody_body : ∀ c ∈ body, isBody quote c = true
  closes_back : closes back
  split : s = front ++ quote :: (body ++ quote :: (back ++ rest))

/-- What is found where a text has a shape. -/
def Shape.hit {opens closes : List Char → Prop} {s : List Char} (m : Shape opens closes s) : Hit where
  offset := m.front.length
  literal := m.body
  length := m.front.length + m.body.length + 2 + m.back.length

theorem Shape.take_front {opens closes : List Char → Prop} {s : List Char} (m : Shape opens closes s) :
    s.take m.front.length = m.front :=
  (congrArg (List.take m.front.length) m.split).trans List.take_left

/-- The texts that open a call of `word`. -/
def CallOpens (word front : List Char) : Prop :=
  ∃ a b, AllBlank a ∧ AllBlank b ∧ front = word ++ (a ++ '(' :: b)

/-- The texts that close a call. -/
def CallCloses (back : List Char) : Prop :=
  ∃ a, AllBlank a ∧ back = a ++ [')']

/-- The texts that open an import with bindings. -/
def BindingsOpen (front : List Char) : Prop :=
  ∃ gap, (∀ c ∈ gap, isBinding c = true) ∧ startsInWord gap = false ∧ endsWithFrom gap = true ∧
    front = "import".toList ++ gap

/-- The texts that open an import without bindings. -/
def BareOpens (front : List Char) : Prop :=
  ∃ a, AllBlank a ∧ front = "import".toList ++ a

namespace Form

/-- The texts that may stand in a form before its literal. -/
def Opens : Form → List Char → Prop
  | require => CallOpens "require".toList
  | importFrom => BindingsOpen
  | dynamicImport => CallOpens "import".toList
  | sideEffect => BareOpens

/-- The texts that may stand in a form behind its literal. -/
def Closes : Form → List Char → Prop
  | require | dynamicImport => CallCloses
  | importFrom | sideEffect => (· = [])

end Form

/-! ### Blanks and bindings -/

theorem exists_blanks (s : List Char) : ∃ a, AllBlank a ∧ s = a ++ skipBlanks s :=
  ⟨s.takeWhile isBlank, List.all_eq_true.1 List.all_takeWhile,
    List.takeWhile_append_dropWhile.symm⟩

theorem skipBlanks_append {a s : List Char} (ha : AllBlank a) :
    skipBlanks (a ++ s) = skipBlanks s :=
  List.dropWhile_append_of_pos ha

theorem skipBlanks_cons {c : Char} {s : List Char} (hc : isBlank c = false) :
    skipBlanks (c :: s) = c :: s :=
  List.dropWhile_cons_of_neg (by simp [hc])

theorem isQuote_iff {q : Char} : isQuote q = true ↔ q = '"' ∨ q = '\'' := by
  simp only [isQuote, Bool.or_eq_true, beq_iff_eq]

theorem isBody_iff {q c : Char} : isBody q c = true ↔ c ≠ q ∧ c ≠ '\r' ∧ c ≠ '\n' := by
  simp only [isBody, Bool.and_eq_true, bne_iff_ne, and_assoc]

theorem isBinding_iff {c : Char} : isBinding c = true ↔ c ∉ [';', '\'', '"', '`'] := by
  simp only [isBinding, Bool.and_eq_true, bne_iff_ne, List.mem_cons, List.not_mem_nil, or_false, not_or,
    and_assoc]

theorem isBlank_quote {q : Char} (hq : isQuote q = true) : isBlank q = false := by
  rcases isQuote_iff.1 hq with rfl | rfl <;> decide

theorem isBinding_quote {q : Char} (hq : isQuote q = true) : isBinding q = false := by
  rcases isQuote_iff.1 hq with rfl | rfl <;> decide

theorem isBinding_of_isBlank {c : Char} (hc : isBlank c = true) : isBinding c = true := by
  rw [isBinding_iff]
  intro hend
  have hnone : ([';', '\'', '"', '`'].all fun c => !isBlank c) = true := by decide
  simpa [hc] using List.all_eq_true.1 hnone c hend

theorem dropWord_eq_some_iff {word s rest : List Char} :
    dropWord word s = some rest ↔ s = word ++ rest := by
  induction word generalizing s with
  | nil => simp [dropWord]
  | cons w ws ih =>
    cases s with
    | nil => simp [dropWord]
    | cons c s =>
      by_cases hwc : w = c
      · simp [dropWord, hwc, ih]
      · simp [dropWord, hwc, Ne.symm hwc]

theorem startsInWord_append {s t : List Char} (hs : s ≠ []) :
    startsInWord (s ++ t) = startsInWord s := by
  cases s with
  | nil => exact absurd rfl hs
  | cons c r => rfl

/-- The last word is `from`, and some character that belongs to no word stands before it. -/
theorem endsWithFrom_iff {gap : List Char} :
    endsWithFrom gap = true ↔
      ∃ before c a, isWord c = false ∧ AllBlank a ∧
        gap = before ++ c :: ("from".toList ++ a) := by
  constructor
  · intro h
    unfold endsWithFrom at h
    split at h
    · next c r hd =>
      refine ⟨r.reverse, c, (gap.reverse.takeWhile isBlank).reverse, by simpa using h, ?_, ?_⟩
      · intro x hx
        exact List.all_eq_true.1 List.all_takeWhile x (List.mem_reverse.1 hx)
      · calc gap = (gap.reverse.takeWhile isBlank ++ gap.reverse.dropWhile isBlank).reverse := by
              rw [List.takeWhile_append_dropWhile, List.reverse_reverse]
          _ = (gap.reverse.dropWhile isBlank).reverse ++ (gap.reverse.takeWhile isBlank).reverse :=
              List.reverse_append
          _ = r.reverse ++ c :: ("from".toList ++ (gap.reverse.takeWhile isBlank).reverse) := by
              rw [hd]
              simp
    · cases h
  · rintro ⟨before, c, a, hc, ha, rfl⟩
    have hrev : (before ++ c :: ("from".toList ++ a)).reverse
        = a.reverse ++ 'm' :: 'o' :: 'r' :: 'f' :: c :: before.reverse := by
      simp
    have hdrop : (before ++ c :: ("from".toList ++ a)).reverse.dropWhile isBlank
        = 'm' :: 'o' :: 'r' :: 'f' :: c :: before.reverse := by
      rw [hrev, List.dropWhile_append_of_pos fun x hx => ha x (List.mem_reverse.1 hx),
        List.dropWhile_cons_of_neg (by decide)]
    unfold endsWithFrom
    rw [hdrop]
    simp [hc]

theorem ne_nil_of_endsWithFrom {gap : List Char} (h : endsWithFrom gap = true) : gap ≠ [] := by
  rintro rfl
  cases h

/-! ### What is found at the head of a text -/

/-- A text that starts with a literal, taken apart. -/
theorem split_of_readLiteral {s body rest : List Char} (h : readLiteral s = some (body, rest)) :
    ∃ q, isQuote q = true ∧ (∀ c ∈ body, isBody q c = true) ∧ s = q :: (body ++ q :: rest) := by
  obtain ⟨q, hq, rfl⟩ := readLiteral_append h
  exact ⟨q, hq, readLiteral_body h, rfl⟩

/-- The hit in a text that is split at its literal and behind its form. -/
theorem hit_split (front body back rest : List Char) (q : Char) :
    hit (front ++ q :: (body ++ q :: (back ++ rest))) (q :: (body ++ q :: (back ++ rest))) rest body
      = ⟨front.length, body, front.length + body.length + 2 + back.length⟩ := by
  simp only [hit, Hit.mk.injEq, List.length_append, List.length_cons, true_and]
  constructor <;> omega

theorem callAt_eq_some_iff {word s : List Char} {h : Hit} :
    callAt word s = some h ↔ ∃ m : Shape (CallOpens word) CallCloses s, h = m.hit := by
  constructor
  · intro hcall
    simp only [callAt, Option.bind_eq_bind, Option.bind_eq_some_iff] at hcall
    obtain ⟨afterWord, hword, inside, hparen, ⟨body, behind⟩, hlit, rest, hclose, hhit⟩ := hcall
    obtain ⟨a, ha, hafter⟩ := exists_blanks afterWord
    obtain ⟨b, hb, hinside⟩ := exists_blanks inside
    obtain ⟨c, hc, hbehind⟩ := exists_blanks behind
    obtain ⟨q, hq, hbody, hquote⟩ := split_of_readLiteral hlit
    rw [dropWord_eq_some_iff] at hword hparen hclose
    have hbehind' : behind = (c ++ [')']) ++ rest := by
      rw [hbehind, hclose]
      simp
    rw [hbehind'] at hquote
    have hs : s = (word ++ (a ++ '(' :: b)) ++ q :: (body ++ q :: ((c ++ [')']) ++ rest)) := by
      rw [hword, hafter, hparen, hinside, hquote]
      simp
    refine ⟨⟨_, q, body, _, rest, ⟨a, b, ha, hb, rfl⟩, hq, hbody, ⟨c, hc, rfl⟩, hs⟩, ?_⟩
    rw [hs, hquote, hit_split] at hhit
    exact (Option.some.inj hhit).symm
  · rintro ⟨⟨_, q, body, _, rest, ⟨a, b, ha, hb, rfl⟩, hq, hbody, ⟨c, hc, rfl⟩, rfl⟩, rfl⟩
    have hback : (c ++ [')']) ++ rest = c ++ ')' :: rest := by
      simp
    have hword : dropWord word
          ((word ++ (a ++ '(' :: b)) ++ q :: (body ++ q :: ((c ++ [')']) ++ rest)))
        = some (a ++ '(' :: (b ++ q :: (body ++ q :: (c ++ ')' :: rest)))) := by
      rw [dropWord_eq_some_iff]
      simp
    have hopen : skipBlanks (a ++ '(' :: (b ++ q :: (body ++ q :: (c ++ ')' :: rest))))
        = '(' :: (b ++ q :: (body ++ q :: (c ++ ')' :: rest))) := by
      rw [skipBlanks_append ha, skipBlanks_cons (by decide)]
    have hquote : skipBlanks (b ++ q :: (body ++ q :: (c ++ ')' :: rest)))
        = q :: (body ++ q :: (c ++ ')' :: rest)) := by
      rw [skipBlanks_append hb, skipBlanks_cons (isBlank_quote hq)]
    have hclose : skipBlanks (c ++ ')' :: rest) = ')' :: rest := by
      rw [skipBlanks_append hc, skipBlanks_cons (by decide)]
    simp only [callAt, hword, Option.bind_eq_bind, Option.bind_some, hopen, hquote,
      readLiteral_quoted hq hbody, hclose, dropWord_eq_some_iff.2 List.singleton_append.symm]
    rw [← hback, hit_split]
    rfl

theorem sideEffectAt_eq_some_iff {s : List Char} {h : Hit} :
    sideEffectAt s = some h ↔ ∃ m : Shape BareOpens (· = []) s, h = m.hit := by
  constructor
  · intro hbare
    simp only [sideEffectAt, Option.bind_eq_bind, Option.bind_eq_some_iff] at hbare
    obtain ⟨afterWord, hword, ⟨body, rest⟩, hlit, hhit⟩ := hbare
    obtain ⟨a, ha, hafter⟩ := exists_blanks afterWord
    obtain ⟨q, hq, hbody, hquote⟩ := split_of_readLiteral hlit
    rw [dropWord_eq_some_iff] at hword
    have hs : s = ("import".toList ++ a) ++ q :: (body ++ q :: ([] ++ rest)) := by
      rw [hword, hafter, hquote, List.append_assoc, List.nil_append]
    refine ⟨⟨_, q, body, [], rest, ⟨a, ha, rfl⟩, hq, hbody, rfl, hs⟩, ?_⟩
    rw [hs, hquote] at hhit
    exact (Option.some.inj hhit).symm.trans (hit_split _ body [] rest q)
  · rintro ⟨⟨_, q, body, _, rest, ⟨a, ha, rfl⟩, hq, hbody, rfl, rfl⟩, rfl⟩
    have hword : dropWord "import".toList (("import".toList ++ a) ++ q :: (body ++ q :: ([] ++ rest)))
        = some (a ++ q :: (body ++ q :: rest)) := by
      rw [dropWord_eq_some_iff, List.append_assoc, List.nil_append]
    have hquote : skipBlanks (a ++ q :: (body ++ q :: rest)) = q :: (body ++ q :: rest) := by
      rw [skipBlanks_append ha, skipBlanks_cons (isBlank_quote hq)]
    simp only [sideEffectAt, hword, Option.bind_eq_bind, Option.bind_some, hquote,
      readLiteral_quoted hq hbody]
    exact congrArg some (hit_split _ body [] rest q)

theorem importFromAt_eq_some_iff {s : List Char} {h : Hit} :
    importFromAt s = some h ↔ ∃ m : Shape BindingsOpen (· = []) s, h = m.hit := by
  constructor
  · intro himport
    simp only [importFromAt, Option.bind_eq_bind, Option.bind_eq_some_iff, Option.guard_eq_some',
      exists_and_left, exists_const, Bool.not_eq_true'] at himport
    obtain ⟨afterWord, hword, hstart, hfrom, ⟨body, rest⟩, hlit, hhit⟩ := himport
    obtain ⟨q, hq, hbody, hquote⟩ := split_of_readLiteral hlit
    have hafter : afterWord = afterWord.takeWhile isBinding ++ q :: (body ++ q :: ([] ++ rest)) := by
      calc afterWord = afterWord.takeWhile isBinding ++ afterWord.dropWhile isBinding :=
            List.takeWhile_append_dropWhile.symm
        _ = _ := by rw [hquote, List.nil_append]
    have hgap : startsInWord (afterWord.takeWhile isBinding) = false := by
      rwa [hafter, startsInWord_append (ne_nil_of_endsWithFrom hfrom)] at hstart
    rw [dropWord_eq_some_iff] at hword
    have hs : s = ("import".toList ++ afterWord.takeWhile isBinding)
        ++ q :: (body ++ q :: ([] ++ rest)) := by
      rw [List.append_assoc, ← hafter, hword]
    refine ⟨⟨_, q, body, [], rest, ⟨_, ?_, hgap, hfrom, rfl⟩, hq, hbody, rfl, hs⟩, ?_⟩
    · exact List.all_eq_true.1 List.all_takeWhile
    · rw [hs, hquote] at hhit
      exact (Option.some.inj hhit).symm.trans (hit_split _ body [] rest q)
  · rintro ⟨⟨_, q, body, _, rest, ⟨gap, hgap, hstart, hfrom, rfl⟩, hq, hbody, rfl, rfl⟩, rfl⟩
    have hword : dropWord "import".toList
          (("import".toList ++ gap) ++ q :: (body ++ q :: ([] ++ rest)))
        = some (gap ++ q :: (body ++ q :: rest)) := by
      rw [dropWord_eq_some_iff, List.append_assoc, List.nil_append]
    have hnonblank : ¬ isBinding q = true := by
      simp [isBinding_quote hq]
    have htake : (gap ++ q :: (body ++ q :: rest)).takeWhile isBinding = gap := by
      rw [List.takeWhile_append_of_pos hgap, List.takeWhile_cons_of_neg hnonblank, List.append_nil]
    have hdrop : (gap ++ q :: (body ++ q :: rest)).dropWhile isBinding = q :: (body ++ q :: rest) := by
      rw [List.dropWhile_append_of_pos hgap, List.dropWhile_cons_of_neg hnonblank]
    simp only [importFromAt, hword, Option.bind_eq_bind, Option.bind_some,
      startsInWord_append (ne_nil_of_endsWithFrom hfrom), hstart, htake, hfrom, hdrop,
      readLiteral_quoted hq hbody]
    exact congrArg some (hit_split _ body [] rest q)

/-- **A form is found exactly where its shape stands.** -/
theorem at_eq_some_iff {form : Form} {s : List Char} {h : Hit} :
    form.at s = some h ↔ ∃ m : Shape form.Opens form.Closes s, h = m.hit := by
  cases form with
  | require => exact callAt_eq_some_iff
  | importFrom => exact importFromAt_eq_some_iff
  | dynamicImport => exact callAt_eq_some_iff
  | sideEffect => exact sideEffectAt_eq_some_iff

end ImportCensus.Source
