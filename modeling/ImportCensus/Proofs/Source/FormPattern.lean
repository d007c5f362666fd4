/-
ImportCensus/Proofs/Source/FormPattern.lean

The search patterns of the four forms of reference, and what they read.

A pattern without groups reads texts of a certain language, wherever it stands (`Reads`); languages of
sequences are put together from those of their parts.  Word boundaries inside a pattern depend on the
text around them, so the pattern of `import … from` is taken apart by hand: a boundary behind `import`
means that no word goes on there, and one before `from` that none comes to its end there.

The bindings of `import … from` are read in many ways, because blanks may belong to the run of blanks or
to the lazy run behind it.  But neither holds a quote, so the literal is always the first one behind
`import`, and all ways agree on where they stop and on what the literal is.

Main statement: a form's pattern is read from a position exactly if the character before it is no word
character and the form has its shape there (`mem_ways_pattern_iff`).
-/
import ImportCensus.Proofs.Source.Pattern
import ImportCensus.Proofs.Source.Shape

namespace ImportCensus.Source

open Text

/-! ### The patterns -/

namespace Form

/-- Any number of blanks. -/
def blanks : Pattern :=
  .many .blank true

/-- A literal in quotes `q`; a group keeps what it quotes. -/
def literalIn (number : Nat) (q : Char) : Pattern :=
  .seq (.exactly [q]) (.seq (.group number (.many (.except [q, '\r', '\n']) true)) (.exactly [q]))

/-- A literal in quotes of either kind. -/
def literal : Pattern :=
  .either (literalIn 1 '"') (literalIn 2 '\'')

/-- A call of `word` up to its literal. -/
def callOpening (word : List Char) : Pattern :=
  .seq (.exactly word) (.seq blanks (.seq (.exactly ['(']) blanks))

/-- The end of a call behind its literal. -/
def callClosing : Pattern :=
  .seq blanks (.exactly [')'])

/-- An import with bindings up to its literal. -/
def bindingsOpening : Pattern :=
  .seq (.exactly "import".toList) <| .seq .boundary <| .seq blanks <|
    .seq (.many (.except [';', '\'', '"', '`']) false) <| .seq .boundary <|
      .seq (.exactly "from".toList) blanks

/-- An import without bindings up to its literal. -/
def bareOpening : Pattern :=
  .seq (.exactly "import".toList) blanks

/-- The pattern of a form up to its literal. -/
def opening : Form → Pattern
  | require => callOpening "require".toList
  | importFrom => bindingsOpening
  | dynamicImport => callOpening "import".toList
  | sideEffect => bareOpening

/-- The pattern of a form behind its literal. -/
def closing : Form → Pattern
  | require | dynamicImport => callClosing
  | importFrom | sideEffect => .exactly []

/-- The pattern of a form. -/
def pattern (form : Form) : Pattern :=
  .seq .boundary (.seq form.opening (.seq literal form.closing))

example : forms.map (·.pattern.written) =
    ["\\brequire\\s*\\(\\s*(?:\"([^\"\\r\\n]*)\"|'([^'\\r\\n]*)')\\s*\\)",
     "\\bimport\\b\\s*[^;'\"`]*?\\bfrom\\s*(?:\"([^\"\\r\\n]*)\"|'([^'\\r\\n]*)')",
     "\\bimport\\s*\\(\\s*(?:\"([^\"\\r\\n]*)\"|'([^'\\r\\n]*)')\\s*\\)",
     "\\bimport\\s*(?:\"([^\"\\r\\n]*)\"|'([^'\\r\\n]*)')"] := by
  rfl

end Form

/-! ### Languages -/

variable {text : List Char} {i : Nat} {w : Way}

/-- What is behind a piece of a text. -/
theorem drop_add_of_split {a rest : List Char} (h : text.drop i = a ++ rest) :
    text.drop (i + a.length) = rest := by
  rw [← List.drop_drop, h, List.drop_left]

/-- From every position of the text, the pattern reads the pieces that belong to a language, and nothing
else. -/
def Reads (text : List Char) (p : Pattern) (language : List Char → Prop) : Prop :=
  ∀ i w, w ∈ p.ways text i ↔
    ∃ a rest, text.drop i = a ++ rest ∧ language a ∧ w = ⟨i + a.length, []⟩

namespace Reads

variable {p q : Pattern} {first second : List Char → Prop}

theorem exactly (word : List Char) : Reads text (.exactly word) (· = word) := by
  intro i w
  rw [Pattern.mem_ways_exactly]
  constructor
  · rintro ⟨rest, hsplit, rfl⟩
    exact ⟨word, rest, hsplit, rfl, rfl⟩
  · rintro ⟨_, rest, hsplit, rfl, rfl⟩
    exact ⟨rest, hsplit, rfl⟩

theorem many (cls : CharClass) (greedy : Bool) :
    Reads text (.many cls greedy) (∀ c ∈ ·, cls.has c = true) :=
  fun _ _ => Pattern.mem_ways_many

theorem blanks : Reads text Form.blanks AllBlank :=
  many .blank true

/-- What stands first in a sequence is read, and the rest from where that stops. -/
theorem mem_ways_seq (hp : Reads text p first) :
    w ∈ (Pattern.seq p q).ways text i ↔
      ∃ a rest, text.drop i = a ++ rest ∧ first a ∧ w ∈ q.ways text (i + a.length) := by
  rw [Pattern.mem_ways_seq]
  constructor
  · rintro ⟨v, hv, b, hb, rfl⟩
    obtain ⟨a, rest, hsplit, ha, rfl⟩ := (hp i v).1 hv
    exact ⟨a, rest, hsplit, ha, hb⟩
  · rintro ⟨a, rest, hsplit, ha, hw⟩
    exact ⟨⟨i + a.length, []⟩, (hp i _).2 ⟨a, rest, hsplit, ha, rfl⟩, w, hw, rfl⟩

/-- The language of a sequence is the product of the languages of its parts. -/
theorem seq (hp : Reads text p first) (hq : Reads text q second) :
    Reads text (.seq p q) (fun c => ∃ a b, first a ∧ second b ∧ c = a ++ b) := by
  intro i w
  rw [mem_ways_seq hp]
  constructor
  · rintro ⟨a, r, hsplit, ha, hw⟩
    obtain ⟨b, rest, hsplit', hb, rfl⟩ := (hq _ w).1 hw
    rw [drop_add_of_split hsplit] at hsplit'
    refine ⟨a ++ b, rest, ?_, ⟨a, b, ha, hb, rfl⟩, ?_⟩
    · rw [hsplit, hsplit', List.append_assoc]
    · rw [List.length_append, Nat.add_assoc]
  · rintro ⟨_, rest, hsplit, ⟨a, b, ha, hb, rfl⟩, rfl⟩
    rw [List.append_assoc] at hsplit
    refine ⟨a, b ++ rest, hsplit, ha, (hq _ _).2 ⟨b, rest, drop_add_of_split hsplit, hb, ?_⟩⟩
    rw [List.length_append, Nat.add_assoc]

theorem congr (h : Reads text p first) (hiff : ∀ a, first a ↔ second a) : Reads text p second := by
  intro i w
  rw [h i w]
  simp only [hiff]

end Reads

/-! ### Word boundaries -/

theorem wordBefore_of_split {a rest : List Char} {c : Char}
    (h : text.drop i = (a ++ [c]) ++ rest) :
    wordBefore text (i + (a ++ [c]).length) = isWord c := by
  have hget : text[i + a.length]? = some c := by
    rw [← List.getElem?_drop, h, List.append_assoc, List.getElem?_append_right (Nat.le_refl _),
      Nat.sub_self]
    rfl
  rw [List.length_append]
  show (text[i + a.length]?).any isWord = isWord c
  rw [hget]
  rfl

theorem mem_ways_boundary_seq {q : Pattern} :
    w ∈ (Pattern.seq .boundary q).ways text i ↔
      wordBefore text i ≠ startsInWord (text.drop i) ∧ w ∈ q.ways text i := by
  rw [Pattern.mem_ways_seq]
  constructor
  · rintro ⟨a, ha, b, hb, rfl⟩
    obtain ⟨hbound, rfl⟩ := Pattern.mem_ways_boundary.1 ha
    exact ⟨bne_iff_ne.1 hbound, hb⟩
  · rintro ⟨hbound, hw⟩
    exact ⟨⟨i, []⟩, Pattern.mem_ways_boundary.2 ⟨bne_iff_ne.2 hbound, rfl⟩, w, hw, rfl⟩

/-! ### What the openings and closings read -/

theorem reads_callOpening (word : List Char) :
    Reads text (Form.callOpening word) (CallOpens word) := by
  refine ((Reads.exactly word).seq (Reads.blanks.seq ((Reads.exactly ['(']).seq Reads.blanks))).congr ?_
  intro front
  constructor
  · rintro ⟨_, _, rfl, ⟨a, _, ha, ⟨_, b, rfl, hb, rfl⟩, rfl⟩, rfl⟩
    exact ⟨a, b, ha, hb, rfl⟩
  · rintro ⟨a, b, ha, hb, rfl⟩
    exact ⟨_, _, rfl, ⟨a, _, ha, ⟨_, b, rfl, hb, rfl⟩, rfl⟩, rfl⟩

theorem reads_callClosing : Reads text Form.callClosing CallCloses := by
  refine (Reads.blanks.seq (Reads.exactly [')'])).congr ?_
  intro back
  constructor
  · rintro ⟨a, _, ha, rfl, rfl⟩
    exact ⟨a, ha, rfl⟩
  · rintro ⟨a, ha, rfl⟩
    exact ⟨a, _, ha, rfl, rfl⟩

theorem reads_bareOpening : Reads text Form.bareOpening BareOpens := by
  refine ((Reads.exactly _).seq Reads.blanks).congr ?_
  intro front
  constructor
  · rintro ⟨_, a, rfl, ha, rfl⟩
    exact ⟨a, ha, rfl⟩
  · rintro ⟨a, ha, rfl⟩
    exact ⟨_, a, rfl, ha, rfl⟩

theorem has_bindings_iff {c : Char} :
    (CharClass.except [';', '\'', '"', '`']).has c = true ↔ isBinding c = true := by
  simp only [CharClass.has, isBinding, List.contains_cons, List.contains_nil, Bool.or_false,
    Bool.not_or, Bool.and_assoc, bne]

theorem isBinding_of_mem_from {c : Char} (h : c ∈ "from".toList) : isBinding c = true := by
  have hletters : "from".toList.all isBinding = true := by
    decide
  exact List.all_eq_true.1 hletters c h

/-- The keyword of an import ends in a word character. -/
theorem wordBefore_import {rest : List Char} (h : text.drop i = "import".toList ++ rest) :
    wordBefore text (i + "import".toList.length) = true := by
  have hsplit : text.drop i = ("impor".toList ++ ['t']) ++ rest := h
  exact wordBefore_of_split hsplit

/-- If a text starts with an opening of bindings, there is a way of reading it: the one that leaves the
blanks behind `import` to the lazy run. -/
theorem mem_ways_bindings {gap rest : List Char}
    (hsplit : text.drop i = "import".toList ++ (gap ++ rest))
    (hgap : ∀ c ∈ gap, isBinding c = true) (hstart : startsInWord gap = false)
    (hfrom : endsWithFrom gap = true) :
    ⟨i + ("import".toList ++ gap).length, []⟩ ∈ Form.bindingsOpening.ways text i := by
  obtain ⟨before, c, a, hc, ha, heq⟩ := endsWithFrom_iff.1 hfrom
  have hrun : gap = (before ++ [c]) ++ ("from".toList ++ a) := by
    rw [heq]
    simp
  have hbehind : text.drop (i + "import".toList.length)
      = (before ++ [c]) ++ ("from".toList ++ (a ++ rest)) := by
    rw [drop_add_of_split hsplit, hrun]
    simp only [List.append_assoc]
  have hword := drop_add_of_split hbehind
  have hlast : wordBefore text (i + "import".toList.length + (before ++ [c]).length) = false :=
    (wordBefore_of_split hbehind).trans hc
  refine (Reads.exactly _).mem_ways_seq.2 ⟨_, _, hsplit, rfl, ?_⟩
  refine mem_ways_boundary_seq.2 ⟨?_, ?_⟩
  · rw [wordBefore_import hsplit, drop_add_of_split hsplit,
      startsInWord_append (ne_nil_of_endsWithFrom hfrom), hstart]
    decide
  refine Reads.blanks.mem_ways_seq.2 ⟨[], _, (List.nil_append _).symm, nofun, ?_⟩
  refine (Reads.many _ _).mem_ways_seq.2 ⟨before ++ [c], _, hbehind, ?_, ?_⟩
  · intro x hx
    refine has_bindings_iff.2 (hgap x ?_)
    rw [hrun]
    exact List.mem_append_left _ hx
  refine mem_ways_boundary_seq.2 ⟨?_, ?_⟩
  · intro hsame
    exact Bool.false_ne_true (hlast.symm.trans (hsame.trans (congrArg startsInWord hword)))
  refine (Reads.exactly _).mem_ways_seq.2 ⟨_, _, hword, rfl, ?_⟩
  refine (Reads.blanks _ _).2 ⟨a, rest, drop_add_of_split hword, ha, ?_⟩
  rw [hrun]
  simp only [List.length_append, List.length_nil, Nat.add_assoc, Nat.zero_add]

/-- However the bindings are read, the text starts with an opening of bindings. -/
theorem bindingsOpen_of_mem_ways (h : w ∈ Form.bindingsOpening.ways text i) :
    ∃ front rest, text.drop i = front ++ rest ∧ BindingsOpen front ∧ w = ⟨i + front.length, []⟩ := by
  obtain ⟨_, r₁, h₁, rfl, h⟩ := (Reads.exactly _).mem_ways_seq.1 h
  obtain ⟨hstart, h⟩ := mem_ways_boundary_seq.1 h
  obtain ⟨a, r₂, h₂, ha, h⟩ := Reads.blanks.mem_ways_seq.1 h
  obtain ⟨g, r₃, h₃, hg, h⟩ := (Reads.many _ _).mem_ways_seq.1 h
  obtain ⟨hend, h⟩ := mem_ways_boundary_seq.1 h
  obtain ⟨_, r₄, h₄, rfl, h⟩ := (Reads.exactly _).mem_ways_seq.1 h
  obtain ⟨b, rest, h₅, hb, rfl⟩ := (Reads.blanks _ _).1 h
  -- what is read behind the keyword, put together again
  have hr₃ : r₃ = "from".toList ++ (b ++ rest) := by
    rw [← drop_add_of_split h₃, h₄, ← h₅, drop_add_of_split h₄]
  have hbehind : text.drop (i + "import".toList.length) = (a ++ g) ++ ("from".toList ++ (b ++ rest)) := by
    rw [h₂, ← drop_add_of_split h₂, h₃, hr₃, List.append_assoc]
  rw [wordBefore_import h₁] at hstart
  have hne : a ++ g ≠ [] := by
    intro hnil
    rw [hbehind, hnil] at hstart
    exact hstart rfl
  obtain ⟨before, c, hlast⟩ : ∃ before c, a ++ g = before ++ [c] :=
    ⟨_, _, (List.dropLast_append_getLast hne).symm⟩
  have hc : isWord c = false := by
    have hword : startsInWord (text.drop (i + "import".toList.length + a.length + g.length)) = true := by
      rw [h₄]
      rfl
    rw [hlast] at hbehind
    have hbefore := wordBefore_of_split hbehind
    rw [← hlast, List.length_append, ← Nat.add_assoc] at hbefore
    rw [hbefore, hword] at hend
    simpa using hend
  have hfrom : endsWithFrom ((a ++ g) ++ ("from".toList ++ b)) = true := by
    rw [endsWithFrom_iff, hlast]
    exact ⟨before, c, b, hc, hb, by simp⟩
  refine ⟨"import".toList ++ ((a ++ g) ++ ("from".toList ++ b)), rest, ?_, ⟨_, ?_, ?_, hfrom, rfl⟩, ?_⟩
  · rw [h₁, ← drop_add_of_split h₁, hbehind]
    simp only [List.append_assoc]
  · intro x hx
    simp only [List.mem_append] at hx
    rcases hx with (hx | hx) | hx | hx
    · exact isBinding_of_isBlank (ha x hx)
    · exact has_bindings_iff.1 (hg x hx)
    · exact isBinding_of_mem_from hx
    · exact isBinding_of_isBlank (hb x hx)
  · rw [hbehind, startsInWord_append hne] at hstart
    rw [startsInWord_append hne]
    simpa using hstart
  · simp only [List.length_append, Nat.add_assoc]

theorem reads_bindingsOpening : Reads text Form.bindingsOpening BindingsOpen := by
  intro i w
  constructor
  · exact bindingsOpen_of_mem_ways
  · rintro ⟨_, rest, hsplit, ⟨gap, hgap, hstart, hfrom, rfl⟩, rfl⟩
    rw [List.append_assoc] at hsplit
    exact mem_ways_bindings hsplit hgap hstart hfrom

theorem reads_opening (form : Form) : Reads text form.opening form.Opens := by
  cases form with
  | require => exact reads_callOpening _
  | importFrom => exact reads_bindingsOpening
  | dynamicImport => exact reads_callOpening _
  | sideEffect => exact reads_bareOpening

theorem reads_closing (form : Form) : Reads text form.closing form.Closes := by
  cases form with
  | require => exact reads_callClosing
  | importFrom => exact Reads.exactly []
  | dynamicImport => exact reads_callClosing
  | sideEffect => exact Reads.exactly []

/-! ### What the whole pattern reads -/

/-- The group that keeps what a literal in quotes `q` quotes. -/
def groupOf (q : Char) : Nat :=
  if q = '"' then 1 else 2

theorem has_body_iff {q c : Char} :
    (CharClass.except [q, '\r', '\n']).has c = true ↔ isBody q c = true := by
  simp only [CharClass.has, isBody, List.contains_cons, List.contains_nil, Bool.or_false,
    Bool.not_or, Bool.and_assoc, bne]

theorem mem_ways_literalIn {number : Nat} {q : Char} :
    w ∈ (Form.literalIn number q).ways text i ↔
      ∃ body rest, text.drop i = q :: (body ++ q :: rest) ∧ (∀ c ∈ body, isBody q c = true) ∧
        w = ⟨i + 1 + body.length + 1, [⟨number, i + 1, i + 1 + body.length⟩]⟩ := by
  constructor
  · intro h
    obtain ⟨_, r, hsplit, rfl, h⟩ := (Reads.exactly [q]).mem_ways_seq.1 h
    obtain ⟨a, ha, b, hb, rfl⟩ := Pattern.mem_ways_seq.1 h
    obtain ⟨v, hv, rfl⟩ := Pattern.mem_ways_group.1 ha
    obtain ⟨body, r', hbody, hclass, rfl⟩ := Pattern.mem_ways_many.1 hv
    obtain ⟨rest, hquote, rfl⟩ := Pattern.mem_ways_exactly.1 hb
    refine ⟨body, rest, ?_, fun c hc => has_body_iff.1 (hclass c hc), rfl⟩
    have hr' : r' = [q] ++ rest := by
      rw [← hquote, drop_add_of_split hbody]
    rw [hsplit, ← drop_add_of_split hsplit, hbody, hr']
    rfl
  · rintro ⟨body, rest, hsplit, hbody, rfl⟩
    have hbehind : text.drop (i + [q].length) = body ++ ([q] ++ rest) :=
      drop_add_of_split (a := [q]) hsplit
    refine (Reads.exactly [q]).mem_ways_seq.2 ⟨_, _, hsplit, rfl, ?_⟩
    refine Pattern.mem_ways_seq.2
      ⟨⟨i + 1 + body.length, [⟨number, i + 1, i + 1 + body.length⟩]⟩, ?_,
        ⟨i + 1 + body.length + 1, []⟩, ?_, rfl⟩
    · refine Pattern.mem_ways_group.2 ⟨⟨i + 1 + body.length, []⟩, ?_, rfl⟩
      exact Pattern.mem_ways_many.2 ⟨body, _, hbehind, fun c hc => has_body_iff.2 (hbody c hc), rfl⟩
    · exact Pattern.mem_ways_exactly.2 ⟨rest, drop_add_of_split hbehind, rfl⟩

theorem mem_ways_literal :
    w ∈ Form.literal.ways text i ↔
      ∃ q body rest, text.drop i = q :: (body ++ q :: rest) ∧ isQuote q = true ∧
        (∀ c ∈ body, isBody q c = true) ∧
        w = ⟨i + 1 + body.length + 1, [⟨groupOf q, i + 1, i + 1 + body.length⟩]⟩ := by
  rw [Form.literal, Pattern.mem_ways_either, mem_ways_literalIn, mem_ways_literalIn]
  constructor
  · rintro (⟨body, rest, hsplit, hbody, rfl⟩ | ⟨body, rest, hsplit, hbody, rfl⟩)
    · exact ⟨_, body, rest, hsplit, rfl, hbody, rfl⟩
    · exact ⟨_, body, rest, hsplit, rfl, hbody, rfl⟩
  · rintro ⟨q, body, rest, hsplit, hq, hbody, rfl⟩
    rcases isQuote_iff.1 hq with rfl | rfl
    · exact .inl ⟨body, rest, hsplit, hbody, rfl⟩
    · exact .inr ⟨body, rest, hsplit, hbody, rfl⟩

/-- What is behind a literal. -/
theorem drop_behind_literal {q : Char} {body rest : List Char}
    (h : text.drop i = q :: (body ++ q :: rest)) : text.drop (i + 1 + body.length + 1) = rest := by
  have hbody : text.drop (i + 1) = body ++ q :: rest := drop_add_of_split (a := [q]) h
  exact drop_add_of_split (a := [q]) (drop_add_of_split hbody)

/-- How a pattern is read from a position where its form has the given shape. -/
def Shape.way {opens closes : List Char → Prop} {s : List Char} (m : Shape opens closes s)
    (i : Nat) : Way where
  stop := i + m.hit.length
  groups := [⟨groupOf m.quote, i + m.front.length + 1, i + m.front.length + 1 + m.body.length⟩]

/-- A form starts with a word character, so the boundary before it is one behind another character. -/
theorem startsInWord_of_opens {form : Form} {front rest : List Char} (h : form.Opens front) :
    startsInWord (front ++ rest) = true := by
  cases form with
  | require =>
    obtain ⟨a, b, -, -, rfl⟩ := h
    rfl
  | importFrom =>
    obtain ⟨gap, -, -, -, rfl⟩ := h
    rfl
  | dynamicImport =>
    obtain ⟨a, b, -, -, rfl⟩ := h
    rfl
  | sideEffect =>
    obtain ⟨a, -, rfl⟩ := h
    rfl

/-- **The pattern of a form is read exactly where the form has its shape**, behind a character that is no
word character. -/
theorem mem_ways_pattern_iff {form : Form} :
    w ∈ form.pattern.ways text i ↔
      wordBefore text i = false ∧
        ∃ m : Shape form.Opens form.Closes (text.drop i), w = m.way i := by
  constructor
  · intro h
    obtain ⟨hbound, h⟩ := mem_ways_boundary_seq.1 h
    obtain ⟨front, r, hfront, hopens, h⟩ := (reads_opening form).mem_ways_seq.1 h
    obtain ⟨a, ha, b, hb, rfl⟩ := Pattern.mem_ways_seq.1 h
    obtain ⟨q, body, r', hlit, hq, hbody, rfl⟩ := mem_ways_literal.1 ha
    obtain ⟨back, rest, hback, hcloses, rfl⟩ := (reads_closing form _ _).1 hb
    rw [hfront, startsInWord_of_opens hopens, ne_eq, Bool.not_eq_true] at hbound
    have hr' : r' = back ++ rest := by
      rw [← drop_behind_literal hlit]
      exact hback
    have hsplit : text.drop i = front ++ q :: (body ++ q :: (back ++ rest)) := by
      rw [hfront, ← drop_add_of_split hfront, hlit, hr']
    refine ⟨hbound, ⟨front, q, body, back, rest, hopens, hq, hbody, hcloses, hsplit⟩, ?_⟩
    simp only [Way.andThen, Shape.way, Shape.hit, List.append_nil, Way.mk.injEq, and_true]
    omega
  · rintro ⟨hbound, ⟨front, q, body, back, rest, hopens, hq, hbody, hcloses, hsplit⟩, rfl⟩
    have hlit := drop_add_of_split hsplit
    have hback := drop_behind_literal hlit
    refine mem_ways_boundary_seq.2 ⟨?_, (reads_opening form).mem_ways_seq.2 ⟨front, _, hsplit, hopens, ?_⟩⟩
    · rw [hbound, hsplit, startsInWord_of_opens hopens]
      exact Bool.false_ne_true
    refine Pattern.mem_ways_seq.2 ⟨_, mem_ways_literal.2 ⟨q, body, _, hlit, hq, hbody, rfl⟩, _,
      (reads_closing form _ _).2 ⟨back, rest, hback, hcloses, rfl⟩, ?_⟩
    simp only [Way.andThen, Shape.way, Shape.hit, List.append_nil, Way.mk.injEq, and_true]
    omega

end ImportCensus.Source
