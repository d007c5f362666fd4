/-
ImportCensus/Proofs/Source/Bindings.lean

How an import with bindings comes to its literal.  Its pattern tries every `from` in a run of bindings that
may go over many lines and hold further words `import` and `from`.  But bindings hold no semicolon, no
quote and no backtick, so whichever `from` is tried, the literal behind it opens at the first such character
behind `import`, or there is none.  One look ahead therefore decides, without going back.  `LeadsTo` says in
positions of the whole text what it has to find: that the first such character is a quote, that the last
word before it is `from`, and that the same quote comes again on its line.

Main statement: where the word `import` stands, the pattern can be read exactly if the look ahead succeeds,
and then every way of reading it has found the literal that the look ahead comes to
(`importFrom_iff_leadsTo`).
-/
import ImportCensus.Proofs.Source.Literal
import Mathlib.Data.List.DropRight

namespace ImportCensus.Source

open Text

variable {text : List Char} {i : Nat}

/-! ### The look ahead -/

/-- A look ahead from position `k` comes to a literal in these quotes, which opens and closes at these
positions. -/
structure LeadsTo (text : List Char) (k opening closing : Nat) (quote : Char) : Prop
    extends Quotes text opening closing quote where
  /-- The first character that bindings cannot hold is the quote. -/
  first : FirstFrom text k (· ∈ [';', '\'', '"', '`']) opening quote
  /-- What is before it ends in the word `from`, blanks apart. -/
  lastWord : ∃ before, (between text k opening).rdropWhile isBlank = before ++ "from".toList ∧
    isBoundary text (k + before.length) = true

/-- A text is what is left of it without the blanks at its end, and these blanks. -/
theorem exists_rdropWhile_blanks (s : List Char) : ∃ a, AllBlank a ∧ s = s.rdropWhile isBlank ++ a := by
  refine ⟨s.rtakeWhile isBlank, fun c hc => List.mem_rtakeWhile_imp hc, ?_⟩
  rw [List.rdropWhile, List.rtakeWhile, ← List.reverse_append, List.takeWhile_append_dropWhile,
    List.reverse_reverse]

theorem rdropWhile_append_blanks {s a : List Char} {c : Char} (ha : AllBlank a)
    (hc : isBlank c = false) : (s ++ [c] ++ a).rdropWhile isBlank = s ++ [c] := by
  rw [List.rdropWhile, List.reverse_append,
    List.dropWhile_append_of_pos fun x hx => ha x (List.mem_reverse.1 hx), ← List.rdropWhile,
    List.rdropWhile_concat_neg _ _ _ (by simp [hc])]

/-- Where a word stands, it starts at a boundary unless a word goes over into it. -/
theorem isBoundary_iff_of_split {a b : List Char} (h : text.drop i = a ++ b) (hb : startsInWord b = true) :
    isBoundary text (i + a.length) = true ↔ wordBefore text (i + a.length) = false := by
  rw [isBoundary, drop_add_of_split h, hb, bne_iff_ne, ne_eq, Bool.not_eq_true]

/-- The last word of the bindings is `from`, seen from within the whole text.  There is a word boundary
before it exactly if bindings come between it and the word `import`. -/
theorem endsWithFrom_iff_lastWord {gap rest : List Char}
    (hsplit : text.drop i = "import".toList ++ (gap ++ rest)) :
    endsWithFrom gap = true ↔
      ∃ before, gap.rdropWhile isBlank = before ++ "from".toList ∧
        isBoundary text (i + 6 + before.length) = true := by
  have hgap : text.drop (i + 6) = gap ++ rest := drop_add_of_split (a := "import".toList) hsplit
  constructor
  · intro h
    obtain ⟨before, c, a, hc, ha, rfl⟩ := endsWithFrom_iff.1 h
    have hword : text.drop (i + 6) = (before ++ [c]) ++ ("from".toList ++ (a ++ rest)) := by
      rw [hgap]
      simp
    refine ⟨before ++ [c], ?_, ?_⟩
    · have hlast : before ++ c :: ("from".toList ++ a) = (before ++ c :: "fro".toList) ++ ['m'] ++ a := by
        simp
      rw [hlast, rdropWhile_append_blanks ha (by decide)]
      simp
    · rw [isBoundary_iff_of_split hword rfl, wordBefore_of_split hword, hc]
  · rintro ⟨before, htrimmed, hboundary⟩
    obtain ⟨a, ha, hblanks⟩ := exists_rdropWhile_blanks gap
    rw [htrimmed] at hblanks
    have hword : text.drop (i + 6) = before ++ ("from".toList ++ (a ++ rest)) := by
      rw [hgap, hblanks]
      simp only [List.append_assoc]
    rw [isBoundary_iff_of_split hword rfl] at hboundary
    -- directly behind `import` there is no boundary before a letter
    have hne : before ≠ [] := by
      rintro rfl
      exact Bool.false_ne_true (hboundary.symm.trans (wordBefore_import hsplit))
    obtain ⟨front, c, rfl⟩ : ∃ front c, before = front ++ [c] :=
      ⟨_, _, (List.dropLast_append_getLast hne).symm⟩
    rw [wordBefore_of_split hword] at hboundary
    rw [endsWithFrom_iff]
    refine ⟨front, c, a, hboundary, ha, ?_⟩
    rw [hblanks]
    simp

/-! ### What the look ahead comes to -/

section LookAhead

variable {opening closing : Nat} {quote : Char}

/-- Where a look ahead succeeds, the shape of an import with bindings stands. -/
theorem LeadsTo.exists_shape (h : LeadsTo text (i + 6) opening closing quote)
    (hword : "import".toList <+: text.drop i) (hbehind : isBoundary text (i + 6) = true) :
    ∃ m : Shape Form.importFrom.Opens Form.importFrom.Closes (text.drop i),
      opening = i + m.front.length ∧ closing = i + m.front.length + 1 + m.body.length := by
  obtain ⟨gap, behind, hgap, hbindings, -, rfl⟩ := firstFrom_iff.1 h.first
  have hopen : text.drop (i + 6 + gap.length + 1) = behind :=
    drop_add_of_split (a := [quote]) (drop_add_of_split hgap)
  obtain ⟨body, rest, hbody, hinside, -, rfl⟩ := firstFrom_iff.1 h.again
  rw [hopen] at hbody
  have hline := h.sameLine
  rw [between_of_split (hopen.trans hbody)] at hline
  have hfrom := h.lastWord
  rw [between_of_split hgap] at hfrom
  have hsplit : text.drop i = "import".toList ++ (gap ++ quote :: behind) := by
    obtain ⟨after, hafter⟩ := hword
    rw [← hgap, ← hafter]
    exact congrArg _ (drop_add_of_split (a := "import".toList) hafter.symm).symm
  have hends : endsWithFrom gap = true := (endsWithFrom_iff_lastWord hsplit).2 hfrom
  have hstart : startsInWord gap = false := by
    have hletter : wordBefore text (i + 6) = true := wordBefore_import hsplit
    rw [isBoundary, hletter, hgap, startsInWord_append (ne_nil_of_endsWithFrom hends)] at hbehind
    simpa using hbehind
  have hplace : i + 6 + gap.length = i + ("import".toList ++ gap).length := by
    rw [List.length_append, ← Nat.add_assoc]
    rfl
  rw [hplace]
  refine ⟨⟨"import".toList ++ gap, quote, body, [], rest, ?_, isQuote_iff.2 h.isQuote, ?_, rfl, ?_⟩,
    rfl, rfl⟩
  · exact ⟨gap, fun c hc => isBinding_iff.2 (hbindings c hc), hstart, hends, rfl⟩
  · exact fun c hc => isBody_iff.2 ⟨hinside c hc, hline c hc⟩
  · rw [hsplit, hbody, List.append_assoc, List.nil_append]

/-- Where the shape of an import with bindings stands, a look ahead comes to its literal. -/
theorem leadsTo_of_shape (m : Shape Form.importFrom.Opens Form.importFrom.Closes (text.drop i)) :
    LeadsTo text (i + 6) (i + m.front.length) (i + m.front.length + 1 + m.body.length) m.quote := by
  obtain ⟨gap, hbindings, -, hends, hfront⟩ := m.opens_front
  have hplace : i + m.front.length = i + 6 + gap.length := by
    rw [hfront, List.length_append, ← Nat.add_assoc]
    rfl
  have hsplit : text.drop i
      = "import".toList ++ (gap ++ m.quote :: (m.body ++ m.quote :: (m.back ++ m.rest))) := by
    rw [← List.append_assoc, ← hfront]
    exact m.split
  have hgap : text.drop (i + 6) = gap ++ m.quote :: (m.body ++ m.quote :: (m.back ++ m.rest)) :=
    drop_add_of_split (a := "import".toList) hsplit
  refine ⟨quotes_of_shape m, ?_, ?_⟩
  · refine firstFrom_iff.2 ⟨gap, _, hgap, fun c hc => isBinding_iff.1 (hbindings c hc), ?_, hplace⟩
    rcases isQuote_iff.1 m.isQuote_quote with hquote | hquote <;> simp [hquote]
  · rw [hplace, between_of_split hgap]
    exact (endsWithFrom_iff_lastWord hsplit).1 hends

end LookAhead

/-- What is found where the shape of an import with bindings stands, in positions of the whole text. -/
theorem hit_of_bindings (m : Shape Form.importFrom.Opens Form.importFrom.Closes (text.drop i)) :
    m.hit = ⟨i + m.front.length - i,
      between text (i + m.front.length + 1) (i + m.front.length + 1 + m.body.length),
      i + m.front.length + 1 + m.body.length + 1 - i⟩ := by
  have hback : m.back = [] := m.closes_back
  rw [between_of_shape, Shape.hit, hback, List.length_nil, Hit.mk.injEq]
  exact ⟨by omega, rfl, by omega⟩

/-- **An import with bindings takes the literal that one look ahead comes to.**  Let the word `import` stand
at a position.  Its pattern can be read from there exactly if the look ahead behind the word succeeds;
every way of reading it has then found the literal to which the look ahead leads; and the form is found
there with this literal and up to its closing quote, or not at all. -/
theorem importFrom_iff_leadsTo (hword : "import".toList <+: text.drop i)
    (hbefore : isBoundary text i = true) (hbehind : isBoundary text (i + 6) = true) :
    (Form.importFrom.pattern.ways text i ≠ [] ↔
      ∃ opening closing quote, LeadsTo text (i + 6) opening closing quote) ∧
    (∀ opening closing quote, LeadsTo text (i + 6) opening closing quote →
      ∀ w ∈ Form.importFrom.pattern.ways text i,
        Match.literal? text ⟨i, w⟩ = some ⟨opening, between text (opening + 1) closing⟩) ∧
    ∀ h, Form.importFrom.at (text.drop i) = some h ↔
      ∃ opening closing quote, LeadsTo text (i + 6) opening closing quote ∧
        h = ⟨opening - i, between text (opening + 1) closing, closing + 1 - i⟩ := by
  have hword' : wordBefore text i = false := by
    obtain ⟨after, hafter⟩ := hword
    exact (isBoundary_iff_of_split (a := []) hafter.symm rfl).1 hbefore
  refine ⟨⟨?_, ?_⟩, ?_, fun h => ⟨?_, ?_⟩⟩
  · intro hne
    obtain ⟨w, hw⟩ := List.exists_mem_of_ne_nil _ hne
    obtain ⟨-, m, -⟩ := mem_ways_pattern_iff.1 hw
    exact ⟨_, _, _, leadsTo_of_shape m⟩
  · rintro ⟨opening, closing, quote, hleads⟩
    obtain ⟨m, -, -⟩ := hleads.exists_shape hword hbehind
    exact List.ne_nil_of_mem (mem_ways_pattern_iff.2 ⟨hword', m, rfl⟩)
  · intro opening closing quote hleads w hw
    obtain ⟨m, rfl, rfl⟩ := hleads.exists_shape hword hbehind
    obtain ⟨-, m', rfl⟩ := mem_ways_pattern_iff.1 hw
    -- there is one form at a place, so both shapes have the same literal
    have hsame : m'.hit = m.hit :=
      Option.some.inj ((at_eq_some_iff.2 ⟨m', rfl⟩).symm.trans (at_eq_some_iff.2 ⟨m, rfl⟩))
    rw [literal?_way, hsame, between_of_shape]
    rfl
  · intro hfound
    obtain ⟨m, rfl⟩ := at_eq_some_iff.1 hfound
    exact ⟨_, _, _, leadsTo_of_shape m, hit_of_bindings m⟩
  · rintro ⟨opening, closing, quote, hleads, rfl⟩
    obtain ⟨m, rfl, rfl⟩ := hleads.exists_shape hword hbehind
    exact at_eq_some_iff.2 ⟨m, (hit_of_bindings m).symm⟩

/-- An import whose bindings hold both of its words, behind a word that only ends in `import`. -/
def nestedWords : List Char :=
  "reimport import from, \x7b\n import, from\x7d from\t'a' from \"b\"".toList

theorem importFrom_iff_leadsTo_nestedWords :
    "import".toList <+: nestedWords.drop 9 ∧ isBoundary nestedWords 9 = true ∧
    isBoundary nestedWords (9 + 6) = true ∧
    Form.importFrom.at (nestedWords.drop 9) = some ⟨35, ['a'], 38⟩ ∧
    ∃ opening closing quote, LeadsTo nestedWords (9 + 6) opening closing quote ∧
      ∀ w ∈ Form.importFrom.pattern.ways nestedWords 9,
        Match.literal? nestedWords ⟨9, w⟩ = some ⟨opening, ['a']⟩ := by
  have hword : "import".toList <+: nestedWords.drop 9 := by decide
  have hbefore : isBoundary nestedWords 9 = true := by decide
  have hbehind : isBoundary nestedWords (9 + 6) = true := by decide
  have hfound : Form.importFrom.at (nestedWords.drop 9) = some ⟨35, ['a'], 38⟩ := by decide
  obtain ⟨-, hliteral, hat⟩ := importFrom_iff_leadsTo hword hbefore hbehind
  obtain ⟨opening, closing, quote, hleads, hhit⟩ := (hat _).1 hfound
  obtain ⟨-, hbody, -⟩ := Hit.mk.inj hhit
  have hread := hliteral opening closing quote hleads
  rw [← hbody] at hread
  exact ⟨hword, hbefore, hbehind, hfound, opening, closing, quote, hleads, hread⟩

end ImportCensus.Source
