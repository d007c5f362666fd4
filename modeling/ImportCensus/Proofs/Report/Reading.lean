/-
ImportCensus/Proofs/Report/Reading.lean

Reading the numbers of a report off its lines.

A reader knows the words of a report but not how it was made.  The paragraphs are what stands between empty
lines, each is known by the words with which its first line starts, and a number is the digits between fixed
words.  The rows of packages stand further to the left than the lines that belong to them.

Main statements: of sections under titles none of which starts like another, each is found by its title
(`paragraph?_of_parts`), and a number is read as it was written (`numberBetween?_digits`).
-/
import ImportCensus.Report.Human
import Mathlib.Data.List.DropRight

namespace ImportCensus.Report.Reading

open View

/-! ### Numbers -/

/-- The number that is spelled by digits and nothing else. -/
def number? (s : List Char) : Option ℕ :=
  if s ≠ [] ∧ s.all Char.isDigit = true then some (Nat.ofDigitChars 10 s 0) else none

/-- The number between two texts, if a line has nothing else. -/
def numberBetween? (before after : String) (line : Line) : Option ℕ :=
  ((line.dropPrefix? before.toList).bind (·.dropSuffix? after.toList)).bind number?

theorem isDigit_of_mem_digits {n : ℕ} {d : Char} (h : d ∈ digits n) : d.isDigit = true :=
  Nat.isDigit_of_mem_toDigits (by decide) (by decide) h

theorem number?_digits (n : ℕ) : number? (digits n) = some n := by
  have hdigits : digits n ≠ [] ∧ (digits n).all Char.isDigit = true :=
    ⟨Nat.toDigits_ne_nil, List.all_eq_true.2 fun _ => isDigit_of_mem_digits⟩
  rw [number?, if_pos hdigits, digits, Nat.ofDigitChars_toDigits (by decide) (by decide)]

/-- What stands behind a text is found. -/
theorem dropPrefix?_append (p s : List Char) : (p ++ s).dropPrefix? p = some s :=
  List.dropPrefix?_eq_some_iff.2 ⟨p, rfl, beq_self_eq_true p⟩

/-- What stands before a text is found. -/
theorem dropSuffix?_append (s p : List Char) : (s ++ p).dropSuffix? p = some s :=
  List.dropSuffix?_eq_some_iff.2 ⟨p, rfl, beq_self_eq_true p⟩

/-- A number is read as it was written. -/
theorem numberBetween?_digits (before after : String) (n : ℕ) :
    numberBetween? before after (before.toList ++ digits n ++ after.toList) = some n := by
  rw [numberBetween?, List.append_assoc, dropPrefix?_append, Option.bind_some, dropSuffix?_append,
    Option.bind_some, number?_digits]

/-! ### Paragraphs -/

/-- The lines of a text, each of which is ended by a line break. -/
def linesOf (text : String) : List Line :=
  (Text.split '\n' text.toList).dropLast

/-- The paragraphs of some lines: what stands between empty lines. -/
def paragraphs (lines : List Line) : List (List Line) :=
  lines.splitOnP List.isEmpty

/-- Does the first line of a paragraph start with a title? -/
def hasTitle (title : String) (paragraph : List Line) : Bool :=
  paragraph.head?.any (title.toList.isPrefixOf ·)

/-- The first paragraph with a title. -/
def paragraph? (title : String) (lines : List Line) : Option (List Line) :=
  (paragraphs lines).find? (hasTitle title)

/-- Does neither of two texts start with the other one? -/
def Apart (s t : String) : Prop :=
  ¬s.toList <+: t.toList ∧ ¬t.toList <+: s.toList

instance (s t : String) : Decidable (Apart s t) :=
  inferInstanceAs (Decidable (_ ∧ _))

theorem Apart.symm {s t : String} (h : Apart s t) : Apart t s :=
  And.symm h

/-- A line that starts with one of two such texts does not start with the other. -/
theorem Apart.not_isPrefixOf {s t : String} (h : Apart s t) (rest : List Char) :
    s.toList.isPrefixOf (t.toList ++ rest) = false := by
  rw [Bool.eq_false_iff, ne_eq, List.isPrefixOf_iff_prefix]
  intro hprefix
  exact (List.prefix_or_prefix_of_prefix hprefix (List.prefix_append _ _)).elim h.1 h.2

/-- Are these the lines of a section with a title, below an empty line?  A section may be left out. -/
inductive IsSection (title : String) : List Line → Prop
  | absent : IsSection title []
  | present {rest : Line} {more : List Line} (htitle : title ≠ "") (hmore : ∀ line ∈ more, line ≠ []) :
      IsSection title ([] :: (title.toList ++ rest) :: more)

variable {title other : String} {lines first more : List Line} {parts : List (String × List Line)}

/-- A section whose first line is its title. -/
theorem IsSection.of_title (htitle : title ≠ "") (hmore : ∀ line ∈ more, line ≠ []) :
    IsSection title ([] :: title.toList :: more) := by
  rw [← List.append_nil title.toList]
  exact .present htitle hmore

theorem IsSection.find?_self (h : IsSection title lines) :
    lines.tail?.toList.find? (hasTitle title) = lines.tail? := by
  cases h with
  | absent => rfl
  | @present rest more htitle hmore =>
    have hfound : hasTitle title ((title.toList ++ rest) :: more) = true :=
      List.isPrefixOf_iff_prefix.2 (List.prefix_append _ _)
    exact List.find?_cons_of_pos hfound

/-- A section is not found by the title of another one. -/
theorem IsSection.not_hasTitle (h : IsSection title lines) (hapart : Apart other title) :
    ∀ paragraph ∈ lines.tail?.toList, hasTitle other paragraph = false := by
  cases h with
  | absent => exact nofun
  | @present rest more htitle hmore =>
    intro paragraph hparagraph
    obtain rfl := List.mem_singleton.1 hparagraph
    exact hapart.not_isPrefixOf rest

/-- Sections are the paragraphs of their lines. -/
theorem paragraphs_append_parts (hparts : ∀ part ∈ parts, IsSection part.1 part.2)
    (hfirst : ∀ line ∈ first, line ≠ []) :
    paragraphs (first ++ parts.flatMap (·.2)) = first :: parts.flatMap (·.2.tail?.toList) := by
  have hfull : ∀ line ∈ first, line.isEmpty = false := by
    simpa [List.isEmpty_eq_false_iff] using hfirst
  induction parts generalizing first with
  | nil =>
    rw [List.flatMap_nil, List.append_nil]
    exact List.splitOnP_eq_singleton hfull
  | cons part parts ih =>
    obtain ⟨title, lines⟩ := part
    obtain ⟨hsection : IsSection title lines, hothers⟩ := List.forall_mem_cons.1 hparts
    rw [List.flatMap_cons, List.flatMap_cons]
    cases hsection with
    | absent => exact ih hothers hfirst hfull
    | @present rest more htitle hmore =>
      have hlines : ∀ line ∈ (title.toList ++ rest) :: more, line ≠ [] :=
        List.forall_mem_cons.2 ⟨by simp [htitle], hmore⟩
      rw [paragraphs, List.cons_append, List.splitOnP_append_cons_of_forall_mem hfull [] rfl]
      exact congrArg (first :: ·) (ih hothers hlines (by simpa [List.isEmpty_eq_false_iff] using hlines))

theorem find?_parts (hparts : ∀ part ∈ parts, IsSection part.1 part.2)
    (hkeys : (parts.map (·.1)).Pairwise Apart) (hmem : (title, lines) ∈ parts) :
    (parts.flatMap (·.2.tail?.toList)).find? (hasTitle title) = lines.tail? := by
  induction parts with
  | nil => cases hmem
  | cons part parts ih =>
    obtain ⟨hsection, hothers⟩ := List.forall_mem_cons.1 hparts
    rw [List.map_cons, List.pairwise_cons] at hkeys
    rw [List.flatMap_cons, List.find?_append]
    rcases List.mem_cons.1 hmem with hfirst | hlater
    · have hnone : (parts.flatMap (·.2.tail?.toList)).find? (hasTitle title) = none := by
        rw [List.find?_eq_none]
        intro paragraph hparagraph
        obtain ⟨other, hother, hparagraph⟩ := List.mem_flatMap.1 hparagraph
        have hapart := hkeys.1 other.1 (List.mem_map_of_mem hother)
        rw [← hfirst] at hapart
        simpa using (hothers other hother).not_hasTitle hapart paragraph hparagraph
      rw [← hfirst] at hsection ⊢
      rw [hsection.find?_self, hnone, Option.or_none]
    · have hapart := hkeys.1 title (List.mem_map.2 ⟨_, hlater, rfl⟩)
      have hnone : part.2.tail?.toList.find? (hasTitle title) = none := by
        rw [List.find?_eq_none]
        intro paragraph hparagraph
        simpa using hsection.not_hasTitle hapart.symm paragraph hparagraph
      rw [hnone, Option.none_or, ih hothers hkeys.2 hlater]

/-- **Each section is found by its title**, if no title starts like another one. -/
theorem paragraph?_of_parts (hparts : ∀ part ∈ parts, IsSection part.1 part.2)
    (hkeys : (parts.map (·.1)).Pairwise Apart) (hmem : (title, lines) ∈ parts) :
    paragraph? title (parts.flatMap (·.2)) = lines.tail? := by
  have hparagraphs : paragraphs (parts.flatMap (·.2)) = [] :: parts.flatMap (·.2.tail?.toList) :=
    paragraphs_append_parts hparts (List.forall_mem_nil _)
  have hempty : hasTitle title [] = false := rfl
  rw [paragraph?, hparagraphs, List.find?_cons_of_neg (by simp [hempty]), find?_parts hparts hkeys hmem]

/-! ### Labels -/

section Labels

variable {label : String} {rest : Line} {rows : List (String × Line)}

/-- The line with a label is found, if no label starts like another one. -/
theorem find?_label (hlabels : (rows.map (·.1)).Pairwise Apart) (hmem : (label, rest) ∈ rows) :
    (rows.map fun row => row.1.toList ++ row.2).find? (label.toList.isPrefixOf ·)
      = some (label.toList ++ rest) := by
  induction rows with
  | nil => cases hmem
  | cons row rows ih =>
    rw [List.map_cons, List.pairwise_cons] at hlabels
    rw [List.map_cons]
    rcases List.mem_cons.1 hmem with rfl | hlater
    · exact List.find?_cons_of_pos (List.isPrefixOf_iff_prefix.2 (List.prefix_append _ _))
    · have hapart := (hlabels.1 label (List.mem_map.2 ⟨_, hlater, rfl⟩)).symm
      have hskip : ¬ label.toList.isPrefixOf (row.1.toList ++ row.2) := by
        simp only [hapart.not_isPrefixOf, Bool.false_eq_true, not_false_eq_true]
      rw [List.find?_cons_of_neg hskip, ih hlabels.2 hlater]

theorem find?_label_eq_none (h : ∀ other ∈ rows.map (·.1), Apart label other) :
    (rows.map fun row => row.1.toList ++ row.2).find? (label.toList.isPrefixOf ·) = none := by
  rw [List.find?_eq_none]
  intro line hline
  obtain ⟨row, hrow, rfl⟩ := List.mem_map.1 hline
  have hapart := h row.1 (List.mem_map_of_mem hrow)
  simp only [hapart.not_isPrefixOf, Bool.false_eq_true, not_false_eq_true]

end Labels

/-! ### What the lines of a report tell -/

/-- The line of the summary with a label. -/
def summaryLine? (label : String) (lines : List Line) : Option Line :=
  (paragraph? "Summary:" lines).bind (·.find? (("  " ++ label ++ ": ").toList.isPrefixOf ·))

/-- The number of the summary with a label. -/
def summaryNumber? (label : String) (lines : List Line) : Option ℕ :=
  (summaryLine? label lines).bind (numberBetween? ("  " ++ label ++ ": ") "")

/-- The rank at the head of a row.  Lines that belong to a row are indented further. -/
def rank? (line : Line) : Option ℕ :=
  let text := line.dropWhile (· == ' ')
  if (line.takeWhile (· == ' ')).length ≤ 4 ∧ ". ".toList <+: text.dropWhile Char.isDigit then
    number? (text.takeWhile Char.isDigit)
  else none

/-- The path and the number of packages on the line of a file that deserves a closer look. -/
def deepDive? (line : Line) : Option (Line × ℕ) := do
  let inside ← line.dropPrefix? "  ".toList
  let front ← inside.dropSuffix? " packages)".toList
  let path ← (front.rdropWhile Char.isDigit).dropSuffix? " (".toList
  let count ← number? (front.rtakeWhile Char.isDigit)
  return (path, count)

theorem summaryLine?_eq {numbers : List Line} (h : paragraph? "Summary:" lines = some numbers)
    (label : String) :
    summaryLine? label lines = numbers.find? (("  " ++ label ++ ": ").toList.isPrefixOf ·) := by
  rw [summaryLine?, h, Option.bind_some]

theorem dropWhile_blanks (k : ℕ) {s : Line} (h : s.head? ≠ some ' ') :
    (List.replicate k ' ' ++ s).dropWhile (· == ' ') = s := by
  rw [List.dropWhile_append_of_pos (by simp)]
  cases s with
  | nil => rfl
  | cons d r => exact List.dropWhile_cons_of_neg (by simpa using h)

theorem takeWhile_blanks (k : ℕ) {s : Line} (h : s.head? ≠ some ' ') :
    (List.replicate k ' ' ++ s).takeWhile (· == ' ') = List.replicate k ' ' := by
  rw [List.takeWhile_append_of_pos (by simp)]
  cases s with
  | nil => exact List.append_nil _
  | cons d r => rw [List.takeWhile_cons_of_neg (by simpa using h), List.append_nil]

theorem takeWhile_digits (n : ℕ) {s : Line} (h : ∀ d ∈ s.head?, d.isDigit = false) :
    (digits n ++ s).takeWhile Char.isDigit = digits n := by
  rw [List.takeWhile_append_of_pos fun _ => isDigit_of_mem_digits]
  cases s with
  | nil => exact List.append_nil _
  | cons d r => rw [List.takeWhile_cons_of_neg (by simpa using h), List.append_nil]

theorem dropWhile_digits (n : ℕ) {s : Line} (h : ∀ d ∈ s.head?, d.isDigit = false) :
    (digits n ++ s).dropWhile Char.isDigit = s := by
  rw [List.dropWhile_append_of_pos fun _ => isDigit_of_mem_digits]
  cases s with
  | nil => rfl
  | cons d r => exact List.dropWhile_cons_of_neg (by simpa using h)

/-- The rank of a row is read as it was written. -/
theorem rank?_digits {k : ℕ} (hk : k ≤ 4) (n : ℕ) (rest : Line) :
    rank? (List.replicate k ' ' ++ (digits n ++ (". ".toList ++ rest))) = some n := by
  have hhead : (digits n ++ (". ".toList ++ rest)).head? ≠ some ' ' := by
    obtain ⟨d, ds, hds⟩ := List.exists_cons_of_ne_nil (Nat.toDigits_ne_nil (b := 10) (n := n))
    have hdigit : d.isDigit = true := isDigit_of_mem_digits (n := n) (by rw [digits, hds]; simp)
    rw [digits, hds]
    rintro h
    cases h
    cases hdigit
  have hdot : ∀ d ∈ (". ".toList ++ rest).head?, d.isDigit = false := by
    rintro d hd
    cases hd
    rfl
  rw [rank?, takeWhile_blanks k hhead, dropWhile_blanks k hhead]
  rw [takeWhile_digits n hdot, dropWhile_digits n hdot, number?_digits, if_pos]
  exact ⟨by simpa using hk, List.prefix_append _ _⟩

/-- A line that is indented further has no rank. -/
theorem rank?_of_indented {k : ℕ} (hk : 4 < k) (rest : Line) :
    rank? (List.replicate k ' ' ++ rest) = none := by
  rw [rank?, if_neg]
  rintro ⟨hblanks, -⟩
  rw [List.takeWhile_append_of_pos (by simp), List.length_append, List.length_replicate] at hblanks
  omega

/-- The path and the number of packages are read as they were written, whatever the path is. -/
theorem deepDive?_digits (path : Line) (n : ℕ) :
    deepDive? ("  ".toList ++ path ++ " (".toList ++ digits n ++ " packages)".toList) = some (path, n) := by
  have hdigits : ∀ d ∈ (digits n).reverse, d.isDigit = true := fun d hd =>
    isDigit_of_mem_digits (List.mem_reverse.1 hd)
  have htake : (path ++ " (".toList ++ digits n).rtakeWhile Char.isDigit = digits n := by
    rw [List.rtakeWhile, List.reverse_append, List.takeWhile_append_of_pos hdigits, List.reverse_append]
    simp
  have hdrop : (path ++ " (".toList ++ digits n).rdropWhile Char.isDigit = path ++ " (".toList := by
    rw [List.rdropWhile, List.reverse_append, List.dropWhile_append_of_pos hdigits, List.reverse_append]
    simp
  have hline : "  ".toList ++ path ++ " (".toList ++ digits n ++ " packages)".toList
      = "  ".toList ++ (path ++ " (".toList ++ digits n ++ " packages)".toList) := by
    simp only [List.append_assoc]
  rw [deepDive?, hline, dropPrefix?_append]
  simp only [Option.bind_eq_bind, Option.bind_some, dropSuffix?_append, hdrop, htake, number?_digits]
  rfl

end ImportCensus.Report.Reading
