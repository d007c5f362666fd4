/-
ImportCensus/Proofs/Source/Literal.lean

The literals that the scans of a text report.  `Quotes` says in positions of the whole text where a literal
opens and closes.

No literal is reported twice.  The matches of one scan lie one behind the other, and each has its literal
inside (`MatchSequence.pairwise`, `position_of_captured`).  The four scans go through the same text without
regard to each other, but they never meet at a quote: what stands before it, blanks apart, is a parenthesis
behind `require`, a parenthesis behind `import`, the word `from` or the word `import`, and so it tells the
form (`openedForm?_of_opens`).

Main statement: all references of a text open at different quotes, and each specifier is what stands behind
its quote up to the next one of the same kind, on one line (`references_open_once`).
-/
import ImportCensus.Proofs.Source.Scan
import Mathlib.Data.Finset.Card
import Mathlib.Data.List.Nodup

namespace ImportCensus.Source

open Text

/-! ### Positions -/

/-- What stands in a text from one position up to another one. -/
def between (text : List Char) (i j : Nat) : List Char :=
  (text.take j).drop i

/-- The first character from position `k` on that is of a kind is `c`, at position `q`. -/
structure FirstFrom (text : List Char) (k : Nat) (kind : Char → Prop) (q : Nat) (c : Char) : Prop where
  le : k ≤ q
  found : text[q]? = some c
  kind_found : kind c
  before : ∀ j d, k ≤ j → j < q → text[j]? = some d → ¬kind d

variable {text : List Char} {i k q : Nat}

theorem between_of_split {a rest : List Char} (h : text.drop i = a ++ rest) :
    between text i (i + a.length) = a := by
  rw [between, List.drop_take, h, Nat.add_sub_cancel_left, List.take_left]

/-- The first character of a kind cuts the text behind others that are not of that kind. -/
theorem firstFrom_iff {kind : Char → Prop} {c : Char} :
    FirstFrom text k kind q c ↔
      ∃ run rest, text.drop k = run ++ c :: rest ∧ (∀ d ∈ run, ¬kind d) ∧ kind c ∧
        q = k + run.length := by
  constructor
  · rintro ⟨hle, hfound, hkind, hbefore⟩
    obtain ⟨n, rfl⟩ := Nat.exists_eq_add_of_le hle
    rw [← List.getElem?_drop] at hfound
    obtain ⟨hn, hc⟩ := List.getElem?_eq_some_iff.1 hfound
    have hlength : ((text.drop k).take n).length = n := by
      rw [List.length_take, Nat.min_eq_left (Nat.le_of_lt hn)]
    refine ⟨(text.drop k).take n, (text.drop k).drop (n + 1), ?_, ?_, hkind, by rw [hlength]⟩
    · rw [← hc, ← List.drop_eq_getElem_cons hn, List.take_append_drop]
    · intro d hd
      obtain ⟨j, hj⟩ := List.getElem?_of_mem hd
      have hjn : j < n := by
        rw [← hlength]
        exact (List.getElem?_eq_some_iff.1 hj).1
      rw [List.getElem?_take_of_lt hjn, List.getElem?_drop] at hj
      exact hbefore (k + j) d (Nat.le_add_right _ _) (by omega) hj
  · rintro ⟨run, rest, hsplit, hrun, hkind, rfl⟩
    refine ⟨Nat.le_add_right _ _, ?_, hkind, ?_⟩
    · rw [← List.getElem?_drop, hsplit, List.getElem?_append_right (Nat.le_refl _), Nat.sub_self]
      rfl
    · intro j d hkj hjq hd
      obtain ⟨n, rfl⟩ := Nat.exists_eq_add_of_le hkj
      rw [← List.getElem?_drop, hsplit, List.getElem?_append_left (by omega)] at hd
      exact hrun d (List.mem_of_getElem? hd)

/-- A literal in these quotes opens and closes at these positions. -/
structure Quotes (text : List Char) (opening closing : Nat) (quote : Char) : Prop where
  opens : text[opening]? = some quote
  isQuote : quote = '"' ∨ quote = '\''
  /-- It closes at the first quote of the same kind. -/
  again : FirstFrom text (opening + 1) (· = quote) closing quote
  /-- It goes over no line end. -/
  sameLine : ∀ c ∈ between text (opening + 1) closing, c ≠ '\r' ∧ c ≠ '\n'

section Shape

variable {opens closes : List Char → Prop} (m : Shape opens closes (text.drop i))

/-- What stands behind the opening quote of a shape. -/
theorem drop_opening : text.drop (i + m.front.length + 1) = m.body ++ m.quote :: (m.back ++ m.rest) :=
  drop_add_of_split (a := [m.quote]) (drop_add_of_split m.split)

/-- What the literal of a shape quotes, seen from within the whole text. -/
theorem between_of_shape :
    between text (i + m.front.length + 1) (i + m.front.length + 1 + m.body.length) = m.body :=
  between_of_split (drop_opening m)

/-- The literal of a shape, seen from within the whole text. -/
theorem quotes_of_shape :
    Quotes text (i + m.front.length) (i + m.front.length + 1 + m.body.length) m.quote := by
  have hquote := drop_add_of_split m.split
  constructor
  case opens =>
    rw [← Nat.add_zero (i + m.front.length), ← List.getElem?_drop, hquote]
    rfl
  case isQuote => exact isQuote_iff.1 m.isQuote_quote
  case again =>
    exact firstFrom_iff.2 ⟨m.body, _, drop_opening m, fun c hc => (isBody_iff.1 (m.isBody_body c hc)).1,
      rfl, rfl⟩
  case sameLine =>
    rw [between_of_shape]
    exact fun c hc => (isBody_iff.1 (m.isBody_body c hc)).2

end Shape

/-! ### The matches of one scan -/

namespace MatchSequence

variable {p : Pattern} {ms : List Match}

theorem mem_ways (h : MatchSequence text p i ms) {a : Match} (ha : a ∈ ms) :
    i ≤ a.start ∧ a.way ∈ p.ways text a.start := by
  induction h with
  | done => cases ha
  | next hle _ _ hfirst hreads _ ih =>
    rcases List.mem_cons.1 ha with rfl | ha
    · exact ⟨hle, List.mem_of_head? hfirst⟩
    · obtain ⟨hstop, hway⟩ := ih ha
      exact ⟨Nat.le_trans (Nat.le_of_lt (Nat.lt_of_le_of_lt hle hreads)) hstop, hway⟩

/-- The matches of a search lie one behind the other. -/
theorem pairwise (h : MatchSequence text p i ms) : ms.Pairwise fun a b => a.way.stop ≤ b.start := by
  induction h with
  | done => exact .nil
  | next _ _ _ _ _ hrest ih => exact List.pairwise_cons.2 ⟨fun b hb => (hrest.mem_ways hb).1, ih⟩

end MatchSequence

variable {form form' : Form} {l l' : Literal}

/-- Where a pattern has found a literal, the shape of its form stands. -/
theorem exists_shape_of_captured {a : Match} (hway : a.way ∈ form.pattern.ways text a.start)
    (hliteral : Match.literal? text a = some l) :
    ∃ m : Shape form.Opens form.Closes (text.drop a.start),
      l = ⟨a.start + m.front.length, m.body⟩ ∧ a.way.stop = a.start + m.hit.length := by
  obtain ⟨-, m, hm⟩ := mem_ways_pattern_iff.1 hway
  have ha : a = ⟨a.start, m.way a.start⟩ := by
    rw [← hm]
  have hl := (congrArg (Match.literal? text) ha).trans (literal?_way m)
  rw [hliteral] at hl
  exact ⟨m, Option.some.inj hl, congrArg Way.stop hm⟩

/-- The literal of a match opens inside the match. -/
theorem position_of_captured {a : Match} (hway : a.way ∈ form.pattern.ways text a.start)
    (hliteral : Match.literal? text a = some l) : a.start ≤ l.position ∧ l.position < a.way.stop := by
  obtain ⟨m, rfl, hstop⟩ := exists_shape_of_captured hway hliteral
  refine ⟨Nat.le_add_right _ _, ?_⟩
  show a.start + m.front.length < a.way.stop
  have hinside : m.front.length < m.hit.length := by
    show m.front.length < m.front.length + m.body.length + 2 + m.back.length
    omega
  omega

/-- The literals of a scan are reported from left to right. -/
theorem scan_ascending (form : Form) (text : List Char) :
    (form.scan text).Pairwise fun l l' => l.position < l'.position := by
  obtain ⟨ms, hms, hliterals⟩ := scan_eq_matchSequence form text
  have hcaptured : (ms.map (Match.literal? text)).Pairwise fun o o' =>
      ∀ l l', o = some l → o' = some l' → l.position < l'.position := by
    rw [List.pairwise_map]
    apply hms.pairwise.imp_of_mem
    intro a b ha hb hbehind l l' hl hl'
    have hinside := position_of_captured (hms.mem_ways ha).2 hl
    have hinside' := position_of_captured (hms.mem_ways hb).2 hl'
    omega
  rw [hliterals, List.pairwise_map] at hcaptured
  exact hcaptured.imp fun h => h _ _ rfl rfl

/-- A literal is reported by a scan only where the shape of the form stands. -/
theorem exists_shape_of_mem_scan (h : l ∈ form.scan text) :
    ∃ i, ∃ m : Shape form.Opens form.Closes (text.drop i), l = ⟨i + m.front.length, m.body⟩ := by
  obtain ⟨ms, hms, hliterals⟩ := scan_eq_matchSequence form text
  have hmem : some l ∈ ms.map (Match.literal? text) := by
    rw [hliterals]
    exact List.mem_map_of_mem h
  obtain ⟨a, ha, hl⟩ := List.mem_map.1 hmem
  obtain ⟨m, hl, -⟩ := exists_shape_of_captured (hms.mem_ways ha).2 hl
  exact ⟨a.start, m, hl⟩

/-! ### The forms of the four scans -/

/-- The form of a call, told by the last letter of its word. -/
def calledForm? : List Char → Option Form
  | 'e' :: _ => some .require
  | 't' :: _ => some .dynamicImport
  | _ => none

/-- The form whose literal may open behind a text. -/
def openedForm? (s : List Char) : Option Form :=
  match skipBlanks s.reverse with
  | '(' :: r => calledForm? (skipBlanks r)
  | 'm' :: _ => some .importFrom
  | 't' :: _ => some .sideEffect
  | _ => none

theorem skipBlanks_reverse {s a : List Char} {c : Char} (ha : AllBlank a) (hc : isBlank c = false) :
    skipBlanks (s ++ c :: a).reverse = c :: s.reverse := by
  rw [List.reverse_append, List.reverse_cons, List.append_assoc, List.singleton_append,
    skipBlanks_append fun x hx => ha x (List.mem_reverse.1 hx), skipBlanks_cons hc]

/-- Before the literal of a call stands its parenthesis, and before that the last letter of its word. -/
theorem openedForm?_of_callOpens {front w : List Char} {c : Char} (hc : isBlank c = false)
    (hform : ∀ r, calledForm? (c :: r) = some form) (h : CallOpens (w ++ [c]) front)
    (before : List Char) : openedForm? (before ++ front) = some form := by
  obtain ⟨a, b, ha, hb, rfl⟩ := h
  have hfront : before ++ ((w ++ [c]) ++ (a ++ '(' :: b))
      = ((before ++ w) ++ c :: a) ++ '(' :: b := by simp
  rw [hfront, openedForm?, skipBlanks_reverse hb (by decide)]
  show calledForm? (skipBlanks (_ ++ c :: a).reverse) = _
  rw [skipBlanks_reverse ha hc, hform]

/-- What stands before a literal tells the form to which it belongs. -/
theorem openedForm?_of_opens {front : List Char} (h : form.Opens front) (before : List Char) :
    openedForm? (before ++ front) = some form := by
  cases form with
  | require =>
    exact openedForm?_of_callOpens (w := "requir".toList) (by decide) (fun _ => rfl) h before
  | importFrom =>
    obtain ⟨gap, -, -, hends, rfl⟩ := h
    obtain ⟨bindings, c, a, -, ha, rfl⟩ := endsWithFrom_iff.1 hends
    have hword : before ++ ("import".toList ++ (bindings ++ c :: ("from".toList ++ a)))
        = (before ++ "import".toList ++ bindings ++ c :: "fro".toList) ++ 'm' :: a := by simp
    rw [hword, openedForm?, skipBlanks_reverse ha (by decide)]
    rfl
  | dynamicImport =>
    exact openedForm?_of_callOpens (w := "impor".toList) (by decide) (fun _ => rfl) h before
  | sideEffect =>
    obtain ⟨a, ha, rfl⟩ := h
    have hword : before ++ ("import".toList ++ a) = (before ++ "impor".toList) ++ 't' :: a := by simp
    rw [hword, openedForm?, skipBlanks_reverse ha (by decide)]
    rfl

theorem openedForm?_of_mem_scan (h : l ∈ form.scan text) :
    openedForm? (text.take l.position) = some form := by
  obtain ⟨i, m, rfl⟩ := exists_shape_of_mem_scan h
  have hbefore : text.take (i + m.front.length) = text.take i ++ m.front := by
    rw [List.take_add, m.take_front]
  rw [hbefore]
  exact openedForm?_of_opens m.opens_front _

/-- Two scans do not report one literal. -/
theorem form_eq_of_position (h : l ∈ form.scan text) (h' : l' ∈ form'.scan text)
    (hposition : l.position = l'.position) : form = form' := by
  have hform := openedForm?_of_mem_scan h
  rw [hposition, openedForm?_of_mem_scan h'] at hform
  exact (Option.some.inj hform).symm

theorem nodup_positions (text : List Char) : ((references text).map (·.position)).Nodup := by
  rw [references, List.map_flatMap, List.nodup_flatMap]
  constructor
  · intro form _
    rw [List.nodup_iff_pairwise_ne, List.pairwise_map]
    exact (scan_ascending form text).imp Nat.ne_of_lt
  · have hforms : forms.Pairwise (· ≠ ·) := by decide
    apply hforms.imp
    intro form form' hne
    refine List.disjoint_left.2 fun position hmem hmem' => ?_
    obtain ⟨l, hl, rfl⟩ := List.mem_map.1 hmem
    obtain ⟨l', hl', hposition⟩ := List.mem_map.1 hmem'
    exact hne (form_eq_of_position hl hl' hposition.symm)

/-! ### Specifiers -/

/-- A specifier is what the literal that opens at a position quotes: it stands behind the quote there, up to
the next quote of the same kind, and holds neither that quote nor a line end. -/
def QuotedAt (text : List Char) (position : Nat) (specifier : String) : Prop :=
  ∃ closing quote, Quotes text position closing quote ∧
    specifier.toList = between text (position + 1) closing ∧
    ∀ c ∈ specifier.toList, c ≠ quote ∧ c ≠ '\r' ∧ c ≠ '\n'

theorem quotedAt_of_mem_scan (h : l ∈ form.scan text) :
    QuotedAt text l.position (String.ofList l.text) := by
  obtain ⟨i, m, rfl⟩ := exists_shape_of_mem_scan h
  refine ⟨_, _, quotes_of_shape m, ?_, ?_⟩
  · rw [String.toList_ofList, between_of_shape]
  · rw [String.toList_ofList]
    exact fun c hc => isBody_iff.1 (m.isBody_body c hc)

/-- **No literal of a text is reported twice.**  The references that the four scans find all open at
different quotes, so there are as many specifiers as literals that were found; and each specifier is what
its literal quotes. -/
theorem references_open_once (text : String) :
    ((references text.toList).map (·.position)).Nodup ∧
    (specifiers text).length = ((references text.toList).map (·.position)).toFinset.card ∧
    List.Forall₂ (QuotedAt text.toList) ((references text.toList).map (·.position)) (specifiers text) := by
  have hnodup := nodup_positions text.toList
  refine ⟨hnodup, ?_, ?_⟩
  · rw [List.toFinset_card_of_nodup hnodup, specifiers, List.length_map, List.length_map]
  · rw [specifiers, List.forall₂_map_left_iff, List.forall₂_map_right_iff, List.forall₂_same]
    intro l hl
    obtain ⟨form, -, hform⟩ := List.mem_flatMap.1 hl
    exact quotedAt_of_mem_scan hform

end ImportCensus.Source
