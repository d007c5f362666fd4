/-
ImportCensus/Proofs/Source/Scan.lean

The scans of a text find what the search patterns of the forms find.

A scan goes through the text once.  Where a form stands behind a character that is no word character, it
reports the literal and then lets as many characters pass as the form takes.  The invariant of the
scan is that the literals which it still reports are those of the match sequence from the position where
it will look again, `position + skip`.

Main statement: for every text and every form there is one match sequence, its literals are those of the
scan, and the specifiers of the text are the literals of the four match sequences, one after another
(`specifiers_are_matched_literals`).
-/
import ImportCensus.Proofs.Source.FormPattern

namespace ImportCensus.Source

open Text

/-! ### The literal of a match -/

/-- What a group has read, if it was part of the way. -/
def Way.group? (w : Way) (number : Nat) : Option Group :=
  w.groups.find? (·.number = number)

/-- The literal that a match has found: the first of the two groups that was part of it, and the position
of the quote before that group. -/
def Match.literal? (text : List Char) (m : Match) : Option Literal :=
  (m.way.group? 1 <|> m.way.group? 2).map fun g => ⟨g.start - 1, (text.take g.stop).drop g.start⟩

/-- The specifier that a match has found. -/
def Match.specifier? (text : List Char) (m : Match) : Option String :=
  (m.literal? text).map fun l => String.ofList l.text

variable {text : List Char} {i : Nat}

theorem literal?_way {opens closes : List Char → Prop} (m : Shape opens closes (text.drop i)) :
    Match.literal? text ⟨i, m.way i⟩ = some ⟨i + m.hit.offset, m.hit.literal⟩ := by
  have hquote := drop_add_of_split m.split
  have hbody : text.drop (i + m.front.length + 1) = m.body ++ m.quote :: (m.back ++ m.rest) :=
    drop_add_of_split (a := [m.quote]) hquote
  have htext : (text.take (i + m.front.length + 1 + m.body.length)).drop (i + m.front.length + 1)
      = m.body := by
    rw [List.drop_take, hbody, Nat.add_sub_cancel_left, List.take_left]
  by_cases hq : m.quote = '"'
  · simp [Match.literal?, Way.group?, Shape.way, Shape.hit, groupOf, hq, htext]
  · simp [Match.literal?, Way.group?, Shape.way, Shape.hit, groupOf, hq, htext]

/-! ### One place -/

/-- Where a form is found, every way of reading its pattern stops behind the form and has found its
literal, and there is such a way. -/
theorem ways_of_found {form : Form} {h : Hit} (hbefore : wordBefore text i = false)
    (hfound : form.at (text.drop i) = some h) :
    ∃ w, (form.pattern.ways text i).head? = some w ∧ w.stop = i + h.length ∧
      Match.literal? text ⟨i, w⟩ = some ⟨i + h.offset, h.literal⟩ := by
  obtain ⟨m, rfl⟩ := at_eq_some_iff.1 hfound
  have hmem : m.way i ∈ form.pattern.ways text i := mem_ways_pattern_iff.2 ⟨hbefore, m, rfl⟩
  obtain ⟨w, hw⟩ : ∃ w, (form.pattern.ways text i).head? = some w :=
    ⟨_, List.head?_eq_some_head (List.ne_nil_of_mem hmem)⟩
  obtain ⟨-, m', rfl⟩ := mem_ways_pattern_iff.1 (List.mem_of_head? hw)
  -- both shapes are found by `Form.at`, which finds one thing
  have hsame : m.hit = m'.hit :=
    Option.some.inj (hfound.symm.trans (at_eq_some_iff.2 ⟨m', rfl⟩))
  rw [hsame]
  exact ⟨_, hw, rfl, literal?_way m'⟩

/-- Where a form is not found, its pattern cannot be read. -/
theorem ways_of_not_found {form : Form}
    (h : wordBefore text i = true ∨ form.at (text.drop i) = none) :
    form.pattern.ways text i = [] := by
  rw [List.eq_nil_iff_forall_not_mem]
  intro w hw
  obtain ⟨hbefore, m, rfl⟩ := mem_ways_pattern_iff.1 hw
  rcases h with h | h
  · exact Bool.false_ne_true (hbefore.symm.trans h)
  · rw [at_eq_some_iff.2 ⟨m, rfl⟩] at h
    cases h

/-! ### Steps of a scan -/

section Steps

variable {form : Form} {inWord : Bool} {position : Nat} {c : Char} {r : List Char}

theorem scanFrom_found {h : Hit} (hbefore : inWord = false) (hfound : form.at (c :: r) = some h) :
    scanFrom form inWord 0 position (c :: r)
      = ⟨position + h.offset, h.literal⟩ ::
          scanFrom form (isWord c) (h.length - 1) (position + 1) r := by
  rw [scanFrom, hbefore]
  simp [hfound]

theorem scanFrom_not_found (h : inWord = true ∨ form.at (c :: r) = none) :
    scanFrom form inWord 0 position (c :: r) = scanFrom form (isWord c) 0 (position + 1) r := by
  have hnone : (if inWord then none else form.at (c :: r)) = none := by
    rcases h with h | h <;> simp [h]
  rw [scanFrom, hnone]

end Steps

theorem length_pos_of_at {form : Form} {s : List Char} {h : Hit} (hfound : form.at s = some h) :
    0 < h.length := by
  obtain ⟨m, rfl⟩ := at_eq_some_iff.1 hfound
  show 0 < m.front.length + m.body.length + 2 + m.back.length
  omega

theorem at_nil (form : Form) : form.at [] = none := by
  cases form <;> rfl

theorem lt_length_of_drop {c : Char} {r : List Char} (h : text.drop i = c :: r) :
    i < text.length := by
  by_contra hle
  rw [List.drop_eq_nil_iff.2 (Nat.le_of_not_lt hle)] at h
  cases h

/-! ### The scan of a whole text -/

/-- The invariant of a scan: what it reports from a position on are the literals of the match sequence
from where it will look again. -/
theorem scanFrom_eq_matchSequence (form : Form) (skip : Nat) {rest : List Char}
    (hrest : text.drop i = rest) :
    ∃ ms, MatchSequence text form.pattern (i + skip) ms ∧
      ms.map (Match.literal? text) = (scanFrom form (wordBefore text i) skip i rest).map some := by
  induction rest generalizing i skip with
  | nil =>
    refine ⟨[], .done fun j hij hj => ?_, rfl⟩
    have hlen : text.length ≤ i := List.drop_eq_nil_iff.1 hrest
    refine ways_of_not_found (.inr ?_)
    rw [List.drop_eq_nil_iff.2 (by omega), at_nil]
  | cons c r ih =>
    have hnext : text.drop (i + 1) = r := drop_add_of_split (a := [c]) hrest
    have hword : wordBefore text (i + 1) = isWord c := wordBefore_of_split (a := []) hrest
    cases skip with
    | succ skip =>
      obtain ⟨ms, hms, hlit⟩ := ih skip hnext
      rw [hword] at hlit
      rw [Nat.add_assoc, Nat.add_comm 1] at hms
      exact ⟨ms, hms, hlit⟩
    | zero =>
      rw [Nat.add_zero]
      cases hbefore : wordBefore text i with
      | true =>
        obtain ⟨ms, hms, hlit⟩ := ih 0 hnext
        refine ⟨ms, .skip (ways_of_not_found (.inl hbefore)) hms, ?_⟩
        rw [scanFrom_not_found (.inl rfl), hlit, hword]
      | false =>
        cases hfound : form.at (c :: r) with
        | none =>
          obtain ⟨ms, hms, hlit⟩ := ih 0 hnext
          rw [← hrest] at hfound
          refine ⟨ms, .skip (ways_of_not_found (.inr hfound)) hms, ?_⟩
          rw [hrest] at hfound
          rw [scanFrom_not_found (.inr hfound), hlit, hword]
        | some h =>
          have hpos := length_pos_of_at hfound
          obtain ⟨ms, hms, hlit⟩ := ih (h.length - 1) hnext
          rw [scanFrom_found rfl hfound, ← hword]
          rw [← hrest] at hfound
          obtain ⟨w, hfirst, hstop, hcaptured⟩ := ways_of_found hbefore hfound
          have hagain : i + 1 + (h.length - 1) = w.stop := by
            omega
          rw [hagain] at hms
          refine ⟨⟨i, w⟩ :: ms, .next (Nat.le_refl i) (Nat.le_of_lt (lt_length_of_drop hrest))
            (fun k hik hki => absurd hki (Nat.not_lt.2 hik)) hfirst (by omega) hms, ?_⟩
          rw [List.map_cons, List.map_cons, hcaptured, hlit]

theorem scan_eq_matchSequence (form : Form) (text : List Char) :
    ∃ ms, MatchSequence text form.pattern 0 ms ∧
      ms.map (Match.literal? text) = (form.scan text).map some :=
  scanFrom_eq_matchSequence (i := 0) form 0 rfl

theorem filterMap_specifier? {ms : List Match} {found : List Literal}
    (h : ms.map (Match.literal? text) = found.map some) :
    ms.filterMap (Match.specifier? text) = found.map fun l => String.ofList l.text := by
  have hoption : ms.map (Match.specifier? text)
      = (found.map fun l => String.ofList l.text).map some := by
    calc ms.map (Match.specifier? text)
        = (ms.map (Match.literal? text)).map (Option.map fun l => String.ofList l.text) := by
          rw [List.map_map]
          rfl
      _ = (found.map fun l => String.ofList l.text).map some := by
          rw [h, List.map_map, List.map_map]
          rfl
  calc ms.filterMap (Match.specifier? text)
      = (ms.map (Match.specifier? text)).filterMap id := by
        rw [List.filterMap_map]
        rfl
    _ = found.map fun l => String.ofList l.text := by
        rw [hoption, List.filterMap_map]
        exact List.filterMap_some

/-- **The references of a text are the matches of the four patterns.**  Each pattern has one match
sequence in the text; every match has found a literal, and these are the literals that the scan reports;
and the specifiers of the text are those of the four sequences, one after another. -/
theorem specifiers_are_matched_literals (text : String) :
    ∃ found : Form → List Match,
      (∀ form ms, MatchSequence text.toList form.pattern 0 ms ↔ ms = found form) ∧
      (∀ form, (found form).map (Match.literal? text.toList) = (form.scan text.toList).map some) ∧
      specifiers text =
        [Form.require, .importFrom, .dynamicImport, .sideEffect].flatMap fun form =>
          (found form).filterMap (Match.specifier? text.toList) := by
  choose found hfound hlit using fun form => scan_eq_matchSequence form text.toList
  refine ⟨found, fun form ms => ⟨fun h => h.unique (hfound form), ?_⟩, hlit, ?_⟩
  · rintro rfl
    exact hfound form
  · show ((forms.flatMap (·.scan text.toList)).map fun l => String.ofList l.text) = _
    rw [List.map_flatMap]
    exact List.flatMap_congr fun form _ => (filterMap_specifier? (hlit form)).symm

end ImportCensus.Source
