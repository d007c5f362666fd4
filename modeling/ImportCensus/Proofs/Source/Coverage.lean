/-
ImportCensus/Proofs/Source/Coverage.lean

Which references a scan cannot miss.  A scan reports a form and goes on behind it, so a form that starts
inside an earlier one is passed over.  Code that is written one statement after the other has no such forms
to fear: if no quote stands before a form on its own line, an earlier form that covers it has the very same
literal, and so the literal is reported all the same.

Until the scan comes to a form, what it has to skip either ends before the form, and then the form itself
is found, or belongs to a form that covers it (`mem_scanFrom_of_at`).

Main statement: wherever the pattern of a form can be read behind no quote on the line, the literal that
it reads is among those that the scan reports (`unquoted_mem_scan`).
-/
import ImportCensus.Proofs.Source.Extent

namespace ImportCensus.Source

open Text

/-- On its way to a form behind `u` the scan reports the literal of the form, if what it has to skip ends
before the form. -/
theorem mem_scanFrom_of_at {form : Form} {text u v : List Char} {h : Hit} {i skip : Nat}
    (hsplit : text.drop i = u ++ v) (hbefore : wordBefore text (i + u.length) = false)
    (hfound : form.at v = some h) (hline : ∀ c ∈ lastLine u, isQuote c = false)
    (hskip : skip ≤ u.length) :
    ⟨i + u.length + h.offset, h.literal⟩ ∈ scanFrom form (wordBefore text i) skip i (u ++ v) := by
  induction u generalizing i skip with
  | nil =>
    obtain rfl : skip = 0 := Nat.le_zero.1 hskip
    cases v with
    | nil =>
      rw [at_nil] at hfound
      cases hfound
    | cons c r =>
      have hbefore' : wordBefore text i = false := hbefore
      rw [List.nil_append, scanFrom_found hbefore' hfound]
      exact List.mem_cons_self
  | cons c r ih =>
    have hnext : text.drop (i + 1) = r ++ v := drop_add_of_split (a := [c]) hsplit
    have hword : wordBefore text (i + 1) = isWord c := wordBefore_of_split (a := []) hsplit
    have hrest {skip : Nat} (hskip : skip ≤ r.length) :
        ⟨i + (c :: r).length + h.offset, h.literal⟩
          ∈ scanFrom form (isWord c) skip (i + 1) (r ++ v) := by
      rw [← hword, List.length_cons, Nat.add_comm r.length, ← Nat.add_assoc i]
      apply ih hnext _ _ hskip
      · rw [Nat.add_assoc, Nat.add_comm 1]
        exact hbefore
      · exact fun x hx => hline x (mem_lastLine_append (s := [c]) hx)
    rw [List.length_cons] at hskip
    cases skip with
    | succ skip => exact hrest (Nat.le_of_succ_le_succ hskip)
    | zero =>
      rw [List.cons_append]
      by_cases hearlier : wordBefore text i = true ∨ form.at (c :: (r ++ v)) = none
      · rw [scanFrom_not_found hearlier]
        exact hrest (Nat.zero_le _)
      · rw [not_or, Bool.not_eq_true] at hearlier
        obtain ⟨outer, houter⟩ := Option.ne_none_iff_exists'.1 hearlier.2
        rw [scanFrom_found hearlier.1 houter]
        by_cases hends : outer.length ≤ (c :: r).length
        · rw [List.length_cons] at hends
          exact List.mem_cons_of_mem _ (hrest (by omega))
        · -- the form is covered, and the literal that is reported here is its own
          obtain ⟨hoffset, hliteral⟩ :=
            same_literal_of_covered (s := c :: r) houter hfound (Nat.lt_of_not_le hends) hline
          rw [hoffset, hliteral, ← Nat.add_assoc]
          exact List.mem_cons_self

/-- **No reference is missed that has no quote before it on its line.**  If the pattern of a form can be
read from a position with some literal, and no quote stands between the last line end before that
position and the position, then the scan reports that literal, whatever comes before and behind. -/
theorem unquoted_mem_scan {form : Form} {text : List Char} {start : Nat} {w : Way} {l : Literal}
    (hway : w ∈ form.pattern.ways text start) (hliteral : Match.literal? text ⟨start, w⟩ = some l)
    (hline : ∀ c ∈ lastLine (text.take start), isQuote c = false) : l ∈ form.scan text := by
  obtain ⟨hbefore, m, rfl⟩ := mem_ways_pattern_iff.1 hway
  rw [literal?_way] at hliteral
  obtain rfl := Option.some.inj hliteral
  have hfound : form.at (text.drop start) = some m.hit := at_eq_some_iff.2 ⟨m, rfl⟩
  have hlength : (text.take start).length = start := by
    rw [List.length_take]
    exact Nat.min_eq_left (Nat.le_of_lt (start_lt_length_of_at hfound))
  have hsplit : text.drop 0 = text.take start ++ text.drop start :=
    (List.take_append_drop start text).symm
  have hword : wordBefore text (0 + (text.take start).length) = false := by
    rwa [Nat.zero_add, hlength]
  have hscan := mem_scanFrom_of_at hsplit hword hfound hline (Nat.zero_le _)
  rw [Nat.zero_add, hlength, List.take_append_drop] at hscan
  exact hscan

/-- An import that stands in the bindings of a broken one. -/
def brokenImport : List Char :=
  "import \x7b\nimport a from \"b\";".toList

theorem unquoted_mem_scan_brokenImport :
    (⟨26, [⟨1, 24, 25⟩]⟩ : Way) ∈ Form.importFrom.pattern.ways brokenImport 9 ∧
    Match.literal? brokenImport ⟨9, ⟨26, [⟨1, 24, 25⟩]⟩⟩ = some ⟨23, ['b']⟩ ∧
    (∀ c ∈ lastLine (brokenImport.take 9), isQuote c = false) ∧
    ⟨23, ['b']⟩ ∈ Form.importFrom.scan brokenImport := by
  have hway : (⟨26, [⟨1, 24, 25⟩]⟩ : Way) ∈ Form.importFrom.pattern.ways brokenImport 9 := by
    decide
  have hliteral : Match.literal? brokenImport ⟨9, ⟨26, [⟨1, 24, 25⟩]⟩⟩ = some ⟨23, ['b']⟩ := by
    decide
  have hempty : lastLine (brokenImport.take 9) = [] := by decide
  have hline : ∀ c ∈ lastLine (brokenImport.take 9), isQuote c = false := by
    rw [hempty]
    nofun
  exact ⟨hway, hliteral, hline, unquoted_mem_scan hway hliteral hline⟩

end ImportCensus.Source
