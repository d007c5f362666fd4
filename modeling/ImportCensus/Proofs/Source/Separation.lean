/-
ImportCensus/Proofs/Source/Separation.lean

Texts that are put together with a separator between them, a semicolon and a line feed.  Whatever stands
in the first one, an open quote or half an import, the second one is scanned as if it stood alone.

A scan comes to the separator with nothing left to skip, because no form takes in both of its characters;
neither of them starts a form, and the line feed is no word character, so the scan goes on as at the start
of a text.

Main statement: the scans of both texts together are the scans of the first and of the second, and so the
packages are those of the first and of the second (`scan_separated`).
-/
import ImportCensus.Proofs.Source.Extent
import ImportCensus.Proofs.Usage

namespace ImportCensus.Source

open Text

/-- A literal in a text that stands behind another one of the given length. -/
def Literal.behind (length : Nat) (l : Literal) : Literal :=
  { l with position := length + l.position }

variable {form : Form} {inWord : Bool} {skip position : Nat}

/-- Only the positions tell where a scanned text starts. -/
theorem scanFrom_add (offset : Nat) (s : List Char) :
    scanFrom form inWord skip (offset + position) s
      = (scanFrom form inWord skip position s).map (·.behind offset) := by
  induction s generalizing inWord skip position with
  | nil => rfl
  | cons c r ih =>
    have hnext (skip : Nat) : scanFrom form (isWord c) skip (offset + position + 1) r
        = (scanFrom form (isWord c) skip (position + 1) r).map (·.behind offset) := by
      rw [Nat.add_assoc]
      exact ih
    cases skip with
    | succ skip => exact hnext skip
    | zero =>
      by_cases hfound : inWord = true ∨ form.at (c :: r) = none
      · rw [scanFrom_not_found hfound, scanFrom_not_found hfound]
        exact hnext 0
      · rw [not_or, Bool.not_eq_true] at hfound
        obtain ⟨h, hat⟩ := Option.ne_none_iff_exists'.1 hfound.2
        rw [scanFrom_found hfound.1 hat, scanFrom_found hfound.1 hat, List.map_cons, hnext]
        simp only [Literal.behind, Nat.add_assoc]

/-- A scan goes over a separator as if a new text started behind it. -/
theorem scanFrom_separator (b : List Char) :
    scanFrom form inWord 0 position (';' :: '\n' :: b) = scanFrom form false 0 (position + 2) b := by
  have hsemicolon : form.at (';' :: '\n' :: b) = none := at_eq_none_of_head rfl (by decide)
  have hfeed : form.at ('\n' :: b) = none := at_eq_none_of_head rfl (by decide)
  have hword : isWord '\n' = false := by decide
  rw [scanFrom_not_found (.inr hsemicolon), scanFrom_not_found (.inr hfeed), hword]

/-- The invariant of a scan over two separated texts: what is left to skip ends in the first text. -/
theorem scanFrom_separated {a : List Char} (b : List Char) (hskip : skip ≤ a.length) :
    scanFrom form inWord skip position (a ++ ';' :: '\n' :: b)
      = scanFrom form inWord skip position a
        ++ scanFrom form false 0 (position + a.length + 2) b := by
  induction a generalizing inWord skip position with
  | nil =>
    obtain rfl : skip = 0 := Nat.le_zero.1 hskip
    exact scanFrom_separator b
  | cons c r ih =>
    have hnext {skip : Nat} (hskip : skip ≤ r.length) :
        scanFrom form (isWord c) skip (position + 1) (r ++ ';' :: '\n' :: b)
          = scanFrom form (isWord c) skip (position + 1) r
            ++ scanFrom form false 0 (position + (c :: r).length + 2) b := by
      rw [ih hskip, List.length_cons, Nat.add_assoc position, Nat.add_comm 1]
    rw [List.length_cons] at hskip
    cases skip with
    | succ skip => exact hnext (Nat.le_of_succ_le_succ hskip)
    | zero =>
      have hat : form.at (c :: (r ++ ';' :: '\n' :: b)) = form.at (c :: r) :=
        at_separated (s := c :: r)
      rw [List.cons_append]
      by_cases hfound : inWord = true ∨ form.at (c :: r) = none
      · rw [scanFrom_not_found hfound, scanFrom_not_found (hat ▸ hfound)]
        exact hnext (Nat.zero_le _)
      · rw [not_or, Bool.not_eq_true] at hfound
        obtain ⟨h, hfound'⟩ := Option.ne_none_iff_exists'.1 hfound.2
        have hlength := length_le_of_at hfound'
        rw [List.length_cons] at hlength
        rw [scanFrom_found hfound.1 hfound', scanFrom_found hfound.1 (hat.trans hfound'),
          List.cons_append, hnext (by omega)]

theorem mem_specifiers {text specifier : String} :
    specifier ∈ specifiers text ↔
      ∃ form : Form, specifier ∈ (form.scan text.toList).map fun l => String.ofList l.text := by
  have hforms : ∀ form, form ∈ forms := by
    intro form
    cases form <;> decide
  simp only [specifiers, references, List.map_flatMap, List.mem_flatMap, hforms, true_and]

/-- A scan of two separated texts finds what it finds in the first one, and then what it finds in the second
one. -/
theorem scan_append_separator (form : Form) (a b : List Char) :
    form.scan (a ++ ';' :: '\n' :: b) = form.scan a ++ (form.scan b).map (·.behind (a.length + 2)) := by
  rw [Form.scan, scanFrom_separated b (Nat.zero_le _), Nat.zero_add, ← Nat.add_zero (a.length + 2),
    scanFrom_add]
  rfl

/-- The packages of two separated texts are those of either text. -/
theorem mem_packagesIn_append {a b : List Char} {n : PackageName} :
    n ∈ (packagesIn (String.ofList (a ++ ';' :: '\n' :: b))).toList ↔
      n ∈ (packagesIn (String.ofList a)).toList ∨ n ∈ (packagesIn (String.ofList b)).toList := by
  have hspecifiers : ∀ specifier, specifier ∈ specifiers (String.ofList (a ++ ';' :: '\n' :: b)) ↔
      specifier ∈ specifiers (String.ofList a) ∨ specifier ∈ specifiers (String.ofList b) := by
    intro specifier
    simp only [mem_specifiers, String.toList_ofList, scan_append_separator, List.map_append, List.mem_append,
      List.map_map, exists_or]
    rfl
  simp only [mem_packagesIn, Extracts, hspecifiers, or_and_right, exists_or]

/-- **A separator keeps texts apart.**  Each scan finds in two separated texts what it finds in the first
one, and then what it finds in the second one; the packages are those of either text. -/
theorem scan_separated (a b : String) :
    (∀ form : Form, form.scan (a ++ ";\n" ++ b).toList
      = form.scan a.toList ++ (form.scan b.toList).map (·.behind (a ++ ";\n").length)) ∧
    ∀ n, n ∈ (packagesIn (a ++ ";\n" ++ b)).toList ↔
      n ∈ (packagesIn a).toList ∨ n ∈ (packagesIn b).toList := by
  have hscan : ∀ form : Form, form.scan (a ++ ";\n" ++ b).toList
      = form.scan a.toList ++ (form.scan b.toList).map (·.behind (a ++ ";\n").length) := by
    intro form
    have htext : (a ++ ";\n" ++ b).toList = a.toList ++ ';' :: '\n' :: b.toList := by
      simp
    have hlength : 0 + a.toList.length + 2 = (a ++ ";\n").length + 0 := by
      rw [Nat.zero_add, Nat.add_zero, String.length_append, String.length_toList]
      rfl
    rw [htext, Form.scan, scanFrom_separated b.toList (Nat.zero_le _), hlength, scanFrom_add]
    rfl
  refine ⟨hscan, fun n => ?_⟩
  have hspecifiers : ∀ specifier, specifier ∈ specifiers (a ++ ";\n" ++ b) ↔
      specifier ∈ specifiers a ∨ specifier ∈ specifiers b := by
    intro specifier
    simp only [mem_specifiers, hscan, List.map_append, List.mem_append, List.map_map, exists_or]
    rfl
  simp only [mem_packagesIn, Extracts, hspecifiers, or_and_right, exists_or]

end ImportCensus.Source
