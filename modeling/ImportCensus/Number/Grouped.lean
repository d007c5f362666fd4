/-
ImportCensus/Number/Grouped.lean

Numbers with a comma between each three digits, counted from the right.

Main statement: the commas are all that is added (`filter_groupDigits`).
-/

namespace ImportCensus

/-- Digits with a comma before each group of three; the groups are counted from the right. -/
def groupDigits : List Char → List Char
  | [] => []
  | c :: cs =>
    if cs ≠ [] ∧ cs.length % 3 = 0 then c :: ',' :: groupDigits cs else c :: groupDigits cs

/-- A number with its thousands set apart. -/
def formatCount (n : Nat) : String :=
  String.ofList (groupDigits (Nat.toDigits 10 n))

theorem filter_groupDigits {ds : List Char} (h : ∀ d ∈ ds, d ≠ ',') :
    (groupDigits ds).filter (· ≠ ',') = ds := by
  induction ds with
  | nil => rfl
  | cons c cs ih =>
    have hc : c ≠ ',' := h c (by simp)
    have hcs := ih fun d hd => h d (by simp [hd])
    simp only [groupDigits]
    split <;> simp_all

end ImportCensus
