/-
ImportCensus/Source/Literal.lean

String literals in source text.  A literal opens with a single or a double quote and runs, within one
line, to the next quote of the same kind.  Escapes have no meaning here: a text is read as it stands.

Main statements: what a literal quotes holds neither its own quote nor a line end
(`readLiteral_body`), reading one loses nothing (`readLiteral_append`), and every text between two equal
quotes that may stand in a literal is read as one (`readLiteral_quoted`).
-/
import ImportCensus.Text.Ranges

namespace ImportCensus.Source

/-- The two characters that open a literal. -/
def isQuote (c : Char) : Bool :=
  c == '"' || c == '\''

/-- May `c` stand inside a literal that was opened by `q`? -/
def isBody (q c : Char) : Bool :=
  c != q && c != '\r' && c != '\n'

/-- Reads the literal at the head of a text: what it quotes, and what follows its closing quote. -/
def readLiteral : List Char → Option (List Char × List Char)
  | [] => none
  | q :: r =>
    if isQuote q then
      match r.dropWhile (isBody q) with
      | [] => none
      | c :: rest => if c == q then some (r.takeWhile (isBody q), rest) else none
    else none

theorem readLiteral_append {s body rest : List Char} (h : readLiteral s = some (body, rest)) :
    ∃ q, isQuote q = true ∧ s = q :: body ++ q :: rest := by
  match s with
  | [] => simp [readLiteral] at h
  | q :: r =>
    simp only [readLiteral] at h
    split at h
    · next hq =>
      split at h
      · simp at h
      · next c tail hd =>
        split at h
        · next hc =>
          simp only [Option.some.injEq, Prod.mk.injEq] at h
          obtain ⟨rfl, rfl⟩ := h
          refine ⟨q, hq, ?_⟩
          have hcq : c = q := by simpa using hc
          have happ := List.takeWhile_append_dropWhile (p := isBody q) (l := r)
          rw [hd, hcq] at happ
          simp [happ]
        · simp at h
    · simp at h

theorem readLiteral_body {q : Char} {r body rest : List Char}
    (h : readLiteral (q :: r) = some (body, rest)) : ∀ c ∈ body, isBody q c = true := by
  simp only [readLiteral] at h
  split at h
  · split at h
    · simp at h
    · split at h
      · simp only [Option.some.injEq, Prod.mk.injEq] at h
        obtain ⟨rfl, -⟩ := h
        intro c hc
        exact List.all_eq_true.1 List.all_takeWhile c hc
      · simp at h
  · simp at h

theorem isBody_self (q : Char) : isBody q q = false := by
  simp [isBody]

theorem readLiteral_quoted {q : Char} {body rest : List Char} (hq : isQuote q = true)
    (hbody : ∀ c ∈ body, isBody q c = true) :
    readLiteral (q :: (body ++ q :: rest)) = some (body, rest) := by
  have htake : (body ++ q :: rest).takeWhile (isBody q) = body := by
    rw [List.takeWhile_append_of_pos hbody, List.takeWhile_cons_of_neg (by simp [isBody_self]),
      List.append_nil]
  have hdrop : (body ++ q :: rest).dropWhile (isBody q) = q :: rest := by
    rw [List.dropWhile_append_of_pos hbody, List.dropWhile_cons_of_neg (by simp [isBody_self])]
  simp [readLiteral, hq, htake, hdrop]

end ImportCensus.Source
