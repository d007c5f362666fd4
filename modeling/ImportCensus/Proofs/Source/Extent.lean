/-
ImportCensus/Proofs/Source/Extent.lean

How far a form reaches.  Where a form is found it takes in a piece of the text,

    front  quote  body  quote  back

and nothing behind that piece has a say in what is found (`exists_shape_of_taken`).  The characters of the
front and the back are rather special: none of them is a quote, a semicolon or a backtick, so these can
only stand inside the literal; and the body of the literal goes over no line end.

Two consequences are what the scans are about.  A semicolon with a line end behind it cuts a text into
two that are scanned each on its own, because no form takes in both characters (`at_separated`).  And a
form that is covered by an earlier one has the same literal, or else the earlier one has opened a quote
before it on its line (`same_literal_of_covered`).
-/
import ImportCensus.Proofs.Source.Scan

namespace ImportCensus.Source

open Text

/-! ### What openings and closings hold -/

namespace Form

/-- The word that a form starts with. -/
def keyword : Form → List Char
  | require => "require".toList
  | importFrom | dynamicImport | sideEffect => "import".toList

variable {form : Form} {front back : List Char}

theorem Opens.starts (h : form.Opens front) : ∃ r, front = form.keyword ++ r := by
  cases form with
  | require =>
    obtain ⟨a, b, -, -, rfl⟩ := h
    exact ⟨_, rfl⟩
  | importFrom =>
    obtain ⟨gap, -, -, -, rfl⟩ := h
    exact ⟨_, rfl⟩
  | dynamicImport =>
    obtain ⟨a, b, -, -, rfl⟩ := h
    exact ⟨_, rfl⟩
  | sideEffect =>
    obtain ⟨a, -, rfl⟩ := h
    exact ⟨_, rfl⟩

theorem isBinding_of_mem_keyword (form : Form) {c : Char} (h : c ∈ form.keyword) : isBinding c = true := by
  have hall : form.keyword.all isBinding = true := by
    cases form <;> decide
  exact List.all_eq_true.1 hall c h

theorem isBinding_of_callOpens {word : List Char} (hword : ∀ c ∈ word, isBinding c = true)
    (h : CallOpens word front) : ∀ c ∈ front, isBinding c = true := by
  obtain ⟨a, b, ha, hb, rfl⟩ := h
  intro c hc
  simp only [List.mem_append, List.mem_cons] at hc
  rcases hc with hc | hc | rfl | hc
  · exact hword c hc
  · exact isBinding_of_isBlank (ha c hc)
  · decide
  · exact isBinding_of_isBlank (hb c hc)

/-- No opening holds a quote, a semicolon or a backtick. -/
theorem Opens.isBinding (h : form.Opens front) : ∀ c ∈ front, isBinding c = true := by
  cases form with
  | require => exact isBinding_of_callOpens (fun _ => isBinding_of_mem_keyword .require) h
  | importFrom =>
    obtain ⟨gap, hgap, -, -, rfl⟩ := h
    intro c hc
    rcases List.mem_append.1 hc with hc | hc
    · exact isBinding_of_mem_keyword .importFrom hc
    · exact hgap c hc
  | dynamicImport =>
    exact isBinding_of_callOpens (fun _ => isBinding_of_mem_keyword .dynamicImport) h
  | sideEffect =>
    obtain ⟨a, ha, rfl⟩ := h
    intro c hc
    rcases List.mem_append.1 hc with hc | hc
    · exact isBinding_of_mem_keyword .sideEffect hc
    · exact isBinding_of_isBlank (ha c hc)

theorem blank_or_parenthesis_of_callCloses (h : CallCloses back) :
    ∀ c ∈ back, isBlank c = true ∨ c = ')' := by
  obtain ⟨a, ha, rfl⟩ := h
  intro c hc
  rcases List.mem_append.1 hc with hc | hc
  · exact .inl (ha c hc)
  · exact .inr (List.mem_singleton.1 hc)

/-- A closing holds blanks and a parenthesis. -/
theorem Closes.blank_or_parenthesis (h : form.Closes back) :
    ∀ c ∈ back, isBlank c = true ∨ c = ')' := by
  cases form with
  | require | dynamicImport => exact blank_or_parenthesis_of_callCloses h
  | importFrom | sideEffect =>
    obtain rfl : back = [] := h
    nofun

end Form

/-! ### What a form takes in -/

namespace Shape

variable {opens closes : List Char → Prop} {s : List Char}

/-- The piece of the text that has the shape. -/
def taken (m : Shape opens closes s) : List Char :=
  m.front ++ m.quote :: (m.body ++ m.quote :: m.back)

theorem split_taken (m : Shape opens closes s) : s = m.taken ++ m.rest := by
  rw [taken, List.append_assoc, List.cons_append, List.append_assoc, List.cons_append]
  exact m.split

theorem length_taken (m : Shape opens closes s) : m.taken.length = m.hit.length := by
  simp only [taken, hit, List.length_append, List.length_cons]
  omega

theorem take_taken (m : Shape opens closes s) : s.take m.hit.length = m.taken := by
  rw [← m.length_taken]
  exact (congrArg (List.take m.taken.length) m.split_taken).trans List.take_left

/-- What is behind the piece does not matter. -/
theorem exists_shape_of_taken (m : Shape opens closes s) {t rest : List Char}
    (h : t = m.taken ++ rest) : ∃ m' : Shape opens closes t, m'.hit = m.hit := by
  have hsplit : t = m.front ++ m.quote :: (m.body ++ m.quote :: (m.back ++ rest)) := by
    rw [h, taken, List.append_assoc, List.cons_append, List.append_assoc, List.cons_append]
  exact ⟨⟨m.front, m.quote, m.body, m.back, rest, m.opens_front, m.isQuote_quote, m.isBody_body,
    m.closes_back, hsplit⟩, rfl⟩

end Shape

variable {form : Form} {s t : List Char}

theorem length_le_of_at {h : Hit} (hfound : form.at s = some h) : h.length ≤ s.length := by
  obtain ⟨m, rfl⟩ := at_eq_some_iff.1 hfound
  rw [← m.length_taken]
  calc m.taken.length ≤ (m.taken ++ m.rest).length := by
        rw [List.length_append]
        exact Nat.le_add_right _ _
    _ = s.length := by rw [← m.split_taken]

theorem start_lt_length_of_at {text : List Char} {i : Nat} {h : Hit}
    (hfound : form.at (text.drop i) = some h) : i < text.length := by
  by_contra hbeyond
  rw [List.drop_eq_nil_of_le (Nat.le_of_not_lt hbeyond), at_nil] at hfound
  cases hfound

/-- A form is found only where its keyword stands. -/
theorem starts_of_at {h : Hit} (hfound : form.at s = some h) : ∃ r, s = form.keyword ++ r := by
  obtain ⟨m, -⟩ := at_eq_some_iff.1 hfound
  obtain ⟨r, hr⟩ := m.opens_front.starts
  rw [m.split, hr, List.append_assoc]
  exact ⟨_, rfl⟩

/-- No form starts with a blank, a parenthesis or a semicolon. -/
theorem at_eq_none_of_head {c : Char} {r : List Char} (hs : s = c :: r)
    (hc : isBlank c = true ∨ c = ')' ∨ c = ';') : form.at s = none := by
  rw [Option.eq_none_iff_forall_ne_some]
  intro h hfound
  obtain ⟨r', hr'⟩ := starts_of_at hfound
  have hletter : c = 'r' ∨ c = 'i' := by
    cases form with
    | require => exact .inl (List.cons.inj (hs.symm.trans hr')).1
    | importFrom | dynamicImport | sideEffect => exact .inr (List.cons.inj (hs.symm.trans hr')).1
  have hnot : ¬(isBlank c = true ∨ c = ')' ∨ c = ';') := by
    rcases hletter with rfl | rfl <;> decide
  exact hnot hc

/-! ### Line ends -/

/-- Does `c` end a line? -/
def isLineEnd (c : Char) : Bool :=
  c == '\r' || c == '\n'

theorem isLineEnd_of_isQuote {q : Char} (hq : isQuote q = true) : isLineEnd q = false := by
  rcases isQuote_iff.1 hq with rfl | rfl <;> decide

/-- A literal goes over no line end. -/
theorem isLineEnd_of_isBody {q c : Char} (hc : isBody q c = true) : isLineEnd c = false := by
  obtain ⟨-, hreturn, hfeed⟩ := isBody_iff.1 hc
  simp [isLineEnd, hreturn, hfeed]

/-- The part of a text behind its last line end; the whole text if it has none. -/
def lastLine (s : List Char) : List Char :=
  (s.reverse.takeWhile fun c => !isLineEnd c).reverse

/-- A text keeps its last line when something is put before it. -/
theorem mem_lastLine_append {c : Char} (h : c ∈ lastLine t) : c ∈ lastLine (s ++ t) := by
  rw [lastLine, List.mem_reverse] at h ⊢
  rw [List.reverse_append, List.takeWhile_append]
  split
  · exact List.mem_append_left _ ((List.takeWhile_prefix _).subset h)
  · exact h

/-- A character stands on the last line if no line end is behind it. -/
theorem mem_lastLine_of_split {a b : List Char} {c : Char} (h : s = a ++ c :: b)
    (hc : isLineEnd c = false) (hb : ∀ x ∈ b, isLineEnd x = false) : c ∈ lastLine s := by
  have htake : (b.reverse ++ c :: a.reverse).takeWhile (fun c => !isLineEnd c)
      = b.reverse ++ c :: a.reverse.takeWhile (fun c => !isLineEnd c) := by
    rw [List.takeWhile_append_of_pos fun x hx => by simp [hb x (List.mem_reverse.1 hx)],
      List.takeWhile_cons_of_pos (by simp [hc])]
  rw [h, lastLine, List.mem_reverse, List.reverse_append, List.reverse_cons, List.append_assoc,
    List.singleton_append, htake]
  exact List.mem_append_right _ List.mem_cons_self

/-! ### Separators -/

theorem ne_semicolon_of_isQuote {q : Char} (hq : isQuote q = true) : q ≠ ';' := by
  rintro rfl
  exact absurd hq (by decide)

/-- A character that a front does not hold stands behind it. -/
theorem exists_behind_of_notMem {c : Char} {x y l r : List Char} (h : l ++ r = x ++ c :: y)
    (hc : c ∉ l) : ∃ z, x = l ++ z ∧ r = z ++ c :: y := by
  rw [List.append_eq_append_iff] at h
  obtain ⟨z, hx, hr⟩ | ⟨z, hl, hz⟩ := h
  · exact ⟨z, hx, hr⟩
  · cases z with
    | nil => exact ⟨[], by simpa using hl.symm, hz.symm⟩
    | cons d z =>
      obtain ⟨rfl, -⟩ := List.cons.inj hz
      exact absurd (hl ▸ List.mem_append_right x List.mem_cons_self) hc

/-- Where a form takes in a semicolon, it takes in a character behind it that ends no line: the
semicolon stands in the literal, and there the literal does not end. -/
theorem Shape.behind_semicolon (m : Shape form.Opens form.Closes s) {x y : List Char}
    (h : m.taken = x ++ ';' :: y) : ∃ c z, y = c :: z ∧ isLineEnd c = false := by
  have hsemicolon : m.quote ≠ ';' := ne_semicolon_of_isQuote m.isQuote_quote
  have hfront : ';' ∉ m.front := fun hmem => absurd (m.opens_front.isBinding _ hmem) (by decide)
  have hback : ';' ∉ m.quote :: m.back := by
    rw [List.mem_cons, not_or]
    exact ⟨hsemicolon.symm, fun hmem => absurd (m.closes_back.blank_or_parenthesis _ hmem) (by decide)⟩
  obtain ⟨z, -, hquote⟩ := exists_behind_of_notMem h hfront
  obtain ⟨z, -, hinner⟩ : ∃ z', z = [m.quote] ++ z' ∧ m.body ++ m.quote :: m.back = z' ++ ';' :: y :=
    exists_behind_of_notMem hquote (by simpa using hsemicolon.symm)
  obtain ⟨b, -, hb⟩ | ⟨b, hbody, hb⟩ := List.append_eq_append_iff.1 hinner
  · exact absurd (hb ▸ List.mem_append_right b List.mem_cons_self) hback
  · cases b with
    | nil => exact absurd (List.cons.inj hb).1.symm hsemicolon
    | cons d b =>
      obtain ⟨rfl, rfl⟩ := List.cons.inj hb
      cases b with
      | nil => exact ⟨m.quote, m.back, rfl, isLineEnd_of_isQuote m.isQuote_quote⟩
      | cons c b =>
        have hmem : c ∈ m.body := by
          rw [hbody]
          exact List.mem_append_right z (List.mem_cons_of_mem _ List.mem_cons_self)
        exact ⟨c, _, rfl, isLineEnd_of_isBody (m.isBody_body c hmem)⟩

/-- **No form goes over a separator**: what is found at the head of a text does not depend on what
follows a semicolon and a line feed behind the text. -/
theorem at_separated : form.at (s ++ ';' :: '\n' :: t) = form.at s := by
  apply Option.ext
  intro h
  rw [at_eq_some_iff, at_eq_some_iff]
  constructor
  · rintro ⟨m, rfl⟩
    have hinside : ∃ rest, s = m.taken ++ rest := by
      obtain ⟨a, htaken, hsep⟩ | ⟨rest, hs, -⟩ := List.append_eq_append_iff.1 m.split_taken
      · -- the form would end in the separator, or go over it
        cases a with
        | nil => exact ⟨[], by simpa using htaken.symm⟩
        | cons c a =>
          obtain ⟨rfl, hbehind⟩ := List.cons.inj hsep
          obtain ⟨c, z, rfl, hc⟩ := m.behind_semicolon htaken
          rw [← (List.cons.inj hbehind).1] at hc
          exact absurd hc (by decide)
      · exact ⟨rest, hs⟩
    obtain ⟨rest, hs⟩ := hinside
    obtain ⟨m', hm'⟩ := m.exists_shape_of_taken hs
    exact ⟨m', hm'.symm⟩
  · rintro ⟨m, rfl⟩
    have hlonger : s ++ ';' :: '\n' :: t = m.taken ++ (m.rest ++ ';' :: '\n' :: t) := by
      rw [← List.append_assoc, ← m.split_taken]
    obtain ⟨m', hm'⟩ := m.exists_shape_of_taken hlonger
    exact ⟨m', hm'.symm⟩

/-! ### Forms inside forms -/

/-- The bindings at the head of a text and the literal behind them are one thing. -/
theorem first_literal_unique {f f' body body' r r' : List Char} {q q' : Char}
    (h : f ++ q :: (body ++ q :: r) = f' ++ q' :: (body' ++ q' :: r'))
    (hf : ∀ c ∈ f, isBinding c = true) (hf' : ∀ c ∈ f', isBinding c = true)
    (hq : isQuote q = true) (hq' : isQuote q' = true)
    (hbody : ∀ c ∈ body, isBody q c = true) (hbody' : ∀ c ∈ body', isBody q' c = true) :
    f = f' ∧ body = body' := by
  have htake := congrArg (List.takeWhile isBinding) h
  have hdrop := congrArg (List.dropWhile isBinding) h
  rw [List.takeWhile_append_of_pos hf, List.takeWhile_append_of_pos hf',
    List.takeWhile_cons_of_neg (by simp [isBinding_quote hq]),
    List.takeWhile_cons_of_neg (by simp [isBinding_quote hq']), List.append_nil, List.append_nil]
    at htake
  rw [List.dropWhile_append_of_pos hf, List.dropWhile_append_of_pos hf',
    List.dropWhile_cons_of_neg (by simp [isBinding_quote hq]),
    List.dropWhile_cons_of_neg (by simp [isBinding_quote hq'])] at hdrop
  have hread := congrArg readLiteral hdrop
  rw [readLiteral_quoted hq hbody, readLiteral_quoted hq' hbody'] at hread
  exact ⟨htake, (Prod.mk.inj (Option.some.inj hread)).1⟩

/-- The places inside a form: up to its opening quote, in its literal, and behind its closing quote. -/
theorem Shape.split_inside (m : Shape form.Opens form.Closes (s ++ t))
    (hinside : s.length < m.hit.length) :
    (∃ f, m.front = s ++ f ∧ t = f ++ m.quote :: (m.body ++ m.quote :: (m.back ++ m.rest))) ∨
    (∃ b, s = m.front ++ m.quote :: b ∧ ∀ c ∈ b, isBody m.quote c = true) ∨
    (∃ c r, t = c :: r ∧ c ∈ m.back) := by
  obtain ⟨f, hfront, ht⟩ | ⟨u, hs, hquote⟩ := List.append_eq_append_iff.1 m.split
  · exact .inl ⟨f, hfront, ht⟩
  cases u with
  | nil => exact .inl ⟨[], by simpa using hs.symm, hquote.symm⟩
  | cons q u =>
    obtain ⟨rfl, hbody⟩ := List.cons.inj hquote
    obtain ⟨v, hu, hclose⟩ | ⟨v, hv, -⟩ := List.append_eq_append_iff.1 hbody
    · cases v with
      | nil =>
        rw [List.append_nil] at hu
        exact .inr (.inl ⟨u, hs, fun c hc => m.isBody_body c (hu ▸ hc)⟩)
      | cons q v =>
        obtain ⟨rfl, hback⟩ := List.cons.inj hclose
        have hshort : v.length < m.back.length := by
          have hlength := congrArg List.length hs
          rw [hu] at hlength
          simp only [List.length_append, List.length_cons] at hlength
          simp only [hit] at hinside
          omega
        obtain ⟨k, hk, -⟩ | ⟨k, hk, ht⟩ := List.append_eq_append_iff.1 hback
        · rw [hk, List.length_append] at hshort
          omega
        · cases k with
          | nil =>
            rw [List.append_nil] at hk
            exact absurd hshort (by rw [hk]; exact Nat.lt_irrefl _)
          | cons c k =>
            refine .inr (.inr ⟨c, _, ht, ?_⟩)
            rw [hk]
            exact List.mem_append_right v List.mem_cons_self
    · refine .inr (.inl ⟨u, hs, fun c hc => m.isBody_body c ?_⟩)
      rw [hv]
      exact List.mem_append_left v hc

/-- **A form that is covered by an earlier one has the same literal**, unless there is a quote before it on
its line. -/
theorem same_literal_of_covered {outer inner : Hit} (houter : form.at (s ++ t) = some outer)
    (hinner : form.at t = some inner) (hcover : s.length < outer.length)
    (hline : ∀ c ∈ lastLine s, isQuote c = false) :
    outer.offset = s.length + inner.offset ∧ outer.literal = inner.literal := by
  obtain ⟨m, rfl⟩ := at_eq_some_iff.1 houter
  obtain ⟨m', rfl⟩ := at_eq_some_iff.1 hinner
  obtain ⟨f, hfront, ht⟩ | ⟨b, hs, hb⟩ | ⟨c, r, ht, hc⟩ := m.split_inside hcover
  · -- both literals are the first one behind the openings
    have hbinding : ∀ c ∈ f, isBinding c = true := by
      intro c hc
      apply m.opens_front.isBinding
      rw [hfront]
      exact List.mem_append_right s hc
    obtain ⟨hf, hbody⟩ := first_literal_unique (ht.symm.trans m'.split) hbinding
      m'.opens_front.isBinding m.isQuote_quote m'.isQuote_quote m.isBody_body m'.isBody_body
    refine ⟨?_, hbody⟩
    show m.front.length = s.length + m'.front.length
    rw [hfront, hf, List.length_append]
  · -- the literal of the outer form opens on the line of the inner one
    have hquote : m.quote ∈ lastLine s := by
      apply mem_lastLine_of_split hs
      · exact isLineEnd_of_isQuote m.isQuote_quote
      · exact fun c hc => isLineEnd_of_isBody (hb c hc)
    exact absurd m.isQuote_quote (by simp [hline _ hquote])
  · -- behind the literal of the outer form there is no letter
    have hblank : isBlank c = true ∨ c = ')' := m.closes_back.blank_or_parenthesis c hc
    have hnone : form.at t = none := at_eq_none_of_head ht (hblank.imp_right .inl)
    rw [hnone] at hinner
    cases hinner

end ImportCensus.Source
