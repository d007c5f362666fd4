/-
ImportCensus/Proofs/Source/LineEnds.lean

Texts whose lines end in a line feed, and the same texts with a carriage return before each line feed.

Both characters are blanks, both may stand among bindings, and neither may stand in a literal or belongs to
a word.  So a form reads over the one line end just as it reads over the other: what stands at the head of
the longer text is what stands at the head of the shorter one, with returns put into its opening and its
closing (`at_withReturns`).  A scan of the longer text does the same steps as a scan of the shorter one, and
one step more at every line end; what it has to skip is longer by the returns that stand in it.

Main statement: a text has the same specifiers with either line end, one by one, and so the same packages
(`specifiers_withReturns`).
-/
import ImportCensus.Proofs.Source.Extent
import ImportCensus.Usage

namespace ImportCensus.Source

open Text

/-! ### Returns before line feeds -/

/-- The text with a carriage return before each line feed. -/
def withReturns (s : List Char) : List Char :=
  s.flatMap fun c => if c = '\n' then ['\r', '\n'] else [c]

variable {s t x y : List Char} {c : Char}

@[simp] theorem withReturns_nil : withReturns [] = [] := rfl

@[simp] theorem withReturns_append : withReturns (s ++ t) = withReturns s ++ withReturns t :=
  List.flatMap_append

@[simp] theorem withReturns_feed : withReturns ('\n' :: s) = '\r' :: '\n' :: withReturns s := rfl

theorem withReturns_cons (hc : c ≠ '\n') : withReturns (c :: s) = c :: withReturns s := by
  rw [withReturns, List.flatMap_cons, if_neg hc, List.singleton_append]
  rfl

theorem ne_feed_of_isLineEnd (hc : isLineEnd c = false) : c ≠ '\n' := by
  rintro rfl
  exact absurd hc (by decide)

/-- A piece of a line has no place for returns. -/
theorem withReturns_eq_self (h : s.any isLineEnd = false) : withReturns s = s := by
  induction s with
  | nil => rfl
  | cons c r ih =>
    rw [List.any_cons, Bool.or_eq_false_iff] at h
    rw [withReturns_cons (ne_feed_of_isLineEnd h.1), ih h.2]

theorem withReturns_eq_nil_iff : withReturns s = [] ↔ s = [] := by
  cases s with
  | nil => simp
  | cons c r =>
    by_cases hc : c = '\n'
    · simp [hc]
    · simp [withReturns_cons hc]

theorem mem_withReturns : c ∈ withReturns s ↔ c ∈ s ∨ c = '\r' ∧ '\n' ∈ s := by
  induction s with
  | nil => simp
  | cons d r ih =>
    by_cases hd : d = '\n'
    · subst hd
      simp only [withReturns_feed, List.mem_cons, ih, true_or, and_true]
      tauto
    · simp only [withReturns_cons hd, List.mem_cons, ih, Ne.symm hd, false_or]
      tauto

/-- The characters of both texts are of a kind if a carriage return is. -/
theorem forall_mem_withReturns {kind : Char → Prop} (hreturn : kind '\r') :
    (∀ c ∈ withReturns s, kind c) ↔ ∀ c ∈ s, kind c := by
  constructor
  · exact fun h c hc => h c (mem_withReturns.2 (.inl hc))
  · intro h c hc
    rcases mem_withReturns.1 hc with hc | ⟨rfl, -⟩
    · exact h c hc
    · exact hreturn

theorem getLast?_withReturns : (withReturns s).getLast? = s.getLast? := by
  obtain rfl | ⟨front, c, rfl⟩ := s.eq_nil_or_concat
  · rfl
  · by_cases hc : c = '\n'
    · simp [hc]
    · simp [withReturns_cons hc]

theorem startsInWord_withReturns : startsInWord (withReturns s) = startsInWord s := by
  cases s with
  | nil => rfl
  | cons c r =>
    by_cases hc : c = '\n'
    · subst hc
      show isWord '\r' = isWord '\n'
      decide
    · rw [withReturns_cons hc]
      rfl

/-- Where a text with returns goes on with a character that ends no line, so does the text without them. -/
theorem exists_split_of_withReturns (hc : isLineEnd c = false) (h : withReturns s = x ++ c :: y) :
    ∃ a b, s = a ++ c :: b ∧ withReturns a = x ∧ withReturns b = y := by
  obtain ⟨hreturn, hfeed⟩ : c ≠ '\r' ∧ c ≠ '\n' := by
    simpa [isLineEnd] using hc
  induction s generalizing x with
  | nil => simp at h
  | cons d r ih =>
    by_cases hd : d = '\n'
    · subst hd
      rw [withReturns_feed] at h
      -- the character is neither of the two at the line end
      rcases x with _ | ⟨_, _ | ⟨_, x⟩⟩
      · exact absurd (List.cons.inj h).1.symm hreturn
      · exact absurd (List.cons.inj (List.cons.inj h).2).1.symm hfeed
      · simp only [List.cons_append, List.cons.injEq] at h
        obtain ⟨rfl, rfl, h⟩ := h
        obtain ⟨a, b, rfl, rfl, rfl⟩ := ih h
        exact ⟨'\n' :: a, b, rfl, rfl, rfl⟩
    · rw [withReturns_cons hd] at h
      cases x with
      | nil =>
        obtain ⟨rfl, rfl⟩ := List.cons.inj h
        exact ⟨[], r, rfl, rfl, rfl⟩
      | cons e x =>
        rw [List.cons_append, List.cons.injEq] at h
        obtain ⟨rfl, h⟩ := h
        obtain ⟨a, b, rfl, rfl, rfl⟩ := ih h
        exact ⟨d :: a, b, rfl, withReturns_cons hd, rfl⟩

/-- Where a text with returns starts with a piece of a line, so does the text without them. -/
theorem exists_behind_of_withReturns (hx : x.any isLineEnd = false)
    (h : withReturns s = x ++ y) : ∃ b, s = x ++ b ∧ withReturns b = y := by
  induction x generalizing s with
  | nil => exact ⟨s, rfl, h⟩
  | cons c x ih =>
    rw [List.any_cons, Bool.or_eq_false_iff] at hx
    obtain ⟨a, r, rfl, ha, hr⟩ := exists_split_of_withReturns (x := []) hx.1 h
    obtain rfl := withReturns_eq_nil_iff.1 ha
    obtain ⟨b, rfl, rfl⟩ := ih hx.2 hr
    exact ⟨b, rfl, rfl⟩

/-! ### Openings and closings -/

theorem allBlank_withReturns : AllBlank (withReturns s) ↔ AllBlank s :=
  forall_mem_withReturns (by decide)

/-- The bindings end in `from` behind a character that belongs to no word. -/
theorem endsWithFrom_iff_getLast? {gap : List Char} :
    endsWithFrom gap = true ↔
      ∃ front a, (∃ c, front.getLast? = some c ∧ isWord c = false) ∧ AllBlank a ∧
        gap = front ++ ("from".toList ++ a) := by
  rw [endsWithFrom_iff]
  constructor
  · rintro ⟨before, c, a, hc, ha, rfl⟩
    exact ⟨before ++ [c], a, ⟨c, List.getLast?_concat, hc⟩, ha, by simp⟩
  · rintro ⟨front, a, ⟨c, hlast, hc⟩, ha, rfl⟩
    obtain ⟨before, rfl⟩ := List.getLast?_eq_some_iff.1 hlast
    exact ⟨before, c, a, hc, ha, by simp⟩

theorem endsWithFrom_withReturns : endsWithFrom (withReturns s) = endsWithFrom s := by
  rw [Bool.eq_iff_iff, endsWithFrom_iff_getLast?, endsWithFrom_iff_getLast?]
  constructor
  · rintro ⟨front, a, hlast, ha, h⟩
    obtain ⟨front, r, rfl, rfl, hr⟩ :=
      exists_split_of_withReturns (c := 'f') (y := "rom".toList ++ a) (by decide) h
    obtain ⟨a, rfl, rfl⟩ := exists_behind_of_withReturns (by decide) hr
    rw [getLast?_withReturns] at hlast
    exact ⟨front, a, hlast, allBlank_withReturns.1 ha, rfl⟩
  · rintro ⟨front, a, hlast, ha, rfl⟩
    rw [← getLast?_withReturns] at hlast
    refine ⟨withReturns front, withReturns a, hlast, allBlank_withReturns.2 ha, ?_⟩
    rw [withReturns_append, withReturns_append, withReturns_eq_self (s := "from".toList) (by decide)]

theorem callOpens_withReturns {word : List Char} (hword : word.any isLineEnd = false) :
    CallOpens word (withReturns s) ↔ CallOpens word s := by
  constructor
  · rintro ⟨a, b, ha, hb, h⟩
    obtain ⟨r, rfl, hr⟩ := exists_behind_of_withReturns hword h
    obtain ⟨a, b, rfl, rfl, rfl⟩ := exists_split_of_withReturns (by decide) hr
    exact ⟨a, b, allBlank_withReturns.1 ha, allBlank_withReturns.1 hb, rfl⟩
  · rintro ⟨a, b, ha, hb, rfl⟩
    refine ⟨withReturns a, withReturns b, allBlank_withReturns.2 ha, allBlank_withReturns.2 hb, ?_⟩
    rw [withReturns_append, withReturns_append, withReturns_cons (by decide), withReturns_eq_self hword]

theorem bindingsOpen_withReturns : BindingsOpen (withReturns s) ↔ BindingsOpen s := by
  constructor
  · rintro ⟨gap, hgap, hstart, hends, h⟩
    obtain ⟨gap, rfl, rfl⟩ := exists_behind_of_withReturns (by decide) h
    rw [forall_mem_withReturns (by decide)] at hgap
    rw [startsInWord_withReturns] at hstart
    rw [endsWithFrom_withReturns] at hends
    exact ⟨gap, hgap, hstart, hends, rfl⟩
  · rintro ⟨gap, hgap, hstart, hends, rfl⟩
    rw [← forall_mem_withReturns (by decide)] at hgap
    rw [← startsInWord_withReturns] at hstart
    rw [← endsWithFrom_withReturns] at hends
    refine ⟨withReturns gap, hgap, hstart, hends, ?_⟩
    rw [withReturns_append, withReturns_eq_self (s := "import".toList) (by decide)]

theorem bareOpens_withReturns : BareOpens (withReturns s) ↔ BareOpens s := by
  constructor
  · rintro ⟨a, ha, h⟩
    obtain ⟨a, rfl, rfl⟩ := exists_behind_of_withReturns (by decide) h
    exact ⟨a, allBlank_withReturns.1 ha, rfl⟩
  · rintro ⟨a, ha, rfl⟩
    refine ⟨withReturns a, allBlank_withReturns.2 ha, ?_⟩
    rw [withReturns_append, withReturns_eq_self (s := "import".toList) (by decide)]

theorem callCloses_withReturns : CallCloses (withReturns s) ↔ CallCloses s := by
  constructor
  · rintro ⟨a, ha, h⟩
    obtain ⟨a, b, rfl, rfl, hb⟩ := exists_split_of_withReturns (by decide) h
    obtain rfl := withReturns_eq_nil_iff.1 hb
    exact ⟨a, allBlank_withReturns.1 ha, rfl⟩
  · rintro ⟨a, ha, rfl⟩
    refine ⟨withReturns a, allBlank_withReturns.2 ha, ?_⟩
    rw [withReturns_append, withReturns_eq_self (s := [')']) (by decide)]

namespace Form

variable {form : Form}

theorem opens_withReturns : form.Opens (withReturns s) ↔ form.Opens s := by
  cases form with
  | require => exact callOpens_withReturns (by decide)
  | importFrom => exact bindingsOpen_withReturns
  | dynamicImport => exact callOpens_withReturns (by decide)
  | sideEffect => exact bareOpens_withReturns

theorem closes_withReturns : form.Closes (withReturns s) ↔ form.Closes s := by
  cases form with
  | require | dynamicImport => exact callCloses_withReturns
  | importFrom | sideEffect => exact withReturns_eq_nil_iff

/-- A closing ends in a parenthesis or is empty, so it is no part of a line end. -/
theorem Closes.exists_split {back rest : List Char} (h : form.Closes back)
    (hs : withReturns s = back ++ rest) : ∃ a b, s = a ++ b ∧ withReturns a = back := by
  have hcall (h : CallCloses back) : ∃ a b, s = a ++ b ∧ withReturns a = back := by
    obtain ⟨a, -, rfl⟩ := h
    rw [List.append_assoc, List.singleton_append] at hs
    obtain ⟨a, b, rfl, rfl, -⟩ := exists_split_of_withReturns (by decide) hs
    refine ⟨a ++ [')'], b, by simp, ?_⟩
    rw [withReturns_append, withReturns_eq_self (s := [')']) (by decide)]
  cases form with
  | require | dynamicImport => exact hcall h
  | importFrom | sideEffect =>
    obtain rfl : back = [] := h
    exact ⟨[], s, rfl, rfl⟩

end Form

/-! ### What is found at the head of a text -/

variable {form : Form}

theorem any_isLineEnd_body {opens closes : List Char → Prop} (m : Shape opens closes s) :
    m.body.any isLineEnd = false := by
  rw [List.any_eq_false]
  intro c hc
  rw [isLineEnd_of_isBody (m.isBody_body c hc)]
  exact Bool.false_ne_true

theorem withReturns_body {opens closes : List Char → Prop} (m : Shape opens closes s) :
    withReturns m.body = m.body :=
  withReturns_eq_self (any_isLineEnd_body m)

theorem withReturns_quote {q : Char} (hq : isQuote q = true) :
    withReturns (q :: s) = q :: withReturns s :=
  withReturns_cons (ne_feed_of_isLineEnd (isLineEnd_of_isQuote hq))

/-- The shape of a form with returns put into it. -/
def Shape.withReturns (m : Shape form.Opens form.Closes s) :
    Shape form.Opens form.Closes (Source.withReturns s) where
  front := Source.withReturns m.front
  quote := m.quote
  body := m.body
  back := Source.withReturns m.back
  rest := Source.withReturns m.rest
  opens_front := Form.opens_withReturns.2 m.opens_front
  isQuote_quote := m.isQuote_quote
  isBody_body := m.isBody_body
  closes_back := Form.closes_withReturns.2 m.closes_back
  split := by
    have h := congrArg Source.withReturns m.split
    rwa [withReturns_append, withReturns_quote m.isQuote_quote, withReturns_append, withReturns_body,
      withReturns_quote m.isQuote_quote, withReturns_append] at h

/-- The shape of a form without the returns that were put into it. -/
theorem exists_shape_of_withReturns (m : Shape form.Opens form.Closes (withReturns s)) :
    Nonempty (Shape form.Opens form.Closes s) := by
  have hquote : isLineEnd m.quote = false := isLineEnd_of_isQuote m.isQuote_quote
  obtain ⟨front, r, hsplit, hfront, hbody⟩ := exists_split_of_withReturns hquote m.split
  obtain ⟨r, rfl, hclose⟩ := exists_behind_of_withReturns (any_isLineEnd_body m) hbody
  obtain ⟨_, r, rfl, hnil, hbehind⟩ := exists_split_of_withReturns (x := []) hquote hclose
  obtain rfl := withReturns_eq_nil_iff.1 hnil
  obtain ⟨back, rest, rfl, hback⟩ := m.closes_back.exists_split hbehind
  have hopens := m.opens_front
  rw [← hfront, Form.opens_withReturns] at hopens
  have hcloses := m.closes_back
  rw [← hback, Form.closes_withReturns] at hcloses
  exact ⟨⟨front, m.quote, m.body, back, rest, hopens, m.isQuote_quote, m.isBody_body, hcloses, hsplit⟩⟩

/-- What is found at the head of a text, with returns put into the text. -/
def Hit.withReturns (s : List Char) (h : Hit) : Hit where
  offset := (Source.withReturns (s.take h.offset)).length
  literal := h.literal
  length := (Source.withReturns (s.take h.length)).length

theorem hit_withReturns (m : Shape form.Opens form.Closes s) : m.withReturns.hit = m.hit.withReturns s := by
  have hfront : s.take m.hit.offset = m.front := m.take_front
  have hlength : (withReturns m.taken).length = m.withReturns.hit.length := by
    rw [← m.withReturns.length_taken, Shape.taken, withReturns_append, withReturns_quote m.isQuote_quote,
      withReturns_append, withReturns_body, withReturns_quote m.isQuote_quote]
    rfl
  rw [Hit.withReturns, hfront, m.take_taken, hlength]
  rfl

/-- **A form is found with returns exactly where it is found without them**, with the same literal. -/
theorem at_withReturns : form.at (withReturns s) = (form.at s).map (·.withReturns s) := by
  apply Option.ext
  intro h
  rw [Option.map_eq_some_iff]
  constructor
  · intro hfound
    obtain ⟨m, -⟩ := at_eq_some_iff.1 hfound
    obtain ⟨m⟩ := exists_shape_of_withReturns m
    refine ⟨m.hit, at_eq_some_iff.2 ⟨m, rfl⟩, ?_⟩
    rw [← hit_withReturns]
    exact Option.some.inj ((at_eq_some_iff.2 ⟨m.withReturns, rfl⟩).symm.trans hfound)
  · rintro ⟨_, hfound, rfl⟩
    obtain ⟨m, rfl⟩ := at_eq_some_iff.1 hfound
    exact at_eq_some_iff.2 ⟨m.withReturns, (hit_withReturns m).symm⟩

/-! ### Scans -/

/-- The invariant of the two scans: they agree on what is left of the text, and what the scan with returns
has to skip is what the other one has to, with the returns in it. -/
theorem texts_scanFrom_withReturns {inWord : Bool} (skip : Nat) {position position' : Nat} :
    (scanFrom form inWord (withReturns (s.take skip)).length position' (withReturns s)).map (·.text)
      = (scanFrom form inWord skip position s).map (·.text) := by
  induction s generalizing inWord skip position position' with
  | nil => simp [scanFrom]
  | cons c r ih =>
    by_cases hc : c = '\n'
    · -- no form starts at a line end, so the scan with returns only makes one step more
      subst hc
      cases skip with
      | succ skip => exact ih skip
      | zero =>
        have hreturn : form.at ('\r' :: '\n' :: withReturns r) = none :=
          at_eq_none_of_head rfl (by decide)
        have hfeed (r : List Char) : form.at ('\n' :: r) = none := at_eq_none_of_head rfl (by decide)
        rw [List.take_zero, withReturns_nil, List.length_nil, withReturns_feed,
          scanFrom_not_found (.inr hreturn), scanFrom_not_found (.inr (hfeed _)),
          scanFrom_not_found (.inr (hfeed _))]
        exact ih 0
    · cases skip with
      | succ skip =>
        rw [List.take_succ_cons, withReturns_cons hc, withReturns_cons hc]
        exact ih skip
      | zero =>
        have hat : form.at (c :: withReturns r) = (form.at (c :: r)).map (·.withReturns (c :: r)) := by
          rw [← withReturns_cons hc]
          exact at_withReturns
        rw [List.take_zero, withReturns_nil, List.length_nil, withReturns_cons hc]
        by_cases hfound : inWord = true ∨ form.at (c :: r) = none
        · have hfound' : inWord = true ∨ form.at (c :: withReturns r) = none := by
            rwa [hat, Option.map_eq_none_iff]
          rw [scanFrom_not_found hfound, scanFrom_not_found hfound']
          exact ih 0
        · rw [not_or, Bool.not_eq_true] at hfound
          obtain ⟨h, hsome⟩ := Option.ne_none_iff_exists'.1 hfound.2
          have hsome' : form.at (c :: withReturns r) = some (h.withReturns (c :: r)) := by
            rw [hat, hsome, Option.map_some]
          -- what is left to skip behind the first character of the form
          have hskip : (h.withReturns (c :: r)).length - 1 = (withReturns (r.take (h.length - 1))).length := by
            obtain ⟨n, hn⟩ := Nat.exists_eq_succ_of_ne_zero (Nat.ne_of_gt (length_pos_of_at hsome))
            rw [Hit.withReturns, hn, List.take_succ_cons, withReturns_cons hc]
            rfl
          rw [scanFrom_found hfound.1 hsome, scanFrom_found hfound.1 hsome', List.map_cons, List.map_cons,
            hskip, ih]
          rfl

/-- **The line end does not matter.**  A text whose lines end in a line feed, and the text that has a
carriage return before each of these, have the same specifiers in the same order, and so the same
packages. -/
theorem specifiers_withReturns (text : String) :
    specifiers (String.ofList (withReturns text.toList)) = specifiers text ∧
    packagesIn (String.ofList (withReturns text.toList)) = packagesIn text := by
  have hscan (form : Form) : (form.scan (withReturns text.toList)).map (·.text)
      = (form.scan text.toList).map (·.text) :=
    texts_scanFrom_withReturns 0
  have hreferences : (references (withReturns text.toList)).map (·.text)
      = (references text.toList).map (·.text) := by
    rw [references, references, List.map_flatMap, List.map_flatMap]
    exact List.flatMap_congr fun form _ => hscan form
  have hspecifiers : specifiers (String.ofList (withReturns text.toList)) = specifiers text := by
    have h := congrArg (List.map String.ofList) hreferences
    rw [List.map_map, List.map_map] at h
    rw [specifiers, specifiers, String.toList_ofList]
    exact h
  exact ⟨hspecifiers, by rw [packagesIn, packagesIn, hspecifiers]⟩

end ImportCensus.Source
