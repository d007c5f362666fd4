/-
ImportCensus/Proofs/Json/Printer.lean

What is printed is read back, on however many levels.

The reader is a machine, so the statement is about its states: started where a value may come, on the
text of a value and anything that cannot go on with a number, it comes to the state in which it has that
value and stands before the rest (`readFrom_pretty`).  The induction follows the value; on the items of a
list and the entries of an object it says that they are put on the innermost open container.

Main statement: a value whose numbers are integers of 64 bits is read from the text that is printed for it,
if there is no limit to the nesting (`read_print`).
-/
import ImportCensus.Json.Printer
import ImportCensus.Json.Reader
import ImportCensus.Proofs.Json.Scalar

namespace ImportCensus

mutual

/-- Is every number in a value an integer of 64 bits, signed or not? -/
def Datum.isIntegral : Datum → Bool
  | .int n => decide (-(Nat.pow 2 63 : Nat) ≤ n ∧ n < (UInt64.size : Nat))
  | .float _ => false
  | .list items => Datum.areIntegral items
  | .table fields => Datum.haveIntegral fields
  | .null | .bool _ | .text _ => true

/-- Is every number in several values an integer of 64 bits? -/
def Datum.areIntegral : List Datum → Bool
  | [] => true
  | d :: ds => d.isIntegral && Datum.areIntegral ds

/-- Is every number in several entries an integer of 64 bits? -/
def Datum.haveIntegral : List (String × Datum) → Bool
  | [] => true
  | (_, d) :: fs => d.isIntegral && Datum.haveIntegral fs

end

namespace Json

variable {state next : State} {frames : List Frame} {mode : Mode} {c : Char} {r rest s : List Char}

/-! ### Steps of the reader -/

theorem readFrom_space (hc : isSpace c = true) :
    readFrom none state (c :: r) = readFrom none state r := by
  rw [readFrom, if_pos hc]

theorem readFrom_step (hc : isSpace c = false) (h : step none state c r = .ok (next, rest)) :
    readFrom none state (c :: r) = readFrom none next rest := by
  rw [readFrom, if_neg (by simp [hc])]
  split
  · next hstep =>
    rw [h] at hstep
    cases hstep
  · next hstep =>
    rw [h] at hstep
    obtain ⟨rfl, rfl⟩ := Prod.mk.inj (Except.ok.inj hstep)
    rfl

/-- A line break and the blanks of a level are passed over. -/
theorem readFrom_newline (level : Nat) :
    readFrom none state (newline level ++ s) = readFrom none state s := by
  rw [newline, List.cons_append, readFrom_space (by decide)]
  induction 2 * level with
  | zero => rfl
  | succ n ih =>
    rw [List.replicate_succ, List.cons_append, readFrom_space (by decide)]
    exact ih

/-- May a value come next? -/
def Mode.awaitsValue : Mode → Bool
  | .value | .firstItem | .nextItem => true
  | _ => false

/-- Where a value may come, a character that closes no list starts one. -/
theorem step_eq_readValue (hmode : mode.awaitsValue = true) (hc : c ≠ ']') :
    step none ⟨frames, mode⟩ c r = readValue none frames c r := by
  cases mode <;> first | rfl | exact if_neg hc | cases hmode

theorem readFrom_value (hspace : isSpace c = false) (hclose : c ≠ ']')
    (hmode : mode.awaitsValue = true) (h : readValue none frames c r = .ok (next, rest)) :
    readFrom none ⟨frames, mode⟩ (c :: r) = readFrom none next rest :=
  readFrom_step hspace ((step_eq_readValue hmode hclose).trans h)

/-! ### Scalars -/

theorem readFrom_writeText (text : String) (hmode : mode.awaitsValue = true) :
    readFrom none ⟨frames, mode⟩ (writeText text.toList ++ rest)
      = readFrom none (State.push frames (.text text)) rest := by
  rw [writeText, List.cons_append, List.cons_append, List.append_assoc]
  apply readFrom_value (by decide) (by decide) hmode
  rw [readValue, if_pos rfl]
  simp only [List.singleton_append, readText_writeText, String.ofList_toList, bind, Except.bind]
  rfl

theorem readFrom_toString {n : Int} (hlow : -(Nat.pow 2 63 : Nat) ≤ n)
    (hhigh : n < (UInt64.size : Nat)) (hmode : mode.awaitsValue = true) (hrest : EndsNumber rest) :
    readFrom none ⟨frames, mode⟩ ((toString n).toList ++ rest)
      = readFrom none (State.push frames (.int n)) rest := by
  have hread := readNumber_toString hlow hhigh hrest
  obtain ⟨c, r, hwritten, hc⟩ := exists_toString_eq_cons n
  rw [hwritten, List.cons_append] at hread ⊢
  have hmarks : isSpace c = false ∧ c ≠ ']' ∧ c ≠ '"' := by
    rcases hc with rfl | hc
    · decide
    · refine ⟨?_, ?_, ?_⟩
      · by_contra hspace
        simp only [isSpace, Bool.or_eq_true, beq_iff_eq, Bool.not_eq_false] at hspace
        rcases hspace with ((rfl | rfl) | rfl) | rfl <;> exact absurd hc (by decide)
      all_goals
        rintro rfl
        exact absurd hc (by decide)
  apply readFrom_value hmarks.1 hmarks.2.1 hmode
  rw [readValue, if_neg hmarks.2.2, if_pos hc]
  simp only [hread, bind, Except.bind]
  rfl

/-- What is written for a scalar is read as that scalar. -/
theorem readFrom_writeScalar {d : Datum} (hd : d.isIntegral = true) (hlist : d.items? = none)
    (htable : d.fields? = none) (hmode : mode.awaitsValue = true) (hrest : EndsNumber rest) :
    readFrom none ⟨frames, mode⟩ (writeScalar d ++ rest)
      = readFrom none (State.push frames d) rest := by
  cases d with
  | null => exact readFrom_value (by decide) (by decide) hmode rfl
  | bool b => cases b <;> exact readFrom_value (by decide) (by decide) hmode rfl
  | int n =>
    obtain ⟨hlow, hhigh⟩ := of_decide_eq_true hd
    exact readFrom_toString hlow hhigh hmode hrest
  | float x => cases hd
  | text s => exact readFrom_writeText s hmode
  | list items => cases hlist
  | table fields => cases htable

/-! ### Values on several lines -/

/-- A comma or a line break cannot go on with a number. -/
theorem endsNumber_cons (hc : c = ',' ∨ c = '\n') : EndsNumber (c :: r) := by
  intro x hx
  obtain rfl := Option.some.inj hx
  rcases hc with rfl | rfl <;> decide

theorem endsNumber_newline (level : Nat) : EndsNumber (newline level ++ s) :=
  endsNumber_cons (.inr rfl)

/-- A list that has items ends on a line of its own. -/
theorem readFrom_listEnd (level : Nat) {items : List Datum} {outer : List Frame} :
    readFrom none ⟨.list items :: outer, .behindValue⟩ (newline level ++ ']' :: rest)
      = readFrom none (State.push outer (.list items.reverse)) rest := by
  rw [readFrom_newline]
  exact readFrom_step (by decide) rfl

/-- An object that has entries ends on a line of its own. -/
theorem readFrom_objectEnd (level : Nat) {fields : List (String × Datum)} {key : String}
    {outer : List Frame} :
    readFrom none ⟨.object fields key :: outer, .behindValue⟩ (newline level ++ '}' :: rest)
      = readFrom none (State.push outer (.table fields.reverse)) rest := by
  rw [readFrom_newline]
  exact readFrom_step (by decide) rfl

/-- May a key come next? -/
def Mode.awaitsKey : Mode → Bool
  | .firstKey | .nextKey => true
  | _ => false

/-- A key and the colon behind it. -/
theorem readFrom_key (key : String) {fields : List (String × Datum)} {last : String}
    {outer : List Frame} (hmode : mode.awaitsKey = true) :
    readFrom none ⟨.object fields last :: outer, mode⟩ (writeText key.toList ++ ':' :: ' ' :: rest)
      = readFrom none ⟨.object fields key :: outer, .value⟩ rest := by
  have hread : readKey (.object fields last :: outer)
        (key.toList.flatMap writeChar ++ '"' :: ':' :: ' ' :: rest)
      = .ok (⟨.object fields key :: outer, .colon⟩, ':' :: ' ' :: rest) := by
    rw [readKey]
    simp only [readText_writeText, String.ofList_toList, bind, Except.bind]
    rfl
  have hstep : step none ⟨.object fields last :: outer, mode⟩ '"'
        (key.toList.flatMap writeChar ++ '"' :: ':' :: ' ' :: rest)
      = .ok (⟨.object fields key :: outer, .colon⟩, ':' :: ' ' :: rest) := by
    cases mode <;> first | exact hread | cases hmode
  rw [writeText, List.cons_append, List.cons_append, List.append_assoc, List.singleton_append,
    readFrom_step (by decide) hstep, readFrom_step (by decide) rfl, readFrom_space (by decide)]

mutual

/-- **The text of a value takes the reader to that value**, on any level and inside any containers. -/
theorem readFrom_pretty (d : Datum) (hd : d.isIntegral = true) (level : Nat) {frames : List Frame}
    {mode : Mode} {rest : List Char} (hmode : mode.awaitsValue = true) (hrest : EndsNumber rest) :
    readFrom none ⟨frames, mode⟩ (pretty level d ++ rest)
      = readFrom none (State.push frames d) rest := by
  match d with
  | .list [] =>
    show readFrom none _ ('[' :: ']' :: rest) = _
    rw [readFrom_value (by decide) (by decide) hmode rfl]
    exact readFrom_step (by decide) rfl
  | .list (d :: ds) =>
    simp only [pretty, List.cons_append, List.append_assoc]
    rw [readFrom_value (by decide) (by decide) hmode rfl]
    exact readFrom_prettyItems (d :: ds) hd (level + 1) level (List.cons_ne_nil d ds) rfl
  | .table [] =>
    show readFrom none _ ('{' :: '}' :: rest) = _
    rw [readFrom_value (by decide) (by decide) hmode rfl]
    exact readFrom_step (by decide) rfl
  | .table (f :: fs) =>
    simp only [pretty, List.cons_append, List.append_assoc]
    rw [readFrom_value (by decide) (by decide) hmode rfl]
    exact readFrom_prettyFields (f :: fs) hd (level + 1) level (List.cons_ne_nil f fs) rfl
  | .null | .bool _ | .int _ | .float _ | .text _ =>
    exact readFrom_writeScalar hd rfl rfl hmode hrest

/-- The items of a list are put behind those that it holds, and then the list ends. -/
theorem readFrom_prettyItems (ds : List Datum) (hds : Datum.areIntegral ds = true)
    (level outerLevel : Nat) (hne : ds ≠ []) {items : List Datum} {outer : List Frame} {mode : Mode}
    {rest : List Char} (hmode : mode.awaitsValue = true) :
    readFrom none ⟨.list items :: outer, mode⟩
        (prettyItems level ds ++ (newline outerLevel ++ ']' :: rest))
      = readFrom none (State.push outer (.list (items.reverse ++ ds))) rest := by
  match ds with
  | [] => exact absurd rfl hne
  | [d] =>
    rw [Datum.areIntegral, Bool.and_eq_true] at hds
    rw [prettyItems, List.append_assoc, readFrom_newline,
      readFrom_pretty d hds.1 level hmode (endsNumber_newline outerLevel), State.push,
      readFrom_listEnd, List.reverse_cons]
  | d :: d' :: ds =>
    rw [Datum.areIntegral, Bool.and_eq_true] at hds
    simp only [prettyItems, List.append_assoc, List.cons_append]
    rw [readFrom_newline, readFrom_pretty d hds.1 level hmode (endsNumber_cons (.inl rfl)), State.push,
      readFrom_step (by decide) rfl,
      readFrom_prettyItems (d' :: ds) hds.2 level outerLevel (List.cons_ne_nil d' ds) rfl,
      List.reverse_cons, List.append_assoc, List.singleton_append]

/-- The entries of an object are put behind those that it holds, and then the object ends. -/
theorem readFrom_prettyFields (fs : List (String × Datum)) (hfs : Datum.haveIntegral fs = true)
    (level outerLevel : Nat) (hne : fs ≠ []) {fields : List (String × Datum)} {key : String}
    {outer : List Frame} {mode : Mode} {rest : List Char} (hmode : mode.awaitsKey = true) :
    readFrom none ⟨.object fields key :: outer, mode⟩
        (prettyFields level fs ++ (newline outerLevel ++ '}' :: rest))
      = readFrom none (State.push outer (.table (fields.reverse ++ fs))) rest := by
  match fs with
  | [] => exact absurd rfl hne
  | [(k, d)] =>
    rw [Datum.haveIntegral, Bool.and_eq_true] at hfs
    simp only [prettyFields, List.append_assoc, List.cons_append]
    rw [readFrom_newline, readFrom_key k hmode,
      readFrom_pretty d hfs.1 level rfl (endsNumber_newline outerLevel), State.push,
      readFrom_objectEnd, List.reverse_cons]
  | (k, d) :: f :: fs =>
    rw [Datum.haveIntegral, Bool.and_eq_true] at hfs
    simp only [prettyFields, List.append_assoc, List.cons_append]
    rw [readFrom_newline, readFrom_key k hmode,
      readFrom_pretty d hfs.1 level rfl (endsNumber_cons (.inl rfl)), State.push,
      readFrom_step (by decide) rfl,
      readFrom_prettyFields (f :: fs) hfs.2 level outerLevel (List.cons_ne_nil f fs) rfl,
      List.reverse_cons, List.append_assoc, List.singleton_append]

end

/-- **A value is read from the text that is printed for it.** -/
theorem read_print {d : Datum} (hd : d.isIntegral = true) : read none (print d).toList = .ok d := by
  have hread : readFrom none State.start (pretty 0 d ++ []) = readFrom none (State.push [] d) [] :=
    readFrom_pretty d hd 0 rfl nofun
  rw [read, print, String.toList_ofList, ← List.append_nil (pretty 0 d), hread,
    State.push, readFrom]
  rfl

end Json

end ImportCensus
