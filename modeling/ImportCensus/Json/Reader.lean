/-
ImportCensus/Json/Reader.lean

Reading JSON texts.

The reader is a machine with a stack.  Its state says which containers are open, what they hold so far,
and what may come next; a step takes in one blank, one mark, or one whole scalar at the head of the
text.  So the text is read once from left to right, and the first fault ends the reading; every step
leaves less of the text (`length_le_of_step`), so reading ends.
-/
import ImportCensus.Json.Number
import ImportCensus.Json.Quote

namespace ImportCensus.Json

/-! ### The state of a reader -/

/-- A container that is open: what it holds so far, the last item first, and in an object the key whose
value is being read. -/
inductive Frame where
  | list (items : List Datum)
  | object (fields : List (String × Datum)) (key : String)

/-- What may come next. -/
inductive Mode where
  /-- A value. -/
  | value
  /-- A value, or the end of a list that has just been opened. -/
  | firstItem
  /-- A value behind a comma in a list. -/
  | nextItem
  /-- A key, or the end of an object that has just been opened. -/
  | firstKey
  /-- A key behind a comma in an object. -/
  | nextKey
  /-- The colon behind a key. -/
  | colon
  /-- A comma or the end of the innermost container. -/
  | behindValue
  /-- Nothing but blanks. -/
  | done (result : Datum)

/-- The state of a reader: the open containers, innermost first, and what may come next. -/
structure State where
  frames : List Frame
  mode : Mode

/-- The state at the start of a text. -/
def State.start : State :=
  ⟨[], .value⟩

/-- The state after a complete value. -/
def State.push (frames : List Frame) (d : Datum) : State :=
  match frames with
  | [] => ⟨[], .done d⟩
  | .list items :: outer => ⟨.list (d :: items) :: outer, .behindValue⟩
  | .object fields key :: outer => ⟨.object ((key, d) :: fields) key :: outer, .behindValue⟩

/-- The value of a container that ends. -/
def Frame.close : Frame → Datum
  | .list items => .list items.reverse
  | .object fields _ => .table fields.reverse

/-- The blanks between the parts of a JSON text. -/
def isSpace (c : Char) : Bool :=
  c == ' ' || c == '\n' || c == '\t' || c == '\r'

/-! ### One step -/

/-- The words of JSON behind their first letter, and what they mean. -/
def wordAt (c : Char) : Option (List Char × Datum) :=
  match c with
  | 'n' => some (['u', 'l', 'l'], .null)
  | 't' => some (['r', 'u', 'e'], .bool true)
  | 'f' => some (['a', 'l', 's', 'e'], .bool false)
  | _ => none

/-- What is behind a word. -/
def readWord : (word : List Char) → List Char → Except Fault (List Char)
  | [], s => .ok s
  | _ :: _, [] => .error (.behind .endInValue [])
  | w :: ws, c :: r => if c = w then readWord ws r else .error (.at .expectedWord (c :: r))

theorem length_le_of_readWord {word s rest : List Char} (h : readWord word s = .ok rest) :
    rest.length ≤ s.length := by
  induction word generalizing s with
  | nil => exact Nat.le_of_eq (congrArg _ (Except.ok.inj h).symm)
  | cons w ws ih =>
    match s with
    | [] => cases h
    | c :: r =>
      simp only [readWord] at h
      split at h
      · exact Nat.le_succ_of_le (ih h)
      · cases h

/-- Are so many containers open that no further one is allowed? -/
def isFull (limit : Option Nat) (frames : List Frame) : Bool :=
  limit.any (· ≤ frames.length)

/-- A scalar or the start of a container, at the head of a text.  A container that would be deeper than
`limit` is refused. -/
def readValue (limit : Option Nat) (frames : List Frame) (c : Char) (r : List Char) :
    Except Fault (State × List Char) :=
  if c = '"' then do
    let (s, rest) ← readText r
    return (State.push frames (.text (String.ofList s)), rest)
  else if c = '-' ∨ c.isDigit then do
    let (d, rest) ← readNumber (c :: r)
    return (State.push frames d, rest)
  else if c = '[' then
    if isFull limit frames then .error (.at .tooDeep (c :: r)) else .ok (⟨.list [] :: frames, .firstItem⟩, r)
  else if c = '{' then
    if isFull limit frames then .error (.at .tooDeep (c :: r))
    else .ok (⟨.object [] "" :: frames, .firstKey⟩, r)
  else
    match wordAt c with
    | some (word, d) => do
      let rest ← readWord word r
      return (State.push frames d, rest)
    | none => .error (.at .expectedValue (c :: r))

theorem length_le_of_readValue {limit : Option Nat} {frames : List Frame} {c : Char}
    {r rest : List Char} {state : State}
    (h : readValue limit frames c r = .ok (state, rest)) : rest.length ≤ r.length := by
  simp only [readValue] at h
  split at h
  · cases ht : readText r with
    | error f =>
      rw [ht] at h
      cases h
    | ok p =>
      rw [ht] at h
      rw [← (Prod.mk.inj (Except.ok.inj h)).2]
      exact Nat.le_of_lt (length_lt_of_readBody ht)
  · split at h
    · cases ht : readNumber (c :: r) with
      | error f =>
        rw [ht] at h
        cases h
      | ok p =>
        rw [ht] at h
        rw [← (Prod.mk.inj (Except.ok.inj h)).2]
        exact Nat.le_of_lt_succ (length_lt_of_readNumber ht)
    · split at h
      · split at h
        · cases h
        · exact Nat.le_of_eq (congrArg _ (Prod.mk.inj (Except.ok.inj h)).2.symm)
      · split at h
        · split at h
          · cases h
          · exact Nat.le_of_eq (congrArg _ (Prod.mk.inj (Except.ok.inj h)).2.symm)
        · split at h
          · next word d _ =>
            cases ht : readWord word r with
            | error f =>
              rw [ht] at h
              cases h
            | ok t =>
              rw [ht] at h
              rw [← (Prod.mk.inj (Except.ok.inj h)).2]
              exact length_le_of_readWord ht
          · cases h

/-- The state after the innermost container has ended. -/
def closeFrame (frames : List Frame) : State :=
  match frames with
  | [] => ⟨[], .done .null⟩
  | frame :: outer => State.push outer frame.close

/-- A key of the innermost object, behind its opening quote. -/
def readKey (frames : List Frame) (r : List Char) : Except Fault (State × List Char) := do
  let (s, rest) ← readText r
  match frames with
  | .object fields _ :: outer => return (⟨.object fields (String.ofList s) :: outer, .colon⟩, rest)
  | frames => return (⟨frames, .colon⟩, rest)

theorem length_le_of_readKey {frames : List Frame} {r rest : List Char} {state : State}
    (h : readKey frames r = .ok (state, rest)) : rest.length ≤ r.length := by
  simp only [readKey] at h
  cases ht : readText r with
  | error f =>
    rw [ht] at h
    cases h
  | ok p =>
    rw [ht] at h
    have := Nat.le_of_lt (length_lt_of_readBody ht)
    cases frames with
    | nil =>
      rw [← (Prod.mk.inj (Except.ok.inj h)).2]
      exact this
    | cons frame outer =>
      cases frame <;>
      · rw [← (Prod.mk.inj (Except.ok.inj h)).2]
        exact this

/-- One step: takes in what stands at the head of the text, which is not blank. -/
def step (limit : Option Nat) (state : State) (c : Char) (r : List Char) :
    Except Fault (State × List Char) :=
  let s := c :: r
  match state.mode with
  | .value => readValue limit state.frames c r
  | .firstItem =>
    if c = ']' then .ok (closeFrame state.frames, r) else readValue limit state.frames c r
  | .nextItem =>
    if c = ']' then .error (.at .trailingComma s) else readValue limit state.frames c r
  | .firstKey =>
    if c = '}' then .ok (closeFrame state.frames, r)
    else if c = '"' then readKey state.frames r
    else .error (.at .keyNotText s)
  | .nextKey =>
    if c = '"' then readKey state.frames r
    else if c = '}' then .error (.at .trailingComma s)
    else .error (.at .keyNotText s)
  | .colon => if c = ':' then .ok (⟨state.frames, .value⟩, r) else .error (.at .expectedColon s)
  | .behindValue =>
    match state.frames with
    | .list _ :: _ =>
      if c = ',' then .ok (⟨state.frames, .nextItem⟩, r)
      else if c = ']' then .ok (closeFrame state.frames, r)
      else .error (.at .expectedListEnd s)
    | _ =>
      if c = ',' then .ok (⟨state.frames, .nextKey⟩, r)
      else if c = '}' then .ok (closeFrame state.frames, r)
      else .error (.at .expectedObjectEnd s)
  | .done _ => .error (.at .trailingCharacters s)

theorem length_le_of_step {limit : Option Nat} {state next : State} {c : Char} {r rest : List Char}
    (h : step limit state c r = .ok (next, rest)) : rest.length ≤ r.length := by
  have taken {state : State} (h : (.ok (state, r) : Except Fault _) = .ok (next, rest)) :
      rest.length ≤ r.length :=
    Nat.le_of_eq (congrArg _ (Prod.mk.inj (Except.ok.inj h)).2.symm)
  simp only [step] at h
  split at h
  · exact length_le_of_readValue h
  · split at h
    · exact taken h
    · exact length_le_of_readValue h
  · split at h
    · cases h
    · exact length_le_of_readValue h
  · split at h
    · exact taken h
    · split at h
      · exact length_le_of_readKey h
      · cases h
  · split at h
    · exact length_le_of_readKey h
    · split at h <;> cases h
  · split at h
    · exact taken h
    · cases h
  · split at h
    · split at h
      · exact taken h
      · split at h
        · exact taken h
        · cases h
    · split at h
      · exact taken h
      · split at h
        · exact taken h
        · cases h
  · cases h

/-- What the end of the text means in a state. -/
def State.atEnd (state : State) : Except Fault Datum :=
  match state.mode with
  | .done d => .ok d
  | .value | .nextItem | .nextKey => .error (.behind .endInValue [])
  | .firstItem => .error (.behind .endInList [])
  | .firstKey | .colon => .error (.behind .endInObject [])
  | .behindValue =>
    match state.frames with
    | .list _ :: _ => .error (.behind .endInList [])
    | _ => .error (.behind .endInObject [])

/-! ### Whole texts -/

/-- Reads on from a state. -/
def readFrom (limit : Option Nat) (state : State) (s : List Char) : Except Fault Datum :=
  match s with
  | [] => state.atEnd
  | c :: r =>
    if isSpace c then readFrom limit state r
    else
      match h : step limit state c r with
      | .error f => .error f
      | .ok (state, rest) =>
        have := length_le_of_step h
        readFrom limit state rest
termination_by s.length

/-- The nesting that texts from outside may have. -/
def nestingLimit : Nat :=
  127

/-- Reads a JSON text with containers up to the given depth, or of any depth. -/
def read (limit : Option Nat) (text : List Char) : Except Fault Datum :=
  readFrom limit .start text

end ImportCensus.Json
