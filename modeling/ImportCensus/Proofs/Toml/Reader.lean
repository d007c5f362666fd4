/-
ImportCensus/Proofs/Toml/Reader.lean

Lines are read one after the other, and the table grows by what each of them says.

A line knows which value its right side is read as (`Line`), so that the reader of lines does not have to
look at texts and numbers again.  Where an entry goes depends on the header that the line stands under;
`LeadsTo` says of a header that it leads to one place in the table, whatever is done there.

Main statement: a text of lines, some of them under a header, is read as the table of their entries
(`read_document`).
-/
import ImportCensus.Proofs.Toml.Quote
import ImportCensus.Proofs.Toml.Scalar
import ImportCensus.Toml.Reader

namespace ImportCensus.Toml

variable {c : Char} {r s rest : List Char} {room : Nat}

/-! ### Values -/

/-- Is a text that ends its line read as this value? -/
structure ReadsAs (written : List Char) (d : Datum) : Prop where
  starts : ∀ rest, skipBlanks (written ++ rest) = written ++ rest
  value : ∀ room depth rest, ∃ item : Item, item.toDatum = d ∧
    readValue (room + 1) depth (written ++ '\n' :: rest) = .ok (item, '\n' :: rest)

theorem skipBlanks_cons (hc : isBlank c = false) : skipBlanks (c :: r) = c :: r :=
  List.dropWhile_cons_of_neg (by simp [hc])

/-- What is written for a text starts with a quote. -/
theorem exists_writeText_eq_cons (s : List Char) :
    ∃ x r, writeText s = x :: r ∧ (x = '"' ∨ x = '\'') := by
  rw [writeText]
  cases quotingFor s with
  | basic => exact ⟨_, _, rfl, .inl rfl⟩
  | literal => exact ⟨_, _, rfl, .inr rfl⟩
  | severalBasic => exact ⟨_, _, rfl, .inl rfl⟩
  | severalLiteral => exact ⟨_, _, rfl, .inr rfl⟩

theorem readValue_text {depth : Nat} {value : String} (hc : c = '"' ∨ c = '\'')
    (h : readText (c :: r) = .ok (value.toList, rest)) :
    readValue (room + 1) depth (c :: r) = .ok (.text (.between (c :: r) rest) value, rest) := by
  rcases hc with rfl | rfl
  all_goals
    rw [readValue]
    simp only [h, bind, Except.bind, String.ofList_toList]
    rfl

/-- A value that starts with a digit has neither quotes nor brackets. -/
theorem readValue_scalar {depth : Nat} (hc : c.isDigit = true) :
    readValue (room + 1) depth (c :: r) = readScalar (c :: r) := by
  rw [readValue]
  all_goals exact fun r hr => ne_of_isDigit hc (by decide) (List.cons.inj hr).1

theorem readsAs_writeText (s : String) : ReadsAs (writeText s.toList) (.text s) := by
  obtain ⟨x, r, hwritten, hx⟩ := exists_writeText_eq_cons s.toList
  constructor
  case starts =>
    intro rest
    rw [hwritten]
    exact skipBlanks_cons (by rcases hx with rfl | rfl <;> decide)
  case value =>
    intro room depth rest
    have hread : readText (writeText s.toList ++ '\n' :: rest) = .ok (s.toList, '\n' :: rest) := by
      apply readText_writeText
      rintro c hc
      obtain rfl := Option.some.inj hc
      decide
    rw [hwritten, List.cons_append] at hread ⊢
    exact ⟨.text _ s, rfl, readValue_text hx hread⟩

theorem readsAs_toDigits {n : Nat} (hn : n < Nat.pow 2 128) :
    ReadsAs (Nat.toDigits 10 n) (.int n) := by
  obtain ⟨d, ds, hdigits, hd, -⟩ := exists_toDigits_eq_cons n
  constructor
  case starts =>
    intro rest
    rw [hdigits]
    apply skipBlanks_cons
    rw [isBlank, Bool.or_eq_false_iff, beq_eq_false_iff_ne, beq_eq_false_iff_ne]
    exact ⟨ne_of_isDigit hd (by decide), ne_of_isDigit hd (by decide)⟩
  case value =>
    intro room depth rest
    obtain ⟨span, hread⟩ := readScalar_toDigits hn rest
    rw [hdigits, List.cons_append] at hread ⊢
    exact ⟨.int span n, rfl, (readValue_scalar hd).trans hread⟩

/-! ### Keys -/

/-- Is this a key that needs no quotes? -/
def isBareKey (key : String) : Bool :=
  !key.toList.isEmpty && key.toList.all isKeyChar

theorem ne_nil_of_isBareKey {key : String} (h : isBareKey key = true) : key.toList ≠ [] := by
  simpa using (Bool.and_eq_true_iff.1 h).1

theorem forall_of_isBareKey {key : String} (h : isBareKey key = true) :
    ∀ c ∈ key.toList, isKeyChar c = true :=
  List.all_eq_true.1 (Bool.and_eq_true_iff.1 h).2

/-- A character of a key starts neither a gap nor a header. -/
theorem ne_of_isKeyChar (hc : isKeyChar c = true) :
    c ≠ '\n' ∧ c ≠ '\r' ∧ isBlank c = false ∧ c ≠ '#' ∧ c ≠ '[' := by
  have hne : ∀ x : Char, isKeyChar x = false → c ≠ x := by
    rintro x hx rfl
    rw [hc] at hx
    cases hx
  refine ⟨hne _ (by decide), hne _ (by decide), ?_, hne _ (by decide), hne _ (by decide)⟩
  rw [isBlank, Bool.or_eq_false_iff, beq_eq_false_iff_ne, beq_eq_false_iff_ne]
  exact ⟨hne _ (by decide), hne _ (by decide)⟩

theorem exists_cons_of_isBareKey {key : String} (h : isBareKey key = true) :
    ∃ c r, key.toList = c :: r ∧ isKeyChar c = true := by
  obtain ⟨c, r, hkey⟩ := List.exists_cons_of_ne_nil (ne_nil_of_isBareKey h)
  exact ⟨c, r, hkey, forall_of_isBareKey h c (by simp [hkey])⟩

/-- A key without quotes, up to the next dot, sign or bracket. -/
theorem readDottedKey_bare {key : String} (hkey : isBareKey key = true) (hc : isKeyChar c = false)
    (hskip : skipBlanks (c :: r) = rest) (hdot : ∀ r, rest ≠ '.' :: r) :
    ∃ k : Key, k.name = key ∧ readDottedKey (key.toList ++ c :: r) = .ok ([k], rest) := by
  have htake : (key.toList ++ c :: r).takeWhile isKeyChar = key.toList := by
    rw [List.takeWhile_append_of_pos (forall_of_isBareKey hkey),
      List.takeWhile_cons_of_neg (by simp [hc]), List.append_nil]
  have hread : readKey (key.toList ++ c :: r)
      = .ok (⟨.between (key.toList ++ c :: r) (c :: r), key⟩, c :: r) := by
    rw [readKey]
    simp only [htake, List.drop_left, String.ofList_toList]
    exact if_neg (by simp [ne_nil_of_isBareKey hkey])
  refine ⟨⟨.between (key.toList ++ c :: r) (c :: r), key⟩, rfl, ?_⟩
  rw [readDottedKey, readKeys]
  simp only [hread, hskip, bind, Except.bind]
  rfl

/-- The name and the equals sign of a line. -/
theorem readAssigned_bare {key : String} (hkey : isBareKey key = true) (r : List Char) :
    ∃ k : Key, k.name = key ∧
      readAssigned (key.toList ++ (" = ".toList ++ r)) = .ok ([k], skipBlanks r) := by
  obtain ⟨k, hname, hread⟩ := readDottedKey_bare (c := ' ') (r := '=' :: ' ' :: r) hkey (by decide)
    ((List.dropWhile_cons_of_pos (by decide)).trans (skipBlanks_cons (by decide))) nofun
  refine ⟨k, hname, ?_⟩
  show readAssigned (key.toList ++ ' ' :: '=' :: ' ' :: r) = _
  rw [readAssigned]
  simp only [hread, bind, Except.bind]
  exact congrArg (fun rest => Except.ok ([k], rest)) (List.dropWhile_cons_of_pos (by decide))

/-! ### Tables that grow -/

section Growth

variable {fields inner : Fields} {name : String} {item item' : Item}

/-- An entry with a new key is put behind the others. -/
theorem changeAt_new {change : Item → Except FaultCause Item} (h : name ∉ fields.map (·.1)) :
    changeAt name (.ok item) change fields = .ok (fields ++ [(name, item)]) := by
  induction fields with
  | nil => rfl
  | cons f fields ih =>
    rw [List.map_cons, List.mem_cons, not_or] at h
    obtain ⟨key, i⟩ := f
    rw [changeAt, if_neg (Ne.symm h.1), ih h.2]
    rfl

/-- The last entry is changed if no other one has its key. -/
theorem changeAt_last {new : Except FaultCause Item} {change : Item → Except FaultCause Item}
    (h : name ∉ fields.map (·.1)) (hchange : change item = .ok item') :
    changeAt name new change (fields ++ [(name, item)]) = .ok (fields ++ [(name, item')]) := by
  induction fields with
  | nil =>
    rw [List.nil_append, changeAt, if_pos rfl, hchange]
    rfl
  | cons f fields ih =>
    rw [List.map_cons, List.mem_cons, not_or] at h
    obtain ⟨key, i⟩ := f
    rw [List.cons_append, changeAt, if_neg (Ne.symm h.1), ih h.2]
    rfl

/-- Does a header lead to one place in a table, whatever stands there and whatever is done with it? -/
def LeadsTo (header : List Key) (place : Fields → Fields) : Prop :=
  ∀ (grow : Growth) (inner inner' : Fields), grow inner = .ok inner' →
    through grow header (place inner) = .ok (place inner')

theorem leadsTo_nil : LeadsTo [] id := fun _ _ _ h => h

/-- A header leads into the last table, if that has its name. -/
theorem leadsTo_last {key : Key} {span : Span} {origin : Origin} (hkey : key.name ∉ fields.map (·.1))
    (horigin : origin ≠ .braced) :
    LeadsTo [key] fun inner => fields ++ [(key.name, .table span origin inner)] := by
  intro grow inner inner' h
  rw [through]
  apply changeAt_last hkey
  show (if origin = .braced then _ else _) = _
  rw [if_neg horigin, through, h]
  rfl

end Growth

/-! ### Lines -/

/-- A line that gives a key a value, of which it is known how its right side is read. -/
structure Line where
  key : String
  written : List Char
  value : Datum
  isKey : isBareKey key = true
  isRead : ReadsAs written value

namespace Line

/-- The text of a line. -/
def text (l : Line) : List Char :=
  l.key.toList ++ " = ".toList ++ l.written ++ ['\n']

/-- What a line says. -/
def entry (l : Line) : String × Datum :=
  (l.key, l.value)

end Line

/-- A line gives its key its value, at the place that the header leads to. -/
theorem readPair_line (l : Line) (rest : List Char) :
    ∃ item : Item, item.toDatum = l.value ∧
      ∀ {header : List Key} {place : Fields → Fields} {inner : Fields}, LeadsTo header place →
        l.key ∉ inner.map (·.1) →
        readPair ⟨place inner, header⟩ (l.text ++ rest)
          = .ok (⟨place (inner ++ [(l.key, item)]), header⟩, '\n' :: rest) := by
  obtain ⟨key, hname, hassigned⟩ := readAssigned_bare l.isKey (l.written ++ '\n' :: rest)
  rw [l.isRead.starts] at hassigned
  -- the value takes less room than the reader gives it
  obtain ⟨item, hitem, hvalue⟩ : ∃ item : Item, item.toDatum = l.value ∧
      readValue (roomFor (l.written ++ '\n' :: rest)) 0 (l.written ++ '\n' :: rest)
        = .ok (item, '\n' :: rest) :=
    l.isRead.value (2 * (l.written ++ '\n' :: rest).length + 1) 0 rest
  refine ⟨item, hitem, ?_⟩
  intro header place inner hplace hnew
  have hgrow : through (assign item [key]) header (place inner)
      = .ok (place (inner ++ [(l.key, item)])) := by
    -- wherever the header leads to, the key is new there
    apply hplace
    rw [← hname]
    exact changeAt_new (hname ▸ hnew)
  have htext : l.text ++ rest = l.key.toList ++ (" = ".toList ++ (l.written ++ '\n' :: rest)) := by
    simp [Line.text]
  rw [htext, readPair]
  simp only [hassigned, hvalue, growing, hgrow, bind, Except.bind]
  rfl

/-- The header of a table that is not there yet. -/
theorem readEntry_header {fields : Fields} {name : String} (header : List Key) (hkey : isBareKey name = true)
    (hnew : name ∉ fields.map (·.1)) (rest : List Char) :
    ∃ (key : Key) (span : Span), key.name = name ∧
      readEntry ⟨fields, header⟩ ('[' :: (name.toList ++ ']' :: '\n' :: rest))
        = .ok (⟨fields ++ [(name, .table span .headed [])], [key]⟩, '\n' :: rest) := by
  obtain ⟨key, hname, hread⟩ := readDottedKey_bare (c := ']') (r := '\n' :: rest) hkey (by decide)
    (skipBlanks_cons (by decide)) nofun
  obtain ⟨c, r, hcons, hc⟩ := exists_cons_of_isBareKey hkey
  obtain ⟨-, -, hblank, -, hbracket⟩ := ne_of_isKeyChar hc
  refine ⟨key, .between ('[' :: (name.toList ++ ']' :: '\n' :: rest)) ('\n' :: rest), hname, ?_⟩
  have hskip : skipBlanks (name.toList ++ ']' :: '\n' :: rest) = name.toList ++ ']' :: '\n' :: rest := by
    rw [hcons]
    exact skipBlanks_cons hblank
  have hopen : ∀ span,
      openTable span key.name fields = .ok (fields ++ [(name, .table span .headed [])]) := by
    intro span
    rw [hname]
    exact changeAt_new hnew
  rw [readEntry]
  · rw [readHeader, hskip]
    simp only [hread, bind, Except.bind, pure, Except.pure, List.getLast?_singleton, List.dropLast_singleton,
      through, Bool.false_eq_true, if_false, hopen, growing]
    rfl
  · intro r' hr'
    rw [hcons] at hr'
    exact hbracket (List.cons.inj hr').1

/-! ### Texts of lines -/

theorem exists_text_eq_cons (l : Line) : ∃ c r, l.text = c :: r ∧ isKeyChar c = true := by
  obtain ⟨c, r, hkey, hc⟩ := exists_cons_of_isBareKey l.isKey
  refine ⟨c, r ++ " = ".toList ++ l.written ++ ['\n'], ?_, hc⟩
  rw [Line.text, hkey]
  rfl

/-- A line break in front of an entry is passed over, and one behind it ends its line. -/
theorem readLines_entry {progress next : Progress} (hgap : skipGap false s = .ok (c :: r))
    (hentry : readEntry progress (c :: r) = .ok (next, '\n' :: rest)) :
    readLines (room + 1) progress s = readLines room next rest := by
  have hend : readLineEnd false ('\n' :: rest) = .ok rest := by
    rw [readLineEnd, if_pos rfl]
  rw [readLines]
  simp only [hgap, hentry, hend, bind, Except.bind]

theorem readLines_line (l : Line) (rest : List Char) :
    ∃ item : Item, item.toDatum = l.value ∧
      ∀ {header : List Key} {place : Fields → Fields} {inner : Fields} {room : Nat},
        LeadsTo header place → l.key ∉ inner.map (·.1) →
        readLines (room + 1) ⟨place inner, header⟩ (l.text ++ rest)
          = readLines room ⟨place (inner ++ [(l.key, item)]), header⟩ rest := by
  obtain ⟨item, hitem, hpair⟩ := readPair_line l rest
  obtain ⟨c, r, htext, hc⟩ := exists_text_eq_cons l
  obtain ⟨hfeed, hreturn, hblank, hcomment, hbracket⟩ := ne_of_isKeyChar hc
  refine ⟨item, hitem, ?_⟩
  intro header place inner room hplace hnew
  have hread := hpair hplace hnew
  rw [htext, List.cons_append] at hread ⊢
  have hgap : skipGap false (c :: (r ++ rest)) = .ok (c :: (r ++ rest)) := by
    simp [skipGap, hfeed, hreturn, hblank, hcomment]
  refine readLines_entry hgap ?_
  rw [← hread, readEntry]
  · exact fun r hr => absurd (List.cons.inj hr).1 hbracket
  · exact fun r hr => absurd (List.cons.inj hr).1 hbracket

/-- **Lines are read one after the other**: at the place that the header leads to, the table grows by the
entries of the lines, if no key comes twice. -/
theorem readLines_lines {header : List Key} {place : Fields → Fields} (hplace : LeadsTo header place)
    (lines : List Line) (inner : Fields) (hkeys : (lines.map Line.key).Nodup)
    (hnew : ∀ l ∈ lines, l.key ∉ inner.map (·.1)) (rest : List Char) :
    ∃ added : Fields, Item.toEntries added = lines.map Line.entry ∧
      ∀ room, readLines (room + lines.length) ⟨place inner, header⟩ (lines.flatMap Line.text ++ rest)
        = readLines room ⟨place (inner ++ added), header⟩ rest := by
  -- what has been read grows with the lines, so that it is general in the induction
  induction lines generalizing inner with
  | nil => exact ⟨[], rfl, fun room => by simp⟩
  | cons l lines ih =>
    obtain ⟨hl, hlines⟩ := List.nodup_cons.1 hkeys
    obtain ⟨item, hitem, hline⟩ := readLines_line l (lines.flatMap Line.text ++ rest)
    have hmore : ∀ l' ∈ lines, l'.key ∉ (inner ++ [(l.key, item)]).map (·.1) := by
      intro l' hl' hmem
      rw [List.map_append, List.mem_append] at hmem
      rcases hmem with hold | hlast
      · exact hnew l' (List.mem_cons_of_mem l hl') hold
      · have hsame : l'.key = l.key := by simpa using hlast
        exact hl (hsame ▸ List.mem_map_of_mem hl')
    obtain ⟨added, hadded, hread⟩ := ih _ hlines hmore
    refine ⟨(l.key, item) :: added, ?_, fun room => ?_⟩
    · rw [Item.toEntries, hitem, hadded]
      rfl
    · rw [List.flatMap_cons, List.append_assoc, List.length_cons, ← Nat.add_assoc,
        hline hplace (hnew l List.mem_cons_self), hread, List.append_assoc]
      rfl

theorem readLines_nil (progress : Progress) : readLines room progress [] = .ok progress.fields := by
  cases room <;> rfl

theorem length_le_flatMap_text (lines : List Line) : lines.length ≤ (lines.flatMap Line.text).length := by
  induction lines with
  | nil => exact Nat.le_refl 0
  | cons l lines ih =>
    obtain ⟨c, r, htext, -⟩ := exists_text_eq_cons l
    rw [List.flatMap_cons, htext, List.length_append, List.length_cons, List.length_cons]
    omega

/-- The text of a document: lines, an empty line, and lines under one header. -/
def document (top : List Line) (name : String) (lines : List Line) : List Char :=
  top.flatMap Line.text ++
    '\n' :: '[' :: (name.toList ++ ']' :: '\n' :: lines.flatMap Line.text)

/-- What a document says. -/
def documentFields (top : List Line) (name : String) (lines : List Line) : List (String × Datum) :=
  top.map Line.entry ++ [(name, .table (lines.map Line.entry))]

theorem toEntries_eq_map (fields : Fields) :
    Item.toEntries fields = fields.map fun f => (f.1, f.2.toDatum) := by
  induction fields with
  | nil => rfl
  | cons f fields ih =>
    obtain ⟨key, item⟩ := f
    rw [Item.toEntries, ih, List.map_cons]

theorem map_fst_toEntries (fields : Fields) : (Item.toEntries fields).map (·.1) = fields.map (·.1) := by
  rw [toEntries_eq_map, List.map_map]
  rfl

theorem toEntries_append (fields more : Fields) :
    Item.toEntries (fields ++ more) = Item.toEntries fields ++ Item.toEntries more := by
  simp only [toEntries_eq_map, List.map_append]

theorem dropMark_document (top : List Line) (name : String) (lines : List Line) :
    dropMark (document top name lines) = document top name lines := by
  cases top with
  | nil => rfl
  | cons l top =>
    obtain ⟨c, r, htext, hc⟩ := exists_text_eq_cons l
    rw [document, List.flatMap_cons, htext, dropMark]
    rintro r' hr'
    obtain rfl := (List.cons.inj hr').1
    exact absurd hc (by decide)

/-- There is room for all lines of a document, since each of them has a character. -/
theorem length_le_document (top : List Line) (name : String) (lines : List Line) :
    lines.length + 1 + top.length ≤ (document top name lines).length + 1 := by
  have htop := length_le_flatMap_text top
  have hlines := length_le_flatMap_text lines
  simp only [document, List.length_append, List.length_cons]
  omega

/-- The lines of a document make its entries, if no key comes twice and there is room for them. -/
theorem readLines_document {top lines : List Line} {name : String} (hname : isBareKey name = true)
    (htop : (top.map Line.key ++ [name]).Nodup) (hlines : (lines.map Line.key).Nodup) :
    ∃ fields : Fields, Item.toEntries fields = documentFields top name lines ∧
      ∀ room, lines.length + 1 + top.length ≤ room →
        readLines room ⟨[], []⟩ (document top name lines) = .ok fields := by
  obtain ⟨htopKeys, -, hapart⟩ := List.nodup_append.1 htop
  obtain ⟨fields, hfields, hreadTop⟩ := readLines_lines leadsTo_nil top [] htopKeys
    (fun _ _ => List.not_mem_nil) ('\n' :: '[' :: (name.toList ++ ']' :: '\n' :: lines.flatMap Line.text))
  have hnew : name ∉ fields.map (·.1) := by
    rw [← map_fst_toEntries, hfields, List.map_map]
    exact fun hmem => hapart name hmem name List.mem_cons_self rfl
  obtain ⟨key, span, rfl, hheader⟩ := readEntry_header [] hname hnew (lines.flatMap Line.text)
  have hplace : LeadsTo [key] fun inner => fields ++ [(key.name, .table span .headed inner)] :=
    leadsTo_last hnew (by decide)
  obtain ⟨added, hadded, hreadLines⟩ := readLines_lines hplace lines [] hlines
    (fun _ _ => List.not_mem_nil) []
  rw [List.append_nil] at hreadLines
  have hgap : skipGap false ('\n' :: '[' :: (key.name.toList ++ ']' :: '\n' :: lines.flatMap Line.text))
      = .ok ('[' :: (key.name.toList ++ ']' :: '\n' :: lines.flatMap Line.text)) := by
    simp [skipGap, isBlank]
  refine ⟨fields ++ [(key.name, .table span .headed added)], ?_, ?_⟩
  · rw [toEntries_append, hfields, documentFields]
    simp only [Item.toEntries, Item.toDatum, hadded]
  · intro enough henough
    obtain ⟨room, hroom⟩ := Nat.exists_eq_add_of_le' henough
    rw [hroom, ← Nat.add_assoc, ← Nat.add_assoc]
    calc readLines (room + lines.length + 1 + top.length) ⟨[], []⟩ (document top key.name lines)
      _ = readLines (room + lines.length + 1) ⟨fields, []⟩
            ('\n' :: '[' :: (key.name.toList ++ ']' :: '\n' :: lines.flatMap Line.text)) := hreadTop _
      _ = readLines (room + lines.length) ⟨fields ++ [(key.name, .table span .headed [])], [key]⟩
            (lines.flatMap Line.text) := readLines_entry hgap hheader
      _ = readLines room ⟨fields ++ [(key.name, .table span .headed added)], [key]⟩ [] := hreadLines _
      _ = .ok (fields ++ [(key.name, .table span .headed added)]) := readLines_nil _

/-- **A document is read as the table of its entries**, if no key comes twice. -/
theorem read_document {top lines : List Line} {name : String} (hname : isBareKey name = true)
    (htop : (top.map Line.key ++ [name]).Nodup) (hlines : (lines.map Line.key).Nodup) :
    ∃ item, read (document top name lines) = .ok item ∧
      item.toDatum = .table (documentFields top name lines) := by
  obtain ⟨fields, hfields, hread⟩ := readLines_document hname htop hlines
  refine ⟨.table (.between (document top name lines) []) .headed fields, ?_, ?_⟩
  · rw [read, dropMark_document, hread _ (length_le_document top name lines)]
    rfl
  · rw [Item.toDatum, hfields]

/-! ### Comments -/

/-- A comment is passed over up to the end of its line. -/
theorem skipGap_comment {comment : List Char} (h : ∀ c ∈ comment, isRawControl c = false) (s : List Char) :
    skipGap true (comment ++ '\n' :: s) = skipGap false s := by
  induction comment with
  | nil => rw [List.nil_append, skipGap, if_pos rfl]
  | cons c r ih =>
    obtain ⟨hc, hr⟩ := List.forall_mem_cons.1 h
    have hne : ∀ x, isRawControl x = true → c ≠ x := by
      rintro x hx rfl
      rw [hc] at hx
      cases hx
    rw [List.cons_append, skipGap, if_neg (hne _ (by decide)), if_neg (hne _ (by decide)), if_pos rfl, hc,
      if_neg Bool.false_ne_true, ih hr]

/-- A comment in front of a document does not matter. -/
theorem read_document_behind_comment {comment : List Char} {top lines : List Line} {name : String}
    (h : ∀ c ∈ comment, isRawControl c = false) (hname : isBareKey name = true)
    (htop : (top.map Line.key ++ [name]).Nodup) (hlines : (lines.map Line.key).Nodup) :
    ∃ item, read ('#' :: (comment ++ '\n' :: document top name lines)) = .ok item ∧
      item.toDatum = .table (documentFields top name lines) := by
  obtain ⟨fields, hfields, hread⟩ := readLines_document hname htop hlines
  have hgap : skipGap false ('#' :: (comment ++ '\n' :: document top name lines))
      = skipGap false (document top name lines) := by
    rw [skipGap, if_neg (by decide), if_neg (by decide), if_neg Bool.false_ne_true, if_neg (by decide),
      if_pos rfl, skipGap_comment h]
  -- the comment is passed over with the gap in front of the first line, and it only makes more room
  obtain ⟨room, hroom⟩ : ∃ room, ('#' :: (comment ++ '\n' :: document top name lines)).length + 1 = room + 1 ∧
      lines.length + 1 + top.length ≤ room + 1 := by
    have hlength := length_le_document top name lines
    refine ⟨_, rfl, ?_⟩
    simp only [List.length_cons, List.length_append]
    omega
  have hlinesRead := hread (room + 1) hroom.2
  rw [readLines] at hlinesRead
  refine ⟨.table (.between ('#' :: (comment ++ '\n' :: document top name lines)) []) .headed fields, ?_, ?_⟩
  · rw [read, dropMark, hroom.1, readLines, hgap, hlinesRead]
    · rfl
    · exact fun r hr => absurd (List.cons.inj hr).1 (by decide)
  · rw [Item.toDatum, hfields]

end ImportCensus.Toml
