/-
ImportCensus/Proofs/Datum/Decoder.lean

Decoders read what was written for them.

What a reader of records reads is put together from what its fields read (`ReadsAt.seq`), and one field that
fails makes it fail (`FailsAt.left`, `FailsAt.right`).  From a list each field reads the item at its position.
From a table it is read by its name, whatever else the table holds and in whatever order, so there positions
do not matter.  The entries of a map are read in another order than they were written in, so there it is only
said that none is lost.

Main statements: a record is read from a table in which each field finds its value (`Reads.record`) and is
refused if one does not (`Fails.record`), and so it is with lists (`ReadsAt.record`, `FailsAt.record`); a list is
read item by item (`list_map`), and a map gives back its entries (`entries_table`).
-/
import ImportCensus.Datum.Decoder
import ImportCensus.Proofs.Order.SortedMap
import Mathlib.Data.List.Forall2

namespace ImportCensus

variable {α β κ : Type}

/-! ### Records -/

namespace RecordReader

section Values

variable {entries : Entries} {fields : List (String × Datum)} {title name : String} {total position : Nat}

theorem read_map_eq_value_iff {reader : RecordReader α} {f : α → β} {b : β} :
    (f <$> reader).read title total entries position = .value b ↔
      ∃ a, reader.read title total entries position = .value a ∧ f a = b := by
  simp only [Functor.map]
  cases reader.read title total entries position <;> simp

theorem read_seq_eq_value_iff {f : RecordReader (α → β)} {x : RecordReader α} {b : β} :
    (f <*> x).read title total entries position = .value b ↔
      ∃ g a, f.read title total entries position = .value g ∧
        x.read title total entries (position + f.size) = .value a ∧ g a = b := by
  show (f.read title total entries position).combine
    (x.read title total entries (position + f.size)) = _ ↔ _
  cases f.read title total entries position <;>
    cases x.read title total entries (position + f.size) <;> simp [Gathered.combine]

/-- What a table says of a field: what its value is read as, or what the field is without a value. -/
inductive Takes (reads : Datum → α → Prop) (standard : α) : Option Datum → α → Prop
  | given {d : Datum} {a : α} (h : reads d a) : Takes reads standard (some d) a
  | absent : Takes reads standard none standard

theorem exists_takes_iff {reads : Datum → α → Prop} {standard : α} {given : Option Datum} :
    (∃ a, Takes reads standard given a) ↔ ∀ d, given = some d → ∃ a, reads d a := by
  constructor
  · rintro ⟨a, h⟩ d rfl
    cases h with
    | given h => exact ⟨a, h⟩
  · intro h
    cases given with
    | none => exact ⟨standard, .absent⟩
    | some d =>
      obtain ⟨a, ha⟩ := h d rfl
      exact ⟨a, .given ha⟩

theorem Takes.imp {reads reads' : Datum → α → Prop} {standard a : α} {given : Option Datum}
    (h : Takes reads standard given a) (himp : ∀ d, given = some d → reads d a → reads' d a) :
    Takes reads' standard given a := by
  cases h with
  | given h => exact .given (himp _ rfl h)
  | absent => exact .absent

theorem read_field_eq_value_iff {decode : Decoder α} {standard a : α} :
    (Decoder.field name decode (.always standard)).read title total (.named fields) position = .value a ↔
      Takes (fun d a => decode d = .ok a) standard (Datum.lookup name fields) a := by
  simp only [Decoder.field]
  cases Datum.lookup name fields with
  | none =>
    constructor
    · rintro ⟨⟩
      exact .absent
    · rintro ⟨⟩
      rfl
  | some d =>
    constructor
    · intro h
      cases hdecode : decode d with
      | ok b =>
        simp only [hdecode] at h
        cases h
        exact .given hdecode
      | error m =>
        simp only [hdecode] at h
        cases h
    · rintro ⟨h⟩
      simp only [h]

theorem record_table_eq_ok_iff {reader : RecordReader α} {surplus : Decoder.Surplus} {a : α} :
    Decoder.record title reader surplus (.table fields) = .ok a ↔
      reader.read title reader.size (.named fields) 0 = .value a := by
  rw [Decoder.record, Decoder.fromFields]
  cases reader.read title reader.size (.named fields) 0 <;> simp

end Values

/-- Does a reader come to a value on some entries, if its first field is number `position`? -/
def ReadsAt (reader : RecordReader α) (entries : Entries) (position : Nat) (a : α) : Prop :=
  ∀ title total, reader.read title total entries position = .value a

namespace ReadsAt

variable {entries : Entries} {items : List Datum} {position : Nat} {name : String} {decode : Decoder α}
  {a : α} {d : Datum}

theorem map {reader : RecordReader α} (h : reader.ReadsAt entries position a) (f : α → β) :
    (f <$> reader).ReadsAt entries position (f a) :=
  fun title total => read_map_eq_value_iff.2 ⟨a, h title total, rfl⟩

theorem seq {f : RecordReader (α → β)} {x : RecordReader α} {g : α → β}
    (hf : f.ReadsAt entries position g) (hx : x.ReadsAt entries (position + f.size) a) :
    (f <*> x).ReadsAt entries position (g a) :=
  fun title total => read_seq_eq_value_iff.2 ⟨g, a, hf title total, hx title total, rfl⟩

/-- A field reads the item at its position. -/
theorem item {fallback : Fallback α} (hitem : items[position]? = some d) (hread : decode d = .ok a) :
    (Decoder.field name decode fallback).ReadsAt (.positional items) position a := by
  intro title total
  simp only [Decoder.field, hitem, hread]

/-- A field behind the end of a list has its fallback, if that counts in lists. -/
theorem behind (hitem : items[position]? = none) :
    (Decoder.field name decode (.always a)).ReadsAt (.positional items) position a := by
  intro title total
  simp only [Decoder.field, hitem]

theorem record {reader : RecordReader α} {title : String} {surplus : Decoder.Surplus}
    (h : reader.ReadsAt (.positional items) 0 a) (hsize : items.length ≤ reader.size) :
    Decoder.record title reader surplus (.list items) = .ok a := by
  rw [Decoder.record, Decoder.fromItems, h]
  exact if_pos hsize

end ReadsAt

/-- Does a reader come to misfits on some entries, if its first field is number `position`? -/
def FailsAt (reader : RecordReader α) (entries : Entries) (position : Nat) : Prop :=
  ∀ title total, ∃ name m more, reader.read title total entries position = .failed name m more

namespace FailsAt

variable {entries : Entries} {items : List Datum} {position : Nat} {name : String} {decode : Decoder α}
  {d : Datum}

theorem left {f : RecordReader (α → β)} (h : f.FailsAt entries position) (x : RecordReader α) :
    (f <*> x).FailsAt entries position := by
  intro title total
  obtain ⟨name, m, more, hread⟩ := h title total
  show ∃ name m more, (f.read title total entries position).combine
    (x.read title total entries (position + f.size)) = .failed name m more
  rw [hread]
  cases x.read title total entries (position + f.size) with
  | failed name' m' more' => exact ⟨name, m, _, rfl⟩
  | _ => exact ⟨name, m, more, rfl⟩

theorem right {f : RecordReader (α → β)} {x : RecordReader α} (h : x.FailsAt entries (position + f.size)) :
    (f <*> x).FailsAt entries position := by
  intro title total
  obtain ⟨name, m, more, hread⟩ := h title total
  show ∃ name m more, (f.read title total entries position).combine
    (x.read title total entries (position + f.size)) = .failed name m more
  rw [hread]
  cases f.read title total entries position with
  | failed name' m' more' => exact ⟨name', m', _, rfl⟩
  | _ => exact ⟨name, m, more, rfl⟩

theorem item {fallback : Fallback α} {m : Mismatch} (hitem : items[position]? = some d)
    (hread : decode d = .error m) : (Decoder.field name decode fallback).FailsAt (.positional items) position := by
  intro title total
  simp only [Decoder.field, hitem, hread]
  exact ⟨_, _, _, rfl⟩

/-- A list that ends before a field is too short, if nothing stands for the field at the end of a list. -/
theorem behind {fallback : Fallback α} (hitem : items[position]? = none) (h : ∀ a, fallback ≠ .always a) :
    (Decoder.field name decode fallback).FailsAt (.positional items) position := by
  intro title total
  cases fallback with
  | always a => exact absurd rfl (h a)
  | _ =>
    simp only [Decoder.field, hitem]
    exact ⟨_, _, _, rfl⟩

theorem record {reader : RecordReader α} (h : reader.FailsAt (.positional items) 0) (title : String)
    (surplus : Decoder.Surplus) : ∃ m, Decoder.record title reader surplus (.list items) = .error m := by
  obtain ⟨name, m, more, hread⟩ := h title reader.size
  rw [Decoder.record, Decoder.fromItems, hread]
  exact ⟨_, rfl⟩

end FailsAt

/-- A list with items behind the last field is refused. -/
theorem record_surplus {items : List Datum} (reader : RecordReader α) (title : String)
    (h : reader.size < items.length) :
    ∃ m, Decoder.record title reader .refused (.list items) = .error m := by
  rw [Decoder.record, Decoder.fromItems]
  cases reader.read title reader.size (.positional items) 0 with
  | value a => exact ⟨_, if_neg (Nat.not_le_of_gt h)⟩
  | missing name => exact ⟨_, rfl⟩
  | failed name m more => exact ⟨_, rfl⟩

/-- Does a reader come to a value on a table, wherever its fields stand in the record? -/
def Reads (reader : RecordReader α) (fields : List (String × Datum)) (a : α) : Prop :=
  ∀ title total position, reader.read title total (.named fields) position = .value a

namespace Reads

variable {fields : List (String × Datum)} {name : String} {decode : Decoder α} {a : α} {d : Datum}

theorem readsAt {reader : RecordReader α} (h : reader.Reads fields a) (position : Nat) :
    reader.ReadsAt (.named fields) position a :=
  fun title total => h title total position

theorem map {reader : RecordReader α} (h : reader.Reads fields a) (f : α → β) :
    (f <$> reader).Reads fields (f a) :=
  fun title total position => (h.readsAt position).map f title total

theorem seq {f : RecordReader (α → β)} {x : RecordReader α} {g : α → β} (hf : f.Reads fields g)
    (hx : x.Reads fields a) : (f <*> x).Reads fields (g a) :=
  fun title total position => (hf.readsAt position).seq (hx.readsAt _) title total

theorem field {fallback : Fallback α} (hentry : Datum.lookup name fields = some d)
    (hread : decode d = .ok a) : (Decoder.field name decode fallback).Reads fields a := by
  intro title total position
  simp only [Decoder.field, hentry, hread]

theorem absent (hentry : Datum.lookup name fields = none) :
    (Decoder.field name decode (.inTable a)).Reads fields a := by
  intro title total position
  simp only [Decoder.field, hentry]

theorem record {reader : RecordReader α} {title : String} {surplus : Decoder.Surplus}
    (h : reader.Reads fields a) : Decoder.record title reader surplus (.table fields) = .ok a := by
  rw [Decoder.record, Decoder.fromFields, h]

theorem field_always (hentry : Datum.lookup name fields = none) :
    (Decoder.field name decode (.always a)).Reads fields a := by
  intro title total position
  simp only [Decoder.field, hentry]

end Reads

/-- Does a reader come to misfits on a table, wherever its fields stand in the record? -/
def Fails (reader : RecordReader α) (fields : List (String × Datum)) : Prop :=
  ∀ title total position, ∃ name m more,
    reader.read title total (.named fields) position = .failed name m more

namespace Fails

variable {fields : List (String × Datum)} {name : String} {decode : Decoder α} {d : Datum}

theorem failsAt {reader : RecordReader α} (h : reader.Fails fields) (position : Nat) :
    reader.FailsAt (.named fields) position :=
  fun title total => h title total position

theorem left {f : RecordReader (α → β)} (h : f.Fails fields) (x : RecordReader α) :
    (f <*> x).Fails fields :=
  fun title total position => (h.failsAt position).left x title total

theorem right {x : RecordReader α} (h : x.Fails fields) (f : RecordReader (α → β)) :
    (f <*> x).Fails fields :=
  fun title total position => (h.failsAt (position + f.size)).right title total

theorem field {fallback : Fallback α} {m : Mismatch} (hentry : Datum.lookup name fields = some d)
    (hread : decode d = .error m) : (Decoder.field name decode fallback).Fails fields := by
  intro title total position
  simp only [Decoder.field, hentry, hread]
  exact ⟨_, _, _, rfl⟩

theorem record {reader : RecordReader α} (h : reader.Fails fields) (title : String)
    (surplus : Decoder.Surplus) : ∃ m, Decoder.record title reader surplus (.table fields) = .error m := by
  obtain ⟨name, m, more, hread⟩ := h title reader.size 0
  rw [Decoder.record, Decoder.fromFields, hread]
  exact ⟨_, rfl⟩

end Fails

/-- Does a reader come to the same on two tables, wherever its fields stand in the record? -/
def SameOn (reader : RecordReader α) (fields fields' : List (String × Datum)) : Prop :=
  ∀ title total position,
    reader.read title total (.named fields) position = reader.read title total (.named fields') position

namespace SameOn

variable {fields fields' : List (String × Datum)} {name : String} {decode : Decoder α}

theorem map {reader : RecordReader α} (h : reader.SameOn fields fields') (f : α → β) :
    (f <$> reader).SameOn fields fields' := by
  intro title total position
  simp only [Functor.map, h title total position]

theorem seq {f : RecordReader (α → β)} {x : RecordReader α} (hf : f.SameOn fields fields')
    (hx : x.SameOn fields fields') : (f <*> x).SameOn fields fields' := by
  intro title total position
  show (f.read title total (.named fields) position).combine
    (x.read title total (.named fields) (position + f.size)) = _
  rw [hf, hx]
  rfl

theorem field {fallback : Fallback α}
    (h : (Datum.lookup name fields).map decode = (Datum.lookup name fields').map decode) :
    (Decoder.field name decode fallback).SameOn fields fields' := by
  intro title total position
  simp only [Decoder.field]
  cases hleft : Datum.lookup name fields with
  | none =>
    rw [hleft, Option.map_none, eq_comm, Option.map_eq_none_iff] at h
    rw [h]
  | some d =>
    rw [hleft, Option.map_some, eq_comm, Option.map_eq_some_iff] at h
    obtain ⟨d', hright, hdecode⟩ := h
    rw [hright]
    simp only [hdecode]

theorem record {reader : RecordReader α} (h : reader.SameOn fields fields') (title : String)
    (surplus : Decoder.Surplus) :
    Decoder.record title reader surplus (.table fields) = Decoder.record title reader surplus (.table fields') := by
  rw [Decoder.record, Decoder.record, Decoder.fromFields, Decoder.fromFields, h]

end SameOn

end RecordReader

namespace Decoder

/-! ### Scalars -/

theorem text_text (s : String) : text (.text s) = .ok s := rfl

theorem unsigned_int {kind : Unsigned} {n : Nat} (h : n < kind.limit) :
    unsigned kind (.int n) = .ok n := by
  rw [unsigned, if_pos ⟨by omega, by omega⟩]
  rfl

theorem text_eq_ok_iff {d : Datum} {s : String} : text d = .ok s ↔ d = .text s := by
  cases d <;> simp [text, wrongKind]

theorem unsigned_eq_ok_iff {kind : Unsigned} {d : Datum} {n : Nat} :
    unsigned kind d = .ok n ↔ d = .int n ∧ n < kind.limit := by
  constructor
  · intro h
    cases d with
    | int i =>
      rw [unsigned] at h
      split at h
      · next hi =>
        cases h
        exact ⟨by rw [Int.toNat_of_nonneg hi.1], by omega⟩
      · cases h
    | _ => cases h
  · rintro ⟨rfl, hn⟩
    exact unsigned_int hn

/-! ### Lists -/

variable {decode : Decoder α} {encode : α → Datum}

theorem itemsFrom_map {l : List α} (h : ∀ a ∈ l, decode (encode a) = .ok a) (position : Nat) :
    itemsFrom decode position (l.map encode) = .ok l := by
  induction l generalizing position with
  | nil => rfl
  | cons a l ih =>
    have hfirst : decode (encode a) = .ok a := h a List.mem_cons_self
    have hrest := ih (fun b hb => h b (List.mem_cons_of_mem a hb)) (position + 1)
    rw [List.map_cons, itemsFrom, hfirst, hrest]
    rfl

theorem list_map {l : List α} (h : ∀ a ∈ l, decode (encode a) = .ok a) :
    list decode (.list (l.map encode)) = .ok l :=
  itemsFrom_map h 0

/-! ### Maps -/

/-- Is an entry of a table read as this entry of a map? -/
def ReadsEntry (key : String → Except Mismatch κ) (decode : Decoder α) (f : String × Datum)
    (e : κ × α) : Prop :=
  key f.1 = .ok e.1 ∧ decode f.2 = .ok e.2

variable {key : String → Except Mismatch κ}

theorem entriesOf_eq {fields : List (String × Datum)} {l : List (κ × α)}
    (h : List.Forall₂ (ReadsEntry key decode) fields l) : entriesOf key decode fields = .ok l := by
  induction h with
  | nil => rfl
  | cons hentry _ ih =>
    rw [entriesOf, hentry.1, hentry.2, ih]
    rfl

/-- The entries of a table with different keys are all read, in the order of the keys. -/
theorem entries_table {fields : List (String × Datum)} {l : List (κ × α)}
    (hkeys : fields.Pairwise KeyNe) (h : List.Forall₂ (ReadsEntry key decode) fields l) :
    ∃ l', l'.Perm l ∧ entries key decode (.table fields) = .ok l' := by
  have hsorted : (Datum.sortedFields fields).Perm fields := SortedMap.entries_ofList hkeys
  obtain ⟨l', hread, hperm⟩ := List.perm_comp_forall₂ hsorted h
  exact ⟨l', hperm, entriesOf_eq hread⟩

end Decoder

end ImportCensus
