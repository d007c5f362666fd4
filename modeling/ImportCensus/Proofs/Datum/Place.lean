/-
ImportCensus/Proofs/Datum/Place.lean

Places in data.

A place is given by the keys on the way to it through tables (`Datum.find?`).  What stands at a place does
not depend on the order of the entries on the way, apart from repeated keys, of which the last one counts;
so it is the same whether a table is kept as it was read or in the order of its keys.

Main statements: a key leads to the same value among the sorted entries (`lookup_sortedFields`), and the sorted
keys are just those that lead to a value, each of them once, in the order of their bytes
(`mem_keys_sortedFields`, `keys_sortedFields_ascending`).
-/
import ImportCensus.Datum
import ImportCensus.Proofs.Order.SortedMap
import ImportCensus.Proofs.Text.Utf8
import Mathlib.Data.String.Basic
import Mathlib.Order.Compare

namespace ImportCensus

/-- Do the bytes of a text come before those of another one? -/
def BytesLt (a b : String) : Prop :=
  Text.encode a.toList < Text.encode b.toList

/-- The order of keys is that of their bytes. -/
theorem compare_eq_lt_iff_bytesLt {a b : String} : compare a b = .lt ↔ BytesLt a b := by
  rw [compare_lt_iff_lt, BytesLt, Text.encode_lt_encode_iff, String.lt_iff_toList_lt]

namespace Datum

variable {fields : List (String × Datum)} {key : String}

/-- What stands in a value at the end of a way of keys. -/
def find? : Datum → List String → Option Datum
  | d, [] => some d
  | d, key :: keys =>
    match d.get? key with
    | some d => d.find? keys
    | none => none

/-- The text at the end of a way of keys. -/
def textAt? (d : Datum) (keys : List String) : Option String :=
  (d.find? keys).bind text?

theorem find?_cons (d : Datum) (key : String) (keys : List String) :
    d.find? (key :: keys) = (d.get? key).bind (·.find? keys) := by
  rw [find?]
  cases d.get? key <;> rfl

@[simp] theorem find?_singleton (d : Datum) (key : String) : d.find? [key] = d.get? key := by
  rw [find?_cons]
  cases d.get? key <;> rfl

@[simp] theorem get?_table (fields : List (String × Datum)) (key : String) :
    (table fields).get? key = lookup key fields := rfl

/-- What is found at the end of a way is found in two steps. -/
theorem find?_append (d : Datum) (keys more : List String) :
    d.find? (keys ++ more) = (d.find? keys).bind (·.find? more) := by
  induction keys generalizing d with
  | nil => rfl
  | cons key keys ih =>
    rw [List.cons_append, find?_cons, find?_cons]
    cases d.get? key with
    | none => rfl
    | some below => exact ih below

/-! ### Entries put together -/

/-- Of entries with the same key the last one counts. -/
theorem lookup_append (key : String) (fields more : List (String × Datum)) :
    lookup key (fields ++ more) = (lookup key more).or (lookup key fields) := by
  rw [lookup, lookup, lookup, List.reverse_append, List.find?_append, Option.map_or]

theorem lookup_singleton (key : String) (f : String × Datum) :
    lookup key [f] = if f.1 = key then some f.2 else none := by
  by_cases h : f.1 = key <;> simp [lookup, h]

theorem lookup_cons (key : String) (f : String × Datum) (fields : List (String × Datum)) :
    lookup key (f :: fields) = (lookup key fields).or (if f.1 = key then some f.2 else none) := by
  rw [← List.singleton_append, lookup_append, lookup_singleton]

theorem lookup_eq_none (h : ∀ f ∈ fields, f.1 ≠ key) : lookup key fields = none := by
  rw [lookup, Option.map_eq_none_iff, List.find?_eq_none]
  intro f hf
  rw [beq_iff_eq]
  exact h f (List.mem_reverse.1 hf)

/-! ### Sorted entries -/

theorem lookup_eq_get? (key : String) (fields : List (String × Datum)) :
    lookup key fields = (SortedMap.ofList fields).get? key := by
  have hsame : (fun f : String × Datum => f.1 == key) = fun f => compare key f.1 == .eq := by
    funext f
    rw [Bool.eq_iff_iff, beq_iff_eq, beq_iff_eq, Std.LawfulEqOrd.compare_eq_iff_eq, eq_comm]
  rw [lookup, hsame, SortedMap.get?_ofList]

/-- Among the sorted entries, a key leads where it led. -/
theorem lookup_sortedFields (key : String) (fields : List (String × Datum)) :
    lookup key (sortedFields fields) = lookup key fields := by
  rw [lookup_eq_get?, sortedFields, SortedMap.ofList_entries, lookup_eq_get?]

/-- The sorted keys are those that lead to a value. -/
theorem mem_keys_sortedFields :
    key ∈ (sortedFields fields).map (·.1) ↔ (lookup key fields).isSome = true := by
  rw [lookup_eq_get?, Option.isSome_iff_exists, List.mem_map]
  simp only [← SortedMap.mem_entries_iff]
  constructor
  · rintro ⟨⟨key, v⟩, hmem, rfl⟩
    exact ⟨v, hmem⟩
  · rintro ⟨v, hmem⟩
    exact ⟨(key, v), hmem, rfl⟩

/-- The sorted keys stand in strictly ascending order of their bytes. -/
theorem keys_sortedFields_ascending (fields : List (String × Datum)) :
    ((sortedFields fields).map (·.1)).Pairwise BytesLt :=
  (SortedMap.keys_sorted _).imp compare_eq_lt_iff_bytesLt.1

end Datum

/-- Two lists in strictly ascending order with the same members are equal. -/
theorem eq_of_bytesLt {as bs : List String} (ha : as.Pairwise BytesLt) (hb : bs.Pairwise BytesLt)
    (h : ∀ s, s ∈ as ↔ s ∈ bs) : as = bs := by
  have hsets : SortedSet.mk as (ha.imp compare_eq_lt_iff_bytesLt.2)
      = SortedSet.mk bs (hb.imp compare_eq_lt_iff_bytesLt.2) := SortedSet.eq_of_mem_iff h
  exact congrArg SortedSet.toList hsets

end ImportCensus
