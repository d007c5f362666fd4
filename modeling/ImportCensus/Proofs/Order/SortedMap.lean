/-
ImportCensus/Proofs/Order/SortedMap.lean

What finite maps answer.  A map is known by its entries, so the lemmas say which entries an operation
leaves: looking a key up finds the one entry with that key, and inserting entries whose keys are all
different loses none of them, whatever their order.

Main statements: a value is found exactly if its entry is there (`get?_eq_some_iff`), an insertion or a
removal changes the value at its own key only (`get?_insert`, `get?_erase`), of two maps that are put
together the second one answers first (`get?_union`), and maps built from entries with different keys hold
just those entries (`entries_ofList`, `entries_union`).  A key is spelled as it was when it came first
(`key?_ofList`).
-/
import ImportCensus.Order.SortedMap
import ImportCensus.Order.SortedSet
import Mathlib.Algebra.GroupWithZero.Nat
import Mathlib.Data.List.Induction
import Mathlib.Data.List.Pairwise
import Mathlib.Data.List.Perm.Basic

namespace ImportCensus

variable {κ α : Type} [Ord κ]

/-- Do two entries have different keys? -/
def KeyNe (a b : κ × α) : Prop :=
  compare a.1 b.1 ≠ .eq

theorem KeyLt.keyNe {a b : κ × α} (h : KeyLt a b) : KeyNe a b := by
  intro heq
  rw [KeyLt, heq] at h
  cases h

theorem KeyNe.symm [Std.OrientedOrd κ] {a b : κ × α} (h : KeyNe a b) : KeyNe b a := by
  intro heq
  exact h (Std.OrientedCmp.eq_symm heq)

namespace SortedMap

@[simp] theorem entries_empty : (empty : SortedMap κ α).entries = [] := rfl

@[simp] theorem get?_empty {k : κ} : (empty : SortedMap κ α).get? k = none := rfl

@[simp] theorem entries_insert_empty [Std.TransOrd κ] (k : κ) (v : α) :
    ((empty : SortedMap κ α).insert k v).entries = [(k, v)] := rfl

/-- The keys of a map stand in strictly ascending order. -/
theorem keys_sorted (m : SortedMap κ α) : m.keys.Pairwise fun a b => compare a b = .lt :=
  List.pairwise_map.2 m.sorted

theorem keys_mapValues {β : Type} (m : SortedMap κ α) (f : κ → α → β) :
    (m.mapValues f).keys = m.keys := by
  rw [keys, mapValues, List.map_map]
  rfl

/-- An entry with a new key is put beside the others. -/
theorem insertEntry_perm {k : κ} {v : α} {l : List (κ × α)} (h : ∀ e ∈ l, KeyNe (k, v) e) :
    (insertEntry k v l).Perm ((k, v) :: l) := by
  induction l with
  | nil => exact .refl _
  | cons a r ih =>
    rw [insertEntry]
    split
    case h_1 => exact .refl _
    case h_2 hka => exact absurd hka (h a List.mem_cons_self)
    case h_3 =>
      have hr : (insertEntry k v r).Perm ((k, v) :: r) :=
        ih fun e he => h e (List.mem_cons_of_mem _ he)
      exact (hr.cons a).trans (.swap _ _ _)

variable [Std.TransOrd κ]

/-- Two entries of a map with the same key are one entry. -/
theorem eq_of_mem_entries {m : SortedMap κ α} {a b : κ × α} (ha : a ∈ m.entries)
    (hb : b ∈ m.entries) (h : compare a.1 b.1 = .eq) : a = b := by
  have hdiffer : m.entries.Pairwise KeyNe := m.sorted.imp KeyLt.keyNe
  have : Std.Symm (@KeyNe κ α _) := ⟨fun _ _ h => h.symm⟩
  by_contra hab
  exact hdiffer.forall ha hb hab h

/-! ### Looking up -/

/-- A key that is smaller than the first one has no entry. -/
theorem find?_eq_none_of_lt {k : κ} {a : κ × α} {r : List (κ × α)} (h : (a :: r).Pairwise KeyLt)
    (hk : compare k a.1 = .lt) : ((a :: r).find? fun e => compare k e.1 == .eq) = none := by
  obtain ⟨ha, -⟩ := List.pairwise_cons.1 h
  rw [List.find?_eq_none]
  intro e he heq
  have hlt : compare k e.1 = .lt := by
    rcases List.mem_cons.1 he with rfl | he
    · exact hk
    · exact Std.TransCmp.lt_trans hk (ha e he)
  rw [hlt] at heq
  cases heq

/-- A value is found at a key exactly if there is an entry with that key and that value. -/
theorem get?_eq_some_iff {m : SortedMap κ α} {k : κ} {v : α} :
    m.get? k = some v ↔ ∃ e ∈ m.entries, compare k e.1 = .eq ∧ e.2 = v := by
  constructor
  · intro h
    obtain ⟨e, he, rfl⟩ := Option.map_eq_some_iff.1 h
    have hkey := List.find?_some he
    exact ⟨e, List.mem_of_find?_eq_some he, by simpa using hkey, rfl⟩
  · rintro ⟨e, he, hkey, rfl⟩
    have hfound : (m.entries.find? fun e => compare k e.1 == .eq).isSome := by
      rw [List.find?_isSome]
      exact ⟨e, he, by simpa using hkey⟩
    obtain ⟨e', he'⟩ := Option.isSome_iff_exists.1 hfound
    have hkey' : compare k e'.1 = .eq := by simpa using List.find?_some he'
    have hsame : e' = e := by
      apply eq_of_mem_entries (List.mem_of_find?_eq_some he') he
      exact Std.TransCmp.eq_trans (Std.OrientedCmp.eq_symm hkey') hkey
    rw [get?, he', hsame, Option.map_some]

/-- Where keys that compare as equal are equal, the entries are the values that are found. -/
theorem mem_entries_iff [Std.LawfulEqOrd κ] {m : SortedMap κ α} {k : κ} {v : α} :
    (k, v) ∈ m.entries ↔ m.get? k = some v := by
  rw [get?_eq_some_iff]
  constructor
  · intro h
    exact ⟨(k, v), h, Std.ReflOrd.compare_self, rfl⟩
  · rintro ⟨⟨k', v'⟩, h, hkey, rfl⟩
    rw [Std.LawfulEqOrd.eq_of_compare hkey]
    exact h

theorem find?_insertEntry {k k' : κ} {v : α} (l : List (κ × α)) :
    ((insertEntry k v l).find? fun e => compare k' e.1 == .eq).map (·.2)
      = if compare k' k = .eq then some v
        else (l.find? fun e => compare k' e.1 == .eq).map (·.2) := by
  induction l with
  | nil =>
    by_cases h : compare k' k = .eq <;> simp [insertEntry, h]
  | cons a r ih =>
    rw [insertEntry]
    split
    case h_1 =>
      by_cases h : compare k' k = .eq <;> simp [h]
    case h_2 hka =>
      -- the entry keeps its spelling of the key, which compares like `k`
      have hsame : compare k' a.1 = compare k' k := by
        rw [Std.TransCmp.congr_right hka]
      by_cases h : compare k' k = .eq <;> simp [hsame, h]
    case h_3 hka =>
      -- if the first entry is the one looked for, `k` is another key
      by_cases ha : compare k' a.1 = .eq
      · have hne : compare k' k ≠ .eq := by
          intro h
          have : compare k a.1 = .eq := Std.TransCmp.eq_trans (Std.OrientedCmp.eq_symm h) ha
          rw [this] at hka
          cases hka
        simp [ha, hne]
      · simpa [ha] using ih

/-- An insertion changes the value at its own key, and no other. -/
theorem get?_insert {m : SortedMap κ α} {k k' : κ} {v : α} :
    (m.insert k v).get? k' = if compare k' k = .eq then some v else m.get? k' :=
  find?_insertEntry m.entries

/-- A removal takes away the value at its own key, and no other. -/
theorem get?_erase {m : SortedMap κ α} {k k' : κ} :
    (m.erase k).get? k' = if compare k' k = .eq then none else m.get? k' := by
  apply Option.ext
  intro v
  rw [get?_eq_some_iff]
  split
  · next hkey =>
    refine ⟨?_, fun h => by cases h⟩
    rintro ⟨e, he, hfound, -⟩
    have hkept : compare k e.1 ≠ .eq := by simpa using (List.mem_filter.1 he).2
    exact absurd (Std.TransCmp.eq_trans (Std.OrientedCmp.eq_symm hkey) hfound) hkept
  · next hkey =>
    rw [get?_eq_some_iff]
    constructor
    · rintro ⟨e, he, hfound⟩
      exact ⟨e, (List.mem_filter.1 he).1, hfound⟩
    · rintro ⟨e, he, hfound, hv⟩
      -- an entry with the key looked for is none of those taken away
      have hkept : compare k e.1 ≠ .eq := fun h =>
        hkey (Std.TransCmp.eq_trans hfound (Std.OrientedCmp.eq_symm h))
      exact ⟨e, List.mem_filter.2 ⟨he, by simpa using hkept⟩, hfound, hv⟩

/-- A change at one key changes the value there, or makes one from the default. -/
theorem get?_update {m : SortedMap κ α} {k k' : κ} {zero : α} {f : α → α} :
    (m.update k zero f).get? k'
      = if compare k' k = .eq then some (f ((m.get? k).getD zero)) else m.get? k' :=
  get?_insert

/-! ### Sums over the values of a map -/

/-- An inserted value counts in the place of the one that it replaces. -/
theorem sum_insertEntry (weight : α → Nat) {k : κ} {v : α} {l : List (κ × α)}
    (h : l.Pairwise KeyLt) :
    ((insertEntry k v l).map fun e => weight e.2).sum
        + (((l.find? fun e => compare k e.1 == .eq).map fun e => weight e.2).getD 0)
      = (l.map fun e => weight e.2).sum + weight v := by
  induction l with
  | nil => simp [insertEntry]
  | cons a r ih =>
    obtain ⟨-, hr⟩ := List.pairwise_cons.1 h
    rw [insertEntry]
    split
    case h_1 hka =>
      -- all keys are greater, so that none is replaced
      rw [find?_eq_none_of_lt h hka, List.map_cons, List.sum_cons]
      simp only [Option.map_none, Option.getD_none]
      omega
    case h_2 hka =>
      rw [List.find?_cons_of_pos (by simp [hka])]
      simp only [List.map_cons, List.sum_cons, Option.map_some, Option.getD_some]
      omega
    case h_3 hka =>
      rw [List.find?_cons_of_neg (by simp [hka])]
      simp only [List.map_cons, List.sum_cons]
      have := ih hr
      omega

theorem sum_insert (weight : α → Nat) (m : SortedMap κ α) (k : κ) (v : α) :
    ((m.insert k v).values.map weight).sum + ((m.get? k).map weight).getD 0
      = (m.values.map weight).sum + weight v := by
  have h := sum_insertEntry weight (k := k) (v := v) m.sorted
  rw [values, values, List.map_map, List.map_map, get?, Option.map_map]
  exact h

/-! ### The entries of larger maps -/

/-- Entries with new keys, no two of which are the same, are put beside the others. -/
theorem entries_foldl_insert {l : List (κ × α)} {m : SortedMap κ α} (hl : l.Pairwise KeyNe)
    (hm : ∀ a ∈ m.entries, ∀ e ∈ l, KeyNe a e) :
    (l.foldl (fun m e => m.insert e.1 e.2) m).entries.Perm (m.entries ++ l) := by
  -- the map grows with the entries that were put in, so that it is general in the induction
  induction l generalizing m with
  | nil => simp
  | cons e r ih =>
    obtain ⟨he, hr⟩ := List.pairwise_cons.1 hl
    have hput : (m.insert e.1 e.2).entries.Perm (e :: m.entries) :=
      insertEntry_perm fun a ha => KeyNe.symm (hm a ha e List.mem_cons_self)
    have hnext : ∀ a ∈ (m.insert e.1 e.2).entries, ∀ e' ∈ r, KeyNe a e' := by
      intro a ha e' he'
      rcases List.mem_cons.1 (hput.subset ha) with rfl | ha
      · exact he e' he'
      · exact hm a ha e' (List.mem_cons_of_mem _ he')
    calc (r.foldl (fun m e => m.insert e.1 e.2) (m.insert e.1 e.2)).entries
        |>.Perm ((m.insert e.1 e.2).entries ++ r) := ih hr hnext
      _ |>.Perm (e :: m.entries ++ r) := hput.append_right r
      _ |>.Perm (m.entries ++ e :: r) := List.perm_middle.symm

/-- A map built from entries with different keys holds just these. -/
theorem entries_ofList {l : List (κ × α)} (h : l.Pairwise KeyNe) : (ofList l).entries.Perm l :=
  entries_foldl_insert h fun _ ha => absurd ha List.not_mem_nil

/-- Two maps without a common key keep all their entries when they are put together. -/
theorem entries_union {m other : SortedMap κ α}
    (h : ∀ a ∈ m.entries, ∀ e ∈ other.entries, KeyNe a e) :
    (m.union other).entries.Perm (m.entries ++ other.entries) :=
  entries_foldl_insert (other.sorted.imp KeyLt.keyNe) h

/-- Two maps with the same entries are equal: their order is that of the keys. -/
theorem eq_of_perm {m other : SortedMap κ α} (h : m.entries.Perm other.entries) : m = other := by
  have heq : m.entries = other.entries := by
    apply h.eq_of_pairwise _ m.sorted other.sorted
    intro a b _ _ hab hba
    rw [KeyLt, Std.OrientedCmp.gt_of_lt hba] at hab
    cases hab
  obtain ⟨entries, hm⟩ := m
  obtain ⟨entries', hother⟩ := other
  cases heq
  rfl

/-- Of the entries that are inserted, the last one for a key counts. -/
theorem get?_foldl_insert (m : SortedMap κ α) (l : List (κ × α)) (k : κ) :
    (l.foldl (fun m e => m.insert e.1 e.2) m).get? k
      = ((l.reverse.find? fun e => compare k e.1 == .eq).map (·.2)).or (m.get? k) := by
  induction l using List.reverseRecOn with
  | nil => rfl
  | append_singleton l e ih =>
    rw [List.foldl_concat, get?_insert, ih, List.reverse_concat]
    by_cases h : compare k e.1 = .eq
    · rw [if_pos h, List.find?_cons_of_pos (by simpa using h), Option.map_some, Option.some_or]
    · rw [if_neg h, List.find?_cons_of_neg (by simpa using h)]

/-- A map built from entries answers with the last one for a key. -/
theorem get?_ofList (l : List (κ × α)) (k : κ) :
    (ofList l).get? k = (l.reverse.find? fun e => compare k e.1 == .eq).map (·.2) := by
  rw [ofList, get?_foldl_insert, get?_empty, Option.or_none]

/-- The entries of a map build the map. -/
@[simp] theorem ofList_entries (m : SortedMap κ α) : ofList m.entries = m :=
  eq_of_perm (entries_ofList (m.sorted.imp KeyLt.keyNe))

/-- Where two maps are put together, the second one answers first. -/
theorem get?_union (m other : SortedMap κ α) (k : κ) :
    (m.union other).get? k = (other.get? k).or (m.get? k) := by
  rw [union, get?_foldl_insert, ← get?_ofList, ofList_entries]

/-- Insertions into a map build the map that its entries and the new ones build. -/
theorem foldl_insert_eq_ofList (m : SortedMap κ α) (l : List (κ × α)) :
    l.foldl (fun m e => m.insert e.1 e.2) m = ofList (m.entries ++ l) := by
  rw [ofList, List.foldl_append, ← ofList, ofList_entries]

@[simp] theorem empty_union (m : SortedMap κ α) : empty.union m = m := by
  apply eq_of_perm
  apply entries_union
  intro a ha
  cases ha

/-! ### The spelling of keys -/

/-- How a key is spelled in a map. -/
def key? (m : SortedMap κ α) (k : κ) : Option κ :=
  (m.entries.find? fun e => compare k e.1 == .eq).map (·.1)

theorem findKey?_insertEntry {k k' : κ} {v : α} {l : List (κ × α)} (h : l.Pairwise KeyLt) :
    ((insertEntry k v l).find? fun e => compare k' e.1 == .eq).map (·.1)
      = ((l.find? fun e => compare k' e.1 == .eq).map (·.1)).or
          (if compare k' k = .eq then some k else none) := by
  induction l with
  | nil => by_cases hk : compare k' k = .eq <;> simp [insertEntry, hk]
  | cons a r ih =>
    obtain ⟨-, hr⟩ := List.pairwise_cons.1 h
    rw [insertEntry]
    split
    case h_1 hka =>
      by_cases hk : compare k' k = .eq
      · -- the key was in no entry, so that its spelling is new
        have hlt : compare k' a.1 = .lt := by rwa [Std.TransCmp.congr_left hk]
        rw [find?_eq_none_of_lt h hlt]
        simp [hk]
      · simp [hk]
    case h_2 hka =>
      have hsame : compare k' a.1 = compare k' k := by
        rw [Std.TransCmp.congr_right hka]
      by_cases hk : compare k' k = .eq <;> simp [hsame, hk]
    case h_3 =>
      by_cases ha : compare k' a.1 = .eq
      · simp [ha]
      · simpa [ha] using ih hr

/-- An insertion spells a key only if the map has not spelled it before. -/
theorem key?_insert {m : SortedMap κ α} {k k' : κ} {v : α} :
    (m.insert k v).key? k' = (m.key? k').or (if compare k' k = .eq then some k else none) :=
  findKey?_insertEntry m.sorted

theorem key?_foldl_insert (m : SortedMap κ α) (l : List (κ × α)) (k : κ) :
    (l.foldl (fun m e => m.insert e.1 e.2) m).key? k
      = (m.key? k).or ((l.find? fun e => compare k e.1 == .eq).map (·.1)) := by
  induction l generalizing m with
  | nil => simp
  | cons e r ih =>
    rw [List.foldl_cons, ih, key?_insert, Option.or_assoc]
    congr 1
    by_cases h : compare k e.1 = .eq
    · rw [if_pos h, List.find?_cons_of_pos (by simpa using h), Option.map_some, Option.some_or]
    · rw [if_neg h, List.find?_cons_of_neg (by simpa using h), Option.none_or]

/-- Of the entries that build a map, the first one for a key spells it. -/
theorem key?_ofList (l : List (κ × α)) (k : κ) :
    (ofList l).key? k = (l.find? fun e => compare k e.1 == .eq).map (·.1) := by
  rw [ofList, key?_foldl_insert]
  exact Option.none_or

/-- An entry is found by its key, as the map spells it. -/
theorem key?_of_mem_entries {m : SortedMap κ α} {e : κ × α} (h : e ∈ m.entries) :
    m.key? e.1 = some e.1 := by
  have hfound : (m.entries.find? fun e' => compare e.1 e'.1 == .eq).isSome := by
    rw [List.find?_isSome]
    exact ⟨e, h, by simp [Std.ReflOrd.compare_self]⟩
  obtain ⟨e', he'⟩ := Option.isSome_iff_exists.1 hfound
  have hsame : e = e' :=
    eq_of_mem_entries h (List.mem_of_find?_eq_some he') (by simpa using List.find?_some he')
  rw [key?, he', hsame, Option.map_some]

end SortedMap

namespace SortedSet

variable [Std.TransOrd κ]

theorem mem_ofList [Std.LawfulEqOrd κ] {l : List κ} {x : κ} : x ∈ (ofList l).toList ↔ x ∈ l := by
  have hfold : ∀ s : SortedSet κ, x ∈ (l.foldl insert s).toList ↔ x ∈ s.toList ∨ x ∈ l := by
    induction l with
    | nil => simp
    | cons a r ih =>
      intro s
      rw [List.foldl_cons, ih, insert, mem_insertMember, List.mem_cons]
      tauto
  have := hfold empty
  simpa [ofList, empty] using this

/-- No member of a set is listed twice. -/
theorem nodup_toList (s : SortedSet κ) : s.toList.Nodup := by
  apply s.sorted.imp
  rintro a _ h rfl
  rw [Std.ReflOrd.compare_self] at h
  cases h

/-- Two sets with the same members are equal: their order is that of the members. -/
theorem eq_of_mem_iff {s other : SortedSet κ} (h : ∀ x, x ∈ s.toList ↔ x ∈ other.toList) :
    s = other := by
  have hperm : s.toList.Perm other.toList :=
    (List.perm_ext_iff_of_nodup s.nodup_toList other.nodup_toList).2 h
  have heq : s.toList = other.toList := by
    apply hperm.eq_of_pairwise _ s.sorted other.sorted
    intro a b _ _ hab hba
    rw [Std.OrientedCmp.gt_of_lt hba] at hab
    cases hab
  obtain ⟨members, hs⟩ := s
  obtain ⟨members', hother⟩ := other
  cases heq
  rfl

@[simp] theorem ofList_toList [Std.LawfulEqOrd κ] (s : SortedSet κ) : ofList s.toList = s :=
  eq_of_mem_iff fun _ => mem_ofList

end SortedSet

end ImportCensus
