/-
ImportCensus/Proofs/Registry/ListedDocument.lean

Documents that are no tables.

A document is a record, and a record may be given as a list of its entries in their order.  So a list is not
refused because it is one.  It has to be long enough for the entries without a fallback in lists, it must have
no items left over, and the items have to fit; then it says what the table says that has the same values under
the names of the entries (`decode_list`).  Every other value that is no table is refused, whatever it holds.

Main statement: which values that are no tables are refused, and what the others stand for
(`record_of_untabled`).
-/
import ImportCensus.Proofs.Registry.Document

namespace ImportCensus.Registry

open Decoder RecordReader

/-- The entries of a document, in the order in which a list gives them. -/
def documentEntries : List String :=
  ["description", "dist-tags", "license", "homepage", "repository", "maintainers", "time", "versions"]

/-- The items of a list under the names of the entries. -/
def named (items : List Datum) : List (String × Datum) :=
  documentEntries.zip items

/-- Does a list stand for a document: has it at least the first five entries and no items behind the last one,
and are those tables that have to be, as far as they are there? -/
structure IsListedDocument (items : List Datum) : Prop where
  least : 5 ≤ items.length
  most : items.length ≤ 8
  tables : HasTables (.table (named items))

/-- The entries of a document by their names, in whichever way it is given. -/
def entriesOf : Datum → List (String × Datum)
  | .table fields => fields
  | .list items => named items
  | _ => []

/-- Does a value stand for a document? -/
inductive IsDocument : Datum → Prop
  | table {fields : List (String × Datum)} (h : HasTables (.table fields)) : IsDocument (.table fields)
  | list {items : List Datum} (h : IsListedDocument items) : IsDocument (.list items)

variable {items : List Datum} {key : String} {position : Nat} {d : Datum}

/-! ### Names and positions -/

/-- Under a name stands the item at its position. -/
theorem lookup_zip {names : List String} (hnames : names.Nodup) (hname : names[position]? = some key) :
    Datum.lookup key (names.zip items) = items[position]? := by
  induction names generalizing position items with
  | nil => cases hname
  | cons first rest ih =>
    cases items with
    | nil => rfl
    | cons item items =>
      obtain ⟨hfirst, hrest⟩ := List.nodup_cons.1 hnames
      rw [List.zip_cons_cons, Datum.lookup_cons]
      cases position with
      | zero =>
        cases hname
        have hnone : Datum.lookup key (rest.zip items) = none :=
          Datum.lookup_eq_none fun e he heq => hfirst (heq ▸ (List.of_mem_zip he).1)
        rw [hnone, if_pos rfl]
        rfl
      | succ position =>
        have hlater : rest[position]? = some key := hname
        have hne : first ≠ key := fun heq => hfirst (heq ▸ List.mem_of_getElem? hlater)
        rw [ih hrest hlater, if_neg hne, Option.or_none, List.getElem?_cons_succ]

theorem lookup_named (hname : documentEntries[position]? = some key) :
    Datum.lookup key (named items) = items[position]? :=
  lookup_zip (by decide) hname

/-! ### Decoding -/

/-- An entry of any kind is read as its item, if that is there or may be missing. -/
theorem readsAt_valueAt? {fallback : Fallback (Option Datum)} (hname : documentEntries[position]? = some key)
    (hitem : position < items.length ∨ fallback = .always none) :
    (field key (nullable any) fallback).ReadsAt (.positional items) position
      (valueAt? (named items) key) := by
  rw [valueAt?, lookup_named hname]
  cases hat : items[position]? with
  | none =>
    have hbehind : fallback = .always none := hitem.resolve_left (List.getElem?_eq_none_iff.1 hat).not_gt
    subst hbehind
    exact .behind hat
  | some v =>
    refine .item hat ?_
    cases v <;> rfl

/-- An entry that has to be a table is read as its item if that is one or is not there. -/
theorem readsAt_tableAt (hname : documentEntries[position]? = some key)
    (h : ∀ v, Datum.lookup key (named items) = some v → ∃ t, v = .table t) :
    (field key Document.anyTable (.always [])).ReadsAt (.positional items) position
      (tableAt (named items) key) := by
  rw [lookup_named hname] at h
  rw [tableAt, lookup_named hname]
  cases hat : items[position]? with
  | none => exact .behind hat
  | some v =>
    obtain ⟨t, rfl⟩ := h v hat
    exact .item hat (anyTable_table t)

/-- **A list that stands for a document is read as the table with its items under the names of the
entries.** -/
theorem decode_list (h : IsListedDocument items) :
    Document.decode (.list items) = .ok (documentOf (named items)) := by
  have hvalue : ∀ position key, documentEntries[position]? = some key → position < 5 →
      (field key (nullable any) (.inTable none)).ReadsAt (.positional items) position
        (valueAt? (named items) key) :=
    fun position key hname hlt => readsAt_valueAt? hname (.inl (Nat.lt_of_lt_of_le hlt h.least))
  have htable : ∀ position, ∀ key ∈ ["dist-tags", "time", "versions"], documentEntries[position]? = some key →
      (field key Document.anyTable (.always [])).ReadsAt (.positional items) position
        (tableAt (named items) key) :=
    fun position key hkey hname => readsAt_tableAt hname (h.tables key hkey)
  have hmaintainers : documentEntries[5]? = some "maintainers" := rfl
  refine ReadsAt.record ?_ h.most
  exact ((((((((hvalue 0 "description" rfl (by decide)).map Document.mk).seq
    (htable 1 "dist-tags" (by simp) rfl)).seq (hvalue 2 "license" rfl (by decide))).seq
    (hvalue 3 "homepage" rfl (by decide))).seq (hvalue 4 "repository" rfl (by decide))).seq
    (readsAt_valueAt? hmaintainers (.inr rfl))).seq (htable 6 "time" (by simp) rfl)).seq
    (htable 7 "versions" (by simp) rfl)

/-- A list that stands for no document is a misfit. -/
theorem decode_list_error (h : ¬IsListedDocument items) :
    ∃ m, Document.decode (.list items) = .error m := by
  by_cases hmost : items.length ≤ 8
  · by_cases hleast : 5 ≤ items.length
    · have htables : ¬HasTables (.table (named items)) := fun htables => h ⟨hleast, hmost, htables⟩
      simp only [HasTables, not_forall] at htables
      obtain ⟨key, hkey, v, hentry, hv⟩ := htables
      obtain ⟨m, hread⟩ := anyTable_of_not_table fun t heq => hv ⟨t, heq⟩
      have hfails : ∀ position, documentEntries[position]? = some key →
          (field key Document.anyTable (.always [])).FailsAt (.positional items) position := by
        intro position hname
        exact .item ((lookup_named hname).symm.trans hentry) hread
      rw [Document.decode]
      simp only [List.mem_cons, List.not_mem_nil, or_false] at hkey
      -- the other items do not matter, wherever the one that is no table stands
      rcases hkey with rfl | rfl | rfl
      · refine (((((((FailsAt.right ?_).left _).left _).left _).left _).left _).left _).record _ _
        exact hfails 1 rfl
      · refine (FailsAt.left (.right ?_) _).record _ _
        exact hfails 6 rfl
      · refine (FailsAt.right ?_).record _ _
        exact hfails 7 rfl
    · -- the repository is the last entry that a list has to have
      have hshort : items[4]? = none := List.getElem?_eq_none_iff.2 (by omega)
      rw [Document.decode]
      refine ((((FailsAt.right ?_).left _).left _).left _).record _ _
      exact .behind hshort (by simp)
  · exact record_surplus _ _ (Nat.lt_of_not_le hmost)

/-! ### Documents of either kind -/

namespace IsDocument

theorem hasTables (h : IsDocument d) : HasTables (.table (entriesOf d)) := by
  cases h with
  | table h => exact h
  | list h => exact h.tables

theorem decode (h : IsDocument d) : Document.decode d = .ok (documentOf (entriesOf d)) := by
  cases h with
  | table h => exact decode_of_hasTables h
  | list h => exact decode_list h

/-- A document says what its entries say, in whichever way they are given. -/
theorem metadataOf_eq (h : IsDocument d) (name : PackageName) :
    metadataOf name d = metadataOf name (.table (entriesOf d)) := by
  rw [metadataOf_of_hasTables name h.hasTables, metadataOf, h.decode]
  rfl

end IsDocument

/-- A value that stands for no document is a misfit, of whatever kind it is. -/
theorem decode_of_not_isDocument (h : ¬IsDocument d) : ∃ m, Document.decode d = .error m := by
  cases d with
  | table fields => exact decode_of_not_hasTables fun htables => h (.table htables)
  | list items => exact decode_list_error fun hlist => h (.list hlist)
  | _ => exact ⟨_, rfl⟩

theorem misfit_iff_not_isDocument (name : PackageName) (d : Datum) :
    (∃ cause, metadataOf name d = .error (.body (.misfit cause))) ↔ ¬IsDocument d := by
  constructor
  · intro hmisfit h
    rw [h.metadataOf_eq name] at hmisfit
    exact (reading_metadataOf name (entriesOf d)).misfit_iff.1 hmisfit h.hasTables
  · intro h
    obtain ⟨m, hread⟩ := decode_of_not_isDocument h
    rw [metadataOf, hread]
    exact ⟨_, rfl⟩

theorem isDocument_list_iff : IsDocument (.list items) ↔ IsListedDocument items := by
  refine ⟨?_, .list⟩
  intro h
  cases h with
  | list h => exact h

/-- **A value that is no table is refused, unless it is a list that stands for a document.**  Whichever
package is asked about:

  * a list is refused as a misfit exactly if it is too short or too long for a document, or if one of its
    items that have to be tables is none;
  * another list comes to what the table with its items under the names of the entries comes to;
  * a value that is neither a table nor a list is refused as a misfit. -/
theorem record_of_untabled (name : PackageName) :
    (∀ items, (∃ cause, metadataOf name (.list items) = .error (.body (.misfit cause))) ↔
      ¬IsListedDocument items) ∧
    (∀ items, IsListedDocument items →
      metadataOf name (.list items) = metadataOf name (.table (named items))) ∧
    ∀ d, (∀ fields, d ≠ .table fields) → (∀ items, d ≠ .list items) →
      ∃ cause, metadataOf name d = .error (.body (.misfit cause)) := by
  refine ⟨?_, ?_, ?_⟩
  · intro items
    rw [misfit_iff_not_isDocument, isDocument_list_iff]
  · exact fun items h => (IsDocument.list h).metadataOf_eq name
  · intro d htable hlist
    rw [misfit_iff_not_isDocument]
    rintro (⟨h⟩ | ⟨h⟩)
    · exact htable _ rfl
    · exact hlist _ rfl

/-- A list of five items, all but one of them null, makes a record; without the last one it is refused, as a
text is. -/
theorem record_of_listed_values :
    let name : PackageName := ⟨"left-pad", by decide⟩
    let items : List Datum := [.null, .table [("latest", .text "1.0.0")], .null, .null, .null]
    IsListedDocument items ∧
      metadataOf name (.list items)
        = metadataOf name (.table [("description", .null), ("dist-tags", .table [("latest", .text "1.0.0")]),
            ("license", .null), ("homepage", .null), ("repository", .null)]) ∧
      (∃ cause, metadataOf name (.list items.dropLast) = .error (.body (.misfit cause))) ∧
      ∃ cause, metadataOf name (.text "left-pad") = .error (.body (.misfit cause)) := by
  intro name items
  obtain ⟨hrefused, hsame, hother⟩ := record_of_untabled name
  have hlisted : IsListedDocument items := by
    refine ⟨by decide, by decide, ?_⟩
    simp [HasTables, named, documentEntries, items, Datum.lookup]
  have hshort : ¬IsListedDocument items.dropLast := fun h => absurd h.least (by decide)
  exact ⟨hlisted, hsame items hlisted, (hrefused _).2 hshort, hother _ (by simp) (by simp)⟩

/-- Not all values that are no tables are refused: a list can make a record. -/
theorem record_of_list :
    ¬∀ (name : PackageName) (d : Datum), (∀ fields, d ≠ .table fields) →
      ∃ fault, metadataOf name d = .error (.body fault) := by
  intro h
  let name : PackageName := ⟨"left-pad", by decide⟩
  obtain ⟨fault, hrefused⟩ :=
    h name (.list [.null, .table [("latest", .text "1.0.0")], .null, .null, .null]) (by simp)
  cases hrefused

end ImportCensus.Registry
