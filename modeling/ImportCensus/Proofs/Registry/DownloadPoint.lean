/-
ImportCensus/Proofs/Registry/DownloadPoint.lean

Which answers count downloads, and what they count.

An answer that counts is an object with one entry for the count, among others that are only skipped, or a list
with the count alone (`IsPoint`).  The entries of an object are read one by one, and each either gives the count
or gives nothing (`PointEntry`), so an object counts just if all its entries together give one count
(`PointEntries`).

Main statements: `downloadsOf_eq_ok_iff`, and that every count is a number of 64 bits, `IsPoint.lt`.
-/
import ImportCensus.Proofs.Json.Scalar
import ImportCensus.Proofs.Json.Skip
import ImportCensus.Registry.DownloadPoint
import Mathlib.Data.List.DropRight

namespace ImportCensus.Registry

open Json

variable {gaps : List Nat} {s r behind rest text : List Char} {n : Nat} {isFirst : Bool} {counts : List Nat}
  {seen seen' count : Option Nat}

/-! ### Counts -/

/-- What is not wanted is never taken for what was wanted. -/
theorem unwanted_ne_ok {α : Type} {wanted : Wanted} {c : Char} {a : α} :
    unwanted gaps wanted c s ≠ .ok a := by
  have hmisfit : ∀ cause rest, misfit (α := α) cause rest ≠ .ok a := fun _ _ => nofun
  rw [unwanted]
  repeat' split
  all_goals first | exact hmisfit _ _ | nofun

/-- A count is read as an integer, which is then known not to be negative. -/
theorem exists_number_of_readCount (h : readCount gaps s = .ok (n, rest)) :
    ∃ i : Int, readNumber (skipSpace s) = .ok (.int i, rest) ∧ i.toNat = n := by
  rw [readCount] at h
  split at h
  · cases h
  · next hs =>
    split at h
    · split at h
      · next i _ hread =>
        split at h
        · cases h
          exact ⟨i, hs ▸ hread, rfl⟩
        · cases h
      · cases h
      · cases h
    · exact absurd h unwanted_ne_ok

/-- A count that is read is a number of 64 bits. -/
theorem lt_of_readCount (h : readCount gaps s = .ok (n, rest)) : n < UInt64.size := by
  obtain ⟨i, hread, rfl⟩ := exists_number_of_readCount h
  have hlt := lt_of_readNumber hread
  have hpositive : 0 < UInt64.size := by decide
  omega

theorem length_lt_of_readCount (h : readCount gaps s = .ok (n, rest)) : rest.length < s.length := by
  obtain ⟨i, hread, -⟩ := exists_number_of_readCount h
  exact Nat.lt_of_lt_of_le (length_lt_of_readNumber hread) (length_skipSpace_le s)

/-! ### Entries of an object -/

/-- An entry of an object behind the quote of its key, what it counts, and what is behind it. -/
inductive PointEntry (gaps : List Nat) (s : List Char) : Option Nat → List Char → Prop
  /-- The entry for the count. -/
  | counted {key value rest : List Char} {n : Nat}
      (hkey : readWholeText gaps s = .ok (downloadsKey.toList, key)) (hcolon : skipSpace key = ':' :: value)
      (hcount : readCount gaps value = .ok (n, rest)) : PointEntry gaps s (some n) rest
  /-- Any other entry, whatever its value is. -/
  | skipped {name key value rest : List Char} (hkey : readWholeText gaps s = .ok (name, key))
      (hname : name ≠ downloadsKey.toList) (hcolon : skipSpace key = ':' :: value)
      (hskip : skipValue value = .ok rest) : PointEntry gaps s none rest

/-- Does an entry start in a text, so that this is behind the quote of its key?  There is a comma before all but
the first one. -/
def StartsEntry (isFirst : Bool) (s r : List Char) : Prop :=
  if isFirst then skipSpace s = '"' :: r
  else ∃ behind, skipSpace s = ',' :: behind ∧ skipSpace behind = '"' :: r

/-- The entries of an object up to its end, and all that they count. -/
inductive PointEntries (gaps : List Nat) : Bool → List Char → List Nat → List Char → Prop
  | done {isFirst : Bool} {s rest : List Char} (hend : skipSpace s = '\x7d' :: rest) :
      PointEntries gaps isFirst s [] rest
  | entry {isFirst : Bool} {s r behind rest : List Char} {count : Option Nat} {counts : List Nat}
      (hstart : StartsEntry isFirst s r) (hentry : PointEntry gaps r count behind)
      (hmore : PointEntries gaps false behind counts rest) :
      PointEntries gaps isFirst s (count.toList ++ counts) rest

/-- What a reader of an entry has seen is what it had seen and what the entry counts, and that is no second
count. -/
theorem readPointEntry_eq_ok_iff :
    readPointEntry gaps seen s = .ok (seen', rest) ↔
      ∃ count, PointEntry gaps s count rest ∧ seen'.toList = seen.toList ++ count.toList := by
  constructor
  · intro h
    simp only [readPointEntry, bind_eq_ok_iff, mapError_eq_ok_iff] at h
    obtain ⟨⟨name, key⟩, hkey, h⟩ := h
    dsimp only at h
    split at h
    · -- a second count is refused at its key
      obtain ⟨_, ⟨⟩, -⟩ := exists_of_bind_ok h
    · next hfirst =>
      split at h
      · cases h
      · next hcolon =>
        split at h
        · next hname =>
          obtain ⟨⟨n, rest⟩, hcount, h⟩ := exists_of_bind_ok h
          cases h
          have hseen : seen = none := by simpa [hname] using hfirst
          exact ⟨some n, .counted (hname ▸ hkey) hcolon hcount, by simp [hseen]⟩
        · next hname =>
          obtain ⟨rest, hskip, h⟩ := exists_of_bind_ok h
          cases h
          exact ⟨none, .skipped hkey hname hcolon hskip, by simp⟩
      · cases h
  · rintro ⟨count, hentry, hseen⟩
    cases hentry with
    | @counted key value _ n hkey hcolon hcount =>
      obtain ⟨rfl, rfl⟩ : seen = none ∧ seen' = some n := by
        cases seen <;> cases seen' <;> simp_all
      simp [readPointEntry, hkey, hcolon, hcount, Except.mapError, bind, Except.bind, pure, Except.pure]
    | skipped hkey hname hcolon hskip =>
      obtain rfl : seen' = seen := by
        cases seen <;> cases seen' <;> simp_all
      simp [readPointEntry, hkey, hname, hcolon, hskip, Except.mapError, bind, Except.bind, pure, Except.pure]

/-! ### Objects and lists -/

/-- Where the entries end, what has been seen is all that they count. -/
theorem readPointEntries_of_end {room : Nat} (hend : skipSpace s = '\x7d' :: r) :
    readPointEntries gaps room isFirst seen s = .ok (n, rest) ↔ seen = some n ∧ r = rest := by
  cases seen <;> cases room <;> simp [readPointEntries, hend, misfit]

/-- Where an entry starts, the entry is read, and then the others. -/
theorem readPointEntries_of_startsEntry {room : Nat} (h : StartsEntry isFirst s r) :
    readPointEntries gaps (room + 1) isFirst seen s
      = readPointEntry gaps seen r >>= fun p => readPointEntries gaps room false p.1 p.2 := by
  cases isFirst with
  | true =>
    have hquote : skipSpace s = '"' :: r := h
    rw [readPointEntries.eq_def, hquote]
    rfl
  | false =>
    obtain ⟨behind, hcomma, hquote⟩ := h
    rw [readPointEntries.eq_def, hcomma]
    simp [hquote]

/-- What a reader of entries has seen at the end is what it had seen and what the entries count, and that is one
count. -/
theorem exists_pointEntries_of_read {room : Nat} (h : readPointEntries gaps room isFirst seen s = .ok (n, rest)) :
    ∃ counts, PointEntries gaps isFirst s counts rest ∧ seen.toList ++ counts = [n] := by
  induction room generalizing isFirst seen s with
  | zero =>
    have hread := h
    rw [readPointEntries.eq_def] at h
    split at h
    · cases h
    · next hend =>
      obtain ⟨rfl, rfl⟩ := (readPointEntries_of_end hend).1 hread
      exact ⟨[], .done hend, rfl⟩
    · cases h
    · contradiction
  | succ room ih =>
    -- wherever the entry starts, the others are read with what has been seen behind it
    have hentry : ∀ {r : List Char}, StartsEntry isFirst s r →
        readPointEntries gaps (room + 1) isFirst seen s = .ok (n, rest) →
        ∃ counts, PointEntries gaps isFirst s counts rest ∧ seen.toList ++ counts = [n] := by
      intro r hstart h
      rw [readPointEntries_of_startsEntry hstart] at h
      obtain ⟨⟨seen', behind⟩, hread, hmore⟩ := exists_of_bind_ok h
      obtain ⟨count, hentry, hseen'⟩ := readPointEntry_eq_ok_iff.1 hread
      obtain ⟨counts, hcounts, hseen⟩ := ih hmore
      exact ⟨count.toList ++ counts, .entry hstart hentry hcounts, by rw [← List.append_assoc, ← hseen', hseen]⟩
    have hread := h
    rw [readPointEntries.eq_def] at h
    split at h
    · cases h
    · next hend =>
      obtain ⟨rfl, rfl⟩ := (readPointEntries_of_end hend).1 hread
      exact ⟨[], .done hend, rfl⟩
    · contradiction
    · -- only a quote, behind a comma if there was an entry before, goes on
      next c r _ heq hs =>
      cases heq
      dsimp only at h
      split at h
      · next hfirst =>
        split at h
        · next hc => exact hentry (by simpa [StartsEntry, hfirst, hc] using hs) hread
        · cases h
      · next hfirst =>
        split at h
        · next hc =>
          split at h
          · cases h
          · next r hr => exact hentry (by simpa [StartsEntry, hfirst] using ⟨_, hc ▸ hs, hr⟩) hread
          · cases h
          · cases h
        · cases h

/-- An entry takes in a character at least. -/
theorem PointEntry.length_lt (h : PointEntry gaps s count rest) : rest.length < s.length := by
  have hbehind : ∀ {name key value : List Char}, readWholeText gaps s = .ok (name, key) →
      skipSpace key = ':' :: value → value.length < s.length := by
    intro name key value hkey hcolon
    obtain ⟨read, hread, hwhole⟩ := exists_of_bind_ok hkey
    have hlt := length_lt_of_readBody hread
    have hspace := length_skipSpace_le key
    rw [whole] at hwhole
    split at hwhole
    · cases hwhole
    · cases hwhole
      rw [hcolon, List.length_cons] at hspace
      dsimp only at hlt
      omega
  cases h with
  | counted hkey hcolon hcount => exact Nat.lt_trans (length_lt_of_readCount hcount) (hbehind hkey hcolon)
  | skipped hkey _ hcolon hskip => exact Nat.lt_of_le_of_lt (length_le_of_skipValue hskip) (hbehind hkey hcolon)

theorem StartsEntry.length_lt (h : StartsEntry isFirst s r) : r.length < s.length := by
  have hspace := length_skipSpace_le s
  cases isFirst with
  | true =>
    have hquote : skipSpace s = '"' :: r := h
    rw [hquote] at hspace
    exact hspace
  | false =>
    obtain ⟨behind, hcomma, hquote⟩ := h
    have hbehind := length_skipSpace_le behind
    rw [hcomma, List.length_cons] at hspace
    rw [hquote, List.length_cons] at hbehind
    omega

/-- The entries take in a character each, so there is room for all of them. -/
theorem PointEntries.read {room : Nat} (h : PointEntries gaps isFirst s counts rest) (hroom : s.length ≤ room)
    (hseen : seen.toList ++ counts = [n]) : readPointEntries gaps room isFirst seen s = .ok (n, rest) := by
  induction h generalizing room seen with
  | done hend =>
    obtain rfl : seen = some n := by
      cases seen <;> simp_all
    exact (readPointEntries_of_end hend).2 ⟨rfl, rfl⟩
  | @entry _ s r behind _ count counts hstart hentry hmore ih =>
    have hr := hstart.length_lt
    have hbehind := hentry.length_lt
    obtain ⟨room, rfl⟩ : ∃ room', room = room' + 1 := ⟨room - 1, by omega⟩
    -- the entry and those behind it count once, so the entry is read whatever has been seen
    obtain ⟨seen', hseen'⟩ : ∃ seen' : Option Nat, seen'.toList = seen.toList ++ count.toList := by
      cases seen <;> cases count <;> simp_all
    rw [readPointEntries_of_startsEntry hstart, readPointEntry_eq_ok_iff.2 ⟨count, hentry, hseen'⟩]
    exact ih (by omega) (by rw [hseen', List.append_assoc, hseen])

/-- An answer that counts, and what it counts. -/
inductive IsPoint (gaps : List Nat) (text : List Char) (n : Nat) : Prop
  /-- An object with one entry for the count. -/
  | object {r rest : List Char} (hopen : skipSpace text = '\x7b' :: r) (hentries : PointEntries gaps true r [n] rest)
      (hend : skipSpace rest = [])
  /-- A list with nothing but the count. -/
  | list {r rest behind : List Char} (hopen : skipSpace text = '[' :: r) (hcount : readCount gaps r = .ok (n, rest))
      (hclose : skipSpace rest = ']' :: behind) (hend : skipSpace behind = [])

/-- Blanks before a count are skipped, however often they are looked for. -/
theorem readCount_skipSpace : readCount gaps (skipSpace s) = readCount gaps s := by
  rw [readCount, readCount, skipSpace, skipSpace, List.dropWhile_idempotent]

theorem readPointList_eq_ok_iff :
    readPointList gaps s = .ok (n, rest) ↔
      ∃ behind, readCount gaps s = .ok (n, behind) ∧ skipSpace behind = ']' :: rest := by
  constructor
  · intro h
    rw [readPointList] at h
    split at h
    · cases h
    · cases h
    · rw [readCount_skipSpace] at h
      obtain ⟨⟨count, behind⟩, hcount, h⟩ := exists_of_bind_ok h
      dsimp only at h
      split at h
      · cases h
      · next hclose =>
        cases h
        exact ⟨behind, hcount, hclose⟩
      · split at h <;> cases h
      · cases h
  · rintro ⟨behind, hcount, hclose⟩
    rw [readPointList]
    split
    · next hs =>
      obtain ⟨i, hread, -⟩ := exists_number_of_readCount hcount
      rw [hs] at hread
      cases hread
    · next hs =>
      obtain ⟨i, hread, -⟩ := exists_number_of_readCount hcount
      rw [hs] at hread
      cases hread
    · rw [readCount_skipSpace]
      simp [hcount, hclose, bind, Except.bind, pure, Except.pure]

theorem readEnd_eq_ok_iff {count : Nat} : readEnd count s = .ok n ↔ count = n ∧ skipSpace s = [] := by
  rw [readEnd]
  split
  · next hs => simp [hs]
  · next hs => exact iff_of_false nofun fun h => hs h.2

/-- **Which answers count downloads, and what.** -/
theorem downloadsOf_eq_ok_iff : downloadsOf gaps text = .ok n ↔ IsPoint gaps text n := by
  constructor
  · intro h
    rw [downloadsOf] at h
    split at h
    · cases h
    · next hopen =>
      obtain ⟨⟨count, rest⟩, hlist, hend⟩ := exists_of_bind_ok h
      obtain ⟨hn, hend⟩ := readEnd_eq_ok_iff.1 hend
      obtain ⟨behind, hcount, hclose⟩ := readPointList_eq_ok_iff.1 hlist
      exact .list hopen (hn ▸ hcount) hclose hend
    · next hopen =>
      obtain ⟨⟨count, rest⟩, hobject, hend⟩ := exists_of_bind_ok h
      obtain ⟨hn, hend⟩ := readEnd_eq_ok_iff.1 hend
      obtain ⟨counts, hentries, hcounts⟩ := exists_pointEntries_of_read hobject
      obtain rfl : counts = [n] := hn ▸ hcounts
      exact .object hopen hentries hend
    · obtain ⟨_, hunwanted, -⟩ := exists_of_bind_ok h
      exact absurd hunwanted unwanted_ne_ok
  · intro h
    rw [downloadsOf]
    cases h with
    | object hopen hentries hend =>
      have hread : readPointEntries gaps _ true none _ = .ok (n, _) := hentries.read (Nat.le_refl _) rfl
      simp only [hopen, hread]
      exact readEnd_eq_ok_iff.2 ⟨rfl, hend⟩
    | list hopen hcount hclose hend =>
      simp only [hopen, readPointList_eq_ok_iff.2 ⟨_, hcount, hclose⟩]
      exact readEnd_eq_ok_iff.2 ⟨rfl, hend⟩

/-! ### The size of a count -/

theorem PointEntries.lt (h : PointEntries gaps isFirst s counts rest) : ∀ n ∈ counts, n < UInt64.size := by
  induction h with
  | done hend => exact fun n hn => absurd hn List.not_mem_nil
  | entry hstart hentry hmore ih =>
    intro n hn
    rcases List.mem_append.1 hn with hn | hn
    · cases hentry with
      | counted _ _ hcount =>
        obtain rfl := List.mem_singleton.1 hn
        exact lt_of_readCount hcount
      | skipped => exact absurd hn List.not_mem_nil
    · exact ih n hn

/-- A count of downloads is a number of 64 bits. -/
theorem IsPoint.lt (h : IsPoint gaps text n) : n < UInt64.size := by
  cases h with
  | object _ hentries _ => exact hentries.lt n (List.mem_singleton_self n)
  | list _ hcount _ _ => exact lt_of_readCount hcount

end ImportCensus.Registry
