/-
ImportCensus/Proofs/Source/Pattern.lean

Search patterns and what they find.  A pattern is a regular expression with word boundaries, runs of a
class of characters and numbered groups.  Its meaning is the list of all ways in which it can be read
from a position of a text, the most preferred way first:

    ways text p i

An alternative prefers its left side, a greedy run the longest reading and a lazy run the shortest, and
in a sequence the first part is preferred over the second.  Word boundaries look at the whole text, so a
position in the middle of a text is not the same as the start of its remainder.

A search goes through a text from left to right.  The next match starts at the first position from which
the pattern can be read at all, and it is the most preferred way from there; the search goes on where
the match stops.  `MatchSequence` says this of a list of matches.

Main statements: there is at most one match sequence (`MatchSequence.unique`), and what ways there are
is a matter of the parts of a pattern (`mem_ways_seq`, `mem_ways_exactly`, `mem_ways_many`), whatever
their order.
-/
import ImportCensus.Source.Reference
import Mathlib.Data.List.Basic

namespace ImportCensus.Source

open Text

/-! ### Patterns -/

/-- A class of characters. -/
inductive CharClass where
  | blank
  /-- All characters but the listed ones. -/
  | except (cs : List Char)
  deriving DecidableEq, Repr

/-- Does a class hold a character? -/
def CharClass.has : CharClass → Char → Bool
  | blank, c => isBlank c
  | except cs, c => !cs.contains c

/-- A search pattern. -/
inductive Pattern where
  /-- The place between a word character and another character, or an end of the text. -/
  | boundary
  | exactly (word : List Char)
  /-- Any number of characters of a class. -/
  | many (cls : CharClass) (greedy : Bool)
  | seq (p q : Pattern)
  | either (p q : Pattern)
  /-- What `p` reads is remembered under a number. -/
  | group (number : Nat) (p : Pattern)
  deriving DecidableEq, Repr

/-- A character as it is written inside a pattern. -/
def writtenChar : Char → String
  | '(' => "\\("
  | ')' => "\\)"
  | '\r' => "\\r"
  | '\n' => "\\n"
  | c => c.toString

/-- The usual notation of a class. -/
def CharClass.written : CharClass → String
  | blank => "\\s"
  | except cs => "[^" ++ String.join (cs.map writtenChar) ++ "]"

/-- The usual notation of a pattern. -/
def Pattern.written : Pattern → String
  | boundary => "\\b"
  | exactly word => String.join (word.map writtenChar)
  | many cls greedy => cls.written ++ (if greedy then "*" else "*?")
  | seq p q => p.written ++ q.written
  | either p q => "(?:" ++ p.written ++ "|" ++ q.written ++ ")"
  | group _ p => "(" ++ p.written ++ ")"

/-- The part of a text that a group has read. -/
structure Group where
  number : Nat
  start : Nat
  stop : Nat
  deriving DecidableEq, Repr

/-- One way in which a pattern can be read: where it stops, and what its groups have read. -/
structure Way where
  stop : Nat
  groups : List Group
  deriving DecidableEq, Repr

/-! ### Ways -/

/-- Is the character before a position a word character? -/
def wordBefore (text : List Char) : Nat → Bool
  | 0 => false
  | i + 1 => text[i]?.any isWord

/-- Is there a word boundary at a position of the whole text? -/
def isBoundary (text : List Char) (i : Nat) : Bool :=
  wordBefore text i != startsInWord (text.drop i)

/-- A way of reading one pattern, and behind it a way of reading another one. -/
def Way.andThen (a b : Way) : Way :=
  ⟨b.stop, a.groups ++ b.groups⟩

namespace Pattern

/-- All ways in which a pattern can be read from a position, the most preferred one first. -/
def ways (text : List Char) : Pattern → Nat → List Way
  | boundary, i => if isBoundary text i then [⟨i, []⟩] else []
  | exactly word, i => if word.isPrefixOf (text.drop i) then [⟨i + word.length, []⟩] else []
  | many cls greedy, i =>
    let counts := List.range (((text.drop i).takeWhile cls.has).length + 1)
    (if greedy then counts.reverse else counts).map fun n => ⟨i + n, []⟩
  | seq p q, i => (p.ways text i).flatMap fun a => (q.ways text a.stop).map a.andThen
  | either p q, i => p.ways text i ++ q.ways text i
  | group number p, i => (p.ways text i).map fun a => ⟨a.stop, ⟨number, i, a.stop⟩ :: a.groups⟩

variable {text : List Char} {i : Nat} {w : Way} {p q : Pattern}

theorem mem_ways_boundary : w ∈ boundary.ways text i ↔ isBoundary text i = true ∧ w = ⟨i, []⟩ := by
  simp only [ways]
  split <;> simp_all

theorem mem_ways_seq :
    w ∈ (seq p q).ways text i ↔
      ∃ a ∈ p.ways text i, ∃ b ∈ q.ways text a.stop, w = a.andThen b := by
  simp only [ways, List.mem_flatMap, List.mem_map, eq_comm]

theorem mem_ways_either :
    w ∈ (either p q).ways text i ↔ w ∈ p.ways text i ∨ w ∈ q.ways text i := by
  simp only [ways, List.mem_append]

theorem mem_ways_group {number : Nat} :
    w ∈ (group number p).ways text i ↔
      ∃ a ∈ p.ways text i, w = ⟨a.stop, ⟨number, i, a.stop⟩ :: a.groups⟩ := by
  simp only [ways, List.mem_map, eq_comm]

/-- A word is read where the text goes on with it. -/
theorem mem_ways_exactly {word : List Char} :
    w ∈ (exactly word).ways text i ↔
      ∃ rest, text.drop i = word ++ rest ∧ w = ⟨i + word.length, []⟩ := by
  simp only [ways]
  split
  · next h =>
    obtain ⟨rest, hrest⟩ := List.isPrefixOf_iff_prefix.1 h
    constructor
    · intro hw
      exact ⟨rest, hrest.symm, List.mem_singleton.1 hw⟩
    · rintro ⟨_, -, rfl⟩
      exact List.mem_singleton.2 rfl
  · next h =>
    constructor
    · intro hw
      cases hw
    · rintro ⟨rest, hrest, -⟩
      exact absurd (List.isPrefixOf_iff_prefix.2 ⟨rest, hrest.symm⟩) h

/-- A run reads any number of characters of its class, greedy or not; only the order differs. -/
theorem mem_ways_many {cls : CharClass} {greedy : Bool} :
    w ∈ (many cls greedy).ways text i ↔
      ∃ run rest, text.drop i = run ++ rest ∧ (∀ c ∈ run, cls.has c = true) ∧
        w = ⟨i + run.length, []⟩ := by
  have hcount : w ∈ (many cls greedy).ways text i ↔
      ∃ n ≤ ((text.drop i).takeWhile cls.has).length, w = ⟨i + n, []⟩ := by
    cases greedy <;>
      simp only [ways, Bool.false_eq_true, if_true, if_false, List.mem_map, List.mem_reverse,
        List.mem_range, Nat.lt_add_one_iff, eq_comm]
  rw [hcount]
  constructor
  · rintro ⟨n, hn, rfl⟩
    refine ⟨((text.drop i).takeWhile cls.has).take n,
      ((text.drop i).takeWhile cls.has).drop n ++ (text.drop i).dropWhile cls.has, ?_, ?_, ?_⟩
    · rw [← List.append_assoc, List.take_append_drop, List.takeWhile_append_dropWhile]
    · intro c hc
      exact List.all_eq_true.1 List.all_takeWhile c (List.mem_of_mem_take hc)
    · rw [List.length_take, Nat.min_eq_left hn]
  · rintro ⟨run, rest, hsplit, hrun, rfl⟩
    refine ⟨run.length, ?_, rfl⟩
    rw [hsplit, List.takeWhile_append_of_pos hrun, List.length_append]
    exact Nat.le_add_right _ _

end Pattern

/-! ### Searches -/

/-- A place where a pattern was found, and how it was read there. -/
structure Match where
  start : Nat
  way : Way
  deriving DecidableEq, Repr

/-- The matches that a search finds from a position on.  A search goes on where a match stops, so a match
has to read something. -/
inductive MatchSequence (text : List Char) (p : Pattern) : Nat → List Match → Prop
  | done {i : Nat} (hnone : ∀ j, i ≤ j → j ≤ text.length → p.ways text j = []) :
      MatchSequence text p i []
  | next {i j : Nat} {w : Way} {ms : List Match} (hle : i ≤ j) (hlen : j ≤ text.length)
      (hskip : ∀ k, i ≤ k → k < j → p.ways text k = [])
      (hfirst : (p.ways text j).head? = some w) (hreads : j < w.stop)
      (hrest : MatchSequence text p w.stop ms) :
      MatchSequence text p i (⟨j, w⟩ :: ms)

namespace MatchSequence

variable {text : List Char} {p : Pattern} {i : Nat} {ms ms' : List Match}

/-- A position from which nothing can be read does not matter to a search. -/
theorem skip (hi : p.ways text i = []) (h : MatchSequence text p (i + 1) ms) :
    MatchSequence text p i ms := by
  cases h with
  | done hnone =>
    refine .done fun j hij hj => ?_
    rcases Nat.eq_or_lt_of_le hij with rfl | hlt
    · exact hi
    · exact hnone j hlt hj
  | next hle hlen hskip hfirst hreads hrest =>
    refine .next (Nat.le_of_succ_le hle) hlen (fun k hik hk => ?_) hfirst hreads hrest
    rcases Nat.eq_or_lt_of_le hik with rfl | hlt
    · exact hi
    · exact hskip k hlt hk

/-- Two searches cannot find their first match at two positions. -/
theorem start_le {j j' : Nat} {w : Way} (hle : i ≤ j)
    (hfirst : (p.ways text j).head? = some w)
    (hskip : ∀ k, i ≤ k → k < j' → p.ways text k = []) : j' ≤ j := by
  by_contra hlt
  rw [hskip j hle (Nat.lt_of_not_le hlt)] at hfirst
  cases hfirst

/-- **A search finds one sequence of matches.** -/
theorem unique (h : MatchSequence text p i ms) (h' : MatchSequence text p i ms') : ms = ms' := by
  induction h generalizing ms' with
  | done hnone =>
    cases h' with
    | done => rfl
    | next hle hlen _ hfirst =>
      rw [hnone _ hle hlen] at hfirst
      cases hfirst
  | next hle hlen hskip hfirst _ _ ih =>
    cases h' with
    | done hnone =>
      rw [hnone _ hle hlen] at hfirst
      cases hfirst
    | next hle' _ hskip' hfirst' _ hrest' =>
      obtain rfl := Nat.le_antisymm (start_le hle' hfirst' hskip) (start_le hle hfirst hskip')
      obtain rfl := Option.some.inj (hfirst.symm.trans hfirst')
      rw [ih hrest']

end MatchSequence

end ImportCensus.Source
