/-
ImportCensus/Proofs/Registry/Activity.lean

What can be seen of a batch from outside: requests are made, and they are answered.

An event shows the request that it answers and the requests that it adds to the log.  A step of a batch is
one of four things, each of which has its place in the batch and shows its activities (`shows_of_step`); what
a step keeps is proved from these four.
-/
import ImportCensus.Registry.Batch

namespace ImportCensus.Registry

/-! ### Activities -/

/-- The package that a request is about. -/
def Request.name : Request → PackageName
  | metadata name | downloads name => name

/-- The request that a package in work waits for. -/
def Pending.request : Pending → Request
  | metadata name => .metadata name
  | downloads name _ => .downloads name

/-- What can be seen of a batch: a request is made, or it is answered. -/
inductive Activity where
  | asked (request : Request)
  | answered (request : Request)
  deriving DecidableEq, Repr

namespace Activity

/-- The package that an activity is about. -/
def name : Activity → PackageName
  | asked request | answered request => request.name

/-- The request that is made, if one is. -/
def asked? : Activity → Option Request
  | asked request => some request
  | answered _ => none

/-- The activities about one package. -/
def about (name : PackageName) (seen : List Activity) : List Activity :=
  seen.filter (·.name = name)

/-- The requests that have been made and not been answered. -/
def openRequests (seen : List Activity) : List Request :=
  (seen.filterMap asked?).filter fun r => answered r ∉ seen

end Activity

open Activity

namespace Batch

/-- What is seen of an event: the request that it answers, and the requests that it adds to the log. -/
def seenAt (b b' : Batch) (e : Event) : List Activity :=
  (match e with
    | .begin => []
    | .answer position => (b.pending[position]?.map fun p => answered p.request).toList) ++
  (b'.requests.drop b.requests.length).map asked

/-- All that is seen of a run. -/
def history (source : Source) (limit : Nat) : Batch → List Event → List Activity
  | _, [] => []
  | b, e :: es =>
    match b.step source limit e with
    | some b' => seenAt b b' e ++ history source limit b' es
    | none => []

variable {source : Source} {limit : Nat} {b b' : Batch}

/-! ### Events -/

/-- What one event does to a batch, and what is seen of it. -/
inductive Shows (limit : Nat) (source : Source) (b : Batch) : List Activity → Batch → Prop
  | begun {name rest} (hwaiting : b.waiting = name :: rest)
      (hroom : b.pending.length < capacity limit) :
      Shows limit source b [asked (.metadata name)]
        { b with
          waiting := rest
          pending := b.pending ++ [.metadata name]
          requests := b.requests ++ [.metadata name]
          peak := max b.peak (b.pending.length + 1) }
  | recorded {before name behind record}
      (hpending : b.pending = before ++ .metadata name :: behind)
      (hanswer : source.metadata name = .ok record) :
      Shows limit source b [answered (.metadata name), asked (.downloads name)]
        { b with
          pending := before ++ .downloads name record :: behind
          requests := b.requests ++ [.downloads name] }
  | failed {before name behind failure}
      (hpending : b.pending = before ++ .metadata name :: behind)
      (hanswer : source.metadata name = .error failure) :
      Shows limit source b [answered (.metadata name)]
        { b with
          pending := before ++ behind
          settled := b.settled ++ [.degraded name failure.message] }
  | completed {before name record behind}
      (hpending : b.pending = before ++ .downloads name record :: behind) :
      Shows limit source b [answered (.downloads name)]
        { b with
          pending := before ++ behind
          settled := b.settled ++ [settledRecord source name record] }

theorem shows_of_begin? (h : b.begin? limit = some b') :
    Shows limit source b (seenAt b b' .begin) b' := by
  rw [begin?] at h
  split at h
  · cases h
  · next name rest hwaiting =>
    split at h
    · next hroom =>
      cases h
      have hbegun : Shows limit source b _ _ := .begun hwaiting hroom
      simpa [seenAt] using hbegun
    · cases h

theorem shows_of_answer? {position : Nat} (h : b.answer? source position = some b') :
    Shows limit source b (seenAt b b' (.answer position)) b' := by
  rw [answer?] at h
  cases hp : b.pending[position]? with
  | none =>
    rw [hp] at h
    cases h
  | some p =>
    rw [hp] at h
    obtain ⟨hlt, hget⟩ := List.getElem?_eq_some_iff.1 hp
    have hsplit : b.pending = b.pending.take position ++ p :: b.pending.drop (position + 1) := by
      rw [← hget, List.getElem_cons_drop, List.take_append_drop]
    cases p with
    | metadata name =>
      cases hanswer : source.metadata name with
      | ok record =>
        simp only [hanswer] at h
        cases h
        rw [List.set_eq_take_append_cons_drop, if_pos hlt]
        simpa [seenAt, hp, Pending.request] using Shows.recorded hsplit hanswer
      | error failure =>
        simp only [hanswer] at h
        cases h
        rw [List.eraseIdx_eq_take_drop_succ]
        simpa [seenAt, hp, Pending.request] using Shows.failed hsplit hanswer
    | downloads name record =>
      cases h
      rw [List.eraseIdx_eq_take_drop_succ]
      simpa [seenAt, hp, Pending.request] using Shows.completed hsplit

/-- An event that is possible shows what it does. -/
theorem shows_of_step {e : Event} (h : b.step source limit e = some b') :
    Shows limit source b (seenAt b b' e) b' := by
  cases e with
  | begin => exact shows_of_begin? h
  | answer position => exact shows_of_answer? h

end Batch

end ImportCensus.Registry
