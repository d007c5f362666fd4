/-
ImportCensus/Registry/Batch.lean

Asking about many packages, several of them at a time.

A batch moves in steps.  Either a package that still waits is started, if fewer packages are in work than
the limit allows, and its record is asked for; or one of the requests in work is answered.  An answered
record leads to the question for the downloads, and a failed one to a record that says why.  Which
request is answered next is left open: every order of answers is a run of `step`, and `fetch` follows one
of them.
-/
import ImportCensus.Order.SortedSet
import ImportCensus.Registry.Source
import ImportCensus.Usage

namespace ImportCensus.Registry

/-! ### One package -/

/-- The record of a package as it is kept once the downloads are known or not to be had. -/
def settledRecord (source : Source) (name : PackageName) (record : PackageMetadata) :
    PackageMetadata :=
  { record with name, weeklyDownloads := (source.downloads name).toOption.getD 0 }

/-- What becomes known about a package: its record, or a record that says why there is none. -/
def recordOf (source : Source) (name : PackageName) : PackageMetadata :=
  match source.metadata name with
  | .ok record => settledRecord source name record
  | .error failure => .degraded name failure.message

/-! ### Batches -/

/-- A package in work: its record is asked for, or its downloads are. -/
inductive Pending where
  | metadata (name : PackageName)
  | downloads (name : PackageName) (record : PackageMetadata)
  deriving Repr

/-- The package that a request in work is about. -/
def Pending.name : Pending → PackageName
  | metadata name | downloads name _ => name

/-- How far a batch has come. -/
structure Batch where
  waiting : List PackageName
  /-- The packages in work, the one that was started first in front. -/
  pending : List Pending
  settled : List PackageMetadata
  /-- All requests so far, in the order in which they were made. -/
  requests : List Request
  /-- The greatest number of packages that were in work together. -/
  peak : Nat

namespace Batch

/-- A batch that has not started. -/
def start (packages : List PackageName) : Batch :=
  ⟨packages, [], [], [], 0⟩

/-- How many packages may be in work together. -/
def capacity (limit : Nat) : Nat :=
  max limit 1

/-- What happens next: a package is started, or the request at a position is answered. -/
inductive Event where
  | begin
  | answer (position : Nat)
  deriving DecidableEq, Repr

/-- Starts the next package, if there is one and there is room for it. -/
def begin? (limit : Nat) (b : Batch) : Option Batch :=
  match b.waiting with
  | [] => none
  | name :: rest =>
    if b.pending.length < capacity limit then
      some
        { b with
          waiting := rest
          pending := b.pending ++ [.metadata name]
          requests := b.requests ++ [.metadata name]
          peak := max b.peak (b.pending.length + 1) }
    else none

/-- Answers the request at a position, if there is one. -/
def answer? (source : Source) (position : Nat) (b : Batch) : Option Batch :=
  match b.pending[position]? with
  | none => none
  | some (.metadata name) =>
    match source.metadata name with
    | .ok record =>
      some
        { b with
          pending := b.pending.set position (.downloads name record)
          requests := b.requests ++ [.downloads name] }
    | .error failure =>
      some
        { b with
          pending := b.pending.eraseIdx position
          settled := b.settled ++ [.degraded name failure.message] }
  | some (.downloads name record) =>
    some
      { b with
        pending := b.pending.eraseIdx position
        settled := b.settled ++ [settledRecord source name record] }

/-- The batch after an event, if the event is possible. -/
def step (source : Source) (limit : Nat) (b : Batch) : Event → Option Batch
  | .begin => b.begin? limit
  | .answer position => b.answer? source position

/-- The batch after several events, if all of them are possible. -/
def run (source : Source) (limit : Nat) (b : Batch) : List Event → Option Batch
  | [] => some b
  | e :: es => (b.step source limit e).bind fun b => run source limit b es

/-- Has every package been settled? -/
def isDone (b : Batch) : Bool :=
  b.waiting.isEmpty && b.pending.isEmpty

/-- The event that happens if packages are started as soon as there is room and requests are answered in
the order of their packages. -/
def next (limit : Nat) (b : Batch) : Event :=
  if !b.waiting.isEmpty && b.pending.length < capacity limit then .begin else .answer 0

/-- The batch after at most `steps` such events. -/
def advance (source : Source) (limit : Nat) : (steps : Nat) → Batch → Batch
  | 0, b => b
  | steps + 1, b =>
    match b.step source limit (b.next limit) with
    | some b => advance source limit steps b
    | none => b

/-- The records of the settled packages, with their alternatives. -/
def results (b : Batch) : MetadataMap :=
  MetadataMap.withAlternatives (.ofList (b.settled.map fun r => (r.name, r)))

/-- A batch that is done: each package takes three events at most. -/
def finished (source : Source) (limit : Nat) (packages : List PackageName) : Batch :=
  advance source limit (3 * packages.length) (start packages)

end Batch

/-- The records of packages, of which at most `limit` are asked about together. -/
def fetch (source : Source) (limit : Nat) (packages : PackageSet) : MetadataMap :=
  (Batch.finished source limit packages.toList).results

end ImportCensus.Registry
