/-
ImportCensus/Proofs/Registry/Batch.lean

What a batch of requests leaves behind, in whatever order its requests are answered.

A batch is a state machine, and every order of answers is one of its runs.  At each moment every package
waits, is in work or is settled, and what is settled is what the answers about that package alone say
(`Accounted`).  Each step keeps this, so each run does; and since each step brings the end nearer
(`effort`), no run is longer than three steps for each package and none stops before every package is
settled.

Main statement: the records are those of the packages asked about, each under its own name and made from
the two answers about it, for every run that comes to its end; and `fetch` is such a run
(`records_of_completed_run`).
-/
import ImportCensus.Proofs.Order.SortedMap
import ImportCensus.Proofs.Registry.Activity
import Mathlib.Data.List.Count

namespace ImportCensus.Registry

/-! ### One package -/

/-- The record that the two answers about a package make: how its own record and its own downloads
were answered is all that counts. -/
def recordFrom (name : PackageName) (metadata : Except Failure PackageMetadata)
    (downloads : Except Failure Nat) : PackageMetadata :=
  match metadata with
  | .error failure =>
    { PackageMetadata.degraded name failure.message with
      alternatives := PackageMetadata.alternativesFor name }
  | .ok record =>
    { record with
      name
      weeklyDownloads := match downloads with
        | .ok count => count
        | .error _ => 0
      alternatives := PackageMetadata.alternativesFor name }

@[simp] theorem recordOf_name (source : Source) (name : PackageName) :
    (recordOf source name).name = name := by
  rw [recordOf]
  split <;> rfl

theorem recordOf_of_ok {source : Source} {name : PackageName} {record : PackageMetadata}
    (h : source.metadata name = .ok record) :
    recordOf source name = settledRecord source name record := by
  rw [recordOf, h]

theorem recordOf_of_error {source : Source} {name : PackageName} {failure : Failure}
    (h : source.metadata name = .error failure) :
    recordOf source name = .degraded name failure.message := by
  rw [recordOf, h]

/-- With its alternatives, what becomes known about a package is what its two answers make. -/
theorem recordOf_withAlternatives (source : Source) (name : PackageName) :
    { recordOf source name with alternatives := PackageMetadata.alternativesFor name }
      = recordFrom name (source.metadata name) (source.downloads name) := by
  cases h : source.metadata name with
  | error failure => rw [recordOf_of_error h, recordFrom]
  | ok record =>
    rw [recordOf_of_ok h, settledRecord]
    cases source.downloads name <;> rfl

namespace Batch

variable {source : Source} {limit : Nat} {packages : List PackageName} {b b' : Batch}

/-! ### Steps -/

/-- What one event does to a batch. -/
inductive Moves (source : Source) (limit : Nat) (b : Batch) : Batch → Prop
  /-- A package that waited is asked about. -/
  | begun {name rest} (hwaiting : b.waiting = name :: rest)
      (hroom : b.pending.length < capacity limit) :
      Moves source limit b
        { b with
          waiting := rest
          pending := b.pending ++ [.metadata name]
          requests := b.requests ++ [.metadata name]
          peak := max b.peak (b.pending.length + 1) }
  /-- A record has come, and its downloads are asked for. -/
  | recorded {before name behind record}
      (hpending : b.pending = before ++ .metadata name :: behind)
      (hanswer : source.metadata name = .ok record) :
      Moves source limit b
        { b with
          pending := before ++ .downloads name record :: behind
          requests := b.requests ++ [.downloads name] }
  /-- There is no record, and the package is settled without one. -/
  | failed {before name behind failure}
      (hpending : b.pending = before ++ .metadata name :: behind)
      (hanswer : source.metadata name = .error failure) :
      Moves source limit b
        { b with
          pending := before ++ behind
          settled := b.settled ++ [.degraded name failure.message] }
  /-- The downloads have come or are not to be had, and the package is settled. -/
  | completed {before name record behind}
      (hpending : b.pending = before ++ .downloads name record :: behind) :
      Moves source limit b
        { b with
          pending := before ++ behind
          settled := b.settled ++ [settledRecord source name record] }

theorem Shows.moves {new : List Activity} (h : Shows limit source b new b') :
    Moves source limit b b' := by
  cases h with
  | begun hwaiting hroom => exact .begun hwaiting hroom
  | recorded hpending hanswer => exact .recorded hpending hanswer
  | failed hpending hanswer => exact .failed hpending hanswer
  | completed hpending => exact .completed hpending

/-- An event that is possible is one of the four moves. -/
theorem moves_of_step {e : Event} (h : b.step source limit e = some b') :
    Moves source limit b b' :=
  (shows_of_step h).moves

/-! ### What holds at each moment -/

/-- Every package is in one place, and whatever is known about it comes from its own answers. -/
structure Accounted (source : Source) (packages : List PackageName) (b : Batch) : Prop where
  /-- Each package waits, is in work or is settled. -/
  perm : (b.waiting ++ b.pending.map Pending.name ++ b.settled.map (·.name)).Perm packages
  /-- The record of a package whose downloads are asked for is the one it was answered with. -/
  pending : ∀ name record, .downloads name record ∈ b.pending → source.metadata name = .ok record
  /-- A package is settled as its answers say. -/
  settled : ∀ r ∈ b.settled, r = recordOf source r.name

theorem accounted_start (source : Source) (packages : List PackageName) :
    Accounted source packages (start packages) where
  perm := by simp [start]
  pending := by simp [start]
  settled := by simp [start]

/-- A package that was in work is settled, and stays accounted for. -/
theorem Accounted.settle {before behind : List Pending} {p : Pending}
    (h : Accounted source packages b) (hpending : b.pending = before ++ p :: behind) :
    Accounted source packages
      { b with
        pending := before ++ behind
        settled := b.settled ++ [recordOf source p.name] } := by
  refine ⟨?_, ?_, ?_⟩
  · apply List.Perm.trans _ h.perm
    rw [hpending, List.perm_iff_count]
    intro n
    simp only [List.map_append, List.count_append, List.count_cons, List.map_cons, List.map_nil,
      List.count_nil, recordOf_name]
    omega
  · intro name record hmem
    apply h.pending name record
    rw [hpending]
    rcases List.mem_append.1 hmem with hmem | hmem <;> simp [hmem]
  · intro r hr
    rcases List.mem_append.1 hr with hr | hr
    · exact h.settled r hr
    · rw [List.mem_singleton.1 hr, recordOf_name]

/-- Each move keeps every package in one place and settles it by its own answers. -/
theorem Moves.accounted (hmove : Moves source limit b b') (h : Accounted source packages b) :
    Accounted source packages b' := by
  cases hmove with
  | begun hwaiting hroom =>
    refine ⟨?_, ?_, h.settled⟩
    · apply List.Perm.trans _ h.perm
      rw [hwaiting, List.perm_iff_count]
      intro n
      simp only [List.map_append, List.count_append, List.count_cons, List.map_cons, List.map_nil,
        List.count_nil, Pending.name]
      omega
    · intro name record hmem
      rcases List.mem_append.1 hmem with hmem | hmem
      · exact h.pending name record hmem
      · cases List.mem_singleton.1 hmem
  | @recorded before name behind record hpending hanswer =>
    refine ⟨?_, ?_, h.settled⟩
    · have hperm := h.perm
      rw [hpending] at hperm
      simpa [Pending.name] using hperm
    · intro name' record' hmem
      rw [List.mem_append, List.mem_cons] at hmem
      rcases hmem with hmem | heq | hmem
      · exact h.pending name' record' (by simp [hpending, hmem])
      · cases heq
        exact hanswer
      · exact h.pending name' record' (by simp [hpending, hmem])
  | @failed before name behind failure hpending hanswer =>
    rw [← recordOf_of_error hanswer]
    exact h.settle hpending
  | @completed before name record behind hpending =>
    -- the record in work is the answered one, by the invariant
    have hanswer : source.metadata name = .ok record := h.pending name record (by simp [hpending])
    rw [← recordOf_of_ok hanswer]
    exact h.settle hpending

/-! ### How long a batch takes -/

/-- How many events a package in work still takes. -/
def effortOf : Pending → Nat
  | .metadata _ => 2
  | .downloads .. => 1

/-- How many events a batch takes at most: three for each package that waits, and those of the packages
in work. -/
def effort (b : Batch) : Nat :=
  3 * b.waiting.length + (b.pending.map effortOf).sum

/-- Each move brings the end nearer. -/
theorem Moves.effort_lt (h : Moves source limit b b') : b'.effort < b.effort := by
  cases h with
  | begun hwaiting =>
    simp [effort, hwaiting, effortOf]
    omega
  | recorded hpending =>
    simp [effort, hpending, effortOf]
  | failed hpending =>
    simp [effort, hpending, effortOf]
  | completed hpending =>
    simp [effort, hpending, effortOf]

/-- Unless everything is settled, the event that `fetch` waits for is possible, whatever the limit. -/
theorem isSome_step_next (hdone : b.isDone = false) :
    (b.step source limit (b.next limit)).isSome := by
  have hcapacity : 0 < capacity limit := by
    rw [capacity]
    omega
  rw [next]
  split
  · next h =>
    rw [Bool.and_eq_true, Bool.not_eq_true', decide_eq_true_iff] at h
    obtain ⟨hwaiting, hroom⟩ := h
    cases hw : b.waiting with
    | nil => simp [hw] at hwaiting
    | cons name rest => simp [step, begin?, hw, hroom]
  · next h =>
    have hpending : b.pending ≠ [] := by
      intro hnil
      simp only [isDone, hnil, List.isEmpty_nil, Bool.and_true] at hdone
      simp [hdone, hnil, hcapacity] at h
    obtain ⟨p, ps, hp⟩ := List.exists_cons_of_ne_nil hpending
    cases p with
    | downloads name record => simp [step, answer?, hp]
    | metadata name => cases hanswer : source.metadata name <;> simp [step, answer?, hp, hanswer]

/-- A batch that cannot go on has come to its end. -/
theorem isDone_of_stuck (h : b.step source limit (b.next limit) = none) : b.isDone := by
  cases hdone : b.isDone with
  | true => rfl
  | false =>
    have hsome : (b.step source limit (b.next limit)).isSome := isSome_step_next hdone
    rw [h] at hsome
    cases hsome

/-! ### Runs -/

/-- A run keeps what each move keeps, and its events use up the effort. -/
theorem accounted_of_run {events : List Event} (hrun : run source limit b events = some b')
    (h : Accounted source packages b) :
    Accounted source packages b' ∧ events.length + b'.effort ≤ b.effort := by
  -- by induction on the events; each of them is one move of the batch
  induction events generalizing b with
  | nil =>
    cases hrun
    exact ⟨h, by simp⟩
  | cons e es ih =>
    obtain ⟨c, hstep, hrest⟩ := Option.bind_eq_some_iff.1 hrun
    have hmove := moves_of_step hstep
    obtain ⟨hacc, hlen⟩ := ih hrest (hmove.accounted h)
    have hlt := hmove.effort_lt
    refine ⟨hacc, ?_⟩
    rw [List.length_cons]
    omega

/-- What `fetch` does is a run, and it comes to its end. -/
theorem exists_run_advance (steps : Nat) (hsteps : b.effort ≤ steps) :
    ∃ events, run source limit b events = some (advance source limit steps b) ∧
      (advance source limit steps b).isDone := by
  induction steps generalizing b with
  | zero =>
    refine ⟨[], rfl, ?_⟩
    cases hstep : b.step source limit (b.next limit) with
    | none => exact isDone_of_stuck hstep
    | some b' =>
      -- no effort is left for a further move
      have := (moves_of_step hstep).effort_lt
      omega
  | succ steps ih =>
    cases hstep : b.step source limit (b.next limit) with
    | some b' =>
      have hlt := (moves_of_step hstep).effort_lt
      obtain ⟨events, hrun, hdone⟩ := ih (b := b') (by omega)
      refine ⟨b.next limit :: events, ?_, ?_⟩
      · rw [run, hstep, advance, hstep]
        exact hrun
      · rw [advance, hstep]
        exact hdone
    | none =>
      rw [advance, hstep]
      exact ⟨[], rfl, isDone_of_stuck hstep⟩

/-! ### The records -/

/-- The entries of the settled packages, in the order in which they were settled. -/
def settledEntries (b : Batch) : List (PackageName × PackageMetadata) :=
  b.settled.map fun r => (r.name, r)

section Completed

variable (h : Accounted source packages b) (hdone : b.isDone) (hpackages : packages.Nodup)

include h hdone

/-- At the end the settled packages are those asked about. -/
theorem settled_perm : (b.settled.map (·.name)).Perm packages := by
  rw [isDone, Bool.and_eq_true, List.isEmpty_iff, List.isEmpty_iff] at hdone
  have hperm := h.perm
  rw [hdone.1, hdone.2] at hperm
  exact hperm

include hpackages

/-- No two records stand under one name, so none replaces another one. -/
theorem settledEntries_keyNe : b.settledEntries.Pairwise KeyNe := by
  have hnodup : (b.settled.map (·.name)).Nodup := (settled_perm h hdone).nodup_iff.2 hpackages
  rw [settledEntries, List.pairwise_map]
  rw [List.nodup_iff_pairwise_ne, List.pairwise_map] at hnodup
  apply hnodup.imp
  intro r s hne heq
  exact hne (Std.LawfulEqOrd.eq_of_compare heq)

/-- The records are kept under the names of their packages. -/
theorem keys_results_perm : b.results.keys.Perm packages := by
  have hentries := SortedMap.entries_ofList (settledEntries_keyNe h hdone hpackages)
  rw [results, MetadataMap.withAlternatives, SortedMap.keys_mapValues]
  calc (SortedMap.ofList b.settledEntries).keys
      |>.Perm (b.settledEntries.map Prod.fst) := hentries.map Prod.fst
    _ |>.Perm (b.settled.map (·.name)) := by rw [settledEntries, List.map_map]; exact .refl _
    _ |>.Perm packages := settled_perm h hdone

/-- The record under a name is made from the answers about that package. -/
theorem get?_results {name : PackageName} (hname : name ∈ packages) :
    b.results.get? name
      = some (recordFrom name (source.metadata name) (source.downloads name)) := by
  have hentries := SortedMap.entries_ofList (settledEntries_keyNe h hdone hpackages)
  obtain ⟨r, hr, rfl⟩ := List.mem_map.1 ((settled_perm h hdone).mem_iff.2 hname)
  have hmem : (r.name, r) ∈ (SortedMap.ofList b.settledEntries).entries := by
    apply hentries.mem_iff.2
    exact List.mem_map.2 ⟨r, hr, rfl⟩
  rw [← recordOf_withAlternatives, ← h.settled r hr, ← SortedMap.mem_entries_iff]
  exact List.mem_map.2 ⟨_, hmem, rfl⟩

end Completed

/-- Does a batch come out of a whole run for the packages, in some order of answers? -/
def Completes (source : Source) (limit : Nat) (packages : PackageSet) (b : Batch) : Prop :=
  ∃ events, run source limit (start packages.toList) events = some b ∧ b.isDone = true

theorem Completes.get?_results {packages : PackageSet} (h : Completes source limit packages b)
    {name : PackageName} (hname : name ∈ packages.toList) :
    b.results.get? name
      = some (recordFrom name (source.metadata name) (source.downloads name)) := by
  obtain ⟨events, hrun, hdone⟩ := h
  have hacc := (accounted_of_run hrun (accounted_start source packages.toList)).1
  exact Batch.get?_results hacc hdone packages.nodup_toList hname

theorem Completes.keys_results {packages : PackageSet} (h : Completes source limit packages b) :
    b.results.keys = packages.toList := by
  obtain ⟨events, hrun, hdone⟩ := h
  have hacc := (accounted_of_run hrun (accounted_start source packages.toList)).1
  -- both lists are in ascending order, so they are equal
  apply List.Perm.eq_of_pairwise _ (SortedMap.keys_sorted _) packages.sorted
    (keys_results_perm hacc hdone packages.nodup_toList)
  intro a c _ _ hac hca
  rw [Std.OrientedCmp.gt_of_lt hca] at hac
  cases hac

theorem effort_start (packages : PackageSet) :
    (start packages.toList).effort = 3 * packages.size := by
  simp [effort, start, SortedSet.size]

theorem completes_finished (source : Source) (limit : Nat) (packages : PackageSet) :
    Completes source limit packages (finished source limit packages.toList) :=
  exists_run_advance _ (Nat.le_of_eq (effort_start packages))

end Batch

open Batch

/-- **The record of a package depends on the answers about that package alone.**  For every source, every
limit and every set of packages:

  * a run, in whatever order its requests are answered, has at most three events for each package, and it
    can go on until every package is settled;
  * a whole run has records for just the packages asked about, each made from the two answers about its
    package;
  * what `fetch` returns are the records of a whole run;
  * two whole runs, of whatever sources, limits, packages and orders, have the same record under a name
    about which they were answered the same. -/
theorem records_of_completed_run (source : Source) (limit : Nat) (packages : PackageSet) :
    (∀ events b, run source limit (start packages.toList) events = some b →
      events.length ≤ 3 * packages.size ∧
      (b.isDone = false → ∃ e, (b.step source limit e).isSome)) ∧
    (∀ b, Completes source limit packages b →
      b.results.keys = packages.toList ∧
      ∀ name ∈ packages.toList, b.results.get? name
        = some (recordFrom name (source.metadata name) (source.downloads name))) ∧
    (∃ b, Completes source limit packages b ∧ fetch source limit packages = b.results) ∧
    (∀ b, Completes source limit packages b →
      ∀ source' limit' packages' b', Completes source' limit' packages' b' →
        ∀ name ∈ packages.toList, name ∈ packages'.toList →
          source'.metadata name = source.metadata name →
          source'.downloads name = source.downloads name →
          b'.results.get? name = b.results.get? name) := by
  refine ⟨?_, ?_, ⟨_, completes_finished source limit packages, rfl⟩, ?_⟩
  · intro events b hrun
    obtain ⟨-, hlen⟩ := accounted_of_run hrun (accounted_start source packages.toList)
    have heffort := effort_start packages
    exact ⟨by omega, fun hdone => ⟨_, isSome_step_next hdone⟩⟩
  · intro b h
    exact ⟨h.keys_results, fun name hname => h.get?_results hname⟩
  · intro b h source' limit' packages' b' h' name hname hname' hmetadata hdownloads
    rw [h.get?_results hname, h'.get?_results hname', hmetadata, hdownloads]

/-- A source that knows one package, and answers with a record of another name. -/
def foreignSource : Source where
  metadata name :=
    if name.text == "a" then .ok (.ofVersion ⟨"b", rfl⟩ "1.0.0") else .error (.noLatestVersion name.text)
  downloads _ := .ok 7

/-- The second package is answered first, and both records stand under their own names. -/
theorem records_of_foreignSource :
    ∃ b, Completes foreignSource 2 (.ofList [⟨"a", rfl⟩, ⟨"b", rfl⟩]) b ∧
      b.results.get? ⟨"a", rfl⟩
        = some { PackageMetadata.ofVersion ⟨"a", rfl⟩ "1.0.0" with weeklyDownloads := 7 } ∧
      b.results.get? ⟨"b", rfl⟩
        = some (.degraded ⟨"b", rfl⟩ "Package 'b' has no latest version") := by
  obtain ⟨b, hwhole⟩ : ∃ b, Completes foreignSource 2 (.ofList [⟨"a", rfl⟩, ⟨"b", rfl⟩]) b :=
    ⟨_, [.begin, .begin, .answer 1, .answer 0, .answer 0], rfl, rfl⟩
  obtain ⟨-, hrecords⟩ :=
    (records_of_completed_run foreignSource 2 (.ofList [⟨"a", rfl⟩, ⟨"b", rfl⟩])).2.1 b hwhole
  exact ⟨b, hwhole, hrecords _ (by decide), hrecords _ (by decide)⟩

end ImportCensus.Registry
