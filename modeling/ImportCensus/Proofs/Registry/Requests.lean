/-
ImportCensus/Proofs/Registry/Requests.lean

Which requests a batch makes, and when.

Of each package there is one thing to be seen from its start to its end, its `life`: its record is asked for
and answered, and then, if there is a record, its downloads are.  At each moment what has been seen of a
package is the part of its life that its place in the batch stands for (`Stands`): nothing while it waits,
the part up to the open request while it is in work, and all of it once it is settled.  Each event takes one
package from its place to the next one, and shows just the activities between the two.

Main statement: each request of a run is made once and in its turn, no other request is made, and no more
requests are open than the limit allows (`requests_of_run`).
-/
import ImportCensus.Proofs.Registry.Batch
import Mathlib.Data.List.Infix
import Mathlib.Data.List.Nodup

namespace ImportCensus.Registry

open Activity

/-! ### Lives -/

/-- What is seen of a package from its start to its end. -/
def life (source : Source) (name : PackageName) : List Activity :=
  [asked (.metadata name), answered (.metadata name)] ++
    match source.metadata name with
    | .ok _ => [asked (.downloads name), answered (.downloads name)]
    | .error _ => []

/-- What has been seen of a package in work. -/
def Pending.past : Pending → List Activity
  | metadata name => [asked (.metadata name)]
  | downloads name _ =>
    [asked (.metadata name), answered (.metadata name), asked (.downloads name)]

theorem life_of_ok {source : Source} {name : PackageName} {record : PackageMetadata}
    (h : source.metadata name = .ok record) :
    life source name = [asked (.metadata name), answered (.metadata name), asked (.downloads name),
      answered (.downloads name)] := by
  rw [life, h]
  rfl

theorem life_of_error {source : Source} {name : PackageName} {failure : Failure}
    (h : source.metadata name = .error failure) :
    life source name = [asked (.metadata name), answered (.metadata name)] := by
  rw [life, h]
  rfl

theorem nodup_life (source : Source) (name : PackageName) : (life source name).Nodup := by
  cases h : source.metadata name with
  | ok record => simp [life_of_ok h]
  | error failure => simp [life_of_error h]

namespace Activity

variable {name : PackageName} {a : Activity} {seen more : List Activity}

theorem about_append (name : PackageName) (seen more : List Activity) :
    about name (seen ++ more) = about name seen ++ about name more :=
  List.filter_append ..

theorem mem_about : a ∈ about name seen ↔ a ∈ seen ∧ a.name = name := by
  simp [about]

theorem about_of_forall_eq (h : ∀ a ∈ more, a.name = name) : about name more = more :=
  List.filter_eq_self.2 fun a ha => decide_eq_true (h a ha)

theorem about_of_forall_ne (h : ∀ a ∈ more, a.name ≠ name) : about name more = [] :=
  List.filter_eq_nil_iff.2 fun a ha => by simpa using h a ha

end Activity

namespace Batch

variable {source : Source} {limit : Nat} {packages : List PackageName} {b b' : Batch}
  {n : PackageName} {seen new s : List Activity}

/-! ### Places -/

/-- What has been seen of a package in its place of a batch. -/
inductive Stands (source : Source) (packages : List PackageName) (b : Batch) (n : PackageName) :
    List Activity → Prop
  | strange (hn : n ∉ packages) : Stands source packages b n []
  | waiting (hn : n ∈ b.waiting) : Stands source packages b n []
  | pending {p} (hp : p ∈ b.pending) (hname : p.name = n) : Stands source packages b n p.past
  | settled {r} (hr : r ∈ b.settled) (hname : r.name = n) :
      Stands source packages b n (life source n)

namespace Stands

/-- A package that keeps its place stands as it stood. -/
theorem mono (h : Stands source packages b n s) (hwaiting : n ∈ b.waiting → n ∈ b'.waiting)
    (hpending : ∀ p ∈ b.pending, p.name = n → p ∈ b'.pending)
    (hsettled : ∀ r ∈ b.settled, r ∈ b'.settled) : Stands source packages b' n s := by
  cases h with
  | strange hn => exact .strange hn
  | waiting hn => exact .waiting (hwaiting hn)
  | pending hp hname => exact .pending (hpending _ hp hname) hname
  | settled hr hname => exact .settled (hsettled _ hr) hname

/-- What has been seen of a package is the first part of its life. -/
theorem prefix_life (h : Stands source packages b n s) (hacc : Accounted source packages b) :
    s <+: life source n := by
  cases h with
  | strange | waiting => exact List.nil_prefix
  | @pending p hp hname =>
    subst hname
    cases p with
    | metadata name => exact ⟨_, rfl⟩
    | downloads name record =>
      rw [Pending.name, life_of_ok (hacc.pending name record hp)]
      exact ⟨[answered (.downloads name)], rfl⟩
  | settled => exact List.prefix_rfl

/-- Nothing is seen of a package that was not asked about. -/
theorem eq_nil_of_strange (h : Stands source packages b n s) (hacc : Accounted source packages b)
    (hn : n ∉ packages) : s = [] := by
  have hplaced : ∀ m ∈ b.waiting ++ b.pending.map Pending.name ++ b.settled.map (·.name), m ≠ n :=
    fun m hm heq => hn (heq ▸ hacc.perm.subset hm)
  cases h with
  | strange | waiting => rfl
  | pending hp hname =>
    refine absurd hname (hplaced _ ?_)
    exact List.mem_append_left _ (List.mem_append_right _ (List.mem_map_of_mem hp))
  | settled hr hname =>
    refine absurd hname (hplaced _ ?_)
    exact List.mem_append_right _ (List.mem_map_of_mem (f := (·.name)) hr)

end Stands

/-- Of the packages in work, all but the one at a position are before it or behind it. -/
theorem mem_others {before behind : List Pending} {p q : Pending}
    (hpending : b.pending = before ++ p :: behind) (hn : n ≠ p.name) (hq : q ∈ b.pending)
    (hname : q.name = n) : q ∈ before ++ behind := by
  have hother : q ≠ p := by
    rintro rfl
    exact hn hname.symm
  simpa [hpending, hother] using hq

section Distinct

variable (hacc : Accounted source packages b) (hpackages : packages.Nodup)

include hacc hpackages

/-- No package is in two places. -/
theorem nodup_places :
    (b.waiting ++ (b.pending.map Pending.name ++ b.settled.map (·.name))).Nodup := by
  rw [← List.append_assoc]
  exact hacc.perm.nodup_iff.2 hpackages

/-- Nothing has been seen of a package that waits. -/
theorem Stands.eq_nil_of_waiting (h : Stands source packages b n s) (hn : n ∈ b.waiting) :
    s = [] := by
  have hplaces := nodup_places hacc hpackages
  obtain ⟨-, -, hapart⟩ := List.nodup_append.1 hplaces
  cases h with
  | strange | waiting => rfl
  | pending hp hname =>
    exact absurd hname.symm
      (hapart n hn _ (List.mem_append_left _ (List.mem_map_of_mem hp)))
  | settled hr hname =>
    exact absurd hname.symm
      (hapart n hn _ (List.mem_append_right _ (List.mem_map_of_mem (f := (·.name)) hr)))

/-- What has been seen of a package in work leads up to the request it waits for. -/
theorem Stands.eq_past_of_pending {p : Pending} (h : Stands source packages b p.name s)
    (hp : p ∈ b.pending) : s = p.past := by
  have hplaces := nodup_places hacc hpackages
  obtain ⟨-, hplaces, hapart⟩ := List.nodup_append.1 hplaces
  obtain ⟨hnames, -, hapart'⟩ := List.nodup_append.1 hplaces
  have hname := List.mem_map_of_mem (f := Pending.name) hp
  cases h with
  | strange hn =>
    refine absurd (hacc.perm.subset ?_) hn
    exact List.mem_append_left _ (List.mem_append_right _ hname)
  | waiting hn => exact absurd rfl (hapart _ hn _ (List.mem_append_left _ hname))
  | @pending q hq heq => rw [List.inj_on_of_nodup_map hnames hq hp heq]
  | settled hr heq =>
    exact absurd heq.symm (hapart' _ hname _ (List.mem_map_of_mem (f := (·.name)) hr))

/-! ### Events -/

omit hacc hpackages in
/-- One package goes on to its next place, and the others keep theirs. -/
theorem stands_of_goes {name : PackageName} {past : List Activity}
    (hpast : about name seen = past) (hnew : ∀ a ∈ new, a.name = name)
    (hplace : Stands source packages b' name (past ++ new))
    (hothers : ∀ n ≠ name, ∀ s, Stands source packages b n s → Stands source packages b' n s)
    (h : ∀ n, Stands source packages b n (about n seen)) (n : PackageName) :
    Stands source packages b' n (about n (seen ++ new)) := by
  rw [about_append]
  by_cases hn : n = name
  · subst hn
    rw [hpast, about_of_forall_eq hnew]
    exact hplace
  · rw [about_of_forall_ne (fun a ha heq => hn (heq.symm.trans (hnew a ha))), List.append_nil]
    exact hothers n hn _ (h n)

/-- The package that an event is about goes on to its next place, as what is seen of the event says. -/
theorem Shows.stands (hshows : Shows limit source b new b')
    (h : ∀ n, Stands source packages b n (about n seen)) (n : PackageName) :
    Stands source packages b' n (about n (seen ++ new)) := by
  cases hshows with
  | @begun name rest hwaiting hroom =>
    have hpast : about name seen = [] :=
      (h name).eq_nil_of_waiting hacc hpackages (hwaiting ▸ List.mem_cons_self)
    refine stands_of_goes hpast (by simp [Activity.name, Request.name])
      (.pending (p := .metadata name) (by simp) rfl) (fun n hn s hs => ?_) h n
    refine hs.mono (fun hmem => ?_) (fun p hp _ => List.mem_append_left _ hp) fun _ hr => hr
    exact (List.mem_cons.1 (hwaiting ▸ hmem)).resolve_left hn
  | @recorded before name behind record hpending hanswer =>
    have hpast : about name seen = [asked (.metadata name)] :=
      (h name).eq_past_of_pending hacc hpackages (p := .metadata name) (by simp [hpending])
    refine stands_of_goes hpast (by simp [Activity.name, Request.name])
      (.pending (p := .downloads name record) (by simp) rfl) (fun n hn s hs => ?_) h n
    refine hs.mono id (fun p hp hname => ?_) fun _ hr => hr
    have hmem := mem_others hpending hn hp hname
    simp only [List.mem_append, List.mem_cons] at hmem ⊢
    exact hmem.imp_right .inr
  | @failed before name behind failure hpending hanswer =>
    have hpast : about name seen = [asked (.metadata name)] :=
      (h name).eq_past_of_pending hacc hpackages (p := .metadata name) (by simp [hpending])
    have hplace : Stands source packages
        { b with
          pending := before ++ behind
          settled := b.settled ++ [.degraded name failure.message] } name (life source name) :=
      .settled (List.mem_append_right _ (List.mem_singleton_self _)) rfl
    rw [life_of_error hanswer] at hplace
    refine stands_of_goes hpast (by simp [Activity.name, Request.name]) hplace
      (fun n hn s hs => ?_) h n
    exact hs.mono id (fun p hp hname => mem_others hpending hn hp hname)
      fun _ hr => List.mem_append_left _ hr
  | @completed before name record behind hpending =>
    have hmem : .downloads name record ∈ b.pending := by simp [hpending]
    have hpast : about name seen = (Pending.downloads name record).past :=
      (h name).eq_past_of_pending hacc hpackages (p := .downloads name record) hmem
    have hplace : Stands source packages
        { b with
          pending := before ++ behind
          settled := b.settled ++ [settledRecord source name record] } name (life source name) :=
      .settled (List.mem_append_right _ (List.mem_singleton_self _)) rfl
    rw [life_of_ok (hacc.pending name record hmem)] at hplace
    refine stands_of_goes hpast (by simp [Activity.name, Request.name]) hplace
      (fun n hn s hs => ?_) h n
    exact hs.mono id (fun p hp hname => mem_others hpending hn hp hname)
      fun _ hr => List.mem_append_left _ hr

end Distinct

/-! ### Open requests -/

section Observed

variable (hacc : Accounted source packages b)
  (hstands : ∀ n, Stands source packages b n (about n seen))

include hstands

/-- A request is open only if a package in work waits for it. -/
theorem mem_pending_of_open {r : Request} (h : r ∈ openRequests seen) :
    r ∈ b.pending.map Pending.request := by
  rw [openRequests, List.mem_filter, decide_eq_true_iff, List.mem_filterMap] at h
  obtain ⟨⟨a, ha, hr⟩, hanswered⟩ := h
  cases a with
  | answered => cases hr
  | asked =>
    cases hr
    have hasked : asked r ∈ about r.name seen := mem_about.2 ⟨ha, rfl⟩
    have hanswered : answered r ∉ about r.name seen := fun h => hanswered (mem_about.1 h).1
    have h := hstands r.name
    generalize r.name = n, about r.name seen = s at h hasked hanswered
    cases h with
    | strange | waiting => cases hasked
    | @pending p hp hname =>
      refine List.mem_map.2 ⟨p, hp, ?_⟩
      cases p <;> simp_all [Pending.past, Pending.request]
    | settled =>
      refine absurd ?_ hanswered
      cases hanswer : source.metadata n with
      | ok => 
        rw [life_of_ok hanswer] at hasked ⊢
        simp_all
      | error => 
        rw [life_of_error hanswer] at hasked ⊢
        simp_all

include hacc

/-- Nothing is seen twice. -/
theorem nodup_seen : seen.Nodup := by
  rw [List.nodup_iff_count_le_one]
  intro a
  have hcount : seen.count a = (about a.name seen).count a := (List.count_filter (by simp)).symm
  rw [hcount]
  have hprefix := (hstands a.name).prefix_life hacc
  exact List.nodup_iff_count_le_one.1 ((nodup_life source a.name).sublist hprefix.sublist) a

theorem nodup_asked : (seen.filterMap asked?).Nodup := by
  refine (nodup_seen hacc hstands).filterMap fun a a' r ha ha' => ?_
  cases a <;> cases a' <;> simp_all [asked?]

/-- No more requests are open than packages are in work. -/
theorem length_openRequests_le : (openRequests seen).length ≤ b.pending.length := by
  have hnodup : (openRequests seen).Nodup := (nodup_asked hacc hstands).filter _
  have hsubset : openRequests seen ⊆ b.pending.map Pending.request :=
    fun r hr => mem_pending_of_open hstands hr
  simpa using (List.subperm_of_subset hnodup hsubset).length_le

end Observed

/-! ### Moments -/

/-- A request that is answered is open no longer, and none becomes open by that. -/
theorem length_openRequests_append_le (h : new.filterMap asked? = []) :
    (openRequests (seen ++ new)).length ≤ (openRequests seen).length := by
  rw [openRequests, List.filterMap_append, h, List.append_nil]
  refine (List.monotone_filter_right _ fun r hr => ?_).length_le
  simp only [decide_eq_true_eq, List.mem_append, not_or] at hr ⊢
  exact hr.1

/-- What an event shows last is the only request it makes. -/
theorem Shows.eq_or_asked_nil (hshows : Shows limit source b new b') {part : List Activity}
    (h : part <+: new) : part = new ∨ part.filterMap asked? = [] := by
  cases hshows <;> rcases part with _ | ⟨a, _ | ⟨a', part⟩⟩ <;>
    simp_all [List.cons_prefix_cons, asked?]

/-- What holds of a batch and all that has been seen of it. -/
structure Observed (source : Source) (limit : Nat) (packages : List PackageName) (b : Batch)
    (seen : List Activity) : Prop where
  accounted : Accounted source packages b
  stands : ∀ n, Stands source packages b n (about n seen)
  /-- The requests that were seen are those in the log. -/
  logged : seen.filterMap asked? = b.requests
  room : b.pending.length ≤ capacity limit
  peak : b.peak ≤ capacity limit
  /-- At no moment have too many requests been open. -/
  moments : ∀ moment, moment <+: seen → (openRequests moment).length ≤ capacity limit

theorem observed_start (source : Source) (limit : Nat) (packages : List PackageName) :
    Observed source limit packages (start packages) [] where
  accounted := accounted_start source packages
  stands n := by
    by_cases hn : n ∈ packages
    · exact .waiting hn
    · exact .strange hn
  logged := rfl
  room := Nat.zero_le _
  peak := Nat.zero_le _
  moments moment h := by
    rw [List.prefix_nil.1 h]
    exact Nat.zero_le _

/-- A package is started only where there is room for it. -/
theorem Shows.room (hshows : Shows limit source b new b') (hroom : b.pending.length ≤ capacity limit)
    (hpeak : b.peak ≤ capacity limit) :
    b'.pending.length ≤ capacity limit ∧ b'.peak ≤ capacity limit := by
  cases hshows with
  | begun _ hfree =>
    rw [List.length_append]
    exact ⟨hfree, max_le hpeak hfree⟩
  | recorded hpending =>
    rw [hpending] at hroom
    exact ⟨by simpa using hroom, hpeak⟩
  | failed hpending | completed hpending =>
    rw [hpending, List.length_append, List.length_cons] at hroom
    rw [List.length_append]
    exact ⟨by omega, hpeak⟩

theorem Shows.observed (hshows : Shows limit source b new b') (hpackages : packages.Nodup)
    (h : Observed source limit packages b seen) :
    Observed source limit packages b' (seen ++ new) := by
  have hacc := hshows.moves.accounted h.accounted
  have hstands := hshows.stands h.accounted hpackages h.stands
  have hlogged : (seen ++ new).filterMap asked? = b'.requests := by
    rw [List.filterMap_append, h.logged]
    cases hshows with
    | begun | recorded => rfl
    | failed | completed => exact List.append_nil _
  obtain ⟨hroom, hpeak⟩ := hshows.room h.room h.peak
  refine ⟨hacc, hstands, hlogged, hroom, hpeak, fun moment hmoment => ?_⟩
  rcases List.prefix_or_prefix_of_prefix hmoment (List.prefix_append seen new) with hold | ⟨part, rfl⟩
  · exact h.moments moment hold
  · have hpart : part <+: new := (List.prefix_append_right_inj seen).1 hmoment
    rcases hshows.eq_or_asked_nil hpart with rfl | hasked
    · exact (length_openRequests_le hacc hstands).trans hroom
    · exact (length_openRequests_append_le hasked).trans (h.moments seen List.prefix_rfl)

/-- A run keeps what each event keeps. -/
theorem observed_of_run {events : List Event} (hpackages : packages.Nodup)
    (hrun : run source limit b events = some b') (h : Observed source limit packages b seen) :
    Observed source limit packages b' (seen ++ history source limit b events) := by
  induction events generalizing b seen with
  | nil =>
    cases hrun
    rw [history, List.append_nil]
    exact h
  | cons e es ih =>
    obtain ⟨c, hstep, hrest⟩ := Option.bind_eq_some_iff.1 hrun
    have hnext := ih hrest ((shows_of_step hstep).observed hpackages h)
    rw [history, hstep]
    rwa [List.append_assoc] at hnext

/-! ### Whole runs -/

section Completed

variable (h : Observed source limit packages b seen) (hdone : b.isDone = true)

include h hdone

/-- At the end all has been seen of each package. -/
theorem Observed.about_eq_life (hn : n ∈ packages) : about n seen = life source n := by
  rw [isDone, Bool.and_eq_true, List.isEmpty_iff, List.isEmpty_iff] at hdone
  have hstands := h.stands n
  generalize about n seen = s at hstands ⊢
  cases hstands with
  | strange hstrange => exact absurd hn hstrange
  | waiting hmem => simp [hdone.1] at hmem
  | pending hmem => simp [hdone.2] at hmem
  | settled => rfl

end Completed

theorem Observed.count_requests (h : Observed source limit packages b seen) (r : Request) :
    b.requests.count r = (about r.name seen).count (asked r) := by
  rw [← h.logged, List.count_filterMap, about, List.count_filter (by simp [Activity.name])]
  refine List.countP_congr fun a _ => ?_
  cases a <;> simp [asked?]

/-- Does a course of activities keep to the packages, to the turn of the requests and to the limit? -/
structure IsOrderly (source : Source) (limit : Nat) (packages : PackageSet) (seen : List Activity) :
    Prop where
  /-- No request is made twice. -/
  once : (seen.filterMap asked?).Nodup
  /-- No request is about another package. -/
  within : ∀ r ∈ seen.filterMap asked?, r.name ∈ packages.toList
  /-- Downloads are asked for only after the record was answered, and only if there is one. -/
  inTurn : ∀ n before behind, seen = before ++ asked (.downloads n) :: behind →
    answered (.metadata n) ∈ before ∧ (source.metadata n).isOk = true
  /-- At no moment are more requests open than the limit allows, so no more packages are in work. -/
  bounded : ∀ moment, moment <+: seen → (openRequests moment).length ≤ max 1 limit

/-- What leads up to the question for the downloads. -/
theorem of_prefix_life {before behind : List Activity}
    (h : before ++ asked (.downloads n) :: behind <+: life source n) :
    answered (.metadata n) ∈ before ∧ (source.metadata n).isOk = true := by
  cases hanswer : source.metadata n with
  | ok record =>
    rw [life_of_ok hanswer] at h
    refine ⟨?_, rfl⟩
    rcases before with _ | ⟨a, _ | ⟨a', r⟩⟩
    · simp at h
    · simp at h
    · simp only [List.cons_append, List.cons_prefix_cons] at h
      exact List.mem_cons_of_mem _ (h.2.1 ▸ List.mem_cons_self)
  | error failure =>
    rw [life_of_error hanswer] at h
    have hmem := h.subset (List.mem_append_right before List.mem_cons_self)
    simp at hmem

theorem Observed.isOrderly {packages : PackageSet}
    (h : Observed source limit packages.toList b seen) : IsOrderly source limit packages seen where
  once := nodup_asked h.accounted h.stands
  within r hr := by
    by_contra hstrange
    obtain ⟨a, ha, hr⟩ := List.mem_filterMap.1 hr
    cases a with
    | answered => cases hr
    | asked =>
      cases hr
      have hmem : asked r ∈ about r.name seen := mem_about.2 ⟨ha, rfl⟩
      rw [(h.stands r.name).eq_nil_of_strange h.accounted hstrange] at hmem
      cases hmem
  inTurn n before behind hseen := by
    have hprefix := (h.stands n).prefix_life h.accounted
    have hturn : about n (asked (.downloads n) :: behind) = asked (.downloads n) :: about n behind :=
      List.filter_cons_of_pos (decide_eq_true rfl)
    rw [hseen, about_append, hturn] at hprefix
    exact (of_prefix_life hprefix).imp_left fun hmem => (mem_about.1 hmem).1
  bounded := by
    rw [max_comm]
    exact h.moments

/-- In a whole run the record of each package is asked for once, and so are its downloads if there is a
record. -/
theorem Completes.count_requests {packages : PackageSet} (h : Completes source limit packages b)
    (n : PackageName) :
    b.requests.count (.metadata n) = (if n ∈ packages.toList then 1 else 0) ∧
      b.requests.count (.downloads n)
        = (if n ∈ packages.toList ∧ (source.metadata n).isOk = true then 1 else 0) := by
  obtain ⟨events, hrun, hdone⟩ := h
  have hseen := observed_of_run packages.nodup_toList hrun
    (observed_start source limit packages.toList)
  rw [hseen.count_requests, hseen.count_requests, Request.name, Request.name]
  by_cases hn : n ∈ packages.toList
  · rw [hseen.about_eq_life hdone hn]
    cases hanswer : source.metadata n with
    | ok record => simp [life_of_ok hanswer, hn, Except.isOk, Except.toBool]
    | error failure => simp [life_of_error hanswer, hn, Except.isOk, Except.toBool]
  · rw [(hseen.stands n).eq_nil_of_strange hseen.accounted hn]
    simp [hn]

end Batch

open Batch

/-- **The discipline of requests.**  For every source, every limit and every set of packages:

  * at each moment of a run, in whatever order its requests are answered, the requests in the log are
    those that were seen, and their course is orderly;
  * a whole run has asked for the record of each package once, and once for its downloads if there is a
    record;
  * what `fetch` follows is a whole run. -/
theorem requests_of_run (source : Source) (limit : Nat) (packages : PackageSet) :
    (∀ events b, run source limit (start packages.toList) events = some b →
      b.requests = (history source limit (start packages.toList) events).filterMap asked? ∧
      IsOrderly source limit packages (history source limit (start packages.toList) events) ∧
      b.pending.length ≤ max 1 limit ∧ b.peak ≤ max 1 limit) ∧
    (∀ b, Completes source limit packages b → ∀ n,
      b.requests.count (.metadata n) = (if n ∈ packages.toList then 1 else 0) ∧
      b.requests.count (.downloads n)
        = (if n ∈ packages.toList ∧ (source.metadata n).isOk = true then 1 else 0)) ∧
    Completes source limit packages (finished source limit packages.toList) := by
  refine ⟨fun events b hrun => ?_, fun b h n => h.count_requests n,
    completes_finished source limit packages⟩
  have hseen := observed_of_run packages.nodup_toList hrun
    (observed_start source limit packages.toList)
  rw [max_comm]
  exact ⟨hseen.logged.symm, hseen.isOrderly, hseen.room, hseen.peak⟩

/-- With room for one package, the one without a record comes second, and its downloads are not asked
for. -/
theorem requests_of_foreignSource :
    IsOrderly foreignSource 0 (.ofList [⟨"a", rfl⟩, ⟨"b", rfl⟩])
      [asked (.metadata ⟨"a", rfl⟩), answered (.metadata ⟨"a", rfl⟩),
        asked (.downloads ⟨"a", rfl⟩), answered (.downloads ⟨"a", rfl⟩),
        asked (.metadata ⟨"b", rfl⟩), answered (.metadata ⟨"b", rfl⟩)] := by
  obtain ⟨b, hrun⟩ : ∃ b, run foreignSource 0 (start [⟨"a", rfl⟩, ⟨"b", rfl⟩])
      [.begin, .answer 0, .answer 0, .begin, .answer 0] = some b := ⟨_, rfl⟩
  exact ((requests_of_run foreignSource 0 (.ofList [⟨"a", rfl⟩, ⟨"b", rfl⟩])).1 _ b hrun).2.1

end ImportCensus.Registry
