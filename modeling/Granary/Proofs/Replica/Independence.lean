import Granary.Proofs.Replica.Apart
import Granary.Proofs.Replica.Sequential

/-!
# Lifecycles of different names

Lifecycles of different names that work on one table at a time come to the same reports and the same
warehouse beside each other as one after another, if no relation that one of them creates has the
name of one of another.  What is shared is divided by connections: each has its share, and what is
under no connection stays as it was (`Site.Parted`).  A lifecycle has in view no more than its share
and what is in its way from the start, so what it does alone it does in any company.

Which calls fail may depend on the calls that the same lifecycle has made before, and on nothing
else.
-/

namespace Granary.Replica

open Program (Division Safe)
open Rehearsal (Breakdown Cursor Event Failure Index Indexed Loader Source Stage StoredSource
  Warehouse)

/-! ## What a lifecycle is answered -/

/-- What keeps the allowance of fetches from running out, and a guard from being another's. -/
def Delivered (fetches : Nat) : (c : Call Cursor Loader) → Answer c → Prop
  | .acquire name, answer => ∀ guard, answer = .ok guard → guard.connection = name
  | .openCursor .., answer => ∀ cursor : Cursor, answer = .ok cursor → cursor.rows.length < fetches
  | .nextChunk cursor, answer => ∀ row rows, answer.2 = .ok (row :: rows) →
    answer.1.rows.length < cursor.rows.length
  | _, _ => True

theorem exhausts_delivered (fetches : Nat) :
    Exhausts (Delivered fetches) (fun cursor => cursor.rows.length) fetches :=
  ⟨fun _ _ _ cursor h => h cursor rfl, fun _ _ row rows h => h row rows rfl⟩

theorem length_of_rowsOf {source : Source} {name : String} {rows : List Row} {fetches : Nat}
    (hfetches : ∀ x ∈ source.tables, x.rows.length < fetches)
    (h : source.rowsOf name = .ok rows) : rows.length < fetches := by
  unfold Source.rowsOf at h
  split at h
  · rename_i x hfind
    cases h
    exact hfetches x (List.mem_of_find?_eq_some hfind)
  · cases h

theorem delivered_of_handle {s : Stage} {fetches : Nat}
    (hfetches : ∀ x ∈ s.source.tables, x.rows.length < fetches) (c : Call Cursor Loader) :
    Delivered fetches c (Stage.handle c s).1 := by
  cases c with
  | acquire name =>
    intro guard hguard
    obtain ⟨_, hanswer⟩ | ⟨_, hanswer⟩ := s.handle_acquire_cases name
    · rw [hanswer] at hguard
      cases hguard
    · rw [hanswer] at hguard
      cases hguard
      rfl
  | openCursor table columns chunk =>
    refine (Stage.told_of_answer rfl fun u cursor hsource _ hcursor => ?_).2.2
    rw [hsource] at hcursor
    cases hrows : s.source.rowsOf table with
    | error e =>
      rw [hrows] at hcursor
      cases hcursor
    | ok rows =>
      rw [hrows] at hcursor
      cases hcursor
      exact length_of_rowsOf hfetches hrows
  | nextChunk cursor =>
    intro row rows hchunk
    have hrows : row :: rows = cursor.rows.take cursor.chunk := by
      obtain ⟨failures, ⟨e, he⟩ | hdone⟩ := s.attempt_cases
        ⟨.nextChunk cursor, (cursor.rows.take cursor.chunk).length⟩ "cursor.next_chunk" cursor.table
        (Stage.answer fun _ => .ok (cursor.rows.take cursor.chunk))
      · cases (congrArg Prod.fst he).symm.trans hchunk
      · exact Except.ok.inj (hchunk.symm.trans (congrArg Prod.fst hdone))
    show (cursor.rows.drop cursor.chunk).length < cursor.rows.length
    have htaken : 0 < (cursor.rows.take cursor.chunk).length := by
      rw [← hrows, List.length_cons]
      exact Nat.succ_pos _
    rw [List.length_take] at htaken
    rw [List.length_drop]
    omega
  | _ => trivial

theorem delivered_of_indexed {s : Indexed} {fetches : Nat}
    (hfetches : ∀ x ∈ s.stage.source.tables, x.rows.length < fetches) (c : Call Cursor Loader) :
    Delivered fetches c (Indexed.handle c s).1 := by
  have hdelivered := delivered_of_handle hfetches c
  cases c with
  | dropTable | beginLoad | finalize => trivial
  | _ => exact hdelivered

/-! ## Shares -/

variable {ι : Type} [DecidableEq ι]

/-- Which calls of a lifecycle fail, by the calls it has made so far. -/
abbrev Plan := List Event → List (Failure Breakdown)

namespace Site

def handle (source : Source) (plan : Plan) (i : ι) (c : Call Cursor Loader) (s : Site ι) :
    Answer c × Site ι :=
  let (answer, t) := Indexed.handle c (s.databases i source (plan (s.trace i)))
  (answer, s.after i t)

def runInOrder (errands : ι → Errand) (plans : ι → Plan) :
    List ι → Site ι → List (Option (Except Error Report)) × Site ι
  | [], s => ([], s)
  | i :: rest, s =>
    let (outcome, s) := (lifecycle (errands i).mode (errands i).pace (errands i).connection).run.run
      (handle (errands i).source (plans i) i) s
    let (outcomes, s) := runInOrder errands plans rest s
    (outcome :: outcomes, s)

/-- The same warehouse: the indexes may have been created in another order. -/
structure Same (s t : Site ι) : Prop where
  warehouse : s.warehouse = t.warehouse
  indexes : s.indexes.Perm t.indexes
  relations : s.relations = t.relations

/-- What is in the way of a lifecycle of the names that it asks for. -/
def taken (errands : ι → Errand) (i : ι) (s : Site ι) : List String :=
  (errands i).creates.filter
    (Blocked (errands i).connection (s.databases i (errands i).source []) ·)

/-- What one lifecycle has of a site. -/
def share (errands : ι → Errand) (plans : ι → Plan) (i : ι) (s : Site ι) : Indexed :=
  (s.databases i (errands i).source (plans i (s.trace i))).own (errands i).connection
    (taken errands i s)

/-- What is under no connection is as it was, and nobody gets in the way of anybody else. -/
structure Parted (errands : ι → Errand) (origin s : Site ι) : Prop where
  ordered : s.warehouse.Ordered
  others : ∀ name, (∀ i, ¬Under (errands i).connection name) → s.shelf name = origin.shelf name
  relations : s.relations = origin.relations
  apart : s.Apart errands

/-- A site divided by connections, with the calls of one lifecycle. -/
def division (errands : ι → Errand) (plans : ι → Plan) (origin : Site ι) (i : ι) :
    Division (Call Cursor Loader) Answer (Site ι) ι Indexed where
  step c s answer t := handle (errands i).source (plans i) i c s = (answer, t)
  inv := Parted errands origin
  view := share errands plans

variable {errands : ι → Errand} {plans : ι → Plan} {origin s t : Site ι} {i j : ι}

omit [DecidableEq ι] in
/-- What is in the way of a lifecycle is there from the start. -/
theorem Parted.taken_eq (hs : Parted errands origin s) (ht : Parted errands origin t) :
    taken errands i t = taken errands i s := by
  have hsame : ∀ name, (∀ i, ¬Under (errands i).connection name) → t.shelf name = s.shelf name :=
    fun name hname => (ht.others name hname).trans (hs.others name hname).symm
  have hrelations : t.relations = s.relations := ht.relations.trans hs.relations.symm
  refine List.filter_congr fun name hname => decide_eq_decide.2 ⟨?_, ?_⟩
  · exact ht.apart.blocked (fun name hname => (hsame name hname).symm) hrelations.symm hname
  · exact hs.apart.blocked hsame hrelations hname

/-- The failures that are planned after the calls so far. -/
def replan (plan : Plan) (t : Indexed) : Indexed :=
  { t with stage := { t.stage with failures := plan t.stage.trace } }

section

variable {c : Call Cursor Loader}
  (hallowed : Allowed (errands i).mode (errands i).connection (errands i).source c)
include hallowed

theorem Parted.call (plans : ι → Plan) (hdistinct : Errand.Distinct errands)
    (hs : Parted errands origin s) :
    Parted errands origin (handle (errands i).source (plans i) i c s).2 := by
  have hapart : (handle (errands i).source (plans i) i c s).2.Apart errands :=
    hs.apart.call hallowed hdistinct
  obtain ⟨_, _, hchange⟩ := Stage.change_of_allowed
    (s := (s.databases i (errands i).source (plans i (s.trace i))).stage) hallowed
  rw [← Indexed.stage_handle] at hchange
  have hshelf : ∀ name, ¬Under (errands i).connection name →
      (handle (errands i).source (plans i) i c s).2.shelf name = s.shelf name :=
    fun name => Indexed.shelf_handle (s := s.databases i _ _) hallowed
  exact ⟨hchange.ordered hs.ordered,
    fun name hname => (hshelf name (hname i)).trans (hs.others name hname),
    (Indexed.relations_handle c _).trans hs.relations, hapart⟩

/-- A call is answered from the share of its lifecycle, and does to it what it does to the whole. -/
theorem share_call (plans : ι → Plan) (hdistinct : Errand.Distinct errands)
    (hs : Parted errands origin s) (hconcerns : c.Concerns (errands i).connection) :
    (handle (errands i).source (plans i) i c s).1 =
        (Indexed.handle c (share errands plans i s)).1 ∧
      share errands plans i (handle (errands i).source (plans i) i c s).2 =
        replan (plans i) (Indexed.handle c (share errands plans i s)).2 := by
  have hown : Indexed.handle c (share errands plans i s) = _ := Indexed.handle_own
    (s := s.databases i (errands i).source (plans i (s.trace i))) hs.ordered hconcerns hallowed
    fun name hname => by
      rw [taken, List.mem_filter, decide_eq_true_eq,
        and_iff_right (Errand.mem_creates_of_asks hallowed hname)]
      rfl
  have htaken := hs.taken_eq (i := i) (hs.call hallowed plans hdistinct)
  have hsource : (Indexed.handle c (s.databases i (errands i).source
      (plans i (s.trace i)))).2.stage.source = (errands i).source := Indexed.source_handle c _
  rw [hown]
  refine ⟨rfl, ?_⟩
  rw [share, htaken]
  simp only [handle]
  generalize Indexed.handle c (s.databases i (errands i).source (plans i (s.trace i))) = result at *
  obtain ⟨answer, ⟨source, warehouse, leases, failures, trace⟩, indexes, relations⟩ := result
  obtain rfl : source = (errands i).source := hsource
  simp [databases, after, replan, Indexed.own, Stage.own]

/-- A call leaves the shares of all other lifecycles as they are. -/
theorem share_call_ne (hdistinct : Errand.Distinct errands) (hs : Parted errands origin s)
    (hconcerns : c.Concerns (errands i).connection) (hij : j ≠ i) :
    share errands plans j (handle (errands i).source (plans i) i c s).2 =
      share errands plans j s := by
  have htaken := hs.taken_eq (i := j) (hs.call hallowed plans hdistinct)
  obtain ⟨hwarehouse, hindexes⟩ :
      (handle (errands i).source (plans i) i c s).2.warehouse.under (errands j).connection = _ ∧
        (handle (errands i).source (plans i) i c s).2.indexes.filter
          (Under (errands j).connection ·.table) = _ :=
    under_after hallowed s _ hdistinct hij
  have hleases : (handle (errands i).source (plans i) i c s).2.leases.own (errands j).connection =
      s.leases.own (errands j).connection := by
    have hstage := Stage.leases_own_of_concerns
      (s := (s.databases i (errands i).source (plans i (s.trace i))).stage) hconcerns
      fun hsame => hij (hdistinct.distinct j i hsame)
    rwa [← Indexed.stage_handle] at hstage
  have htrace : (handle (errands i).source (plans i) i c s).2.trace j = s.trace j :=
    Function.update_of_ne hij _ _
  simp only [share, htaken, databases, Indexed.own, Stage.own, htrace, hwarehouse, hleases,
    hindexes]

theorem local_handle (hdistinct : Errand.Distinct errands)
    (hconcerns : c.Concerns (errands i).connection) (v : Indexed) :
    (division errands plans origin i).Local i c v (Indexed.handle c v).1
      (replan (plans i) (Indexed.handle c v).2) := by
  refine ⟨fun s hs hv => ?_, fun s other t hs hv hstep => ?_⟩
  · obtain rfl : share errands plans i s = v := hv
    exact ⟨_, Prod.ext (share_call hallowed plans hdistinct hs hconcerns).1 rfl⟩
  · obtain rfl : share errands plans i s = v := hv
    obtain ⟨hanswer, hshare⟩ := share_call hallowed plans hdistinct hs hconcerns
    obtain ⟨rfl, rfl⟩ := Prod.ext_iff.1
      (show handle (errands i).source (plans i) i c s = (other, t) from hstep)
    exact ⟨hanswer, hs.call hallowed plans hdistinct, hshare,
      fun j hj => share_call_ne hallowed hdistinct hs hconcerns hj⟩

end

/-- Work that keeps to its connection, and whose allowance lasts, comes to a result. -/
theorem exists_performs (hdistinct : Errand.Distinct errands) {α : Type} {fetches : Nat}
    (hfetches : ∀ x ∈ (errands i).source.tables, x.rows.length < fetches)
    {wanted wanted' : α → Prop} {p : Work Cursor Loader α}
    (hconfined : Work.Confined (errands i).mode (errands i).connection (errands i).source wanted p)
    (hheeds : p.Heeds False (Call.Concerns (errands i).connection) (Delivered fetches) wanted')
    {v : Indexed} (hv : v.stage.source = (errands i).source) :
    ∃ a w, (division errands plans origin i).Performs i p v a w := by
  induction p generalizing v with
  | done a => exact ⟨a, v, .done i a v⟩
  | ask c next ih =>
    -- The call is answered from the share, and what it is answered keeps the rest within bounds.
    obtain ⟨hallowed, hconfined⟩ := hconfined
    obtain ⟨hconcerns, hheeds⟩ := hheeds
    obtain ⟨_, _, _, htold⟩ := Indexed.effect_of_handle (c := c) (s := v) Prod.mk.eta.symm
    have hanswered : Answered (errands i).source c (Indexed.handle c v).1 :=
      hv ▸ answered_of_told htold
    have hdelivered := delivered_of_indexed (s := v) (hv ▸ hfetches) c
    obtain ⟨a, w, hrest⟩ := ih _ (hconfined _ hanswered) (hheeds _ hdelivered)
      (v := replan (plans i) (Indexed.handle c v).2) ((Indexed.source_handle c v).trans hv)
    exact ⟨a, w, .ask (local_handle hallowed hdistinct hconcerns v) hrest⟩
  | spent => exact hheeds.elim

theorem exists_performs_lifecycle (plans : ι → Plan) (origin : Site ι)
    (hdistinct : Errand.Distinct errands)
    (hfetches : ∀ x ∈ (errands i).source.tables, x.rows.length < (errands i).pace.fetches)
    (s : Site ι) :
    ∃ outcome w, (division errands plans origin i).Performs i
      (lifecycle (errands i).mode (errands i).pace (errands i).connection).run
      (share errands plans i s) outcome w := by
  have hguards : ∀ guard : Guard, Delivered (errands i).pace.fetches
      (.acquire (errands i).connection) (.ok guard) → guard.connection = (errands i).connection :=
    fun guard h => h guard rfl
  exact exists_performs hdistinct hfetches (confined_lifecycle (errands i).pace)
    (concerns_lifecycle (.inr (exhausts_delivered _)) hguards (errands i).mode) rfl

theorem count_eq_of_filter {p : Index → Bool} {x : Index} (hx : p x = true)
    {indexes others : List Index} (h : indexes.filter p = others.filter p) :
    indexes.count x = others.count x := by
  rw [← List.count_filter hx, h, List.count_filter hx]

omit [DecidableEq ι] in
/-- The shares and what is under no connection make up the warehouse. -/
theorem Parted.same (hs : Parted errands origin s) (ht : Parted errands origin t)
    (hshare : ∀ i, share errands plans i s = share errands plans i t) : s.Same t := by
  have hothers : ∀ name, ¬(∃ i, Under (errands i).connection name) → s.shelf name = t.shelf name :=
    fun name hname => (hs.others name (not_exists.1 hname)).trans
      (ht.others name (not_exists.1 hname)).symm
  refine ⟨Warehouse.eq_of_ordered hs.ordered ht.ordered fun name => ?_,
    List.perm_iff_count.2 fun x => ?_, hs.relations.trans ht.relations.symm⟩
  · by_cases hname : ∃ i, Under (errands i).connection name
    · obtain ⟨i, hunder⟩ := hname
      have hwarehouse : s.warehouse.under (errands i).connection =
          t.warehouse.under (errands i).connection := congrArg (·.stage.warehouse) (hshare i)
      rw [← Warehouse.table?_under hunder, hwarehouse, Warehouse.table?_under hunder]
    · exact congrArg Shelf.table (hothers name hname)
  · by_cases hname : ∃ i, Under (errands i).connection x.table
    · obtain ⟨i, hunder⟩ := hname
      exact count_eq_of_filter (p := (Under (errands i).connection ·.table)) (decide_eq_true hunder)
        (congrArg (·.indexes) (hshare i))
    · exact count_eq_of_filter (p := (·.table == x.table)) (beq_self_eq_true x.table)
        (congrArg Shelf.indexes (hothers x.table hname))

theorem run_runInOrder {outcomes : ι → Except Error Report} {final : ι → Indexed} {order : List ι}
    (hnodup : order.Nodup) (hs : Parted errands origin s)
    (h : ∀ i ∈ order, (division errands plans origin i).Performs i
      (lifecycle (errands i).mode (errands i).pace (errands i).connection).run
      (share errands plans i s) (outcomes i) (final i)) :
    ∃ t, runInOrder errands plans order s = (order.map fun i => some (outcomes i), t) ∧
      Parted errands origin t ∧ (∀ i ∈ order, share errands plans i t = final i) ∧
      ∀ i, i ∉ order → share errands plans i t = share errands plans i s := by
  induction order generalizing s with
  | nil => exact ⟨s, rfl, hs, fun i hi => absurd hi List.not_mem_nil, fun i _ => rfl⟩
  | cons i rest ih =>
    rw [List.forall_mem_cons] at h
    rw [List.nodup_cons] at hnodup
    obtain ⟨⟨k, hdoes⟩, hrest⟩ := h
    obtain ⟨u, hrun, hu, hmine, hothers⟩ := hdoes.run (fun _ _ _ _ => Iff.rfl) hs rfl
    have hkept : ∀ j ∈ rest, share errands plans j u = share errands plans j s := by
      intro j hj
      refine hothers j ?_
      rintro rfl
      exact hnodup.1 hj
    -- The first lifecycle leaves the shares of the others as they were, so these go on as alone.
    obtain ⟨t, hruns, ht, hfinal, hleft⟩ := ih hnodup.2 hu fun j hj => hkept j hj ▸ hrest j hj
    refine ⟨t, ?_, ht, List.forall_mem_cons.2 ⟨(hleft i hnodup.1).trans hmine, hfinal⟩,
      fun j hj => ?_⟩
    · rw [runInOrder, hrun]
      simp only [hruns, List.map_cons]
    · rw [List.mem_cons, not_or] at hj
      exact (hleft j hj.2).trans (hothers j hj.1)

end Site

theorem Site.exists_ends [Fintype ι] {errands : ι → Errand} (plans : ι → Plan) {s : Site ι}
    (hdistinct : Errand.Distinct errands) (hordered : s.warehouse.Ordered)
    (hapart : s.Apart errands)
    (hfetches : ∀ i, ∀ x ∈ (errands i).source.tables, x.rows.length < (errands i).pace.fetches) :
    ∃ (outcomes : ι → Except Error Report) (final : Site ι),
      Inevitable (Together errands (fun _ => 1) fun i c s answer t =>
          Site.handle (errands i).source (plans i) i c s = (answer, t))
        (fun y => (∀ i, y.1 i = .ended (outcomes i)) ∧ y.2.Same final)
        (Errand.starts errands, s) ∧
      ∀ order : List ι, order.Nodup → (∀ i, i ∈ order) → ∃ t,
        Site.runInOrder errands plans order s = (order.map fun i => some (outcomes i), t) ∧
          t.Same final := by
  have hs : Site.Parted errands s s := ⟨hordered, fun _ _ => rfl, rfl, hapart⟩
  choose outcomes shares hperforms using fun i =>
    Site.exists_performs_lifecycle plans s hdistinct (hfetches i) s
  have hgets : ∀ i, (Division.ofMoves
      (Lifecycle.Step (errands i).mode (errands i).pace (errands i).connection 1
        fun c s answer t => Site.handle (errands i).source (plans i) i c s = (answer, t))
      (Site.Parted errands s) (Site.share errands plans)).Gets i (Errand.starts errands i)
      (Site.share errands plans i s) (.ended (outcomes i)) (shares i) :=
    fun i => Lifecycle.gets_of_performs (hperforms i)
  have harrived := Beside.inevitable (fun i => Lifecycle.State.ended (outcomes i))
    (fun i s y => Lifecycle.Step.not_ended) hs hgets
  obtain ⟨u, hruns, hu, hshares, _⟩ := Site.run_runInOrder (Finset.nodup_toList Finset.univ) hs
    fun i _ => hperforms i
  -- Whoever has what the lifecycles leave of it has the warehouse of this one order.
  have hsame : ∀ {t : Site ι}, Site.Parted errands s t →
      (∀ i, Site.share errands plans i t = shares i) → t.Same u := fun ht htshares =>
    ht.same hu fun i =>
      (htshares i).trans (hshares i (Finset.mem_toList.2 (Finset.mem_univ i))).symm
  refine ⟨outcomes, u, harrived.trans fun y hy => .now ⟨fun i => ?_, ?_⟩,
    fun order hnodup hall => ?_⟩
  · rw [hy.states]
  · exact hsame hy.inv hy.final
  · obtain ⟨t, hrun, ht, htshares, _⟩ := Site.run_runInOrder hnodup hs fun i _ => hperforms i
    exact ⟨t, hrun, hsame ht fun i => htshares i (hall i)⟩

/-- Lifecycles in any number that share leases and a warehouse.  In every order of their steps and
whatever calls fail, no two of one name are inside together, a name is held for the one inside, a
lifecycle that is refused changes nothing and makes no call at all, and a lifecycle that has been
inside leaves its name free.  If their names are valid and different, no relation that one of them
creates has the name of one of another, each works on one table at a time, and which of its calls
fail depends on its own calls alone, then they come to the same reports and errors and to the same
tables and indexes in every order of their steps, and one after another in every order of the
lifecycles. -/
theorem lifecycles_together [Fintype ι] (errands : ι → Errand) (s : Site ι) :
    (∀ limits x,
      Relation.ReflTransGen
        (Together errands limits fun i => Site.Unreliable (errands i).source i)
        (Errand.starts errands, s) x →
      (∀ i j, (x.1 i).Inside → (x.1 j).Inside →
        (errands i).connection = (errands j).connection → i = j) ∧
      (∀ name, x.2.leases.isHeld name = true ↔ s.leases.isHeld name = true ∨
        ∃ i, (x.1 i).Inside ∧ (errands i).connection = name) ∧
      ∀ i outcome t,
        Lifecycle.Step (errands i).mode (errands i).pace (errands i).connection (limits i)
          (Site.Unreliable (errands i).source i) (x.1 i, x.2) (.ended outcome, t) →
        (x.1 i = .entering →
          outcome = .error (.etlInProgress (errands i).connection) ∧ t = x.2 ∧
          ∀ z, Relation.ReflTransGen
              (Together errands limits fun i => Site.Unreliable (errands i).source i)
              (Function.update x.1 i (.ended outcome), t) z →
            z.1 i = .ended outcome ∧ z.2.trace i = s.trace i) ∧
        ((x.1 i).Inside → t.leases.isHeld (errands i).connection = false)) ∧
    ((∀ i, checkName (errands i).connection = .ok ()) →
      (∀ i j, (errands i).connection = (errands j).connection → i = j) →
      s.warehouse.Ordered →
      s.Apart errands →
      (∀ i, ∀ x ∈ (errands i).source.tables, x.rows.length < (errands i).pace.fetches) →
      ∀ plans : ι → Plan, ∃ (outcomes : ι → Except Error Report) (final : Site ι),
        Inevitable (Together errands (fun _ => 1) fun i c s answer t =>
            Site.handle (errands i).source (plans i) i c s = (answer, t))
          (fun y => (∀ i, y.1 i = .ended (outcomes i)) ∧ y.2.Same final)
          (Errand.starts errands, s) ∧
        ∀ order : List ι, order.Nodup → (∀ i, i ∈ order) → ∃ t,
          Site.runInOrder errands plans order s = (order.map fun i => some (outcomes i), t) ∧
            t.Same final) := by
  refine ⟨fun limits x hx => ?_, fun hvalid hdistinct hordered hapart hfetches plans => ?_⟩
  · have hguarded := guarded_of_reached hx
    refine ⟨hguarded.exclusive.apart, hguarded.exclusive.held, fun i outcome t hstep =>
      ⟨fun hentering => ?_, fun hinside => hguarded.returned hinside hstep⟩⟩
    obtain ⟨houtcome, hsame⟩ := hguarded.refused hentering hstep
    refine ⟨houtcome, hsame, fun z hz => ?_⟩
    obtain ⟨hended, htrace⟩ := (hguarded.step hstep).ended (Function.update_self i _ _) hz
    refine ⟨hended, htrace.trans ?_⟩
    rw [hsame]
    exact hguarded.idle i hentering
  · have hnames : Errand.Distinct errands :=
      ⟨fun i => checkName_eq_ok_iff.1 (hvalid i), hdistinct⟩
    exact Site.exists_ends plans hnames hordered hapart hfetches

/-- Full refreshes of two shops, one of them named as the indexes of the other begin. -/
def twoErrands (other : Bool) : Errand where
  mode := .fullRefresh
  pace := ⟨10, 10, 10⟩
  connection := if other then "idx_shop" else "shop"
  source := twoShops.source

/-- The source of the other shop cannot be read to the end. -/
def twoPlans (other : Bool) : Plan := fun _ =>
  if other then [⟨⟨"cursor.next_chunk", none, .unknownTable "orders"⟩, 0⟩] else []

def twoShopsSite : Site Bool where
  warehouse := { tables := [
    { name := "idx_shop__old" }, { name := "shop__orders", rows := [[some "7"]] }] }
  indexes := [⟨"idx_idx_shop__old_id_num", "idx_shop__old", "id"⟩,
    ⟨"idx_shop__orders_id_num", "shop__orders", "id"⟩]
  relations := ["invoices"]
  trace _ := []

theorem two_lifecycles_together :
    ((∀ i, checkName (twoErrands i).connection = .ok ()) ∧
      (∀ i j, (twoErrands i).connection = (twoErrands j).connection → i = j) ∧
      twoShopsSite.warehouse.Ordered ∧
      twoShopsSite.Apart twoErrands ∧
      ∀ i, ∀ x ∈ (twoErrands i).source.tables, x.rows.length < (twoErrands i).pace.fetches) ∧
    (∃ (outcomes : Bool → Except Error Report) (final : Site Bool),
      Inevitable (Together twoErrands (fun _ => 1) fun i c s answer t =>
          Site.handle (twoErrands i).source (twoPlans i) i c s = (answer, t))
        (fun y => (∀ i, y.1 i = .ended (outcomes i)) ∧ y.2.Same final)
        (Errand.starts twoErrands, twoShopsSite) ∧
      (outcomes false).toOption.map (·.totalRows) = some 2 ∧
      (outcomes true).toOption = none ∧
      final.warehouse.tables.map (fun t => (t.name, t.rows)) =
        [("shop__orders", [[some "1"], [some "2"]])] ∧
      final.indexes.Perm [⟨"idx_shop__orders_id_num", "shop__orders", "id"⟩]) ∧
    ∃ x : Company Bool,
      Relation.ReflTransGen (Together (fun _ => twoErrands false) (fun _ => 4)
        fun i => Site.Unreliable (twoErrands false).source i)
        (Errand.starts fun _ => twoErrands false, twoShopsSite) x ∧
      (x.1 true).Inside ∧ ¬(x.1 false).Inside ∧ x.2.leases.isHeld "shop" = true := by
  have hvalid : ∀ i, checkName (twoErrands i).connection = .ok () := by
    intro i
    rw [checkName_eq_ok_iff]
    cases i <;> decide +kernel
  have hdistinct : ∀ i j, (twoErrands i).connection = (twoErrands j).connection → i = j := by
    decide
  have hordered : twoShopsSite.warehouse.Ordered := by
    unfold Warehouse.Ordered
    decide +kernel
  have hapart : twoShopsSite.Apart twoErrands := ⟨by decide +kernel, by decide +kernel⟩
  have hfetches : ∀ i, ∀ x ∈ (twoErrands i).source.tables,
      x.rows.length < (twoErrands i).pace.fetches := by
    decide
  refine ⟨⟨hvalid, hdistinct, hordered, hapart, hfetches⟩, ?_, ?_⟩
  · obtain ⟨outcomes, final, hinevitable, horders⟩ :=
      (lifecycles_together twoErrands twoShopsSite).2 hvalid hdistinct hordered hapart hfetches
        twoPlans
    obtain ⟨t, hrun, hsame⟩ := horders [true, false] (by decide) (by decide)
    have hrows : (Site.runInOrder twoErrands twoPlans [true, false] twoShopsSite).1.map
        (fun outcome => outcome.map fun o => o.toOption.map (·.totalRows)) =
          [some none, some (some 2)] := by decide +kernel
    have htables : (Site.runInOrder twoErrands twoPlans [true, false]
        twoShopsSite).2.warehouse.tables.map (fun t => (t.name, t.rows)) =
          [("shop__orders", [[some "1"], [some "2"]])] := by decide +kernel
    have hindexes : (Site.runInOrder twoErrands twoPlans [true, false] twoShopsSite).2.indexes =
        [⟨"idx_shop__orders_id_num", "shop__orders", "id"⟩] := by decide +kernel
    rw [hrun] at hrows htables hindexes
    simp only [List.map_cons, List.map_nil, Option.map_some, List.cons.injEq, Option.some.injEq,
      and_true] at hrows
    exact ⟨outcomes, final, hinevitable, hrows.2, Option.map_eq_none_iff.1 hrows.1,
      hsame.warehouse ▸ htables, hindexes ▸ hsame.indexes.symm⟩
  · have hstart : (Errand.starts fun _ : Bool => twoErrands false) true = .entering := by
      rw [Errand.starts, Lifecycle.start, hvalid]
    have henter : Lifecycle.Step (twoErrands false).mode (twoErrands false).pace
        (twoErrands false).connection 4 (Site.Unreliable (twoErrands false).source true)
        (Errand.starts (fun _ : Bool => twoErrands false) true, twoShopsSite)
        (.opening ⟨"shop"⟩ (tasks .fullRefresh ⟨10, 10, 10⟩ "shop").run,
          twoShopsSite.after true (Indexed.handle (.acquire "shop")
            (twoShopsSite.databases true (twoErrands false).source [])).2) := by
      rw [hstart]
      exact .enter ⟨[], _, rfl, rfl⟩
    have hreached : Relation.ReflTransGen (Together (fun _ => twoErrands false) (fun _ => 4)
        fun i => Site.Unreliable (twoErrands false).source i)
        (Errand.starts fun _ => twoErrands false, twoShopsSite) _ := .single (.turn true henter)
    obtain ⟨hapart, hheld, _⟩ := (lifecycles_together (fun _ => twoErrands false)
      twoShopsSite).1 (fun _ => 4) _ hreached
    have hinside : (Function.update (Errand.starts fun _ : Bool => twoErrands false) true
        (.opening ⟨"shop"⟩ (tasks .fullRefresh ⟨10, 10, 10⟩ "shop").run) true).Inside := rfl
    refine ⟨_, hreached, hinside, fun hother => ?_, (hheld "shop").2 (.inr ⟨true, hinside, rfl⟩)⟩
    cases hapart false true hother hinside rfl

/-- A full refresh of a shop, and one of another whose tables are all gone from its source. -/
def meetingErrands (other : Bool) : Errand where
  mode := .fullRefresh
  pace := ⟨10, 10, 10⟩
  connection := if other then "idx_shop" else "shop"
  source := if other then {} else twoShops.source

/-- The other shop has left a table with the name of an index. -/
def meetingSite : Site Bool where
  warehouse := { tables := [{ name := "idx_shop__orders_id_num" }] }
  trace _ := []

/-- Where a table of one connection has the name of an index of another, the order of their full
refreshes decides whether the index is created. -/
theorem index_depends_on_order : ¬∀ (errands : Bool → Errand) (s : Site Bool),
    (∀ i, checkName (errands i).connection = .ok ()) →
    (∀ i j, (errands i).connection = (errands j).connection → i = j) →
    s.warehouse.Ordered →
    (∀ i, ∀ x ∈ (errands i).source.tables, x.rows.length < (errands i).pace.fetches) →
    ∀ plans : Bool → Plan, ∃ (outcomes : Bool → Except Error Report) (final : Site Bool),
      Inevitable (Together errands (fun _ => 1) fun i c s answer t =>
          Site.handle (errands i).source (plans i) i c s = (answer, t))
        (fun y => (∀ i, y.1 i = .ended (outcomes i)) ∧ y.2.Same final)
        (Errand.starts errands, s) ∧
      ∀ order : List Bool, order.Nodup → (∀ i, i ∈ order) → ∃ t,
        Site.runInOrder errands plans order s = (order.map fun i => some (outcomes i), t) ∧
          t.Same final := by
  intro h
  have hvalid : ∀ i, checkName (meetingErrands i).connection = .ok () := by
    intro i
    rw [checkName_eq_ok_iff]
    cases i <;> decide +kernel
  have hordered : meetingSite.warehouse.Ordered := by
    unfold Warehouse.Ordered
    decide +kernel
  obtain ⟨_, final, _, horders⟩ := h meetingErrands meetingSite hvalid (by decide) hordered
    (by decide) fun _ _ => []
  obtain ⟨t, hrun, hsame⟩ := horders [false, true] (by decide) (by decide)
  obtain ⟨t', hrun', hsame'⟩ := horders [true, false] (by decide) (by decide)
  have hskipped : (Site.runInOrder meetingErrands (fun _ _ => []) [false, true]
      meetingSite).2.indexes.length = 0 := by decide +kernel
  have hcreated : (Site.runInOrder meetingErrands (fun _ _ => []) [true, false]
      meetingSite).2.indexes.length = 1 := by decide +kernel
  rw [hrun] at hskipped
  rw [hrun'] at hcreated
  have hlength := hsame.indexes.length_eq.trans hsame'.indexes.length_eq.symm
  rw [hskipped, hcreated] at hlength
  cases hlength

end Granary.Replica
