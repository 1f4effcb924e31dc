import Vault0.History.Types

/-!
# History sync: starting and stopping the background task

`StartTransactionSyncing(ctx)` sets `syncCtx` to `context.WithCancel(ctx)` under
`syncMutex` and spawns a goroutine; `StopTransactionSyncing` cancels that context and resets
`syncCtx` to nil under the same lock. A context made by `WithCancel` is done once it is
cancelled or once the caller's `ctx` it was made from is; the caller cancelling its `ctx`
leaves `syncCtx` set. The goroutine does not keep the context it was
started for: its initial `s.syncTransactions(s.syncCtx)`, each `select` on
`s.syncCtx.Done()` and each call after a tick read the field as it is at that moment.
`Lifecycle` is that system, with every interleaving of the two calls, the callers'
cancellations of their contexts and the tasks' moves given as a list of events; when a
`select` has both cases ready, either may be taken.

With no `StopTransactionSyncing` there is one task at most, it never reads a nil `syncCtx`,
and it returns only once the caller has cancelled the context it was started with; `syncCtx`
stays set, so no later Start spawns another (`run_without_stop_safe`). A Stop that lands while a task is in a cycle makes
its next `select` call `Done()` on nil; a Stop right after a Start makes the initial call
with nil; and after a Stop and a new Start the old task waits on the new context, so it
keeps running cycles beside the new task (`stopTransactionSyncing_mid_cycle`).

What the `syncCtx` guard does achieve holds of every run, stops included: the tasks hold
distinct contexts, at most one of them is not cancelled by a Stop and it is the one in
`syncCtx`, and every context a task holds is in `syncCtx` or cancelled by a Stop
(`run_guard_one_live_task`).
-/

namespace Vault0.History

/-- Where a background task is in its goroutine. -/
inductive TaskPc
  /-- Spawned, before the initial `s.syncTransactions(s.syncCtx)`. -/
  | init
  /-- Inside `syncTransactions`, with the context it read from `syncCtx` (`none` is nil). -/
  | cycle (ctx : Option Nat)
  /-- At the top of the `for` loop, before the `select` evaluates `s.syncCtx.Done()`. -/
  | select
  /-- Blocked in the `select` on the `Done` channel of `ctx` and on the ticker. -/
  | waiting (ctx : Nat)
  /-- Called `Done()` on a nil `syncCtx`. -/
  | panicked
  /-- Returned from the goroutine. -/
  | exited
  deriving DecidableEq, Repr

/-- A task's next move. -/
inductive TaskMove
  /-- The initial `s.syncTransactions(s.syncCtx)`. -/
  | begin
  /-- `syncTransactions` returns. -/
  | finish
  /-- The `select` evaluates `s.syncCtx.Done()`. -/
  | select
  /-- The `select` takes the `Done` case, which is ready once the context is done. -/
  | done
  /-- The `select` takes the ticker case and calls `s.syncTransactions(s.syncCtx)`. -/
  | tick
  deriving DecidableEq, Repr

/-- A move of a task at `pc`, with `syncCtx` and which contexts are done as they are now;
a move the task cannot make changes nothing. -/
def TaskPc.move (syncCtx : Option Nat) (done : Nat → Bool) : TaskPc → TaskMove → TaskPc
  | .init, .begin => .cycle syncCtx
  | .cycle _, .finish => .select
  | .select, .select =>
    match syncCtx with
    | none => .panicked
    | some ctx => .waiting ctx
  | .waiting ctx, .done => if done ctx then .exited else .waiting ctx
  | .waiting _, .tick => .cycle syncCtx
  | pc, _ => pc

/-- The context a task holds at `pc`, read from `syncCtx` at its last read: the one it
runs a cycle with, or the one whose `Done` channel it waits on. -/
def TaskPc.context : TaskPc → Option Nat
  | .cycle ctx => ctx
  | .waiting ctx => some ctx
  | _ => none

/-- A move leaves a task holding the context it held, or the one in `syncCtx` now. -/
theorem TaskPc.context_move (syncCtx : Option Nat) (done : Nat → Bool) (pc : TaskPc)
    (m : TaskMove) {c : Nat} (h : (pc.move syncCtx done m).context = some c) :
    pc.context = some c ∨ syncCtx = some c := by
  cases pc <;> cases m <;> simp only [TaskPc.move] at h <;> (try cases syncCtx) <;>
    (try split_ifs at h) <;> simp_all [TaskPc.context]

/-- A spawned task, and (ghost) the context that its `StartTransactionSyncing` made. -/
structure SyncTask where
  pc : TaskPc
  own : Nat
  deriving DecidableEq, Repr

/-- `syncCtx` (a context's number, `none` for nil), the number of contexts made so far, the
ones `StopTransactionSyncing` cancelled, the caller's context each was made from (by its
number), the callers' contexts cancelled by their owners, and the tasks spawned, in order. -/
structure Lifecycle where
  syncCtx : Option Nat
  contexts : Nat
  cancelled : List Nat
  parents : List Nat
  callerCancelled : List Nat
  tasks : List SyncTask
  deriving DecidableEq, Repr

/-- A lifecycle call (a Start with the caller's context), a caller cancelling its context,
or a move of the `i`-th task spawned. -/
inductive LifecycleEvent
  | start (ctx : Nat)
  | stop
  | cancel (ctx : Nat)
  | task (i : Nat) (m : TaskMove)
  deriving DecidableEq, Repr

namespace Lifecycle

/-- `NewHistoryService`: `syncCtx` nil and no task. -/
def initial : Lifecycle := ⟨none, 0, [], [], [], []⟩

/-- A context is done once a Stop cancelled it or the caller cancelled the context it was made
from (`context.WithCancel`). -/
def done (l : Lifecycle) (c : Nat) : Bool :=
  decide (c ∈ l.cancelled) || l.parents[c]?.any (decide <| · ∈ l.callerCancelled)

/-- `StartTransactionSyncing(ctx)`: nothing while `syncCtx` is set; otherwise a new context
made from `ctx` in `syncCtx` and a task spawned for it. -/
def startTransactionSyncing (l : Lifecycle) (ctx : Nat) : Lifecycle :=
  match l.syncCtx with
  | some _ => l
  | none =>
    { l with
      syncCtx := some l.contexts
      contexts := l.contexts + 1
      parents := l.parents ++ [ctx]
      tasks := l.tasks ++ [⟨.init, l.contexts⟩] }

/-- `StopTransactionSyncing`: nothing while `syncCtx` is nil; otherwise cancel its context
and reset it to nil. -/
def stopTransactionSyncing (l : Lifecycle) : Lifecycle :=
  match l.syncCtx with
  | none => l
  | some ctx => { l with syncCtx := none, cancelled := ctx :: l.cancelled }

/-- The caller cancels its context `ctx`. -/
def cancelCaller (l : Lifecycle) (ctx : Nat) : Lifecycle :=
  { l with callerCancelled := ctx :: l.callerCancelled }

/-- One event. -/
def step (l : Lifecycle) : LifecycleEvent → Lifecycle
  | .start ctx => l.startTransactionSyncing ctx
  | .stop => l.stopTransactionSyncing
  | .cancel ctx => l.cancelCaller ctx
  | .task i m =>
    { l with tasks := l.tasks.modify (fun t => { t with pc := t.pc.move l.syncCtx l.done m }) i }

/-- An interleaving of events. -/
def run (l : Lifecycle) (events : List LifecycleEvent) : Lifecycle :=
  events.foldl step l

/-! ## Without a stop -/

/-- A context no Stop cancelled is done only through the caller's context it was made from. -/
theorem done_parent {l : Lifecycle} {c : Nat} (hc : c ∉ l.cancelled) (h : l.done c = true) :
    ∃ p, l.parents[c]? = some p ∧ p ∈ l.callerCancelled := by
  unfold done at h
  rcases hp : l.parents[c]? with _ | p <;> simp_all

/-- A caller's cancellation keeps every done context done. -/
theorem done_cancelCaller {l : Lifecycle} {c : Nat} (ctx : Nat) (h : l.done c = true) :
    (l.cancelCaller ctx).done c = true := by
  unfold done cancelCaller at *
  rcases hp : l.parents[c]? with _ | p <;> simp_all
  exact h.imp_right .inr

/-- Where the one task can be while its context is in `syncCtx` and no Stop came: running or
waiting for that context, or returned once it is done. -/
def Live (l : Lifecycle) (ctx : Nat) (pc : TaskPc) : Prop :=
  pc = .init ∨ pc = .cycle (some ctx) ∨ pc = .select ∨ pc = .waiting ctx ∨
    pc = .exited ∧ l.done ctx = true

/-- Every move of the one task keeps it live. -/
theorem live_move {l : Lifecycle} {ctx : Nat} {pc : TaskPc} (h : Live l ctx pc) (m : TaskMove) :
    Live l ctx (pc.move (some ctx) l.done m) := by
  rcases h with rfl | rfl | rfl | rfl | ⟨rfl, hd⟩ <;> cases m <;> simp only [TaskPc.move] <;>
    (try split_ifs) <;> simp_all [Live]

/-- A caller's cancellation keeps the task live. -/
theorem Live.cancelCaller {l : Lifecycle} {ctx : Nat} {pc : TaskPc} (h : Live l ctx pc)
    (p : Nat) : Live (l.cancelCaller p) ctx pc :=
  h.imp_right <| Or.imp_right <| Or.imp_right <| Or.imp_right fun ⟨he, hd⟩ =>
    ⟨he, done_cancelCaller p hd⟩

/-- Before the first start there is nothing; after it, the one task runs for the context in
`syncCtx`, and no Stop cancelled anything. -/
def NoStopInv (l : Lifecycle) : Prop :=
  (l.syncCtx = none ∧ l.cancelled = [] ∧ l.tasks = []) ∨
  ∃ ctx pc, l.syncCtx = some ctx ∧ l.cancelled = [] ∧ l.tasks = [⟨pc, ctx⟩] ∧ Live l ctx pc

/-- Every event but a stop keeps the invariant. -/
theorem noStopInv_step {l : Lifecycle} (h : NoStopInv l) {e : LifecycleEvent}
    (he : e ≠ .stop) : NoStopInv (l.step e) := by
  rcases h with ⟨hs, hc, ht⟩ | ⟨ctx, pc, hs, hc, ht, hl⟩
  · cases e with
    | start p =>
      exact .inr ⟨l.contexts, .init, by simp [step, startTransactionSyncing, hs, hc, ht, Live]⟩
    | stop => exact absurd rfl he
    | cancel p => exact .inl ⟨hs, hc, ht⟩
    | task i m => exact .inl ⟨hs, hc, by simp [step, ht]⟩
  · cases e with
    | start p => exact .inr ⟨ctx, pc, by simp [step, startTransactionSyncing, hs, hc, ht, hl]⟩
    | stop => exact absurd rfl he
    | cancel p => exact .inr ⟨ctx, pc, hs, hc, ht, hl.cancelCaller p⟩
    | task i m =>
      refine .inr ⟨ctx, ?_⟩
      cases i with
      | zero => exact ⟨_, hs, hc, by simp [step, ht, hs], hs ▸ live_move hl m⟩
      | succ i => exact ⟨pc, hs, hc, by simp [step, ht], hl⟩

/-- A run without a stop keeps the invariant. -/
theorem noStopInv_run {l : Lifecycle} (h : NoStopInv l) (events : List LifecycleEvent)
    (he : LifecycleEvent.stop ∉ events) : NoStopInv (l.run events) := by
  induction events generalizing l with
  | nil => exact h
  | cons e events ih =>
    rw [List.mem_cons, not_or] at he
    exact ih (noStopInv_step h (Ne.symm he.1)) he.2

/-- With no `StopTransactionSyncing`, `StartTransactionSyncing` spawns one task at most, no
context is cancelled by a Stop, and the task runs for the context in `syncCtx`: it never calls
`syncTransactions` or evaluates its `select` with a nil `syncCtx`, and it returns only once the
caller has cancelled the context it passed to the Start that spawned it. -/
theorem run_without_stop_safe (events : List LifecycleEvent)
    (h : LifecycleEvent.stop ∉ events) :
    (initial.run events).tasks.length ≤ 1 ∧ (initial.run events).cancelled = [] ∧
    ∀ t ∈ (initial.run events).tasks, (initial.run events).syncCtx = some t.own ∧
      t.pc ≠ .cycle none ∧ t.pc ≠ .panicked ∧
      (t.pc = .exited → ∃ ctx, (initial.run events).parents[t.own]? = some ctx ∧
        ctx ∈ (initial.run events).callerCancelled) := by
  rcases noStopInv_run (show NoStopInv initial from .inl ⟨rfl, rfl, rfl⟩) events h with
    ⟨-, hc, ht⟩ | ⟨ctx, pc, hs, hc, ht, hl⟩
  · exact ⟨by simp [ht], hc, by simp [ht]⟩
  · refine ⟨by simp [ht], hc, fun t htm => ?_⟩
    rw [ht, List.mem_singleton] at htm
    subst htm
    rcases hl with rfl | rfl | rfl | rfl | ⟨rfl, hd⟩
    iterate 4 exact ⟨hs, nofun, nofun, nofun⟩
    exact ⟨hs, nofun, nofun, fun _ => done_parent (hc ▸ List.not_mem_nil _) hd⟩

theorem run_without_stop_safe_restart :
    LifecycleEvent.stop ∉ [.start 0, .task 0 .begin, .start 1, .task 0 .finish, .task 0 .select,
      .cancel 0, .task 0 .done] ∧
    ((initial.run [.start 0, .task 0 .begin, .start 1, .task 0 .finish, .task 0 .select,
        .cancel 0, .task 0 .done]).tasks.length ≤ 1 ∧
      (initial.run [.start 0, .task 0 .begin, .start 1, .task 0 .finish, .task 0 .select,
        .cancel 0, .task 0 .done]).cancelled = [] ∧
      ∀ t ∈ (initial.run [.start 0, .task 0 .begin, .start 1, .task 0 .finish, .task 0 .select,
          .cancel 0, .task 0 .done]).tasks,
        (initial.run [.start 0, .task 0 .begin, .start 1, .task 0 .finish, .task 0 .select,
          .cancel 0, .task 0 .done]).syncCtx = some t.own ∧
        t.pc ≠ .cycle none ∧ t.pc ≠ .panicked ∧
        (t.pc = .exited → ∃ ctx, (initial.run [.start 0, .task 0 .begin, .start 1,
            .task 0 .finish, .task 0 .select, .cancel 0, .task 0 .done]).parents[t.own]? =
            some ctx ∧
          ctx ∈ (initial.run [.start 0, .task 0 .begin, .start 1, .task 0 .finish,
            .task 0 .select, .cancel 0, .task 0 .done]).callerCancelled)) :=
  ⟨by decide, run_without_stop_safe _ (by decide)⟩

-- Once the caller cancels the context it started the sync with, the task returns while
-- `syncCtx` stays set, and a new `StartTransactionSyncing` spawns nothing.
example :
    initial.run [.start 0, .task 0 .begin, .task 0 .finish, .task 0 .select, .cancel 0,
        .task 0 .done, .start 1] =
      ⟨some 0, 1, [], [0], [0], [⟨.exited, 0⟩]⟩ := by
  decide

/-! ## A stop during a cycle -/

/-- A Stop right after a Start: the task's initial call passes a nil `syncCtx`. A Stop during
the initial cycle: the task's next `select` calls `Done()` on a nil `syncCtx`. A Stop and a
new Start during the initial cycle: the old task's `select` waits on the new context, and on
a tick it runs a cycle with it while the new task runs its own, though its own context was
cancelled. -/
theorem stopTransactionSyncing_mid_cycle :
    (initial.run [.start 0, .stop, .task 0 .begin]).tasks = [⟨.cycle none, 0⟩] ∧
    (initial.run [.start 0, .task 0 .begin, .stop, .task 0 .finish, .task 0 .select]).tasks =
      [⟨.panicked, 0⟩] ∧
    initial.run [.start 0, .task 0 .begin, .stop, .start 0, .task 1 .begin, .task 0 .finish,
        .task 0 .select, .task 0 .tick] =
      ⟨some 1, 2, [0], [0, 0], [], [⟨.cycle (some 1), 0⟩, ⟨.cycle (some 1), 1⟩]⟩ := by
  decide

/-! ## What the guard keeps, stops included -/

/-- A task's move changes one entry of the task list and keeps the others. -/
theorem mem_modify {α : Type} {f : α → α} {l : List α} {i : Nat} {x : α}
    (h : x ∈ l.modify f i) : x ∈ l ∨ ∃ y ∈ l, x = f y := by
  induction l generalizing i with
  | nil => simp at h
  | cons y ys ih =>
    cases i with
    | zero =>
      rcases List.mem_cons.mp (List.modify_zero_cons f y ys ▸ h) with rfl | h
      · exact .inr ⟨y, List.mem_cons_self _ _, rfl⟩
      · exact .inl (List.mem_cons_of_mem _ h)
    | succ i =>
      rcases List.mem_cons.mp (List.modify_succ_cons f y ys i ▸ h) with rfl | h
      · exact .inl (List.mem_cons_self _ _)
      · rcases ih h with h | ⟨z, hz, rfl⟩
        · exact .inl (List.mem_cons_of_mem _ h)
        · exact .inr ⟨z, List.mem_cons_of_mem _ hz, rfl⟩

/-- Modifying an entry by a map that keeps `g` keeps the list's image under `g`. -/
theorem map_modify {α β : Type} {f : α → α} {g : α → β} (hf : ∀ x, g (f x) = g x)
    (l : List α) (i : Nat) : (l.modify f i).map g = l.map g := by
  induction l generalizing i with
  | nil => simp
  | cons y ys ih => cases i <;> simp [hf, ih]

/-- What every run keeps, stops included, with "cancelled" meaning cancelled by a Stop: the
tasks hold the contexts made, in order; every cancelled context was made; `syncCtx` is either
nil or a context made and not cancelled; every context made and not cancelled is in
`syncCtx`; and the context a task holds is in `syncCtx` or cancelled. -/
structure GuardInv (l : Lifecycle) : Prop where
  own : l.tasks.map (·.own) = List.range l.contexts
  cancelled_lt : ∀ c ∈ l.cancelled, c < l.contexts
  current : ∀ c, l.syncCtx = some c → c < l.contexts ∧ c ∉ l.cancelled
  live : ∀ c < l.contexts, c ∉ l.cancelled → l.syncCtx = some c
  holds : ∀ t ∈ l.tasks, ∀ c, t.pc.context = some c → c ∈ l.cancelled ∨ l.syncCtx = some c

/-- A new history service satisfies the invariant. -/
theorem guardInv_initial : GuardInv initial :=
  ⟨rfl, by simp [initial], by simp [initial], by simp [initial], by simp [initial]⟩

/-- A caller's cancellation changes none of it. -/
theorem GuardInv.cancelCaller {l : Lifecycle} (h : GuardInv l) (ctx : Nat) :
    GuardInv (l.cancelCaller ctx) :=
  ⟨h.own, h.cancelled_lt, h.current, h.live, h.holds⟩

/-- `StartTransactionSyncing` keeps the invariant: it only makes a context while every
earlier one is cancelled. -/
theorem GuardInv.start {l : Lifecycle} (h : GuardInv l) (ctx : Nat) :
    GuardInv (l.startTransactionSyncing ctx) := by
  unfold startTransactionSyncing
  split
  · exact h
  · next hs =>
    have hnew : l.contexts ∉ l.cancelled := fun hc => Nat.lt_irrefl _ (h.cancelled_lt _ hc)
    refine ⟨by simp [h.own, List.range_succ], fun c hc => Nat.lt_succ_of_lt (h.cancelled_lt c hc),
      fun c hc => by cases hc; exact ⟨Nat.lt_succ_self _, hnew⟩, fun c hc hnc => ?_,
      fun t ht c htc => ?_⟩
    · rcases Nat.lt_succ_iff_lt_or_eq.mp hc with hc | rfl
      · exact absurd (hs ▸ h.live c hc hnc) Option.noConfusion
      · rfl
    · rcases List.mem_append.mp ht with ht | ht
      · exact .inl ((h.holds t ht c htc).resolve_right (by simp [hs]))
      · simp [List.mem_singleton.mp ht, TaskPc.context] at htc

/-- `StopTransactionSyncing` keeps the invariant: it cancels the one live context. -/
theorem GuardInv.stop {l : Lifecycle} (h : GuardInv l) : GuardInv l.stopTransactionSyncing := by
  unfold stopTransactionSyncing
  split
  · exact h
  · next c₀ hs =>
    refine ⟨h.own, fun c hc => ?_, by simp, fun c hc hnc => ?_, fun t ht c htc => ?_⟩
    · rcases List.mem_cons.mp hc with rfl | hc
      · exact (h.current c hs).1
      · exact h.cancelled_lt c hc
    · rw [List.mem_cons, not_or] at hnc
      exact absurd (Option.some_injective _ (hs ▸ h.live c hc hnc.2)) (Ne.symm hnc.1)
    · rcases h.holds t ht c htc with hc | hc
      · exact .inl (List.mem_cons_of_mem _ hc)
      · exact .inl (List.mem_cons.mpr (.inl (Option.some_injective _ (hs ▸ hc)).symm))

/-- A task's move keeps the invariant: what it reads it reads from `syncCtx`. -/
theorem GuardInv.task {l : Lifecycle} (h : GuardInv l) (i : Nat) (m : TaskMove) :
    GuardInv (l.step (.task i m)) := by
  dsimp only [step]
  refine ⟨(map_modify (f := fun t => { t with pc := t.pc.move l.syncCtx l.done m })
    (fun _ => rfl) _ _).trans h.own, h.cancelled_lt, h.current, h.live,
    fun t ht c htc => ?_⟩
  rcases mem_modify ht with ht | ⟨t', ht', rfl⟩
  · exact h.holds t ht c htc
  · rcases TaskPc.context_move _ _ t'.pc m htc with htc | hc
    · exact h.holds t' ht' c htc
    · exact .inr hc

/-- Every event keeps the invariant. -/
theorem GuardInv.step {l : Lifecycle} (h : GuardInv l) : ∀ e, GuardInv (l.step e)
  | .start ctx => h.start ctx
  | .stop => h.stop
  | .cancel ctx => h.cancelCaller ctx
  | .task i m => h.task i m

/-- Every run from a new service keeps the invariant. -/
theorem guardInv_run (events : List LifecycleEvent) : GuardInv (initial.run events) := by
  suffices ∀ l, GuardInv l → GuardInv (l.run events) from this _ guardInv_initial
  induction events with
  | nil => exact fun _ h => h
  | cons e events ih => exact fun l h => ih _ (h.step e)

/-- A task whose own context is not cancelled is the one whose context is in `syncCtx`. -/
theorem GuardInv.live_own {l : Lifecycle} (h : GuardInv l) (t : SyncTask) (ht : t ∈ l.tasks)
    (hnc : t.own ∉ l.cancelled) : l.syncCtx = some t.own :=
  h.live t.own (List.mem_range.mp (h.own ▸ List.mem_map_of_mem _ ht)) hnc

/-- At most one task has a live context: the tasks hold distinct contexts, and every live
one is in `syncCtx`. -/
theorem GuardInv.one_live {l : Lifecycle} (h : GuardInv l) :
    (l.tasks.filter (fun t => t.own ∉ l.cancelled)).length ≤ 1 := by
  have hnd : ((l.tasks.filter (fun t => t.own ∉ l.cancelled)).map (·.own)).Nodup :=
    (List.nodup_range _).sublist (h.own ▸ (List.filter_sublist _).map _)
  have hsub : (l.tasks.filter (fun t => t.own ∉ l.cancelled)).map (·.own) ⊆ l.syncCtx.toList := by
    intro c hc
    obtain ⟨t, ht, rfl⟩ := List.mem_map.mp hc
    rw [List.mem_filter, decide_eq_true_iff] at ht
    simp [h.live_own t ht.1 ht.2]
  calc (l.tasks.filter (fun t => t.own ∉ l.cancelled)).length
      = ((l.tasks.filter (fun t => t.own ∉ l.cancelled)).map (·.own)).length :=
        (List.length_map _ _).symm
    _ ≤ l.syncCtx.toList.length := (List.subperm_of_subset hnd hsub).length_le
    _ ≤ 1 := by cases l.syncCtx <;> simp

/-- Along every interleaving of `StartTransactionSyncing`, `StopTransactionSyncing`, the
callers' cancellations and the tasks' moves, a task whose own context no Stop cancelled is the
one whose context is in `syncCtx`, so at most one task has a context that no Stop cancelled;
and every context a task runs a cycle with or waits on is in `syncCtx` or cancelled by a Stop,
so no task is left holding a live context other than the current one. -/
theorem run_guard_one_live_task (events : List LifecycleEvent) :
    (∀ t ∈ (initial.run events).tasks, t.own ∉ (initial.run events).cancelled →
      (initial.run events).syncCtx = some t.own) ∧
    ((initial.run events).tasks.filter
      (fun t => t.own ∉ (initial.run events).cancelled)).length ≤ 1 ∧
    ∀ t ∈ (initial.run events).tasks, ∀ c, t.pc.context = some c →
      c ∈ (initial.run events).cancelled ∨ (initial.run events).syncCtx = some c :=
  ⟨(guardInv_run events).live_own, (guardInv_run events).one_live, (guardInv_run events).holds⟩

end Lifecycle

end Vault0.History
