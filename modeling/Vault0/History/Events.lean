import Vault0.History.Items

/-!
# History sync: the event channel under any consumer

The item loop offers each saved transaction's event with a `select` whose `default`
case drops it, so the loop never waits for a `HistoryEvents` consumer. A run here
interleaves the loop's steps with consumer receives in any order (`Turn`), and the
result (`consumerRun_events`) holds for every such schedule: every loop turn takes the
next item, what the consumers received followed by what is still buffered is the old
buffer followed by a sublist of the events of the saved items, each event is the
transformed transaction of an item whose save succeeded and upserted its row, with whether
its hash was new, and with no consumer exactly the first events that fit are enqueued.
Which items are saved is `SavedAs`, read off the collaborators, item by item
(`persistAll_snoc`).
-/

namespace Vault0.History

/-! ## The channel -/

namespace EventChannel

variable {ch : EventChannel} {e : TransactionEvent}

theorem trySend_buffer :
    (ch.trySend e).buffer =
      if ch.buffer.length < ch.capacity then ch.buffer ++ [e] else ch.buffer := by
  unfold trySend; split <;> simp [*]

@[simp]
theorem trySend_capacity : (ch.trySend e).capacity = ch.capacity := by
  unfold trySend; split <;> rfl

/-- Non-blocking sends keep the events that fit, in order, and drop the rest. -/
theorem sendAll_buffer (ch : EventChannel) (es : List TransactionEvent) :
    (ch.sendAll es).buffer = ch.buffer ++ es.take (ch.capacity - ch.buffer.length) := by
  induction es generalizing ch with
  | nil => simp [sendAll]
  | cons e es ih =>
    have hb := ch.bounded
    simp only [sendAll, List.foldl_cons] at ih ⊢
    rw [ih, trySend_buffer, trySend_capacity]
    split
    · next h =>
      rw [List.length_append, List.length_singleton, List.append_assoc,
        show ch.capacity - ch.buffer.length = ch.capacity - (ch.buffer.length + 1) + 1 by omega]
      rfl
    · next h => simp [show ch.capacity - ch.buffer.length = 0 by omega]

end EventChannel

/-! ## The events of the saved items -/

theorem persistAll_append (env : Env) (txType : TransactionType) (r : Repository)
    (done items : List Transaction) :
    persistAll env txType r (done ++ items) =
      persistAll env txType (persistAll env txType r done) items := by
  simp [persistAll, List.foldl_append]

theorem savedEvents_append_single (env : Env) (txType : TransactionType) (r : Repository)
    (done : List Transaction) (item : Transaction) :
    savedEvents env txType r (done ++ [item]) =
      savedEvents env txType r done ++
        (persistItem env txType (persistAll env txType r done) item).2.toList := by
  induction done generalizing r with
  | nil => simp [savedEvents, persistAll]
  | cons d done ih => simp [savedEvents, ih, persistAll]

/-- Each saved event comes from one item of the page, persisted at the repository the
items before it left. -/
theorem mem_savedEvents {env : Env} {txType : TransactionType} {r : Repository}
    {items : List Transaction} {e : TransactionEvent} (he : e ∈ savedEvents env txType r items) :
    ∃ pre item, pre ++ [item] <+: items ∧
      (persistItem env txType (persistAll env txType r pre) item).2 = some e := by
  induction items generalizing r with
  | nil => cases he
  | cons item items ih =>
    rcases List.mem_append.mp he with he | he
    · exact ⟨[], item, by simp, by simpa using he⟩
    · obtain ⟨pre, item', hpre, hitem⟩ := ih he
      exact ⟨item :: pre, item', List.cons_prefix_cons.mpr ⟨rfl, hpre⟩, hitem⟩

/-- What one more item does to the loop's events and table: a save appends its event and
upserts its transaction; any other item adds no event and leaves the table. -/
theorem persistAll_snoc (env : Env) (txType : TransactionType) (r : Repository)
    (pre : List Transaction) (item : Transaction) :
    (∃ tx stx, SavedAs env txType (persistAll env txType r pre) item tx stx ∧
      savedEvents env txType r (pre ++ [item]) = savedEvents env txType r pre ++
        [⟨tx, ((persistAll env txType r pre).store.byHash stx.hash).isNone⟩] ∧
      (persistAll env txType r (pre ++ [item])).store =
        (persistAll env txType r pre).store.upsert stx) ∨
    ((∀ tx stx, ¬SavedAs env txType (persistAll env txType r pre) item tx stx) ∧
      savedEvents env txType r (pre ++ [item]) = savedEvents env txType r pre ∧
      (persistAll env txType r (pre ++ [item])).store = (persistAll env txType r pre).store) := by
  rw [savedEvents_append_single, persistAll_append]
  by_cases h : ∃ tx stx, SavedAs env txType (persistAll env txType r pre) item tx stx
  · obtain ⟨tx, stx, h⟩ := h
    exact .inl ⟨tx, stx, h, by simp [persistItem_of_savedAs h], congrArg (·.1.store) (persistItem_of_savedAs h)⟩
  · have h' := persistItem_of_not_savedAs fun tx stx hs => h ⟨tx, stx, hs⟩
    exact .inr ⟨fun tx stx hs => h ⟨tx, stx, hs⟩, by simp [h'.1], h'.2⟩

/-! ## The loop against any consumer -/

/-- Who moves next while a sub-fetch's loop runs: the loop, on its next item, or a
`HistoryEvents` consumer, receiving one event if the channel holds one. -/
inductive Turn
  | loop
  | consume
  deriving DecidableEq, Repr

/-- The loop's remaining items, the engine's state, and what consumers have received. -/
structure ConsumerRun where
  pending : List Transaction
  state : HistoryState
  received : List TransactionEvent

namespace ConsumerRun

/-- One turn. A loop turn processes the next item, if any, whatever the channel holds. -/
def step (env : Env) (txType : TransactionType) (c : ConsumerRun) : Turn → ConsumerRun
  | .loop =>
    match c.pending with
    | [] => c
    | item :: rest => { c with pending := rest, state := processItem env txType c.state item }
  | .consume =>
    match c.state.historyEventsChan.receive with
    | none => c
    | some (e, ch) =>
      { c with state := { c.state with historyEventsChan := ch }, received := c.received ++ [e] }

/-- A schedule of turns. -/
def run (env : Env) (txType : TransactionType) (c : ConsumerRun) (turns : List Turn) :
    ConsumerRun :=
  turns.foldl (step env txType) c

/-- What holds of a run from `s` over `items` once the loop has processed `done`: the
repository is what persisting `done` leaves, and what the consumers received followed by
what is buffered is the old buffer followed by `E`, a sublist of `done`'s saved events. -/
structure Inv (env : Env) (txType : TransactionType) (s : HistoryState)
    (items : List Transaction) (c : ConsumerRun) (done : List Transaction)
    (E : List TransactionEvent) : Prop where
  split : items = done ++ c.pending
  repository : c.state.repository = persistAll env txType s.repository done
  capacity : c.state.historyEventsChan.capacity = s.historyEventsChan.capacity
  channel : c.received ++ c.state.historyEventsChan.buffer = s.historyEventsChan.buffer ++ E
  sublist : E.Sublist (savedEvents env txType s.repository done)

variable {env : Env} {txType : TransactionType} {s : HistoryState} {items : List Transaction}

theorem inv_start : Inv env txType s items ⟨items, s, []⟩ [] [] :=
  ⟨rfl, rfl, rfl, by simp, List.Sublist.slnil⟩

/-- A loop turn on a non-empty page processes one item, whatever the consumers did. -/
theorem inv_step_loop {c : ConsumerRun} {done : List Transaction} {E : List TransactionEvent}
    {item : Transaction} {rest : List Transaction} (hc : Inv env txType s items c done E)
    (hp : c.pending = item :: rest) :
    ∃ E', Inv env txType s items (c.step env txType .loop) (done ++ [item]) E' := by
  have hsaved := savedEvents_append_single env txType s.repository done item
  rw [← hc.repository] at hsaved
  simp only [step, hp, processItem]
  cases hev : (persistItem env txType c.state.repository item).2 with
  | none =>
    refine ⟨E, ⟨by simp [hc.split, hp], ?_, hc.capacity, hc.channel, ?_⟩⟩
    · rw [persistAll_append, ← hc.repository]; rfl
    · rw [hsaved, hev]; simpa using hc.sublist
  | some e =>
    have hb := c.state.historyEventsChan.bounded
    refine ⟨if c.state.historyEventsChan.buffer.length < c.state.historyEventsChan.capacity
      then E ++ [e] else E, ⟨by simp [hc.split, hp], ?_, by simp [hc.capacity], ?_, ?_⟩⟩
    · rw [persistAll_append, ← hc.repository]; rfl
    · show c.received ++ (c.state.historyEventsChan.trySend e).buffer = _
      rw [EventChannel.trySend_buffer]
      split <;> simp [← List.append_assoc, hc.channel]
    · rw [hsaved, hev]
      split
      · exact hc.sublist.append (List.Sublist.refl _)
      · exact hc.sublist.trans (List.sublist_append_left _ _)

theorem inv_step_consume {c : ConsumerRun} {done : List Transaction} {E : List TransactionEvent}
    (hc : Inv env txType s items c done E) :
    Inv env txType s items (c.step env txType .consume) done E := by
  simp only [step]
  split
  · exact hc
  · next e ch hr =>
    unfold EventChannel.receive at hr
    split at hr
    · next rest cap hb heq =>
      cases hr
      refine ⟨hc.split, hc.repository, by simpa [heq] using hc.capacity, ?_, hc.sublist⟩
      simpa [heq] using hc.channel
    · cases hr

/-- Every schedule keeps the invariant, and the loop has processed one item per loop turn
until the page is done. -/
theorem inv_run (turns : List Turn) (k : Nat) {c : ConsumerRun} {done : List Transaction}
    {E : List TransactionEvent} (hc : Inv env txType s items c done E)
    (hlen : done.length = min k items.length) :
    ∃ done' E', Inv env txType s items (c.run env txType turns) done' E' ∧
      done'.length = min (k + turns.count .loop) items.length := by
  induction turns generalizing c done E k with
  | nil => exact ⟨done, E, hc, hlen⟩
  | cons t turns ih =>
    have hsplit := congrArg List.length hc.split
    rw [List.length_append] at hsplit
    cases t with
    | consume => simpa using ih k (inv_step_consume hc) hlen
    | loop =>
      rw [List.count_cons_self, ← Nat.add_assoc, Nat.add_right_comm k]
      show ∃ done' E', Inv env txType s items ((c.step env txType .loop).run env txType turns)
        done' E' ∧ _
      cases hp : c.pending with
      | nil =>
        have hstep : c.step env txType .loop = c := by simp [step, hp]
        rw [hstep]
        exact ih (k + 1) hc (by simp only [hp, List.length_nil] at hsplit; omega)
      | cons item rest =>
        obtain ⟨E', hE'⟩ := inv_step_loop hc hp
        have : (done ++ [item]).length = min (k + 1) items.length := by
          simp only [hp, List.length_cons] at hsplit; simp; omega
        exact ih (k + 1) hE' this

end ConsumerRun

/-- Against any consumer schedule, a sub-fetch's loop never waits: each loop turn takes the
next item. What consumers received followed by what is buffered is the old buffer followed
by a sublist of the loop's saved events, each the transformed transaction of an item whose
save succeeded (the collaborators let it through and both repository calls answered), which
upserted its row, with whether its hash had no row just before. Each item of the page either
is saved, adding its one event and upserting its row, or adds no event and leaves the table.
With no consumer, exactly the events that fit are enqueued. -/
theorem consumerRun_events (env : Env) (txType : TransactionType) (s : HistoryState)
    (items : List Transaction) (turns : List Turn) :
    (∃ done E, items = done ++ (ConsumerRun.run env txType ⟨items, s, []⟩ turns).pending ∧
      done.length = min (turns.count .loop) items.length ∧
      (ConsumerRun.run env txType ⟨items, s, []⟩ turns).received ++
          (ConsumerRun.run env txType ⟨items, s, []⟩ turns).state.historyEventsChan.buffer =
        s.historyEventsChan.buffer ++ E ∧
      E.Sublist (savedEvents env txType s.repository done) ∧
      ∀ e ∈ E, ∃ pre item stx, pre ++ [item] <+: done ∧
        SavedAs env txType (persistAll env txType s.repository pre) item e.transaction stx ∧
        (persistAll env txType s.repository (pre ++ [item])).store =
          (persistAll env txType s.repository pre).store.upsert stx ∧
        (e.isNew = true ↔ ∀ row ∈ (persistAll env txType s.repository pre).store.rows,
          row.hash ≠ stx.hash)) ∧
    (∀ pre item,
      (∃ tx stx, SavedAs env txType (persistAll env txType s.repository pre) item tx stx ∧
        savedEvents env txType s.repository (pre ++ [item]) =
          savedEvents env txType s.repository pre ++
            [⟨tx, ((persistAll env txType s.repository pre).store.byHash stx.hash).isNone⟩] ∧
        (persistAll env txType s.repository (pre ++ [item])).store =
          (persistAll env txType s.repository pre).store.upsert stx) ∨
      ((∀ tx stx, ¬SavedAs env txType (persistAll env txType s.repository pre) item tx stx) ∧
        savedEvents env txType s.repository (pre ++ [item]) =
          savedEvents env txType s.repository pre ∧
        (persistAll env txType s.repository (pre ++ [item])).store =
          (persistAll env txType s.repository pre).store)) ∧
    (processItems env txType s items).historyEventsChan.buffer =
      s.historyEventsChan.buffer ++ (savedEvents env txType s.repository items).take
        (s.historyEventsChan.capacity - s.historyEventsChan.buffer.length) := by
  obtain ⟨done, E, hinv, hlen⟩ :=
    ConsumerRun.inv_run turns 0 ConsumerRun.inv_start (by simp)
  refine ⟨⟨done, E, hinv.split, by simpa using hlen, hinv.channel, hinv.sublist, fun e he => ?_⟩,
    persistAll_snoc env txType s.repository,
    by rw [processItems_eq]; exact EventChannel.sendAll_buffer _ _⟩
  obtain ⟨pre, item, hpre, hitem⟩ := mem_savedEvents (hinv.sublist.subset he)
  obtain ⟨stx, hsaved, hstore, hnew⟩ := persistItem_eq_some hitem
  refine ⟨pre, item, stx, hpre, hsaved, by rw [persistAll_append]; exact hstore, ?_⟩
  rw [hnew, Option.isNone_iff_eq_none, TransactionStore.byHash_eq_none_iff]

end Vault0.History
