import Vault0.History.Upsert

/-!
# History sync: the item loop of a sub-fetch

For each item of an explorer page, `syncTransactionsForAddressByType` applies the
transformers, keeps an ERC20 transfer only if the token store knows its token,
converts the transaction, looks its hash up in the repository, updates the row it
finds (keeping the row's ID) or creates one, and offers a `TransactionEvent` to the
event channel without blocking. Any failure skips the item.

The loop body is split here into the persistence part (`persistItem`), which touches
only the repository, and the send. `savedEvents` lists the events of the items the
loop saved, so the channel's part of the loop is `sendAll` of that list
(`processItems_eq`).

Which items the loop keeps and which it saves is also said in the collaborators' own terms:
`keptTransactionSpec` (the transformer keeps the item, the token store knows an ERC20
transfer's token, `FromCoreTransaction` converts it) and `SavedAs` (that, and the
repository's two calls succeed). The loop follows them: `convertItem_map_snd`,
`persistItem_of_savedAs` and `persistItem_of_not_savedAs`.
-/

namespace Vault0.History

open Vault0Error

/-- `isValidERC20Token`: the transaction carries a token address the token store knows. -/
def isValidERC20Token (env : Env) (tx : Transaction) : Bool :=
  match tx.tokenAddress with
  | none => false
  | some tokenAddress =>
    match env.getToken tokenAddress with
    | .ok (some _) => true
    | _ => false

/-- The save-or-update block of the loop: `GetByHash`, then `Update` under the found
row's ID or, on transaction-not-found, `Create`; each call is the repository's next one
and may fail. The result is `some isNewTransaction` when the transaction was saved. -/
def saveTransaction (env : Env) (r : Repository) (serviceTx : ServiceTransaction) :
    Repository × Option Bool :=
  let existing : Except Vault0Error ServiceTransaction :=
    if env.repositoryFails r.calls then .error newDatabaseError
    else r.store.getByHash serviceTx.hash
  let n := r.calls + 1
  match existing with
  | .ok existingTx =>
    if env.repositoryFails n then (⟨r.store, n + 1⟩, none)
    else (⟨r.store.update { serviceTx with id := existingTx.id }, n + 1⟩, some false)
  | .error err =>
    if err.isError errCodeTransactionNotFound then
      if env.repositoryFails n then (⟨r.store, n + 1⟩, none)
      else (⟨r.store.create serviceTx, n + 1⟩, some true)
    else (⟨r.store, n⟩, none)

/-- The first half of an iteration: apply the transformers, keep an ERC20 transfer only
when its token is known, convert to the service model. -/
def convertItem (env : Env) (txType : TransactionType) (item : Transaction) :
    Option (Transaction × ServiceTransaction) :=
  match env.apply item with
  | none => none
  | some transformedTx =>
    if txType = .erc20 ∧ isValidERC20Token env transformedTx = false then none
    else (env.fromCoreTransaction transformedTx).map (transformedTx, ·)

/-- One iteration's persistence: convert, then save. The result carries the event to
emit when the transaction was saved. -/
def persistItem (env : Env) (txType : TransactionType) (r : Repository) (item : Transaction) :
    Repository × Option TransactionEvent :=
  match convertItem env txType item with
  | none => (r, none)
  | some (transformedTx, serviceTx) =>
    let saved := saveTransaction env r serviceTx
    (saved.1, saved.2.map fun isNew => ⟨transformedTx, isNew⟩)

/-- One iteration of the item loop: persist, then offer the event without blocking. -/
def processItem (env : Env) (txType : TransactionType) (s : HistoryState) (item : Transaction) :
    HistoryState :=
  let (repository, event) := persistItem env txType s.repository item
  { s with
    repository
    historyEventsChan := match event with
      | none => s.historyEventsChan
      | some e => s.historyEventsChan.trySend e }

/-- The item loop over a page. -/
def processItems (env : Env) (txType : TransactionType) (s : HistoryState)
    (items : List Transaction) : HistoryState :=
  items.foldl (processItem env txType) s

/-- The repository after the loop's persistence over a list of items. -/
def persistAll (env : Env) (txType : TransactionType) (r : Repository)
    (items : List Transaction) : Repository :=
  items.foldl (fun r item => (persistItem env txType r item).1) r

/-- The events of the transactions the loop saves, in page order. -/
def savedEvents (env : Env) (txType : TransactionType) :
    Repository → List Transaction → List TransactionEvent
  | _, [] => []
  | r, item :: items =>
    (persistItem env txType r item).2.toList ++
      savedEvents env txType (persistItem env txType r item).1 items

/-- Offer a list of events to the channel, one after another, without blocking. -/
def EventChannel.sendAll (ch : EventChannel) (events : List TransactionEvent) : EventChannel :=
  events.foldl EventChannel.trySend ch

/-- The loop is its persistence followed by the sends of the saved events. -/
theorem processItems_eq (env : Env) (txType : TransactionType) (s : HistoryState)
    (items : List Transaction) :
    processItems env txType s items =
      { s with
        repository := persistAll env txType s.repository items
        historyEventsChan :=
          s.historyEventsChan.sendAll (savedEvents env txType s.repository items) } := by
  induction items generalizing s with
  | nil => rfl
  | cons item items ih =>
    simp only [processItems, List.foldl_cons] at ih ⊢
    rw [ih]
    simp only [processItem, persistAll, List.foldl_cons, savedEvents, EventChannel.sendAll,
      List.foldl_append]
    cases (persistItem env txType s.repository item).2 <;> rfl

/-! ## What one item does to the repository -/

/-- Everything one save can do: leave the table and report nothing, or upsert the
transaction and report whether its hash had no row. -/
theorem saveTransaction_cases (env : Env) (r : Repository) (tx : ServiceTransaction) :
    ((saveTransaction env r tx).2 = none ∧ (saveTransaction env r tx).1.store = r.store) ∨
    ((saveTransaction env r tx).2 = some (r.store.byHash tx.hash).isNone ∧
      (saveTransaction env r tx).1.store = r.store.upsert tx) := by
  unfold saveTransaction TransactionStore.getByHash TransactionStore.upsert
  cases r.store.byHash tx.hash <;> cases env.repositoryFails r.calls <;>
    cases h : env.repositoryFails (r.calls + 1) <;>
    simp [h, isError, newDatabaseError, newTransactionNotFoundError, errCodeDatabaseError,
      errCodeTransactionNotFound]

/-- What it takes for an item to reach the save. -/
theorem convertItem_eq_some {env : Env} {txType : TransactionType} {item transformedTx : Transaction}
    {serviceTx : ServiceTransaction} :
    convertItem env txType item = some (transformedTx, serviceTx) ↔
      env.apply item = some transformedTx ∧
      (txType = .erc20 → isValidERC20Token env transformedTx = true) ∧
      env.fromCoreTransaction transformedTx = some serviceTx := by
  unfold convertItem
  cases env.apply item with
  | none => simp
  | some t =>
    by_cases h : txType = .erc20 ∧ isValidERC20Token env t = false
    · simp only [h, and_self, ↓reduceIte, reduceCtorEq, Option.some.injEq, false_iff]
      rintro ⟨rfl, hv, -⟩
      simp [h.2] at hv
    · simp only [h, ↓reduceIte, Option.map_eq_some', Prod.mk.injEq, Option.some.injEq]
      constructor
      · rintro ⟨s, hs, rfl, rfl⟩
        exact ⟨rfl, fun he => by simpa [he] using h, hs⟩
      · rintro ⟨rfl, -, hs⟩
        exact ⟨serviceTx, hs, rfl, rfl⟩

/-- The service transaction an item is kept as, read off the collaborators rather than the
loop: the transformer keeps it, an ERC20 transfer carries a token address the token store
knows, and `FromCoreTransaction` converts the transformed transaction. -/
def keptTransactionSpec (env : Env) (txType : TransactionType) (item : Transaction) :
    Option ServiceTransaction :=
  match env.apply item with
  | none => none
  | some tx =>
    match txType, tx.tokenAddress with
    | .normal, _ => env.fromCoreTransaction tx
    | .erc20, none => none
    | .erc20, some tokenAddress =>
      match env.getToken tokenAddress with
      | .ok (some _) => env.fromCoreTransaction tx
      | _ => none

/-- The loop's conversion keeps an item exactly as the collaborators say. -/
theorem convertItem_map_snd (env : Env) (txType : TransactionType) (item : Transaction) :
    (convertItem env txType item).map (·.2) = keptTransactionSpec env txType item := by
  unfold convertItem keptTransactionSpec isValidERC20Token
  cases env.apply item with
  | none => rfl
  | some tx =>
    obtain ⟨_, _, _ | tokenAddress⟩ := tx <;> cases txType <;> simp
    cases env.getToken tokenAddress with
    | error => rfl
    | ok token => cases token <;> simp

/-- The loop saves `item` from the repository `r`, read off the collaborators: the
transformer keeps it as `tx`, an ERC20 transfer's token is known to the token store,
`FromCoreTransaction` converts `tx` to `stx`, and the repository's next two calls
(`GetByHash`, then `Create` or `Update`) succeed. -/
structure SavedAs (env : Env) (txType : TransactionType) (r : Repository)
    (item tx : Transaction) (stx : ServiceTransaction) : Prop where
  apply : env.apply item = some tx
  token : txType = .erc20 → isValidERC20Token env tx = true
  convert : env.fromCoreTransaction tx = some stx
  getByHash : env.repositoryFails r.calls = false
  write : env.repositoryFails (r.calls + 1) = false

/-- A save whose two calls succeed is the upsert. -/
theorem saveTransaction_of_calls_ok {env : Env} {r : Repository}
    (h₀ : env.repositoryFails r.calls = false) (h₁ : env.repositoryFails (r.calls + 1) = false)
    (tx : ServiceTransaction) :
    saveTransaction env r tx =
      (⟨r.store.upsert tx, r.calls + 2⟩, some (r.store.byHash tx.hash).isNone) := by
  unfold saveTransaction TransactionStore.getByHash TransactionStore.upsert
  simp only [h₀, h₁, Bool.false_eq_true, ↓reduceIte]
  cases r.store.byHash tx.hash <;> rfl

/-- A save with a failing call reports nothing and leaves the table. -/
theorem saveTransaction_of_fails {env : Env} {r : Repository}
    (h : env.repositoryFails r.calls = true ∨ env.repositoryFails (r.calls + 1) = true)
    (tx : ServiceTransaction) :
    (saveTransaction env r tx).2 = none ∧ (saveTransaction env r tx).1.store = r.store := by
  unfold saveTransaction TransactionStore.getByHash
  cases h₀ : env.repositoryFails r.calls
  · have h₁ : env.repositoryFails (r.calls + 1) = true := h.resolve_left (by simp [h₀])
    cases r.store.byHash tx.hash <;>
      simp [h₁, isError, newTransactionNotFoundError, errCodeTransactionNotFound]
  · simp [isError, newDatabaseError, errCodeDatabaseError, errCodeTransactionNotFound]

section Saved

variable {env : Env} {txType : TransactionType} {r : Repository} {item : Transaction}

/-- An item the collaborators let through and the repository serves is upserted, and its
event reports whether its hash had no row. -/
theorem persistItem_of_savedAs {tx : Transaction} {stx : ServiceTransaction}
    (h : SavedAs env txType r item tx stx) :
    persistItem env txType r item =
      (⟨r.store.upsert stx, r.calls + 2⟩, some ⟨tx, (r.store.byHash stx.hash).isNone⟩) := by
  have hc : convertItem env txType item = some (tx, stx) :=
    convertItem_eq_some.mpr ⟨h.apply, h.token, h.convert⟩
  simp only [persistItem, hc, saveTransaction_of_calls_ok h.getByHash h.write, Option.map_some']

/-- Any other item is skipped: no event, and the table as it was. -/
theorem persistItem_of_not_savedAs (h : ∀ tx stx, ¬SavedAs env txType r item tx stx) :
    (persistItem env txType r item).2 = none ∧ (persistItem env txType r item).1.store = r.store := by
  unfold persistItem
  split
  · exact ⟨rfl, rfl⟩
  · next tx stx hc =>
    obtain ⟨ha, ht, hf⟩ := convertItem_eq_some.mp hc
    have hfails : env.repositoryFails r.calls = true ∨ env.repositoryFails (r.calls + 1) = true := by
      by_contra hn
      simp only [not_or, Bool.not_eq_true] at hn
      exact h tx stx ⟨ha, ht, hf, hn.1, hn.2⟩
    obtain ⟨h₂, h₁⟩ := saveTransaction_of_fails hfails stx
    exact ⟨by simp [h₂], h₁⟩

/-- An event comes only from a save. -/
theorem persistItem_eq_some {e : TransactionEvent} (he : (persistItem env txType r item).2 = some e) :
    ∃ stx, SavedAs env txType r item e.transaction stx ∧
      (persistItem env txType r item).1.store = r.store.upsert stx ∧
      e.isNew = (r.store.byHash stx.hash).isNone := by
  by_cases h : ∃ tx stx, SavedAs env txType r item tx stx
  · obtain ⟨tx, stx, h⟩ := h
    rw [persistItem_of_savedAs h] at he ⊢
    simp only [Option.some.injEq] at he
    subst he
    exact ⟨stx, h, rfl, rfl⟩
  · rw [(persistItem_of_not_savedAs fun tx stx hs => h ⟨tx, stx, hs⟩).1] at he
    cases he

end Saved

/-- Everything one item can do: nothing, or save a transaction it converts to, emitting
the transformed transaction with whether its hash was new. -/
theorem persistItem_cases (env : Env) (txType : TransactionType) (r : Repository)
    (item : Transaction) :
    ((persistItem env txType r item).2 = none ∧ (persistItem env txType r item).1.store = r.store) ∨
    ∃ e serviceTx, convertItem env txType item = some (e.transaction, serviceTx) ∧
      (persistItem env txType r item).2 = some e ∧
      (persistItem env txType r item).1.store = r.store.upsert serviceTx ∧
      e.isNew = (r.store.byHash serviceTx.hash).isNone := by
  unfold persistItem
  split
  · exact .inl ⟨rfl, rfl⟩
  · next transformedTx serviceTx h =>
    rcases saveTransaction_cases env r serviceTx with ⟨h2, h1⟩ | ⟨h2, h1⟩
    · exact .inl ⟨by simp [h2], h1⟩
    · exact .inr ⟨⟨transformedTx, (r.store.byHash serviceTx.hash).isNone⟩, serviceTx, h,
        by simp [h2], h1, rfl⟩

/-! ## The loop when the repository answers -/

/-- The service transactions of the items that reach the save, in page order. -/
def keptTransactions (env : Env) (txType : TransactionType) (items : List Transaction) :
    List ServiceTransaction :=
  items.filterMap fun item => (convertItem env txType item).map (·.2)

/-- With every repository call succeeding, the loop upserts the kept transactions in page
order. -/
theorem persistAll_store_of_ok {env : Env} (hok : ∀ n, env.repositoryFails n = false)
    (txType : TransactionType) (r : Repository) (items : List Transaction) :
    (persistAll env txType r items).store =
      (keptTransactions env txType items).foldl TransactionStore.upsert r.store := by
  induction items generalizing r with
  | nil => rfl
  | cons item items ih =>
    simp only [persistAll, List.foldl_cons, keptTransactions, List.filterMap_cons] at ih ⊢
    rw [ih]
    unfold persistItem
    rcases convertItem env txType item with _ | ⟨transformedTx, serviceTx⟩
    · rfl
    · simp [saveTransaction_of_calls_ok (hok _) (hok _)]

/-- The kept transactions are the ones the collaborators let through. -/
theorem keptTransactions_eq_spec (env : Env) (txType : TransactionType) (items : List Transaction) :
    keptTransactions env txType items = items.filterMap (keptTransactionSpec env txType) :=
  congrArg (items.filterMap ·) (funext (convertItem_map_snd env txType))

/-- Collaborators that keep every item as it is, know every token, and never fail. -/
def keepAllEnv : Env where
  chains _ := .ok ()
  getTransactionHistory _ _ _ := .ok []
  apply tx := some tx
  getToken tokenAddress := .ok (some ⟨tokenAddress, ""⟩)
  fromCoreTransaction tx := some ⟨0, tx.hash, tx.blockNumber⟩
  repositoryFails _ := false

/-- The item loop, with every repository call succeeding, upserts by hash: hashes stay
unique, a hash that had a row keeps the row's ID, the table seen by hash is the page's kept
transactions upserted in page order (each item the transformer keeps, whose token the token
store knows for an ERC20 transfer, and that `FromCoreTransaction` converts), and a second pass
over the page changes nothing. -/
theorem processItems_upserts_by_hash {env : Env} (hok : ∀ n, env.repositoryFails n = false)
    (txType : TransactionType) (s : HistoryState) (items : List Transaction)
    (hu : s.repository.store.HashesUnique) :
    (processItems env txType s items).repository.store.HashesUnique ∧
    (∀ row ∈ s.repository.store.rows, ∃ row' ∈ (processItems env txType s items).repository.store.rows,
      row'.hash = row.hash ∧ row'.id = row.id) ∧
    (processItems env txType s items).repository.store.view =
      (items.filterMap (keptTransactionSpec env txType)).foldl HashView.upsert
        s.repository.store.view ∧
    (processItems env txType (processItems env txType s items) items).repository.store =
      (processItems env txType s items).repository.store := by
  have hstore : ∀ s' : HistoryState, (processItems env txType s' items).repository.store =
      (keptTransactions env txType items).foldl TransactionStore.upsert s'.repository.store :=
    fun s' => by rw [processItems_eq]; exact persistAll_store_of_ok hok txType _ items
  rw [hstore, hstore, hstore]
  refine ⟨TransactionStore.foldl_upsert_hashesUnique hu, fun row hrow => ?_,
    keptTransactions_eq_spec env txType items ▸ TransactionStore.view_foldl_upsert hu,
    TransactionStore.foldl_upsert_idem hu _⟩
  have hv : s.repository.store.view.row row.hash = some row :=
    (TransactionStore.byHash_eq_some_iff hu).mpr ⟨hrow, rfl⟩
  obtain ⟨row', hrow', hid⟩ : ∃ row', ((keptTransactions env txType items).foldl HashView.upsert
      s.repository.store.view).row row.hash = some row' ∧ row'.id = row.id :=
    HashView.foldl_upsert_row_id hv
  rw [← TransactionStore.view_foldl_upsert hu] at hrow'
  obtain ⟨hmem, hh⟩ :=
    (TransactionStore.byHash_eq_some_iff (TransactionStore.foldl_upsert_hashesUnique hu)).mp hrow'
  exact ⟨row', hmem, hh, hid⟩

theorem processItems_upserts_by_hash_repeated_hash :
    (∀ n, keepAllEnv.repositoryFails n = false) ∧
    (newHistoryService [] ⟨.empty, 0⟩).repository.store.HashesUnique ∧
    ((processItems keepAllEnv .normal (newHistoryService [] ⟨.empty, 0⟩)
        [⟨"a", 1, none⟩, ⟨"b", 2, none⟩, ⟨"a", 3, none⟩]).repository.store.HashesUnique ∧
      (∀ row ∈ (newHistoryService [] ⟨.empty, 0⟩).repository.store.rows,
        ∃ row' ∈ (processItems keepAllEnv .normal (newHistoryService [] ⟨.empty, 0⟩)
          [⟨"a", 1, none⟩, ⟨"b", 2, none⟩, ⟨"a", 3, none⟩]).repository.store.rows,
        row'.hash = row.hash ∧ row'.id = row.id) ∧
      (processItems keepAllEnv .normal (newHistoryService [] ⟨.empty, 0⟩)
          [⟨"a", 1, none⟩, ⟨"b", 2, none⟩, ⟨"a", 3, none⟩]).repository.store.view =
        ([⟨"a", 1, none⟩, ⟨"b", 2, none⟩, ⟨"a", 3, none⟩].filterMap
          (keptTransactionSpec keepAllEnv .normal)).foldl
          HashView.upsert (newHistoryService [] ⟨.empty, 0⟩).repository.store.view ∧
      (processItems keepAllEnv .normal (processItems keepAllEnv .normal
          (newHistoryService [] ⟨.empty, 0⟩) [⟨"a", 1, none⟩, ⟨"b", 2, none⟩, ⟨"a", 3, none⟩])
          [⟨"a", 1, none⟩, ⟨"b", 2, none⟩, ⟨"a", 3, none⟩]).repository.store =
        (processItems keepAllEnv .normal (newHistoryService [] ⟨.empty, 0⟩)
          [⟨"a", 1, none⟩, ⟨"b", 2, none⟩, ⟨"a", 3, none⟩]).repository.store) :=
  ⟨fun _ => rfl, List.nodup_nil,
    processItems_upserts_by_hash (fun _ => rfl) .normal _ _ List.nodup_nil⟩

end Vault0.History
