import Vault0.History.Events
import Vault0.History.AddressMap

/-!
# History sync: the sub-fetch, the per-address sync and the cycle

`syncTransactionsForAddressByType` gets the chain's explorer, reads the address's
`StartBlock`, asks the explorer for up to 9000 transactions of one type from that block
(with no page token, and ignoring the `NextToken` it gets back), runs the item loop, and
sets `StartBlock` to the page's last item's block plus one. `syncTransactionsForAddress`
runs the normal sub-fetch and then the ERC20 one and returns nil whatever they return;
`syncTransactions` runs it for every address of a snapshot of the map, checking the
context before each one.

Once the explorer has answered, a sub-fetch's effect on the map is a function of its page
alone (`afterPage_syncAddresses`), whatever the item loop's collaborators did.
-/

namespace Vault0.History

open Vault0Error

/-! ## The sub-fetch -/

/-- `syncTransactionsForAddressByType`. -/
def syncTransactionsForAddressByType (env : Env) (s : HistoryState) (address : Address)
    (txType : TransactionType) : HistoryState × Except Vault0Error Unit :=
  match newExplorer env.chains s.explorers address.chainType with
  | .error _ => (s, .error (newOperationFailedError "get explorer"))
  | .ok explorers =>
    let s := { s with explorers }
    let startBlock := getStartBlock s.syncAddresses address
    let options : TransactionHistoryOptions := ⟨txType, int64 startBlock, 9000⟩
    match env.getTransactionHistory address.chainType address.address options with
    | .error _ => (s, .error (newOperationFailedError "get transaction history"))
    | .ok [] => (s, .ok ())
    | .ok (item :: items) =>
      let s := processItems env txType s (item :: items)
      let latestBlockNumber := ((item :: items).getLast (List.cons_ne_nil _ _)).blockNumber
      ({ s with syncAddresses := setStartBlock s.syncAddresses address (latestBlockNumber + 1) },
        .ok ())

/-- What a sub-fetch leaves once its explorer answered with a page: the loop's repository
and channel, and `StartBlock` past the page's last item, or nothing for an empty page. -/
def afterPage (env : Env) (s : HistoryState) (address : Address) (txType : TransactionType)
    (explorers : List String) : List Transaction → HistoryState
  | [] => { s with explorers }
  | item :: items =>
    let s := processItems env txType { s with explorers } (item :: items)
    { s with
      syncAddresses := setStartBlock s.syncAddresses address
        (((item :: items).getLast (List.cons_ne_nil _ _)).blockNumber + 1) }

/-- Everything a sub-fetch can do: fail at the explorer lookup and change nothing, fail at
the request and change only the explorer cache, or get a page and process it. -/
theorem syncByType_cases (env : Env) (s : HistoryState) (address : Address)
    (txType : TransactionType) :
    (∃ err, newExplorer env.chains s.explorers address.chainType = .error err ∧
      syncTransactionsForAddressByType env s address txType =
        (s, .error (newOperationFailedError "get explorer"))) ∨
    ∃ explorers, newExplorer env.chains s.explorers address.chainType = .ok explorers ∧
      ((∃ err, env.getTransactionHistory address.chainType address.address
          ⟨txType, int64 (getStartBlock s.syncAddresses address), 9000⟩ = .error err ∧
        syncTransactionsForAddressByType env s address txType =
          ({ s with explorers }, .error (newOperationFailedError "get transaction history"))) ∨
      ∃ items, env.getTransactionHistory address.chainType address.address
          ⟨txType, int64 (getStartBlock s.syncAddresses address), 9000⟩ = .ok items ∧
        syncTransactionsForAddressByType env s address txType =
          (afterPage env s address txType explorers items, .ok ())) := by
  unfold syncTransactionsForAddressByType
  split
  · next err h => exact .inl ⟨err, h, rfl⟩
  · next explorers h =>
    refine .inr ⟨explorers, h, ?_⟩
    dsimp only
    split
    · next err hq => exact .inl ⟨err, hq, rfl⟩
    · next hq => exact .inr ⟨[], hq, rfl⟩
    · next item items hq => exact .inr ⟨item :: items, hq, rfl⟩

theorem processItems_syncAddresses (env : Env) (txType : TransactionType) (s : HistoryState)
    (items : List Transaction) : (processItems env txType s items).syncAddresses = s.syncAddresses := by
  rw [processItems_eq]

/-- Once the page is known, the map after a sub-fetch depends on nothing else. -/
theorem afterPage_syncAddresses (env : Env) (s : HistoryState) (address : Address)
    (txType : TransactionType) (explorers : List String) (items : List Transaction) :
    (afterPage env s address txType explorers items).syncAddresses =
      match items.getLast? with
      | none => s.syncAddresses
      | some last => setStartBlock s.syncAddresses address (last.blockNumber + 1) := by
  cases items with
  | nil => rfl
  | cons item items => simp [afterPage, List.getLast?_eq_getLast, processItems_syncAddresses]

/-- A failed sub-fetch leaves the map, the repository and the channel as they were. -/
theorem syncByType_error_frame {env : Env} {s : HistoryState} {address : Address}
    {txType : TransactionType} {err : Vault0Error}
    (h : (syncTransactionsForAddressByType env s address txType).2 = .error err) :
    (syncTransactionsForAddressByType env s address txType).1.syncAddresses = s.syncAddresses ∧
    (syncTransactionsForAddressByType env s address txType).1.repository = s.repository ∧
    (syncTransactionsForAddressByType env s address txType).1.historyEventsChan =
      s.historyEventsChan := by
  rcases syncByType_cases env s address txType with ⟨_, _, he⟩ | ⟨_, _, ⟨_, _, he⟩ | ⟨_, _, he⟩⟩ <;>
    rw [he] at h ⊢
  · exact ⟨rfl, rfl, rfl⟩
  · exact ⟨rfl, rfl, rfl⟩
  · cases h

/-- A sub-fetch that got a non-empty page sets `StartBlock` past the page's last item. -/
theorem syncByType_syncAddresses_of_page {env : Env} {s : HistoryState} {address : Address}
    {txType : TransactionType} {explorers : List String} {items : List Transaction}
    {last : Transaction} (hex : newExplorer env.chains s.explorers address.chainType = .ok explorers)
    (hq : env.getTransactionHistory address.chainType address.address
      ⟨txType, int64 (getStartBlock s.syncAddresses address), 9000⟩ = .ok items)
    (hlast : items.getLast? = some last) :
    (syncTransactionsForAddressByType env s address txType).1.syncAddresses =
      setStartBlock s.syncAddresses address (last.blockNumber + 1) := by
  rcases syncByType_cases env s address txType with ⟨_, he, -⟩ | ⟨explorers', he, ⟨_, hq', -⟩ | ⟨items', hq', h⟩⟩
  · rw [hex] at he; cases he
  · rw [hq] at hq'; cases hq'
  · rw [hex] at he; cases he
    rw [hq] at hq'; cases hq'
    rw [h, afterPage_syncAddresses, hlast]

/-- A sub-fetch of a monitored address that got a non-empty page leaves `StartBlock` past the
page's last item. -/
theorem syncByType_startBlock_of_page {env : Env} {s : HistoryState} {address : Address}
    {txType : TransactionType} {explorers : List String} {items : List Transaction}
    {last : Transaction} (hex : newExplorer env.chains s.explorers address.chainType = .ok explorers)
    (hq : env.getTransactionHistory address.chainType address.address
      ⟨txType, int64 (getStartBlock s.syncAddresses address), 9000⟩ = .ok items)
    (hlast : items.getLast? = some last)
    (hmon : (s.syncAddresses.lookup (deriveAddressKey address)).isSome) :
    getStartBlock (syncTransactionsForAddressByType env s address txType).1.syncAddresses address =
      last.blockNumber + 1 := by
  rw [syncByType_syncAddresses_of_page hex hq hlast]
  exact getStartBlock_setStartBlock hmon

/-- A sub-fetch whose explorer lookup or history request fails returns an error. -/
theorem syncByType_error_of_fetch_failure {env : Env} {s : HistoryState} {address : Address}
    {txType : TransactionType}
    (h : (∃ err, newExplorer env.chains s.explorers address.chainType = .error err) ∨
      ∃ explorers err, newExplorer env.chains s.explorers address.chainType = .ok explorers ∧
        env.getTransactionHistory address.chainType address.address
          ⟨txType, int64 (getStartBlock s.syncAddresses address), 9000⟩ = .error err) :
    ∃ err, (syncTransactionsForAddressByType env s address txType).2 = .error err := by
  rcases syncByType_cases env s address txType with
    ⟨_, _, he⟩ | ⟨explorers, hex, ⟨_, _, he⟩ | ⟨items, hq, -⟩⟩
  · exact ⟨_, by rw [he]⟩
  · exact ⟨_, by rw [he]⟩
  · rcases h with ⟨_, h⟩ | ⟨_, _, h, h'⟩ <;> rw [hex] at h <;> cases h
    rw [hq] at h'
    cases h'

/-! ## The per-address sync and the cycle -/

/-- `syncTransactionsForAddress`: normal transactions, then ERC20 transfers; it returns nil
whatever the sub-fetches return. -/
def syncTransactionsForAddress (env : Env) (s : HistoryState) (address : Address) :
    HistoryState × Except Vault0Error Unit :=
  let s := (syncTransactionsForAddressByType env s address .normal).1
  let s := (syncTransactionsForAddressByType env s address .erc20).1
  (s, .ok ())

/-- The loop of `syncTransactions` over its snapshot: before each address it checks the
context (`ctxErr i` is the answer of the `i`-th check), and a cancelled context ends it. -/
def syncSnapshot (env : Env) (ctxErr : Nat → Bool) :
    Nat → HistoryState → List Address → HistoryState
  | _, s, [] => s
  | i, s, address :: addresses =>
    if ctxErr i then s
    else syncSnapshot env ctxErr (i + 1) (syncTransactionsForAddress env s address).1 addresses

/-- `syncTransactions`: copy the monitored addresses out under the read lock, then sync each. -/
def syncTransactions (env : Env) (ctxErr : Nat → Bool) (s : HistoryState) : HistoryState :=
  let addresses := s.syncAddresses.map (·.2.address)
  if addresses.length = 0 then s else syncSnapshot env ctxErr 0 s addresses

/-- The snapshot loop syncs exactly the addresses before the first cancelled check. -/
theorem syncSnapshot_eq_take (env : Env) (ctxErr : Nat → Bool) (addresses : List Address) :
    ∀ (i₀ i : Nat) (s : HistoryState), i ≤ addresses.length →
      (∀ j < i, ctxErr (i₀ + j) = false) → (i = addresses.length ∨ ctxErr (i₀ + i) = true) →
      syncSnapshot env ctxErr i₀ s addresses =
        (addresses.take i).foldl (fun s address => (syncTransactionsForAddress env s address).1) s := by
  induction addresses with
  | nil => intro i₀ i s _ _ _; simp [syncSnapshot]
  | cons address addresses ih =>
    intro i₀ i s hi hbefore hstop
    cases i with
    | zero =>
      have : ctxErr i₀ = true := by simpa using hstop
      simp [syncSnapshot, this]
    | succ i =>
      have h₀ : ctxErr i₀ = false := by simpa using hbefore 0 (Nat.succ_pos _)
      simp only [syncSnapshot, h₀, List.take_succ_cons, List.foldl_cons]
      refine ih (i₀ + 1) i _ (by simpa using hi) (fun j hj => ?_) ?_
      · simpa [Nat.add_assoc, Nat.add_comm 1] using hbefore (j + 1) (by omega)
      · simpa [Nat.add_assoc, Nat.add_comm 1] using hstop

/-- A cycle syncs exactly the snapshot's addresses before its first cancelled check. -/
theorem syncTransactions_eq_take (env : Env) (ctxErr : Nat → Bool) (s : HistoryState) (i : Nat)
    (hi : i ≤ s.syncAddresses.length) (hbefore : ∀ j < i, ctxErr j = false)
    (hstop : i = s.syncAddresses.length ∨ ctxErr i = true) :
    syncTransactions env ctxErr s =
      ((s.syncAddresses.map (·.2.address)).take i).foldl
        (fun s' address => (syncTransactionsForAddress env s' address).1) s := by
  simp only [syncTransactions]
  split
  · next h0 =>
    have : i = 0 := by simp only [List.length_map] at h0; omega
    subst this; rfl
  · exact syncSnapshot_eq_take env ctxErr _ 0 i s (by simpa using hi)
      (by simpa using hbefore) (by simpa using hstop)

/-- A cycle isolates failures: a sub-fetch whose explorer lookup or history request fails
returns an error and leaves the map, the repository and the channel as they were; and the
cycle runs each snapshot address's normal sub-fetch and then its ERC20 one, whatever they
return, for exactly the addresses before its first cancelled context check. -/
theorem syncTransactions_isolates_failures (env : Env) (ctxErr : Nat → Bool)
    (s : HistoryState) :
    (∀ s' address txType,
      ((∃ err, newExplorer env.chains s'.explorers address.chainType = .error err) ∨
        ∃ explorers err, newExplorer env.chains s'.explorers address.chainType = .ok explorers ∧
          env.getTransactionHistory address.chainType address.address
            ⟨txType, int64 (getStartBlock s'.syncAddresses address), 9000⟩ = .error err) →
      (∃ err, (syncTransactionsForAddressByType env s' address txType).2 = .error err) ∧
      (syncTransactionsForAddressByType env s' address txType).1.syncAddresses = s'.syncAddresses ∧
      (syncTransactionsForAddressByType env s' address txType).1.repository = s'.repository ∧
      (syncTransactionsForAddressByType env s' address txType).1.historyEventsChan =
        s'.historyEventsChan) ∧
    ∀ i ≤ s.syncAddresses.length, (∀ j < i, ctxErr j = false) →
      (i = s.syncAddresses.length ∨ ctxErr i = true) →
      syncTransactions env ctxErr s =
        ((s.syncAddresses.map (·.2.address)).take i).foldl
          (fun s' address => (syncTransactionsForAddressByType env
            (syncTransactionsForAddressByType env s' address .normal).1 address .erc20).1) s := by
  refine ⟨fun s' address txType hfail => ?_, syncTransactions_eq_take env ctxErr s⟩
  obtain ⟨err, herr⟩ := syncByType_error_of_fetch_failure hfail
  exact ⟨⟨err, herr⟩, syncByType_error_frame herr⟩

/-! ## Where a sub-fetch leaves `StartBlock` -/

/-- The address the examples below sync, on Ethereum. -/
def watchedAddress : Address := ⟨chainTypeEthereum, "0xAbC"⟩

/-- A fresh service monitoring `watchedAddress` from block 0. -/
def monitoredState : HistoryState :=
  { newHistoryService [] ⟨.empty, 0⟩ with syncAddresses := monitorAddress [] watchedAddress 0 }

/-- The explorer the sync engine is written against: from a history in ascending block
order, the first `limit` transactions at or above the requested start. -/
def explorerPage (history : List Transaction) (startBlock : Int) (limit : Nat) :
    List Transaction :=
  (history.filter (startBlock ≤ ·.blockNumber)).take limit

/-- Against that explorer, when the page leaves out a transaction at or above the queried
start, the page is not empty and `StartBlock` is set past its last item's block `B`; the
transaction lies at or above the new `StartBlock`, or in block `B` itself. -/
theorem syncByType_skips_only_cut_block (env : Env) (s : HistoryState) (address : Address)
    (txType : TransactionType) (history : List Transaction) (explorers : List String)
    (hsorted : history.Pairwise fun a b => a.blockNumber ≤ b.blockNumber)
    (hexp : ∀ startBlock, env.getTransactionHistory address.chainType address.address
      ⟨txType, startBlock, 9000⟩ = .ok (explorerPage history startBlock 9000))
    (hex : newExplorer env.chains s.explorers address.chainType = .ok explorers)
    (hmon : (s.syncAddresses.lookup (deriveAddressKey address)).isSome)
    (tx : Transaction) (htx : tx ∈ history)
    (hstart : int64 (getStartBlock s.syncAddresses address) ≤ tx.blockNumber)
    (hmiss : tx ∉ explorerPage history (int64 (getStartBlock s.syncAddresses address)) 9000) :
    ∃ last, (explorerPage history (int64 (getStartBlock s.syncAddresses address)) 9000).getLast? =
        some last ∧
      getStartBlock (syncTransactionsForAddressByType env s address txType).1.syncAddresses
        address = last.blockNumber + 1 ∧
      (getStartBlock (syncTransactionsForAddressByType env s address txType).1.syncAddresses
        address ≤ tx.blockNumber ∨ tx.blockNumber = last.blockNumber) := by
  set q := int64 (getStartBlock s.syncAddresses address)
  set eligible := history.filter (q ≤ ·.blockNumber)
  have htx' : tx ∈ eligible.drop 9000 := by
    have : tx ∈ eligible := List.mem_filter.mpr ⟨htx, by simpa using hstart⟩
    rw [← List.take_append_drop 9000 eligible] at this
    exact (List.mem_append.mp this).resolve_left hmiss
  have hne : explorerPage history q 9000 ≠ [] := by
    intro h
    rcases List.take_eq_nil_iff.mp (show eligible.take 9000 = [] from h) with h0 | h0
    · omega
    · simp [h0] at htx'
  obtain ⟨last, hlast⟩ := Option.isSome_iff_exists.mp (List.getLast?_isSome.mpr hne)
  have hsb : getStartBlock (syncTransactionsForAddressByType env s address txType).1.syncAddresses
      address = last.blockNumber + 1 := syncByType_startBlock_of_page hex (hexp q) hlast hmon
  have hle : last.blockNumber ≤ tx.blockNumber := by
    have hs : eligible.Pairwise fun a b => a.blockNumber ≤ b.blockNumber :=
      hsorted.sublist (List.filter_sublist _)
    rw [← List.take_append_drop 9000 eligible, List.pairwise_append] at hs
    exact hs.2.2 last (List.mem_of_getLast?_eq_some hlast) tx htx'
  refine ⟨last, hlast, hsb, ?_⟩
  rcases lt_or_eq_of_le hle with hlt | heq
  · exact .inl (by omega)
  · exact .inr heq.symm

/-- A history of 9001 transactions, all in block 7. -/
def cutHistory : List Transaction := List.replicate 9000 ⟨"a", 7, none⟩ ++ [⟨"b", 7, none⟩]

/-- The explorer of `explorerPage` over `cutHistory`, in front of collaborators that keep
everything. -/
def cutHistoryEnv : Env where
  chains _ := .ok ()
  getTransactionHistory _ _ options :=
    .ok (explorerPage cutHistory options.startBlock options.limit)
  apply tx := some tx
  getToken _ := .ok none
  fromCoreTransaction tx := some ⟨0, tx.hash, tx.blockNumber⟩
  repositoryFails _ := false

private theorem monitoredState_start :
    int64 (getStartBlock monitoredState.syncAddresses watchedAddress) = 0 := by decide

private theorem explorerPage_replicate_append (n : Nat) (a c : Transaction) (start : Int)
    (ha : start ≤ a.blockNumber) (hc : start ≤ c.blockNumber) :
    explorerPage (List.replicate n a ++ [c]) start n = List.replicate n a := by
  simp [explorerPage, List.filter_append, List.filter_replicate, ha, hc,
    List.take_append_eq_append_take, List.take_replicate]

private theorem explorerPage_cutHistory :
    explorerPage cutHistory 0 9000 = List.replicate 9000 ⟨"a", 7, none⟩ :=
  explorerPage_replicate_append 9000 _ _ 0 (by decide) (by decide)

private theorem cutHistory_sorted :
    cutHistory.Pairwise (fun a b => a.blockNumber ≤ b.blockNumber) := by
  refine List.pairwise_append.mpr ⟨List.pairwise_replicate.mpr (.inr le_rfl),
    List.pairwise_singleton _ _, fun x hx y hy => ?_⟩
  rw [List.eq_of_mem_replicate hx, List.eq_of_mem_singleton hy]

private theorem mem_cutHistory : (⟨"b", 7, none⟩ : Transaction) ∈ cutHistory :=
  List.mem_append_right _ (List.mem_singleton_self _)

private theorem not_mem_cutHistory_page :
    (⟨"b", 7, none⟩ : Transaction) ∉ explorerPage cutHistory 0 9000 := by
  rw [explorerPage_cutHistory]
  exact fun h => absurd (List.eq_of_mem_replicate h) (by decide)

theorem syncByType_skips_only_cut_block_full_page :
    cutHistory.Pairwise (fun a b => a.blockNumber ≤ b.blockNumber) ∧
    (∀ startBlock, cutHistoryEnv.getTransactionHistory watchedAddress.chainType
      watchedAddress.address ⟨.normal, startBlock, 9000⟩ =
        .ok (explorerPage cutHistory startBlock 9000)) ∧
    newExplorer cutHistoryEnv.chains monitoredState.explorers watchedAddress.chainType =
      .ok [chainTypeEthereum] ∧
    (monitoredState.syncAddresses.lookup (deriveAddressKey watchedAddress)).isSome ∧
    ⟨"b", 7, none⟩ ∈ cutHistory ∧
    int64 (getStartBlock monitoredState.syncAddresses watchedAddress) ≤ 7 ∧
    ⟨"b", 7, none⟩ ∉
      explorerPage cutHistory (int64 (getStartBlock monitoredState.syncAddresses watchedAddress)) 9000 ∧
    ∃ last, (explorerPage cutHistory
        (int64 (getStartBlock monitoredState.syncAddresses watchedAddress)) 9000).getLast? =
        some last ∧
      getStartBlock (syncTransactionsForAddressByType cutHistoryEnv monitoredState watchedAddress
        .normal).1.syncAddresses watchedAddress = last.blockNumber + 1 ∧
      (getStartBlock (syncTransactionsForAddressByType cutHistoryEnv monitoredState watchedAddress
        .normal).1.syncAddresses watchedAddress ≤ 7 ∨ (7 : Int) = last.blockNumber) := by
  have hmiss : (⟨"b", 7, none⟩ : Transaction) ∉
      explorerPage cutHistory (int64 (getStartBlock monitoredState.syncAddresses watchedAddress)) 9000 := by
    rw [monitoredState_start]; exact not_mem_cutHistory_page
  refine ⟨cutHistory_sorted, fun _ => rfl, rfl, by decide, mem_cutHistory, by decide, hmiss, ?_⟩
  exact syncByType_skips_only_cut_block cutHistoryEnv monitoredState watchedAddress .normal
    cutHistory [chainTypeEthereum] cutHistory_sorted (fun _ => rfl) rfl (by decide)
    ⟨"b", 7, none⟩ mem_cutHistory (by decide) hmiss

/-- A full page that ends part-way through block 7 moves `StartBlock` from 0 to 8, past the
block-7 transaction the page left out. -/
theorem syncByType_full_page_skips_rest_of_block :
    ⟨"b", 7, none⟩ ∈ cutHistory ∧
    getStartBlock monitoredState.syncAddresses watchedAddress = 0 ∧
    ⟨"b", 7, none⟩ ∉ explorerPage cutHistory 0 9000 ∧
    getStartBlock (syncTransactionsForAddressByType cutHistoryEnv monitoredState watchedAddress
      .normal).1.syncAddresses watchedAddress = 8 := by
  refine ⟨mem_cutHistory, by decide, not_mem_cutHistory_page, ?_⟩
  have hlast : (explorerPage cutHistory
      (int64 (getStartBlock monitoredState.syncAddresses watchedAddress)) 9000).getLast? =
      some ⟨"a", 7, none⟩ := by
    rw [monitoredState_start, explorerPage_cutHistory, List.getLast?_replicate]; rfl
  exact syncByType_startBlock_of_page
    (show newExplorer cutHistoryEnv.chains monitoredState.explorers watchedAddress.chainType =
      .ok [chainTypeEthereum] from rfl) rfl hlast (by decide)

end Vault0.History
