import Vault0.Errors
import Mathlib.Algebra.Group.Int

/-!
# History sync: the data the engine keeps and the collaborators it calls

`historyService` keeps a map from a derived address key to the address and its
`StartBlock` watermark, guarded by `syncMutex`; an event channel of capacity 100; and
it calls a block-explorer factory, a transformer, a token store and a transaction
repository. This module models the map operations (`MonitorAddress`,
`UnmonitorAddress`, `getStartBlock`, `setStartBlock`), the explorer factory with its
cache, the event channel's non-blocking send, and the repository.

The repository and the `types` package are absent from the sources: the repository is
modelled from the spec as a store of rows keyed by hash with a fresh ID per insert,
whose every call may fail transiently, as the environment's `repositoryFails` decides.
-/

namespace Vault0.History

open Vault0Error

/-- Modelled from the spec: `types.ChainTypeEthereum` (the `types` package is absent). -/
def chainTypeEthereum : String := "ethereum"

/-- Modelled from the spec: `types.ChainTypePolygon`. -/
def chainTypePolygon : String := "polygon"

/-- Modelled from the spec: `types.ChainTypeBase`. -/
def chainTypeBase : String := "base"

/-- `types.Address`: a chain and an address, held in its checksummed form (what
`ToChecksum` returns). -/
structure Address where
  chainType : String
  address : String
  deriving DecidableEq, Repr

/-- `deriveAddressKey`: `chain:address`, the checksummed address lowercased (an address is
hex, so `strings.ToLower` only folds ASCII letters). -/
def deriveAddressKey (a : Address) : String :=
  a.chainType ++ ":" ++ ⟨a.address.data.map Char.toLower⟩

/-- `addressSyncInfo`: a monitored address and its `StartBlock` watermark. -/
structure AddressSyncInfo where
  address : Address
  startBlock : Int
  deriving DecidableEq, Repr

/-- `syncAddresses`, the `map[string]addressSyncInfo` the mutex guards. -/
abbrev SyncAddresses := List (String × AddressSyncInfo)

/-- `(*big.Int).Int64()`: the low 64 bits as a two's-complement integer. -/
def int64 (x : Int) : Int := Int.bmod x (2 ^ 64)

/-- A `big.Int` no smaller than the least `int64` does not grow through `Int64()`. -/
theorem int64_le_self {x : Int} (h : -2 ^ 63 ≤ x) : int64 x ≤ x := by
  have : (-2 ^ 63 : Int) = -9223372036854775808 := rfl
  unfold int64 Int.bmod
  simp only [show ((2 ^ 64 : Nat) : Int) = 18446744073709551616 from rfl]
  split <;> omega

/-- A `big.Int` below `2^63` does not shrink through `Int64()`. -/
theorem self_le_int64 {x : Int} (h : x < 2 ^ 63) : x ≤ int64 x := by
  have : (2 ^ 63 : Int) = 9223372036854775808 := rfl
  unfold int64 Int.bmod
  simp only [show ((2 ^ 64 : Nat) : Int) = 18446744073709551616 from rfl]
  split <;> omega

/-- `blockexplorer.TransactionType`: the two kinds the sync engine fetches. -/
inductive TransactionType
  | normal
  | erc20
  deriving DecidableEq, Repr

/-- `blockexplorer.TransactionHistoryOptions`. -/
structure TransactionHistoryOptions where
  transactionType : TransactionType
  startBlock : Int
  limit : Nat
  deriving DecidableEq, Repr

/-- `types.Transaction`, reduced to what the sync engine reads: the hash, the block
number, and the ERC20 token address its metadata holds (as `Hex()`), if any. -/
structure Transaction where
  hash : String
  blockNumber : Int
  tokenAddress : Option String
  deriving DecidableEq, Repr

/-- `TransactionEvent`: a processed transaction and whether it was newly created. -/
structure TransactionEvent where
  transaction : Transaction
  isNew : Bool
  deriving DecidableEq, Repr

/-- The service-layer transaction (`FromCoreTransaction`'s result), reduced to the row's
ID, its hash and its block. -/
structure ServiceTransaction where
  id : Nat
  hash : String
  blockNumber : Int
  deriving DecidableEq, Repr

/-- `tokenstore.Token`. -/
structure Token where
  address : String
  symbol : String
  deriving DecidableEq, Repr

/-! ## The address map -/

/-- `MonitorAddress`: add the address with its start block unless its key is present. -/
def monitorAddress (m : SyncAddresses) (address : Address) (startBlockNumber : Int) :
    SyncAddresses :=
  let addrKey := deriveAddressKey address
  if (m.lookup addrKey).isSome then m
  else m ++ [(addrKey, ⟨address, startBlockNumber⟩)]

/-- `UnmonitorAddress`: drop the address's entry, if any. -/
def unmonitorAddress (m : SyncAddresses) (address : Address) : SyncAddresses :=
  let addrKey := deriveAddressKey address
  if (m.lookup addrKey).isSome then m.filter (·.1 ≠ addrKey) else m

/-- `getStartBlock`: the entry's `StartBlock`, or 0 when the address has no entry. -/
def getStartBlock (m : SyncAddresses) (address : Address) : Int :=
  match m.lookup (deriveAddressKey address) with
  | some info => info.startBlock
  | none => 0

/-- `setStartBlock`: write the entry's `StartBlock`; nothing when the address has none. -/
def setStartBlock (m : SyncAddresses) (address : Address) (blockNumber : Int) : SyncAddresses :=
  let addrKey := deriveAddressKey address
  match m.lookup addrKey with
  | none => m
  | some info => m.map fun e => if e.1 = addrKey then (e.1, { info with startBlock := blockNumber }) else e

/-! ## The explorer factory -/

/-- `factory.NewExplorer`: a cached explorer, or a new one for a configured EVM chain
(`chains.Get` decides which chains are configured); the result is the cache afterwards. -/
def newExplorer (chains : String → Except Vault0Error Unit) (explorers : List String)
    (chainType : String) : Except Vault0Error (List String) :=
  if chainType ∈ explorers then .ok explorers
  else match chains chainType with
    | .error err => .error err
    | .ok () =>
      if chainType ∈ [chainTypeEthereum, chainTypePolygon, chainTypeBase] then
        .ok (chainType :: explorers)
      else .error (newChainNotSupportedError chainType)

/-! ## The event channel -/

/-- `historyEventsChan`: a buffered channel, never holding more than its capacity. -/
structure EventChannel where
  buffer : List TransactionEvent
  capacity : Nat
  bounded : buffer.length ≤ capacity

/-- The capacity `NewHistoryService` gives the channel. -/
def historyEventsCapacity : Nat := 100

/-- The `select` with a `default` case: enqueue the event if there is room, else drop it. -/
def EventChannel.trySend (ch : EventChannel) (event : TransactionEvent) : EventChannel :=
  if h : ch.buffer.length < ch.capacity then
    ⟨ch.buffer ++ [event], ch.capacity, by simp only [List.length_append, List.length_singleton]; omega⟩
  else ch

/-- A `HistoryEvents` consumer receiving the oldest buffered event. -/
def EventChannel.receive (ch : EventChannel) : Option (TransactionEvent × EventChannel) :=
  match ch with
  | ⟨e :: rest, capacity, h⟩ => some (e, ⟨rest, capacity, by simp at h; omega⟩)
  | ⟨[], _, _⟩ => none

/-! ## The transaction repository -/

/-- Modelled from the spec: the transaction repository (absent), a table of rows with the
next ID it hands out; IDs are the primary key, so they are distinct, and every ID in use
was handed out before. -/
@[ext]
structure TransactionStore where
  rows : List ServiceTransaction
  nextID : Nat
  ids_lt : ∀ r ∈ rows, r.id < nextID
  ids_nodup : (rows.map (·.id)).Nodup
  deriving DecidableEq

namespace TransactionStore

/-- A table with no row. -/
def empty : TransactionStore :=
  ⟨[], 0, fun _ h => absurd h (List.not_mem_nil _), List.nodup_nil⟩

/-- The row with a given hash, the first in table order. -/
def byHash (st : TransactionStore) (hash : String) : Option ServiceTransaction :=
  st.rows.find? (·.hash = hash)

/-- Modelled from the spec: `Repository.GetByHash`, the row with that hash or a
transaction-not-found error. -/
def getByHash (st : TransactionStore) (hash : String) : Except Vault0Error ServiceTransaction :=
  match st.byHash hash with
  | some row => .ok row
  | none => .error (newTransactionNotFoundError hash)

/-- Modelled from the spec: `Repository.Create`, inserting the row under a fresh ID. -/
def create (st : TransactionStore) (tx : ServiceTransaction) : TransactionStore where
  rows := st.rows ++ [{ tx with id := st.nextID }]
  nextID := st.nextID + 1
  ids_lt r hr := by
    rcases List.mem_append.mp hr with hr | hr
    · exact Nat.lt_succ_of_lt (st.ids_lt r hr)
    · simp only [List.mem_singleton] at hr; subst hr; exact Nat.lt_succ_self _
  ids_nodup := by
    rw [List.Nodup, List.map_append, List.pairwise_append]
    refine ⟨st.ids_nodup, List.pairwise_singleton _ _, fun a ha b hb => ?_⟩
    obtain ⟨r, hr, rfl⟩ := List.mem_map.mp ha
    simp only [List.map_cons, List.map_nil, List.mem_singleton] at hb
    exact hb ▸ (st.ids_lt r hr).ne

/-- The `id` column is untouched by `update`'s rewrite. -/
theorem map_id_update (rows : List ServiceTransaction) (tx : ServiceTransaction) :
    (rows.map fun r => if r.id = tx.id then tx else r).map (·.id) = rows.map (·.id) := by
  simp only [List.map_map]
  exact List.map_congr_left fun r _ => by by_cases h : r.id = tx.id <;> simp [h]

/-- Modelled from the spec: `Repository.Update`, rewriting the row with the same ID. -/
def update (st : TransactionStore) (tx : ServiceTransaction) : TransactionStore where
  rows := st.rows.map fun r => if r.id = tx.id then tx else r
  nextID := st.nextID
  ids_lt r hr := by
    obtain ⟨r', hr', rfl⟩ := List.mem_map.mp hr
    by_cases h : r'.id = tx.id
    · simp only [h, ↓reduceIte]; exact h ▸ st.ids_lt r' hr'
    · simp only [h, ↓reduceIte]; exact st.ids_lt r' hr'
  ids_nodup := (map_id_update st.rows tx).symm ▸ st.ids_nodup

end TransactionStore

/-! ## The engine's state and its collaborators -/

/-- The transaction repository as the engine meets it: its table, and how many calls it
has served (which numbers the calls for `Env.repositoryFails`). -/
structure Repository where
  store : TransactionStore
  calls : Nat
  deriving DecidableEq

/-- The parts of `historyService` a sync cycle reads and writes: the address map, the
explorer factory's cache, the repository and the event channel. -/
structure HistoryState where
  syncAddresses : SyncAddresses
  explorers : List String
  repository : Repository
  historyEventsChan : EventChannel

/-- `NewHistoryService`: no monitored address and an empty channel of capacity 100, over
the explorer factory and the repository it is given. -/
def newHistoryService (explorers : List String) (repository : Repository) : HistoryState :=
  ⟨[], explorers, repository, ⟨[], historyEventsCapacity, Nat.zero_le _⟩⟩

/-- What the engine's collaborators answer: `chains.Get` for the explorer factory, the
explorers' `GetTransactionHistory`, the transformer's `Apply`, the token store's
`GetToken`, `FromCoreTransaction`, and which repository calls fail transiently (by their
position among all calls). -/
structure Env where
  chains : String → Except Vault0Error Unit
  getTransactionHistory : String → String → TransactionHistoryOptions →
    Except Vault0Error (List Transaction)
  apply : Transaction → Option Transaction
  getToken : String → Except Vault0Error (Option Token)
  fromCoreTransaction : Transaction → Option ServiceTransaction
  repositoryFails : Nat → Bool

end Vault0.History
