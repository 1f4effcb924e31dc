import Vault0.History.Provenance

/-!
# History sync: the `StartBlock` watermark never moves back

A sub-fetch asks the explorer from `StartBlock.Int64()` and, only when it gets a page back,
sets `StartBlock` to the page's last item's block plus one. Against an explorer that answers
at or above the block it is asked from and below the largest `int64`, the watermark therefore
only moves up and stays in the `int64` range, where `Int64()` changes nothing. `MonitorAddress`
of an address already monitored changes nothing, and the syncs and calls of other keys leave
the entry alone. So over every run of cycles in which no `UnmonitorAddress` call names the
address, its `StartBlock` only grows, whatever the explorer factory, the transformer, the
token store and the repository answer or fail (`runCycles_startBlock_monotone`).

The watermark moves past the page's last item whatever the item loop saved: a failed save
does not hold it back (`syncByType_advances_past_failed_item`), and no later sub-fetch of the
address is answered with a transaction at or below that item's block, so the failed item is
never fetched again (`syncByType_startBlock_ignores_failures`).
-/

namespace Vault0.History

/-- The explorer answers every query for an address under the key `k` with transactions at
or above the block asked for and below the largest `int64`. -/
def AnswersAbove (env : Env) (k : String) : Prop :=
  ∀ address : Address, deriveAddressKey address = k → ∀ txType startBlock items,
    env.getTransactionHistory address.chainType address.address ⟨txType, startBlock, 9000⟩ =
      .ok items → ∀ x ∈ items, startBlock ≤ x.blockNumber ∧ x.blockNumber < 2 ^ 63 - 1

/-- The entry under `k` holds a `StartBlock` of the `int64` range at or above `b`. -/
def StartsFrom (k : String) (b : Int) (m : SyncAddresses) : Prop :=
  ∃ info, m.lookup k = some info ∧ b ≤ info.startBlock ∧
    -2 ^ 63 ≤ info.startBlock ∧ info.startBlock < 2 ^ 63

/-- `Int64()` is the identity on the `int64` range. -/
theorem int64_of_range {x : Int} (hlo : -2 ^ 63 ≤ x) (hhi : x < 2 ^ 63) : int64 x = x :=
  le_antisymm (int64_le_self hlo) (self_le_int64 hhi)

variable {k : String} {b : Int} {m : SyncAddresses}

/-- An entry in range starts from its own `StartBlock`. -/
theorem startsFrom_getStartBlock {address : Address}
    (hmon : (m.lookup (deriveAddressKey address)).isSome)
    (hlo : -2 ^ 63 ≤ getStartBlock m address) (hhi : getStartBlock m address < 2 ^ 63) :
    StartsFrom (deriveAddressKey address) (getStartBlock m address) m := by
  obtain ⟨info, hl⟩ := Option.isSome_iff_exists.mp hmon
  have hsb : getStartBlock m address = info.startBlock := by simp [getStartBlock, hl]
  exact ⟨info, hl, hsb.le, hsb ▸ hlo, hsb ▸ hhi⟩

namespace StartsFrom

/-- What an entry that starts from `b` says of its address's `StartBlock`. -/
theorem start_le {address : Address} (h : StartsFrom (deriveAddressKey address) b m) :
    (m.lookup (deriveAddressKey address)).isSome ∧ b ≤ getStartBlock m address ∧
      -2 ^ 63 ≤ getStartBlock m address ∧ getStartBlock m address < 2 ^ 63 := by
  obtain ⟨info, hl, hb, hlo, hhi⟩ := h
  simp only [getStartBlock, hl]
  exact ⟨rfl, hb, hlo, hhi⟩

/-- Writing another key's `StartBlock`, or one in range no lower than the key's own, keeps
the entry. -/
theorem setStartBlock (h : StartsFrom k b m) {address : Address} {v : Int}
    (hv : deriveAddressKey address = k → getStartBlock m address ≤ v ∧ v < 2 ^ 63) :
    StartsFrom k b (setStartBlock m address v) := by
  by_cases hk : deriveAddressKey address = k
  · obtain ⟨info, hl, hb, hlo, -⟩ := h
    have hsb : getStartBlock m address = info.startBlock := by simp [getStartBlock, hk, hl]
    obtain ⟨hle, hlt⟩ := hv hk
    rw [hsb] at hle
    refine ⟨{ info with startBlock := v }, ?_, hb.trans hle, hlo.trans hle, hlt⟩
    subst hk
    simp [Vault0.History.setStartBlock, hl, lookup_map_update]
  · simpa only [StartsFrom, lookup_setStartBlock_of_ne (Ne.symm hk)] using h

/-- A sub-fetch keeps the entry under `k`, whatever its explorer factory, transformer, token
store and repository answer or fail, when its explorer answers the key's queries at or above
the block asked for: the page's last item is at or above the `StartBlock` it was asked from. -/
theorem syncByType {env : Env} (hans : AnswersAbove env k) {s : HistoryState}
    (h : StartsFrom k b s.syncAddresses) (address : Address) (txType : TransactionType) :
    StartsFrom k b (syncTransactionsForAddressByType env s address txType).1.syncAddresses := by
  rcases syncByType_cases env s address txType with
    ⟨_, _, he⟩ | ⟨explorers, _, ⟨_, _, he⟩ | ⟨items, hq, he⟩⟩ <;> rw [he]
  · exact h
  · exact h
  · rw [afterPage_syncAddresses]
    split
    · exact h
    · next last hlast =>
      refine h.setStartBlock fun hk => ?_
      obtain ⟨info, hl, -, hlo, hhi⟩ := h
      have hsb : getStartBlock s.syncAddresses address = info.startBlock := by
        simp [getStartBlock, hk, hl]
      obtain ⟨hge, hlt⟩ := hans address hk txType _ items hq last
        (List.mem_of_getLast?_eq_some hlast)
      rw [hsb, int64_of_range hlo hhi] at hge
      rw [hsb]
      exact ⟨hge.trans (Int.le_add_one le_rfl), by omega⟩

/-- A `MonitorAddress` call keeps the entry under `k`, since it changes nothing for an
address already monitored, and so does an `UnmonitorAddress` call of another key. -/
theorem mapCall (h : StartsFrom k b m) (c : MapCall)
    (hc : ∀ address, c = .unmonitor address → deriveAddressKey address ≠ k) :
    StartsFrom k b (MapCall.apply m c) := by
  by_cases hk : k = deriveAddressKey c.address
  · cases c with
    | monitor address startBlockNumber =>
      have hmon : (m.lookup (deriveAddressKey address)).isSome := by
        obtain ⟨info, hl, -⟩ := h
        rw [← show k = deriveAddressKey address from hk, hl]
        rfl
      rwa [MapCall.apply, monitorAddress_of_isSome hmon]
    | unmonitor address => exact absurd hk.symm (hc address rfl)
  · simpa only [StartsFrom, MapCall.lookup_apply_of_ne c hk] using h

theorem mapCalls (calls : List MapCall)
    (hc : ∀ address, MapCall.unmonitor address ∈ calls → deriveAddressKey address ≠ k)
    (h : StartsFrom k b m) : StartsFrom k b (calls.foldl MapCall.apply m) := by
  induction calls generalizing m with
  | nil => exact h
  | cons c calls ih =>
    exact ih (fun a ha => hc a (.tail _ ha)) (h.mapCall c fun a hca => hc a (hca ▸ .head _))

/-- Every sub-fetch of per-address syncs starts from a map whose entry under `k` starts from
`b`, when the explorer answers the key's queries at or above the block asked for. -/
theorem mem_subFetches {env : Env} (hans : AnswersAbove env k) :
    ∀ (addresses : List Address) (s : HistoryState), StartsFrom k b s.syncAddresses →
      ∀ f ∈ History.subFetches env s addresses, StartsFrom k b f.1.syncAddresses
  | [], _, _, _, hf => absurd hf (List.not_mem_nil _)
  | a :: addresses, s, h, f, hf => by
    have h₁ := h.syncByType hans a .normal
    rcases List.mem_cons.mp hf with rfl | hf
    · exact h
    rcases List.mem_cons.mp hf with rfl | hf
    · exact h₁
    · exact mem_subFetches hans addresses _ (h₁.syncByType hans a .erc20) f hf

section Run

variable {envs : Nat → Env} {calls : Nat → List MapCall} {s₀ : HistoryState}

/-- Over a run in which no `UnmonitorAddress` call names the key and every explorer answers the
key's queries at or above the block asked for, the entry keeps starting from `b`. -/
theorem runCycles_of_le (hcalls : ∀ n a, MapCall.unmonitor a ∈ calls n → deriveAddressKey a ≠ k)
    (hans : ∀ n, AnswersAbove (envs n) k) {i j : Nat} (hij : i ≤ j)
    (h : StartsFrom k b (History.runCycles envs calls s₀ i).syncAddresses) :
    StartsFrom k b (History.runCycles envs calls s₀ j).syncAddresses := by
  induction hij with
  | refl => exact h
  | step _ ih =>
    exact syncTransactions_of_syncByType
      (fun s s' => StartsFrom k b s.syncAddresses → StartsFrom k b s'.syncAddresses)
      (fun _ => id) (fun h₁ h₂ => h₂ ∘ h₁) (fun _ a txType hs => hs.syncByType (hans _) a txType)
      _ _ (ih.mapCalls (calls _) (hcalls _))

/-- ... and every sub-fetch of the run's `n`-th cycle starts from such a map. -/
theorem cycleFetches (hcalls : ∀ n a, MapCall.unmonitor a ∈ calls n → deriveAddressKey a ≠ k)
    (hans : ∀ n, AnswersAbove (envs n) k) {n : Nat}
    (h : StartsFrom k b (History.runCycles envs calls s₀ n).syncAddresses) :
    ∀ f ∈ History.cycleFetches envs calls s₀ n, StartsFrom k b f.1.syncAddresses :=
  mem_subFetches (hans n) _ _ (h.mapCalls (calls n) (hcalls n))

/-- Over such a run from a map whose entry under `k` starts from `b`, every page a sub-fetch of
an address under `k` gets holds transactions at or above `b` only. -/
theorem page_ge (hcalls : ∀ n a, MapCall.unmonitor a ∈ calls n → deriveAddressKey a ≠ k)
    (hans : ∀ n, AnswersAbove (envs n) k) (h : StartsFrom k b s₀.syncAddresses) {n : Nat}
    {s' : HistoryState} {a : Address} {t : TransactionType}
    (hf : (s', a, t) ∈ History.cycleFetches envs calls s₀ n) (ha : deriveAddressKey a = k)
    {page : List Transaction} (hq : (envs n).getTransactionHistory a.chainType a.address
      ⟨t, int64 (getStartBlock s'.syncAddresses a), 9000⟩ = .ok page) :
    ∀ x ∈ page, b ≤ x.blockNumber := by
  intro x hx
  have h₀ : StartsFrom k b (History.runCycles envs calls s₀ 0).syncAddresses := h
  have hs' := (h₀.runCycles_of_le hcalls hans (Nat.zero_le n)).cycleFetches hcalls hans (s', a, t) hf
  rw [← ha] at hs'
  obtain ⟨-, hle, hlo, hhi⟩ := hs'.start_le
  have hge := (hans n a ha t _ page hq x hx).1
  rw [int64_of_range hlo hhi] at hge
  exact hle.trans hge

end Run

end StartsFrom

/-- Over every run of cycles in which no `UnmonitorAddress` call names the address's key and
every explorer answers the key's queries at or above the block asked for and below the largest
`int64`, whatever the explorer factory, the transformer, the token store and the repository
answer or fail: an address monitored from a block of the `int64` range stays monitored, and
from any cycle to any later one its `StartBlock` only grows and stays in the `int64` range. -/
theorem runCycles_startBlock_monotone (envs : Nat → Env) (calls : Nat → List MapCall)
    (s₀ : HistoryState) (address : Address)
    (hcalls : ∀ n a, MapCall.unmonitor a ∈ calls n → deriveAddressKey a ≠ deriveAddressKey address)
    (hans : ∀ n, AnswersAbove (envs n) (deriveAddressKey address))
    (hmon : (s₀.syncAddresses.lookup (deriveAddressKey address)).isSome)
    (hlo : -2 ^ 63 ≤ getStartBlock s₀.syncAddresses address)
    (hhi : getStartBlock s₀.syncAddresses address < 2 ^ 63) (m n : Nat) (hmn : m ≤ n) :
    ((runCycles envs calls s₀ n).syncAddresses.lookup (deriveAddressKey address)).isSome ∧
    getStartBlock (runCycles envs calls s₀ m).syncAddresses address ≤
      getStartBlock (runCycles envs calls s₀ n).syncAddresses address ∧
    getStartBlock (runCycles envs calls s₀ n).syncAddresses address < 2 ^ 63 := by
  obtain ⟨hmon', -, hlo', hhi'⟩ :=
    ((startsFrom_getStartBlock hmon hlo hhi).runCycles_of_le hcalls hans (Nat.zero_le m)).start_le
  obtain ⟨hmon'', hle, -, hhi''⟩ :=
    ((startsFrom_getStartBlock hmon' hlo' hhi').runCycles_of_le hcalls hans hmn).start_le
  exact ⟨hmon'', hle, hhi''⟩

/-! ## A failed save does not hold the watermark back -/

/-- An explorer that answers every query with transactions at blocks 5 and 6, in front of a
repository whose first call fails. -/
def firstCallFailsEnv : Env where
  chains _ := .ok ()
  getTransactionHistory _ _ _ := .ok [⟨"a", 5, none⟩, ⟨"b", 6, none⟩]
  apply tx := some tx
  getToken _ := .ok none
  fromCoreTransaction tx := some ⟨0, tx.hash, tx.blockNumber⟩
  repositoryFails n := n == 0

/-- A sub-fetch that got a non-empty page leaves `StartBlock` just past its last item
whatever the item loop's collaborators did: changing the transformer, the token store, the
converter or which repository calls fail changes nothing in the map. So over any later run in
which no `UnmonitorAddress` call names the address's key and every explorer answers the key's
queries at or above the block asked for, no page returned to a sub-fetch of the address holds
a transaction at or below the page's last block: an item of the page whose save failed is
never fetched again. -/
theorem syncByType_startBlock_ignores_failures (env : Env) (s : HistoryState) (address : Address)
    (txType : TransactionType) (explorers : List String) (items : List Transaction)
    (last : Transaction)
    (hex : newExplorer env.chains s.explorers address.chainType = .ok explorers)
    (hq : env.getTransactionHistory address.chainType address.address
      ⟨txType, int64 (getStartBlock s.syncAddresses address), 9000⟩ = .ok items)
    (hlast : items.getLast? = some last)
    (hmon : (s.syncAddresses.lookup (deriveAddressKey address)).isSome)
    (hlo : -2 ^ 63 ≤ last.blockNumber + 1) (hhi : last.blockNumber + 1 < 2 ^ 63) :
    getStartBlock (syncTransactionsForAddressByType env s address txType).1.syncAddresses address =
      last.blockNumber + 1 ∧
    (∀ env' : Env, env'.chains = env.chains →
      env'.getTransactionHistory = env.getTransactionHistory →
      (syncTransactionsForAddressByType env' s address txType).1.syncAddresses =
        (syncTransactionsForAddressByType env s address txType).1.syncAddresses) ∧
    ∀ (envs : Nat → Env) (calls : Nat → List MapCall),
      (∀ n a, MapCall.unmonitor a ∈ calls n → deriveAddressKey a ≠ deriveAddressKey address) →
      (∀ n, AnswersAbove (envs n) (deriveAddressKey address)) →
      ∀ n s' a t, (s', a, t) ∈ cycleFetches envs calls
          (syncTransactionsForAddressByType env s address txType).1 n →
        deriveAddressKey a = deriveAddressKey address →
        ∀ page, (envs n).getTransactionHistory a.chainType a.address
            ⟨t, int64 (getStartBlock s'.syncAddresses a), 9000⟩ = .ok page →
          ∀ x ∈ page, last.blockNumber < x.blockNumber := by
  have hsb := syncByType_startBlock_of_page hex hq hlast hmon
  refine ⟨hsb, fun env' hc hh => ?_, fun envs calls hcalls hans n s' a t hf ha page hq' x hx => ?_⟩
  · rw [syncByType_syncAddresses_of_page hex hq hlast,
      syncByType_syncAddresses_of_page (hc ▸ hex) (hh ▸ hq) hlast]
  · have hmon₁ : ((syncTransactionsForAddressByType env s address txType).1.syncAddresses.lookup
        (deriveAddressKey address)).isSome := by
      rw [syncByType_syncAddresses_of_page hex hq hlast]
      exact lookup_setStartBlock_isSome hmon
    have h₀ := startsFrom_getStartBlock hmon₁ (hsb ▸ hlo) (hsb ▸ hhi)
    rw [hsb] at h₀
    exact Int.lt_of_add_one_le (h₀.page_ge hcalls hans hf ha hq' x hx)

theorem syncByType_startBlock_ignores_failures_first_call :
    newExplorer firstCallFailsEnv.chains monitoredState.explorers watchedAddress.chainType =
      .ok [chainTypeEthereum] ∧
    firstCallFailsEnv.getTransactionHistory watchedAddress.chainType watchedAddress.address
      ⟨.normal, int64 (getStartBlock monitoredState.syncAddresses watchedAddress), 9000⟩ =
      .ok [⟨"a", 5, none⟩, ⟨"b", 6, none⟩] ∧
    [(⟨"a", 5, none⟩ : Transaction), ⟨"b", 6, none⟩].getLast? = some ⟨"b", 6, none⟩ ∧
    (monitoredState.syncAddresses.lookup (deriveAddressKey watchedAddress)).isSome ∧
    -2 ^ 63 ≤ (⟨"b", 6, none⟩ : Transaction).blockNumber + 1 ∧
    (⟨"b", 6, none⟩ : Transaction).blockNumber + 1 < 2 ^ 63 ∧
    (getStartBlock (syncTransactionsForAddressByType firstCallFailsEnv monitoredState watchedAddress
        .normal).1.syncAddresses watchedAddress = (⟨"b", 6, none⟩ : Transaction).blockNumber + 1 ∧
      (∀ env' : Env, env'.chains = firstCallFailsEnv.chains →
        env'.getTransactionHistory = firstCallFailsEnv.getTransactionHistory →
        (syncTransactionsForAddressByType env' monitoredState watchedAddress .normal).1.syncAddresses =
          (syncTransactionsForAddressByType firstCallFailsEnv monitoredState watchedAddress
            .normal).1.syncAddresses) ∧
      ∀ (envs : Nat → Env) (calls : Nat → List MapCall),
        (∀ n a, MapCall.unmonitor a ∈ calls n →
          deriveAddressKey a ≠ deriveAddressKey watchedAddress) →
        (∀ n, AnswersAbove (envs n) (deriveAddressKey watchedAddress)) →
        ∀ n s' a t, (s', a, t) ∈ cycleFetches envs calls
            (syncTransactionsForAddressByType firstCallFailsEnv monitoredState watchedAddress
              .normal).1 n →
          deriveAddressKey a = deriveAddressKey watchedAddress →
          ∀ page, (envs n).getTransactionHistory a.chainType a.address
              ⟨t, int64 (getStartBlock s'.syncAddresses a), 9000⟩ = .ok page →
            ∀ x ∈ page, (⟨"b", 6, none⟩ : Transaction).blockNumber < x.blockNumber) :=
  ⟨rfl, rfl, rfl, by decide, by decide, by decide,
    syncByType_startBlock_ignores_failures firstCallFailsEnv monitoredState watchedAddress .normal
      [chainTypeEthereum] _ _ rfl rfl rfl (by decide) (by decide) (by decide)⟩

/-- The first item of the page is kept by the transformer and fails to persist (its
`GetByHash` fails), yet `StartBlock` moves to 7, past its block 5. -/
theorem syncByType_advances_past_failed_item :
    convertItem firstCallFailsEnv .normal ⟨"a", 5, none⟩ = some (⟨"a", 5, none⟩, ⟨0, "a", 5⟩) ∧
    (persistItem firstCallFailsEnv .normal monitoredState.repository ⟨"a", 5, none⟩).2 = none ∧
    getStartBlock (syncTransactionsForAddressByType firstCallFailsEnv monitoredState watchedAddress
      .normal).1.syncAddresses watchedAddress = 7 :=
  ⟨rfl, rfl, by decide⟩

/-- The scenario's explorer answers at or above the block asked for, below the largest
`int64`. -/
theorem scenarioEnv_answersAbove (k : String) : AnswersAbove scenarioEnv k := by
  intro _ _ txType startBlock items hq x hx
  simp only [scenarioEnv, Except.ok.injEq] at hq
  subst hq
  obtain ⟨hmem, hle⟩ := List.mem_filter.mp (List.mem_of_mem_take hx)
  refine ⟨by simpa using hle, ?_⟩
  cases txType <;> simp only [scenarioHistory, List.mem_cons, List.mem_singleton,
    List.not_mem_nil, or_false] at hmem <;> rcases hmem with rfl | rfl | rfl <;> decide

theorem runCycles_startBlock_monotone_scenario :
    (∀ (_ : Nat) a, MapCall.unmonitor a ∈ ([] : List MapCall) →
      deriveAddressKey a ≠ deriveAddressKey watchedAddress) ∧
    (∀ _ : Nat, AnswersAbove scenarioEnv (deriveAddressKey watchedAddress)) ∧
    (scenarioState.syncAddresses.lookup (deriveAddressKey watchedAddress)).isSome ∧
    -2 ^ 63 ≤ getStartBlock scenarioState.syncAddresses watchedAddress ∧
    getStartBlock scenarioState.syncAddresses watchedAddress < 2 ^ 63 ∧ 1 ≤ 2 ∧
    ((runCycles (fun _ => scenarioEnv) (fun _ => []) scenarioState 2).syncAddresses.lookup
      (deriveAddressKey watchedAddress)).isSome ∧
    getStartBlock (runCycles (fun _ => scenarioEnv) (fun _ => []) scenarioState 1).syncAddresses
        watchedAddress ≤
      getStartBlock (runCycles (fun _ => scenarioEnv) (fun _ => []) scenarioState 2).syncAddresses
        watchedAddress ∧
    getStartBlock (runCycles (fun _ => scenarioEnv) (fun _ => []) scenarioState 2).syncAddresses
      watchedAddress < 2 ^ 63 :=
  have hcalls : ∀ (_ : Nat) a, MapCall.unmonitor a ∈ ([] : List MapCall) →
      deriveAddressKey a ≠ deriveAddressKey watchedAddress :=
    fun _ _ h => absurd h (List.not_mem_nil _)
  have hans : ∀ _ : Nat, AnswersAbove scenarioEnv (deriveAddressKey watchedAddress) :=
    fun _ => scenarioEnv_answersAbove _
  have hmon : (scenarioState.syncAddresses.lookup (deriveAddressKey watchedAddress)).isSome := by
    decide
  have hlo : -2 ^ 63 ≤ getStartBlock scenarioState.syncAddresses watchedAddress := by decide
  have hhi : getStartBlock scenarioState.syncAddresses watchedAddress < 2 ^ 63 := by decide
  ⟨hcalls, hans, hmon, hlo, hhi, by decide,
    runCycles_startBlock_monotone (fun _ => scenarioEnv) (fun _ => []) scenarioState watchedAddress
      hcalls hans hmon hlo hhi 1 2 (by decide)⟩

end Vault0.History
