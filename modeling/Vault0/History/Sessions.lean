import Vault0.History.Sync

/-!
# History sync: monitoring sessions against a running sub-fetch

A sub-fetch reads its address's `StartBlock` under the read lock (`getStartBlock`), asks
the explorer and runs the item loop without the lock, then writes `StartBlock` under the
lock (`setStartBlock`). `MonitorAddress` and `UnmonitorAddress` take the lock in between.
`SessionRun` is that interleaving, with one sub-fetch in flight at a time (one
scheduler) and, as ghost state, the number of sessions of one watched address: a session
runs from the `MonitorAddress` that creates the address's entry to the next
`UnmonitorAddress`. A read followed by a write is the sub-fetch of `Sync`
(`syncByType_read_write`).

Every step keeps the watched address's `StartBlock` within a session unless it is the
write of a sub-fetch of that address, and such a write does not lower it when the
sub-fetch read in the same session (`sessionRun_step`). A sub-fetch that read before an
`UnmonitorAddress` and a new `MonitorAddress` writes into the new session, and one that
reads after an `UnmonitorAddress` asks the explorer from block 0
(`stale_subFetch_writes_new_session`).
-/

namespace Vault0.History

/-- A sub-fetch between its read of `StartBlock` and its write: its address, the value it
read, and (ghost) the watched address's session count at the read. -/
structure InFlight where
  address : Address
  value : Int
  session : Nat
  deriving DecidableEq, Repr

/-- The map, the ghost session count of the watched address, and the sub-fetch in flight. -/
structure SessionRun where
  syncAddresses : SyncAddresses
  session : Nat
  inFlight : Option InFlight

/-- The steps that take `syncMutex`: the two calls, and a sub-fetch's read and write. -/
inductive SessionEvent
  | monitor (address : Address) (startBlockNumber : Int)
  | unmonitor (address : Address)
  | read (address : Address)
  | write (page : List Transaction)

namespace SessionRun

/-- One step, for the watched address `a`. A read starts a sub-fetch when none is in
flight; a write ends it, setting `StartBlock` past the page's last item as
`syncTransactionsForAddressByType` does (nothing for an empty page). -/
def step (a : Address) (r : SessionRun) : SessionEvent → SessionRun
  | .monitor b startBlockNumber =>
    { r with
      syncAddresses := monitorAddress r.syncAddresses b startBlockNumber
      session :=
        if deriveAddressKey b = deriveAddressKey a ∧
            (r.syncAddresses.lookup (deriveAddressKey a)).isNone then r.session + 1
        else r.session }
  | .unmonitor b => { r with syncAddresses := unmonitorAddress r.syncAddresses b }
  | .read b =>
    match r.inFlight with
    | none =>
      { r with
        inFlight := some ⟨b, getStartBlock r.syncAddresses b, r.session⟩ }
    | some _ => r
  | .write page =>
    match r.inFlight with
    | none => r
    | some f =>
      { r with
        syncAddresses := match page.getLast? with
          | none => r.syncAddresses
          | some last => setStartBlock r.syncAddresses f.address (last.blockNumber + 1)
        inFlight := none }

/-- A trace of steps. -/
def run (a : Address) (r : SessionRun) (events : List SessionEvent) : SessionRun :=
  events.foldl (step a) r

/-- A state some run reaches from a state with no sub-fetch in flight. -/
def Reachable (a : Address) (r : SessionRun) : Prop :=
  ∃ r₀ events, r₀.inFlight = none ∧ run a r₀ events = r

variable {a : Address} {r : SessionRun}

/-! ## What one step can do -/

/-- What one step can do to the watched address's entry and to the session count: nothing;
create the entry, opening a session; drop it; or, as the write of a sub-fetch of the same
key, set its `StartBlock` past the page. -/
theorem step_lookup_cases (r : SessionRun) (e : SessionEvent) :
    ((step a r e).syncAddresses.lookup (deriveAddressKey a) =
        r.syncAddresses.lookup (deriveAddressKey a) ∧ (step a r e).session = r.session) ∨
    (∃ b sb, e = .monitor b sb ∧ deriveAddressKey b = deriveAddressKey a ∧
      r.syncAddresses.lookup (deriveAddressKey a) = none ∧
      (step a r e).session = r.session + 1 ∧
      (step a r e).syncAddresses.lookup (deriveAddressKey a) = some ⟨b, sb⟩) ∨
    (∃ b, e = .unmonitor b ∧ (step a r e).session = r.session ∧
      (step a r e).syncAddresses.lookup (deriveAddressKey a) = none) ∨
    (∃ page f last, e = .write page ∧ r.inFlight = some f ∧
      deriveAddressKey f.address = deriveAddressKey a ∧ page.getLast? = some last ∧
      step a r e = { r with
        syncAddresses := setStartBlock r.syncAddresses f.address (last.blockNumber + 1)
        inFlight := none }) := by
  cases e with
  | monitor b sb =>
    by_cases hk : deriveAddressKey b = deriveAddressKey a
    · cases hl : r.syncAddresses.lookup (deriveAddressKey a) with
      | none =>
        refine .inr (.inl ⟨b, sb, rfl, hk, rfl, by simp [step, hk, hl], ?_⟩)
        show (monitorAddress r.syncAddresses b sb).lookup _ = _
        rw [← hk] at hl ⊢
        exact lookup_monitorAddress_of_none hl
      | some info =>
        have hm : monitorAddress r.syncAddresses b sb = r.syncAddresses :=
          monitorAddress_of_isSome (by rw [hk, hl]; rfl)
        exact .inl ⟨by simp [step, hm, hl], by simp [step, hl]⟩
    · exact .inl ⟨MapCall.lookup_apply_of_ne (.monitor b sb) (Ne.symm hk), by simp [step, hk]⟩
  | unmonitor b =>
    by_cases hk : deriveAddressKey b = deriveAddressKey a
    · exact .inr (.inr (.inl ⟨b, rfl, rfl, hk ▸ lookup_unmonitorAddress_self⟩))
    · exact .inl ⟨MapCall.lookup_apply_of_ne (.unmonitor b) (Ne.symm hk), rfl⟩
  | read b =>
    left
    cases hf : r.inFlight <;> simp [step, hf]
  | write page =>
    cases hf : r.inFlight with
    | none => exact .inl (by simp [step, hf])
    | some f =>
      cases hl : page.getLast? with
      | none => exact .inl (by simp [step, hf, hl])
      | some last =>
        by_cases hk : deriveAddressKey f.address = deriveAddressKey a
        · exact .inr (.inr (.inr ⟨page, f, last, rfl, rfl, hk, hl, by simp [step, hf, hl]⟩))
        · exact .inl ⟨by simpa [step, hf, hl] using lookup_setStartBlock_of_ne (Ne.symm hk),
            by simp [step, hf]⟩

/-- What one step can do to the sub-fetch in flight: nothing; start one at a read, which
changes nothing else; or end it. -/
theorem step_inFlight_cases (r : SessionRun) (e : SessionEvent) :
    (step a r e).inFlight = r.inFlight ∨
    (∃ b, step a r e = { r with inFlight := some ⟨b, getStartBlock r.syncAddresses b, r.session⟩ }) ∨
    (step a r e).inFlight = none := by
  cases e with
  | monitor | unmonitor => exact .inl rfl
  | read b =>
    cases hf : r.inFlight with
    | none => exact .inr (.inl ⟨b, by simp [step, hf]⟩)
    | some f => exact .inl (by simp [step, hf])
  | write page =>
    cases hf : r.inFlight with
    | none => exact .inl (by simp [step, hf])
    | some f => exact .inr (.inr (by simp [step, hf]))

/-! ## The invariant of every run -/

/-- The sub-fetch in flight read in this session or an earlier one, and if it read the
watched key in this session while the entry is there, it read the entry's `StartBlock`. -/
structure Inv (a : Address) (r : SessionRun) : Prop where
  session_le : ∀ f, r.inFlight = some f → f.session ≤ r.session
  current : ∀ f, r.inFlight = some f → deriveAddressKey f.address = deriveAddressKey a →
    f.session = r.session → (r.syncAddresses.lookup (deriveAddressKey a)).isSome →
    f.value = getStartBlock r.syncAddresses a

/-- A state with no sub-fetch in flight satisfies the invariant. -/
theorem inv_start (h : r.inFlight = none) : Inv a r :=
  ⟨fun _ hf => absurd (h ▸ hf) Option.noConfusion, fun _ hf => absurd (h ▸ hf) Option.noConfusion⟩

/-- Every step keeps the invariant. -/
theorem inv_step (h : Inv a r) (e : SessionEvent) : Inv a (step a r e) := by
  rcases step_inFlight_cases r e with hi | ⟨b, hstep⟩ | hi
  · rcases step_lookup_cases r e with ⟨hl, hs⟩ | ⟨_, _, -, -, -, hs, -⟩ | ⟨_, -, hs, hl⟩ |
      ⟨_, _, _, -, -, -, -, hstep⟩
    · refine ⟨fun f hf => hs ▸ h.session_le f (hi.symm.trans hf), fun f hf hk hs' hp => ?_⟩
      rw [getStartBlock_congr hl]
      exact h.current f (hi.symm.trans hf) hk (hs ▸ hs') (hl ▸ hp)
    · refine ⟨fun f hf => ?_, fun f hf _ hs' _ => ?_⟩ <;>
        have := h.session_le f (hi.symm.trans hf) <;> omega
    · refine ⟨fun f hf => hs ▸ h.session_le f (hi.symm.trans hf), fun _ _ _ _ hp => ?_⟩
      rw [hl] at hp; cases hp
    · exact ⟨fun _ hf => by simp [hstep] at hf, fun _ hf => by simp [hstep] at hf⟩
  · rw [hstep]
    refine ⟨fun f hf => ?_, fun f hf hk _ _ => ?_⟩ <;> cases hf
    · exact Nat.le_refl _
    · exact getStartBlock_of_key_eq hk
  · exact ⟨fun _ hf => absurd (hi ▸ hf) Option.noConfusion,
      fun _ hf => absurd (hi ▸ hf) Option.noConfusion⟩

/-- Every run keeps the invariant. -/
theorem inv_run (h : Inv a r) (events : List SessionEvent) : Inv a (run a r events) := by
  induction events generalizing r with
  | nil => exact h
  | cons e events ih => exact ih (inv_step h e)

theorem Reachable.inv (hr : Reachable a r) : Inv a r := by
  obtain ⟨r₀, events, h₀, rfl⟩ := hr
  exact inv_run (inv_start h₀) events

/-! ## Sessions -/

/-- A write by a sub-fetch of the watched key that read in the current session does not
lower `StartBlock`, when the explorer's page starts at the block it asked from and
`StartBlock` fits `Int64()`. -/
theorem step_write_monotone (h : Inv a r) {f : InFlight} (page : List Transaction)
    (hf : r.inFlight = some f) (hk : deriveAddressKey f.address = deriveAddressKey a)
    (hs : f.session = r.session) (hpage : ∀ x ∈ page, int64 f.value ≤ x.blockNumber)
    (hlt : getStartBlock r.syncAddresses a < 2 ^ 63) :
    getStartBlock r.syncAddresses a ≤ getStartBlock (step a r (.write page)).syncAddresses a := by
  cases hl : page.getLast? with
  | none => simp [step, hf, hl]
  | some last =>
    have hstep : (step a r (.write page)).syncAddresses =
        setStartBlock r.syncAddresses f.address (last.blockNumber + 1) := by
      simp [step, hf, hl]
    rw [hstep, ← getStartBlock_of_key_eq hk, ← getStartBlock_of_key_eq hk]
    cases hp : r.syncAddresses.lookup (deriveAddressKey f.address) with
    | none => rw [setStartBlock_of_lookup_eq_none hp]
    | some info =>
      rw [getStartBlock_setStartBlock (by rw [hp]; rfl)]
      have hv : f.value = getStartBlock r.syncAddresses f.address := by
        rw [getStartBlock_of_key_eq hk]
        exact h.current f hf hk hs (by rw [← hk, hp]; rfl)
      have hle := hpage last (List.mem_of_getLast?_eq_some hl)
      have := self_le_int64 (hv ▸ getStartBlock_of_key_eq hk ▸ hlt)
      omega

end SessionRun

open SessionRun

/-- Without a concurrent call, a sub-fetch is the machine's read of its address followed by
the write of the page the explorer answered for the value read; a failed sub-fetch leaves
the map as it was. -/
theorem syncByType_refines_session (env : Env) (s : HistoryState) (b : Address)
    (txType : TransactionType) (a : Address) (g : Nat) :
    (syncTransactionsForAddressByType env s b txType).1.syncAddresses = s.syncAddresses ∨
    ∃ items, env.getTransactionHistory b.chainType b.address
        ⟨txType, int64 (getStartBlock s.syncAddresses b), 9000⟩ = .ok items ∧
      (syncTransactionsForAddressByType env s b txType).1.syncAddresses =
        (run a ⟨s.syncAddresses, g, none⟩ [.read b, .write items]).syncAddresses := by
  rcases syncByType_cases env s b txType with ⟨_, -, h⟩ | ⟨explorers, -, ⟨_, -, h⟩ | ⟨items, hq, h⟩⟩
  · exact .inl (by rw [h])
  · exact .inl (by rw [h])
  · refine .inr ⟨items, hq, ?_⟩
    rw [h, afterPage_syncAddresses]
    rfl

/-- Every step of every run, for a watched address `a`: a `MonitorAddress` that creates
`a`'s entry opens a session at the block it names; a sub-fetch of `a` reads the entry's
current `StartBlock`, or 0 when `a` has no entry; within a session only the write of a
sub-fetch of `a`'s key changes `StartBlock`; and such a write does not lower it when the
sub-fetch read in the same session, its page starts at the block asked for, and
`StartBlock` fits `Int64()`. -/
theorem sessionRun_step (a : Address) (r : SessionRun) (hr : Reachable a r) :
    (∀ b sb, deriveAddressKey b = deriveAddressKey a →
      r.syncAddresses.lookup (deriveAddressKey a) = none →
      (step a r (.monitor b sb)).session = r.session + 1 ∧
      getStartBlock (step a r (.monitor b sb)).syncAddresses a = sb) ∧
    (∀ b, deriveAddressKey b = deriveAddressKey a → r.inFlight = none →
      ∃ f, (step a r (.read b)).inFlight = some f ∧ f.session = r.session ∧
        f.value = (match r.syncAddresses.lookup (deriveAddressKey a) with
          | some info => info.startBlock
          | none => 0)) ∧
    (∀ e, (step a r e).session = r.session →
      ((step a r e).syncAddresses.lookup (deriveAddressKey a)).isSome →
      getStartBlock (step a r e).syncAddresses a ≠ getStartBlock r.syncAddresses a →
      ∃ page f, e = .write page ∧ r.inFlight = some f ∧
        deriveAddressKey f.address = deriveAddressKey a) ∧
    (∀ page f, r.inFlight = some f → deriveAddressKey f.address = deriveAddressKey a →
      f.session = r.session → (∀ x ∈ page, int64 f.value ≤ x.blockNumber) →
      getStartBlock r.syncAddresses a < 2 ^ 63 →
      getStartBlock r.syncAddresses a ≤ getStartBlock (step a r (.write page)).syncAddresses a) := by
  refine ⟨fun b sb hk hl => ?_, fun b hk hf => ?_, fun e hs hp hne => ?_,
    fun page f hf hk hs hpage hlt => step_write_monotone hr.inv page hf hk hs hpage hlt⟩
  · rcases step_lookup_cases (a := a) r (.monitor b sb) with ⟨-, hs⟩ | ⟨_, _, he, -, -, hs, hl'⟩ | ⟨_, he, -⟩ |
      ⟨_, _, _, he, -⟩
    · simp [step, hk, hl] at hs
    · cases he
      exact ⟨hs, by simp only [getStartBlock, hl']⟩
    all_goals cases he
  · exact ⟨⟨b, getStartBlock r.syncAddresses b, r.session⟩, by simp [step, hf], rfl,
      getStartBlock_of_key_eq hk⟩
  · rcases step_lookup_cases (a := a) r e with ⟨hl, -⟩ | ⟨_, _, -, -, -, hs', -⟩ | ⟨_, -, -, hl⟩ |
      ⟨page, f, _, rfl, hf, hk, -⟩
    · exact absurd (getStartBlock_congr hl) hne
    · omega
    · rw [hl] at hp; cases hp
    · exact ⟨page, f, rfl, hf, hk⟩

/-- The watched address monitored from block 100, in its first session, with nothing in
flight. -/
def sessionStart : SessionRun := ⟨monitorAddress [] watchedAddress 100, 1, none⟩

theorem sessionRun_step_sessionStart :
    Reachable watchedAddress sessionStart ∧
    ((∀ b sb, deriveAddressKey b = deriveAddressKey watchedAddress →
      sessionStart.syncAddresses.lookup (deriveAddressKey watchedAddress) = none →
      (step watchedAddress sessionStart (.monitor b sb)).session = sessionStart.session + 1 ∧
      getStartBlock (step watchedAddress sessionStart (.monitor b sb)).syncAddresses
        watchedAddress = sb) ∧
    (∀ b, deriveAddressKey b = deriveAddressKey watchedAddress → sessionStart.inFlight = none →
      ∃ f, (step watchedAddress sessionStart (.read b)).inFlight = some f ∧
        f.session = sessionStart.session ∧
        f.value = (match sessionStart.syncAddresses.lookup (deriveAddressKey watchedAddress) with
          | some info => info.startBlock
          | none => 0)) ∧
    (∀ e, (step watchedAddress sessionStart e).session = sessionStart.session →
      ((step watchedAddress sessionStart e).syncAddresses.lookup
        (deriveAddressKey watchedAddress)).isSome →
      getStartBlock (step watchedAddress sessionStart e).syncAddresses watchedAddress ≠
        getStartBlock sessionStart.syncAddresses watchedAddress →
      ∃ page f, e = .write page ∧ sessionStart.inFlight = some f ∧
        deriveAddressKey f.address = deriveAddressKey watchedAddress) ∧
    (∀ page f, sessionStart.inFlight = some f →
      deriveAddressKey f.address = deriveAddressKey watchedAddress →
      f.session = sessionStart.session → (∀ x ∈ page, int64 f.value ≤ x.blockNumber) →
      getStartBlock sessionStart.syncAddresses watchedAddress < 2 ^ 63 →
      getStartBlock sessionStart.syncAddresses watchedAddress ≤
        getStartBlock (step watchedAddress sessionStart (.write page)).syncAddresses
          watchedAddress)) :=
  have hr : Reachable watchedAddress sessionStart := ⟨sessionStart, [], rfl, rfl⟩
  ⟨hr, sessionRun_step watchedAddress sessionStart hr⟩

/-- A sub-fetch of the watched address whose cycle's snapshot was taken before an
`UnmonitorAddress` reads 0 and asks the explorer from block 0; and one that read 100 in the
first session writes 151 into a second session that `MonitorAddress` opened at block 500. -/
theorem stale_subFetch_writes_new_session :
    (run watchedAddress sessionStart [.unmonitor watchedAddress, .read watchedAddress]).inFlight =
      some ⟨watchedAddress, 0, 1⟩ ∧
    (run watchedAddress sessionStart
      [.read watchedAddress, .unmonitor watchedAddress, .monitor watchedAddress 500]).inFlight =
      some ⟨watchedAddress, 100, 1⟩ ∧
    (run watchedAddress sessionStart
      [.read watchedAddress, .unmonitor watchedAddress, .monitor watchedAddress 500]).session = 2 ∧
    getStartBlock (run watchedAddress sessionStart
      [.read watchedAddress, .unmonitor watchedAddress, .monitor watchedAddress 500]).syncAddresses
      watchedAddress = 500 ∧
    (run watchedAddress sessionStart [.read watchedAddress, .unmonitor watchedAddress,
      .monitor watchedAddress 500, .write [⟨"0x1", 150, none⟩]]).session = 2 ∧
    getStartBlock (run watchedAddress sessionStart [.read watchedAddress,
      .unmonitor watchedAddress, .monitor watchedAddress 500,
      .write [⟨"0x1", 150, none⟩]]).syncAddresses watchedAddress = 151 := by
  decide

end Vault0.History
