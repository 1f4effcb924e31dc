import Vault0.History.Types
import Mathlib.Data.List.Nodup

/-!
# History sync: the map of monitored addresses

`syncAddresses` maps the key `deriveAddressKey` derives from an address to the address
and its `StartBlock`. `MonitorAddress` adds an entry under a key that has none,
`UnmonitorAddress` drops a key's entry, and `setStartBlock` rewrites the `StartBlock` of
an entry that is there. A map these calls build is `WellKeyed`: each key once, each
entry under its own address's key; the calls keep it so and never touch another key's
entry.
-/

namespace Vault0.History

section

variable {m : SyncAddresses} {address : Address} {blockNumber : Int}

/-- Rewriting the value under one key of an association list. -/
theorem lookup_map_update {β : Type} (m : List (String × β)) (k : String) (v : β) (k' : String) :
    (m.map fun e => if e.1 = k then (e.1, v) else e).lookup k' =
      if k' = k then (m.lookup k).map fun _ => v else m.lookup k' := by
  induction m with
  | nil => split <;> rfl
  | cons e m ih =>
    obtain ⟨k₀, v₀⟩ := e
    by_cases h : k' = k₀
    · subst h
      by_cases h₀ : k' = k
      · subst h₀; rw [List.map_cons, if_pos rfl]; simp [List.lookup_cons]
      · rw [List.map_cons, if_neg h₀]; simp [List.lookup_cons, h₀]
    · have hb : (k' == k₀) = false := beq_eq_false_iff_ne.mpr h
      by_cases h₀ : k₀ = k
      · subst h₀; rw [List.map_cons, if_pos rfl]; simp [List.lookup_cons, hb, ih, h]
      · have hb₀ : (k == k₀) = false := beq_eq_false_iff_ne.mpr (Ne.symm h₀)
        rw [List.map_cons, if_neg h₀]
        simp only [List.lookup_cons, hb, hb₀, ih]

/-- `setStartBlock` writes the entry's `StartBlock` when there is one. -/
theorem getStartBlock_setStartBlock (hm : (m.lookup (deriveAddressKey address)).isSome) :
    getStartBlock (setStartBlock m address blockNumber) address = blockNumber := by
  obtain ⟨info, hinfo⟩ := Option.isSome_iff_exists.mp hm
  simp [getStartBlock, setStartBlock, hinfo, lookup_map_update]

/-- `setStartBlock` touches no other key's entry. -/
theorem lookup_setStartBlock_of_ne {k : String} (hk : k ≠ deriveAddressKey address) :
    (setStartBlock m address blockNumber).lookup k = m.lookup k := by
  simp only [setStartBlock]
  split
  · rfl
  · simp [lookup_map_update, hk]

/-- `setStartBlock` leaves which address every key stands for. -/
theorem lookup_setStartBlock_address (k : String) :
    ((setStartBlock m address blockNumber).lookup k).map (·.address) = (m.lookup k).map (·.address) := by
  by_cases hk : k = deriveAddressKey address
  · subst hk
    cases hinfo : m.lookup (deriveAddressKey address) with
    | none => simp [setStartBlock, hinfo]
    | some info => simp [setStartBlock, hinfo, lookup_map_update]
  · rw [lookup_setStartBlock_of_ne hk]

theorem lookup_setStartBlock_isSome {k : String} (hm : (m.lookup k).isSome) :
    ((setStartBlock m address blockNumber).lookup k).isSome := by
  have h : ((setStartBlock m address blockNumber).lookup k).map (·.address) =
      (m.lookup k).map (·.address) := lookup_setStartBlock_address k
  have := congrArg Option.isSome h
  rw [Option.isSome_map', Option.isSome_map'] at this
  rwa [this]

/-! ## Well-keyed maps -/

/-- Each key once, each entry under its own address's key. -/
structure WellKeyed (m : SyncAddresses) : Prop where
  nodup : (m.map (·.1)).Nodup
  keyed : ∀ e ∈ m, e.1 = deriveAddressKey e.2.address

theorem WellKeyed.tail {e : String × AddressSyncInfo} (h : WellKeyed (e :: m)) : WellKeyed m :=
  ⟨(List.nodup_cons.mp h.nodup).2, fun e' he' => h.keyed e' (.tail _ he')⟩

/-- Two maps with one entry under the address's key read one `StartBlock`. -/
theorem getStartBlock_congr {m' : SyncAddresses}
    (h : m.lookup (deriveAddressKey address) = m'.lookup (deriveAddressKey address)) :
    getStartBlock m address = getStartBlock m' address := by
  simp only [getStartBlock, h]

theorem lookup_append_singleton_of_ne {k k' : String} {v : AddressSyncInfo} (hk : k ≠ k') :
    (m ++ [(k', v)]).lookup k = m.lookup k := by
  induction m with
  | nil => simp [List.lookup_cons, beq_eq_false_iff_ne.mpr hk]
  | cons e m ih =>
    obtain ⟨k₀, v₀⟩ := e
    simp only [List.cons_append, List.lookup_cons, ih]

theorem lookup_filter_of_ne {k k' : String} (hk : k ≠ k') :
    (m.filter (·.1 ≠ k')).lookup k = m.lookup k := by
  induction m with
  | nil => rfl
  | cons e m ih =>
    obtain ⟨k₀, v₀⟩ := e
    by_cases h₀ : k₀ = k'
    · subst h₀
      simpa [List.filter_cons, List.lookup_cons, beq_eq_false_iff_ne.mpr hk] using ih
    · simp [List.filter_cons, h₀, List.lookup_cons] at ih ⊢
      rw [ih]

theorem lookup_append_singleton_self {k : String} {v : AddressSyncInfo} (h : m.lookup k = none) :
    (m ++ [(k, v)]).lookup k = some v := by
  induction m with
  | nil => simp [List.lookup_cons]
  | cons e m ih =>
    obtain ⟨k₀, v₀⟩ := e
    by_cases h₀ : k = k₀
    · subst h₀; simp [List.lookup_cons] at h
    · simp only [List.cons_append, List.lookup_cons, beq_eq_false_iff_ne.mpr h₀] at h ⊢
      exact ih h

/-- Dropping a key's entries leaves it none. -/
theorem lookup_filter_self {k : String} : (m.filter (·.1 ≠ k)).lookup k = none := by
  induction m with
  | nil => rfl
  | cons e m ih =>
    obtain ⟨k₀, v₀⟩ := e
    by_cases h₀ : k₀ = k
    · subst h₀; simpa [List.filter_cons] using ih
    · rw [List.filter_cons_of_pos (by simpa using h₀), List.lookup_cons,
        beq_eq_false_iff_ne.mpr (Ne.symm h₀)]
      exact ih

/-- `MonitorAddress` creates the entry of an address that has none. -/
theorem lookup_monitorAddress_of_none (h : m.lookup (deriveAddressKey address) = none) :
    (monitorAddress m address blockNumber).lookup (deriveAddressKey address) =
      some ⟨address, blockNumber⟩ := by
  simp only [monitorAddress, h, Option.isSome_none, Bool.false_eq_true, if_false]
  exact lookup_append_singleton_self h

/-- `MonitorAddress` of an address that has an entry changes nothing. -/
theorem monitorAddress_of_isSome (h : (m.lookup (deriveAddressKey address)).isSome) :
    monitorAddress m address blockNumber = m := by
  simp [monitorAddress, h]

/-- After `UnmonitorAddress` the address has no entry. -/
theorem lookup_unmonitorAddress_self :
    (unmonitorAddress m address).lookup (deriveAddressKey address) = none := by
  dsimp only [unmonitorAddress]
  split
  · exact lookup_filter_self
  · next h => exact Option.not_isSome_iff_eq_none.mp h

/-- `setStartBlock` of an address that has no entry changes nothing. -/
theorem setStartBlock_of_lookup_eq_none (h : m.lookup (deriveAddressKey address) = none) :
    setStartBlock m address blockNumber = m := by
  simp [setStartBlock, h]

/-- Two addresses under one key read the same `StartBlock`. -/
theorem getStartBlock_of_key_eq {address' : Address}
    (h : deriveAddressKey address' = deriveAddressKey address) :
    getStartBlock m address' = getStartBlock m address := by
  simp only [getStartBlock, h]

end

/-! ## Calls from outside the sync loop -/

/-- A `MonitorAddress` or `UnmonitorAddress` call. -/
inductive MapCall
  | monitor (address : Address) (startBlockNumber : Int)
  | unmonitor (address : Address)
  deriving DecidableEq, Repr

/-- The address a call names. -/
def MapCall.address : MapCall → Address
  | .monitor address _ => address
  | .unmonitor address => address

/-- What a call does to the map. -/
def MapCall.apply (m : SyncAddresses) : MapCall → SyncAddresses
  | .monitor address startBlockNumber => monitorAddress m address startBlockNumber
  | .unmonitor address => unmonitorAddress m address

variable {m : SyncAddresses}

/-- A call leaves every other key's entry alone. -/
theorem MapCall.lookup_apply_of_ne (c : MapCall) {k : String}
    (hk : k ≠ deriveAddressKey c.address) : (MapCall.apply m c).lookup k = m.lookup k := by
  cases c with
  | monitor address startBlockNumber =>
    simp only [MapCall.apply, monitorAddress]
    split
    · rfl
    · exact lookup_append_singleton_of_ne hk
  | unmonitor address =>
    simp only [MapCall.apply, unmonitorAddress]
    split
    · exact lookup_filter_of_ne hk
    · rfl

end Vault0.History
