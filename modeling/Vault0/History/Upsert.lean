import Vault0.History.Types
import Mathlib.Data.List.Nodup
import Mathlib.Logic.Function.Basic

/-!
# History sync: the transaction table as a map from hash to row

When every repository call succeeds, the save-or-update block of the item loop
rewrites the row that has the transaction's hash, under that row's own ID, or creates
a row under the next ID. Seen through `view`, which keeps of the table only the row
each hash finds and the next ID, this is an upsert into a map keyed by hash
(`HashView.upsert`), provided no two rows share a hash (`view_upsert`).

The map side is where the loop's laws are proved: a hash keeps its row's ID, and
upserting the same transactions a second time changes nothing (`foldl_upsert_idem`).
-/

namespace Vault0.History

/-! ## The table side -/

namespace TransactionStore

/-- What the save-or-update block does to the table when both its calls succeed: the row
with the transaction's hash is rewritten under its own ID, or a row is created. -/
def upsert (st : TransactionStore) (tx : ServiceTransaction) : TransactionStore :=
  match st.byHash tx.hash with
  | some existing => st.update { tx with id := existing.id }
  | none => st.create tx

/-- No two rows share a hash. -/
def HashesUnique (st : TransactionStore) : Prop :=
  (st.rows.map (·.hash)).Nodup

variable {st : TransactionStore} {tx row : ServiceTransaction} {h : String}

/-- A hash finds no row exactly when no row has it. -/
theorem byHash_eq_none_iff : st.byHash h = none ↔ ∀ r ∈ st.rows, r.hash ≠ h := by
  simp [byHash, List.find?_eq_none]

/-- With unique hashes, a hash finds exactly the row that has it. -/
theorem byHash_eq_some_iff (hu : st.HashesUnique) :
    st.byHash h = some row ↔ row ∈ st.rows ∧ row.hash = h := by
  unfold byHash
  refine ⟨fun hf => ⟨List.mem_of_find?_eq_some hf, by simpa using List.find?_some hf⟩, ?_⟩
  rintro ⟨hmem, rfl⟩
  have hs : (st.rows.find? (·.hash = row.hash)).isSome :=
    List.find?_isSome.mpr ⟨row, hmem, by simp⟩
  obtain ⟨x, hx⟩ := Option.isSome_iff_exists.mp hs
  rw [hx, List.inj_on_of_nodup_map hu (List.mem_of_find?_eq_some hx) hmem
    (by simpa using List.find?_some hx)]

/-- Two rows with one ID are one row. -/
theorem eq_of_id_eq {a b : ServiceTransaction} (ha : a ∈ st.rows) (hb : b ∈ st.rows)
    (hid : a.id = b.id) : a = b :=
  List.inj_on_of_nodup_map st.ids_nodup ha hb hid

/-- Rewriting the row found by hash leaves the hash column as it was. -/
theorem hashes_update_found (hmem : row ∈ st.rows) (hh : row.hash = tx.hash) :
    (st.update { tx with id := row.id }).rows.map (·.hash) = st.rows.map (·.hash) := by
  simp only [update, List.map_map]
  refine List.map_congr_left fun r hr => ?_
  by_cases hid : r.id = row.id
  · simp [hid, eq_of_id_eq hr hmem hid, hh]
  · simp [hid]

/-- The rows after rewriting the row found by hash: the rewritten row and the rows of other
hashes. -/
theorem mem_update_found (hu : st.HashesUnique) (hmem : row ∈ st.rows)
    (hh : row.hash = tx.hash) {r : ServiceTransaction} :
    r ∈ (st.update { tx with id := row.id }).rows ↔
      r = { tx with id := row.id } ∨ r ∈ st.rows ∧ r.hash ≠ tx.hash := by
  simp only [update, List.mem_map]
  constructor
  · rintro ⟨r', hr', rfl⟩
    by_cases hid : r'.id = row.id
    · simp [hid]
    · refine .inr ⟨by simpa [hid] using hr', fun h' => hid ?_⟩
      simp only [hid, ↓reduceIte] at h'
      rw [List.inj_on_of_nodup_map hu hr' hmem (h'.trans hh.symm)]
  · rintro (rfl | ⟨hr, hne⟩)
    · exact ⟨row, hmem, by simp⟩
    · refine ⟨r, hr, ?_⟩
      have : r.id ≠ row.id := fun hid => hne (eq_of_id_eq hr hmem hid ▸ hh)
      simp [this]

/-- One upsert keeps hashes unique. -/
theorem upsert_hashesUnique (hu : st.HashesUnique) : (st.upsert tx).HashesUnique := by
  unfold upsert HashesUnique
  split
  · next existing hb =>
    obtain ⟨hmem, hh⟩ := (byHash_eq_some_iff hu).mp hb
    rw [hashes_update_found hmem hh]
    exact hu
  · next hb =>
    simp only [create, List.map_append, List.map_cons, List.map_nil]
    exact hu.append (List.nodup_singleton _) (List.disjoint_singleton.mpr fun hm => by
      obtain ⟨r, hr, hrh⟩ := List.mem_map.mp hm
      exact byHash_eq_none_iff.mp hb r hr hrh)

end TransactionStore

/-! ## The map side -/

/-- The table seen by hash, as the upsert contract states it: the row each hash finds, and
the next ID. -/
@[ext]
structure HashView where
  row : String → Option ServiceTransaction
  nextID : Nat

/-- The table's view. -/
def TransactionStore.view (st : TransactionStore) : HashView :=
  ⟨st.byHash, st.nextID⟩

/-- Upsert by hash: the row with the transaction's hash keeps its ID, a new hash gets the
next ID. -/
def HashView.upsert (v : HashView) (tx : ServiceTransaction) : HashView :=
  match v.row tx.hash with
  | some existing => ⟨Function.update v.row tx.hash (some { tx with id := existing.id }), v.nextID⟩
  | none => ⟨Function.update v.row tx.hash (some { tx with id := v.nextID }), v.nextID + 1⟩

namespace TransactionStore

variable {st : TransactionStore} {tx : ServiceTransaction}

/-- A table with unique hashes whose rows are `n` and the old rows of other hashes finds
`n` by its hash and the old rows by theirs. -/
theorem byHash_of_mem_iff {st' : TransactionStore} (hu : st.HashesUnique)
    (hu' : st'.HashesUnique) (n : ServiceTransaction)
    (hmem : ∀ r, r ∈ st'.rows ↔ r = n ∨ r ∈ st.rows ∧ r.hash ≠ n.hash) :
    st'.byHash = Function.update st.byHash n.hash (some n) := by
  funext h
  refine Option.ext fun r => ?_
  rw [Option.mem_def, Option.mem_def, byHash_eq_some_iff hu', hmem, Function.update_apply]
  split
  · next hh =>
    subst hh
    constructor
    · rintro ⟨rfl | ⟨-, hne⟩, hrh⟩
      · rfl
      · exact absurd hrh hne
    · rintro ⟨⟩; exact ⟨.inl rfl, rfl⟩
  · next hh =>
    rw [byHash_eq_some_iff hu]
    constructor
    · rintro ⟨rfl | ⟨hr, -⟩, hrh⟩
      · exact absurd hrh.symm hh
      · exact ⟨hr, hrh⟩
    · rintro ⟨hr, rfl⟩; exact ⟨.inr ⟨hr, hh⟩, rfl⟩

/-- The table's upsert refines the map's. -/
theorem view_upsert (hu : st.HashesUnique) : (st.upsert tx).view = st.view.upsert tx := by
  have hu' : (st.upsert tx).HashesUnique := upsert_hashesUnique hu
  unfold HashView.upsert view
  unfold upsert at hu' ⊢
  split
  · next existing hb =>
    obtain ⟨hmem, hh⟩ := (byHash_eq_some_iff hu).mp hb
    simp only [hb] at hu' ⊢
    congr 1
    exact byHash_of_mem_iff hu hu' _ fun r => mem_update_found hu hmem hh
  · next hb =>
    simp only [hb] at hu' ⊢
    congr 1
    refine byHash_of_mem_iff hu hu' { tx with id := st.nextID } fun r => ?_
    simp only [create, List.mem_append, List.mem_singleton]
    constructor
    · rintro (hr | rfl)
      · exact .inr ⟨hr, byHash_eq_none_iff.mp hb r hr⟩
      · exact .inl rfl
    · rintro (rfl | ⟨hr, -⟩)
      · exact .inr rfl
      · exact .inl hr

end TransactionStore

/-! ## Laws of the map side -/

namespace HashView

/-- The last transaction of a list with a given hash. -/
def lastWith (h : String) : List ServiceTransaction → Option ServiceTransaction
  | [] => none
  | tx :: txs => (lastWith h txs).or (if tx.hash = h then some tx else none)

variable {v : HashView} {tx e : ServiceTransaction} {h : String} {txs : List ServiceTransaction}

/-- No transaction of the list has the hash. -/
theorem lastWith_eq_none_iff : lastWith h txs = none ↔ ∀ tx ∈ txs, tx.hash ≠ h := by
  induction txs with
  | nil => simp [lastWith]
  | cons tx txs ih => by_cases hh : tx.hash = h <;> simp [lastWith, ih, hh]

/-- An upsert leaves other hashes' rows alone. -/
theorem upsert_row_ne (hne : h ≠ tx.hash) : (v.upsert tx).row h = v.row h := by
  unfold upsert; split <;> simp [Function.update_apply, hne]

theorem upsert_of_row (hv : v.row tx.hash = some e) :
    v.upsert tx = ⟨Function.update v.row tx.hash (some { tx with id := e.id }), v.nextID⟩ := by
  simp [upsert, hv]

theorem upsert_row_self : ∃ id, (v.upsert tx).row tx.hash = some { tx with id } := by
  unfold upsert; split <;> simp

/-- A row keeps its ID through an upsert. -/
theorem upsert_row_id (hv : v.row h = some e) :
    ∃ e', (v.upsert tx).row h = some e' ∧ e'.id = e.id := by
  by_cases hh : h = tx.hash
  · subst hh; simp [upsert_of_row hv]
  · exact ⟨e, by rw [upsert_row_ne hh, hv], rfl⟩

theorem upsert_row_isSome (hv : (v.row h).isSome) : ((v.upsert tx).row h).isSome := by
  obtain ⟨e, he⟩ := Option.isSome_iff_exists.mp hv
  obtain ⟨e', he', -⟩ : ∃ e', (v.upsert tx).row h = some e' ∧ e'.id = e.id := upsert_row_id he
  simp [he']

/-- Upserts of other hashes leave a hash's row alone. -/
theorem foldl_upsert_row_of_lastWith_none (hl : lastWith h txs = none) :
    (txs.foldl upsert v).row h = v.row h := by
  induction txs generalizing v with
  | nil => rfl
  | cons tx txs ih =>
    have hne := lastWith_eq_none_iff.mp hl
    rw [List.foldl_cons, ih (lastWith_eq_none_iff.mpr fun t ht => hne t (.tail _ ht)),
      upsert_row_ne (Ne.symm (hne tx (.head _)))]

/-- A hash's row ends as the last transaction with that hash, under some ID. -/
theorem foldl_upsert_row_of_lastWith (hl : lastWith h txs = some tx) :
    ∃ id, (txs.foldl upsert v).row h = some { tx with id } := by
  induction txs generalizing v with
  | nil => cases hl
  | cons t txs ih =>
    rw [List.foldl_cons]
    cases hlt : lastWith h txs with
    | some t' => exact ih (by simpa [lastWith, hlt] using hl)
    | none =>
      have ht : t.hash = h ∧ t = tx := by simpa [lastWith, hlt] using hl
      obtain ⟨rfl, rfl⟩ := ht
      rw [foldl_upsert_row_of_lastWith_none hlt]
      exact upsert_row_self

/-- Every row keeps its ID through the loop. -/
theorem foldl_upsert_row_id (hv : v.row h = some e) :
    ∃ e', (txs.foldl upsert v).row h = some e' ∧ e'.id = e.id := by
  induction txs generalizing v e with
  | nil => exact ⟨e, hv, rfl⟩
  | cons t txs ih =>
    obtain ⟨e₁, he₁, hid₁⟩ : ∃ e', (v.upsert t).row h = some e' ∧ e'.id = e.id :=
      upsert_row_id hv
    obtain ⟨e₂, he₂, hid₂⟩ := ih he₁
    exact ⟨e₂, he₂, hid₂.trans hid₁⟩

/-- After the loop every transaction's hash has a row. -/
theorem foldl_upsert_present (v : HashView) (txs : List ServiceTransaction) :
    ∀ tx ∈ txs, ((txs.foldl upsert v).row tx.hash).isSome := by
  intro tx htx
  cases hl : lastWith tx.hash txs with
  | none => exact absurd rfl (lastWith_eq_none_iff.mp hl tx htx)
  | some t =>
    obtain ⟨id, hid⟩ : ∃ id, (txs.foldl upsert v).row tx.hash = some { t with id } :=
      foldl_upsert_row_of_lastWith hl
    simp [hid]

/-- When every hash is already present, the loop only rewrites rows: each hash ends as its
last transaction under its old ID, and no ID is handed out. -/
theorem foldl_upsert_of_present (hp : ∀ tx ∈ txs, (v.row tx.hash).isSome) :
    txs.foldl upsert v =
      ⟨fun h => match lastWith h txs with
        | none => v.row h
        | some tx => (v.row h).map fun e => { tx with id := e.id }, v.nextID⟩ := by
  induction txs generalizing v with
  | nil => rfl
  | cons tx txs ih =>
    obtain ⟨e, he⟩ := Option.isSome_iff_exists.mp (hp tx (.head _))
    rw [List.foldl_cons, upsert_of_row he, ih fun t ht => ?present]
    case present =>
      simp only [Function.update_apply]
      split
      · rfl
      · exact hp t (.tail _ ht)
    ext1
    · funext h
      by_cases hh : h = tx.hash
      · subst hh
        cases hl : lastWith tx.hash txs <;> simp [lastWith, hl, he]
      · cases hl : lastWith h txs <;> simp [lastWith, hl, hh, Ne.symm hh]
    · rfl

/-- Upserting the same transactions a second time changes nothing. -/
theorem foldl_upsert_idem (v : HashView) (txs : List ServiceTransaction) :
    txs.foldl upsert (txs.foldl upsert v) = txs.foldl upsert v := by
  rw [foldl_upsert_of_present (foldl_upsert_present v txs)]
  ext1
  · funext h
    cases hl : lastWith h txs with
    | none => simp [hl]
    | some tx =>
      obtain ⟨id, hid⟩ : ∃ id, (txs.foldl upsert v).row h = some { tx with id } :=
        foldl_upsert_row_of_lastWith hl
      simp [hl, hid]
  · rfl

end HashView

/-! ## Folding the table's upsert -/

namespace TransactionStore

variable {st : TransactionStore} {txs : List ServiceTransaction}

theorem foldl_upsert_hashesUnique (hu : st.HashesUnique) :
    (txs.foldl upsert st).HashesUnique := by
  induction txs generalizing st with
  | nil => exact hu
  | cons tx txs ih => exact ih (upsert_hashesUnique hu)

/-- The table's loop refines the map's. -/
theorem view_foldl_upsert (hu : st.HashesUnique) :
    (txs.foldl upsert st).view = txs.foldl HashView.upsert st.view := by
  induction txs generalizing st with
  | nil => rfl
  | cons tx txs ih => rw [List.foldl_cons, ih (upsert_hashesUnique hu), view_upsert hu]; rfl

/-- Upserts of hashes that have rows leave the hash column as it was. -/
theorem hashes_foldl_upsert_of_present (hu : st.HashesUnique)
    (hp : ∀ tx ∈ txs, (st.byHash tx.hash).isSome) :
    (txs.foldl upsert st).rows.map (·.hash) = st.rows.map (·.hash) := by
  induction txs generalizing st with
  | nil => rfl
  | cons tx txs ih =>
    obtain ⟨e, he⟩ := Option.isSome_iff_exists.mp (hp tx (.head _))
    have hcol : (st.upsert tx).rows.map (·.hash) = st.rows.map (·.hash) := by
      obtain ⟨hmem, hh⟩ := (byHash_eq_some_iff hu).mp he
      simp only [upsert, he, hashes_update_found hmem hh]
    have hp' : ∀ t ∈ txs, ((st.upsert tx).byHash t.hash).isSome := fun t ht => by
      have : ((st.view.upsert tx).row t.hash).isSome :=
        HashView.upsert_row_isSome (hp t (.tail _ ht))
      rwa [← view_upsert hu] at this
    rw [List.foldl_cons, ih (upsert_hashesUnique hu) hp', hcol]

/-- A hash that has a row keeps one through the loop. -/
theorem byHash_foldl_upsert_isSome (hu : st.HashesUnique) {h : String}
    (hh : (st.byHash h).isSome) : ((txs.foldl upsert st).byHash h).isSome := by
  obtain ⟨e, he⟩ := Option.isSome_iff_exists.mp hh
  obtain ⟨e', he', -⟩ : ∃ e', (txs.foldl HashView.upsert st.view).row h = some e' ∧ e'.id = e.id :=
    HashView.foldl_upsert_row_id he
  rw [← view_foldl_upsert hu] at he'
  exact Option.isSome_iff_exists.mpr ⟨e', he'⟩

/-- Every upserted transaction's hash has a row after the loop. -/
theorem byHash_foldl_upsert_of_mem (hu : st.HashesUnique) {tx : ServiceTransaction}
    (htx : tx ∈ txs) : ((txs.foldl upsert st).byHash tx.hash).isSome := by
  have := HashView.foldl_upsert_present st.view txs tx htx
  rwa [← view_foldl_upsert hu] at this

/-- A table with unique hashes is fixed by its hash column and its view. -/
theorem eq_of_hashes_of_view {st' : TransactionStore} (hu : st.HashesUnique)
    (hcol : st.rows.map (·.hash) = st'.rows.map (·.hash)) (hv : st.view = st'.view) :
    st = st' := by
  have hu' : st'.HashesUnique := by unfold HashesUnique; rwa [← hcol]
  have hlen : st.rows.length = st'.rows.length := by
    simpa using congrArg List.length hcol
  have hrow : st.byHash = st'.byHash := congrArg HashView.row hv
  ext1
  · refine List.ext_getElem hlen fun i h₁ h₂ => ?_
    have hh : st.rows[i].hash = st'.rows[i].hash := by
      have := List.getElem_of_eq hcol (by simpa using h₁)
      rwa [List.getElem_map, List.getElem_map] at this
    have ha : st'.byHash st.rows[i].hash = some st.rows[i] := by
      rw [← hrow, byHash_eq_some_iff hu]; exact ⟨List.getElem_mem h₁, rfl⟩
    have hb : st'.byHash st.rows[i].hash = some st'.rows[i] :=
      (byHash_eq_some_iff hu').mpr ⟨List.getElem_mem h₂, hh.symm⟩
    exact Option.some.inj (ha.symm.trans hb)
  · exact congrArg HashView.nextID hv

/-- The table's loop, run a second time over the same transactions, changes nothing. -/
theorem foldl_upsert_idem (hu : st.HashesUnique) (txs : List ServiceTransaction) :
    txs.foldl upsert (txs.foldl upsert st) = txs.foldl upsert st := by
  have hu₁ : (txs.foldl upsert st).HashesUnique := foldl_upsert_hashesUnique hu
  refine eq_of_hashes_of_view (foldl_upsert_hashesUnique hu₁)
    (hashes_foldl_upsert_of_present hu₁ fun _ htx => byHash_foldl_upsert_of_mem hu htx) ?_
  rw [view_foldl_upsert hu₁, view_foldl_upsert hu, HashView.foldl_upsert_idem]

end TransactionStore

end Vault0.History
