import Vault0.Keystore.Table

/-!
# Keystore: what the stored rows satisfy

The spec asks every stored key to have a supported key type, a curve name when it
is an ECDSA key, and only curve names the keystore can resolve. `GetPublicKey` and
`List` depend on the last condition: they scan a row with `curveByName` and fail on
a name it does not know.

`Create` and `Import` check neither the key type nor the curve. So the condition
holds along a run exactly as far as the callers pass supported arguments
(`supported_of_run`), and a single `Import` with `elliptic.P384()` stores a row that
`GetPublicKey` can no longer read (`importKey_p384_unreadable`). A failed call leaves the
table as it was, except an `Update` that found its row: it has rewritten the row when it
fails reading the key back (`KeystoreCall.apply_of_error`).
-/

namespace Vault0.Keystore

open Vault0Error

/-- The spec's conditions on a stored key: a supported key type, a curve name on every
ECDSA key, and only curve names that `curveByName` reads back. -/
structure KeyRow.Supported (r : KeyRow) : Prop where
  keyType : r.keyType ∈ supportedKeyTypes
  ecdsa_curve : r.keyType = keyTypeECDSA → r.curve ≠ ""
  curve_resolves : r.curve ≠ "" → ∃ c, curveByName r.curve = .ok c

/-- A curve argument the keystore can read back: none, P-256 or secp256k1. -/
def SupportedCurve (curve : Option Curve) : Prop :=
  curve = none ∨ curve = some p256 ∨ curve = some secp256k1Curve

namespace DBKeyStore

/-! ## Reading a row back -/

/-- The scan of a row succeeds exactly when its curve name, if any, resolves. -/
theorem scanKey_ok_iff (r : KeyRow) :
    (∃ k, scanKey r = .ok k) ↔ (r.curve ≠ "" → ∃ c, curveByName r.curve = .ok c) := by
  unfold scanKey
  by_cases h : r.curve = ""
  · simp [h, bind, Except.bind, pure, Except.pure]
  · simp only [ne_eq, h, not_false_eq_true, ↓reduceIte, forall_const]
    cases curveByName r.curve <;> simp [bind, Except.bind, pure, Except.pure, Functor.map,
      Except.map]

/-- When every stored row is supported, `GetPublicKey` succeeds for every stored id. -/
theorem getPublicKey_ok {ks : DBKeyStore} (hs : ∀ r ∈ ks.keys, r.Supported) {r : KeyRow}
    (hr : r ∈ ks.keys) : ∃ k, ks.getPublicKey r.id = .ok k := by
  unfold getPublicKey
  cases hf : ks.keys.find? (·.id = r.id) with
  | none => simpa using List.find?_eq_none.mp hf r hr
  | some r' =>
    exact (scanKey_ok_iff r').mpr (hs r' (List.mem_of_find?_eq_some hf)).curve_resolves

/-! ## What each call can store -/

/-- Every row after `Create` was there before or is the new row, carrying the call's
key type and the name of its curve, P-256 standing in for a missing ECDSA curve. -/
theorem mem_create {env : KeystoreEnv} {ks : DBKeyStore} {name keyType : String}
    {curve : Option Curve} {tags : List (String × String)} {x : KeyRow}
    (hx : x ∈ (ks.create env name keyType curve tags).1.keys) :
    x ∈ ks.keys ∨ (x.keyType = keyType ∧ x.curve = curveName (defaultCurve keyType curve)) := by
  simp only [create] at hx
  split at hx
  · exact .inl hx
  · split at hx
    · exact .inl hx
    · split at hx
      · exact .inl hx
      · split at hx
        · exact .inl hx
        · next h =>
          rcases mem_insertRow.mp (insert_keys h ▸ hx) with rfl | hx
          · exact .inr ⟨rfl, rfl⟩
          · exact .inl hx

/-- Every row after `Import` was there before or is the new row, with the call's key
type and the name of its curve, P-256 standing in for a missing ECDSA curve. -/
theorem mem_importKey {env : KeystoreEnv} {ks : DBKeyStore} {name keyType : String}
    {curve : Option Curve} {privateKey publicKey : List UInt8} {tags : List (String × String)}
    {x : KeyRow} (hx : x ∈ (ks.importKey env name keyType curve privateKey publicKey tags).1.keys) :
    x ∈ ks.keys ∨ (x.keyType = keyType ∧ x.curve = curveName (defaultCurve keyType curve)) := by
  simp only [importKey] at hx
  split at hx
  · exact .inl hx
  · split at hx
    · exact .inl hx
    · split at hx
      · exact .inl hx
      · next h =>
        rcases mem_insertRow.mp (insert_keys h ▸ hx) with rfl | hx
        · exact .inr ⟨rfl, rfl⟩
        · exact .inl hx

/-- `Update` keeps every row's key type and curve. -/
theorem mem_update {ks : DBKeyStore} {id name : String} {tags : List (String × String)}
    {x : KeyRow} (hx : x ∈ (ks.update id name tags).1.keys) :
    ∃ y ∈ ks.keys, x.keyType = y.keyType ∧ x.curve = y.curve := by
  unfold update at hx
  split at hx
  · obtain ⟨y, hy, rfl⟩ := List.mem_map.mp hx
    exact ⟨y, hy, by split <;> rfl, by split <;> rfl⟩
  · exact ⟨x, hx, rfl, rfl⟩

/-- `Delete` only removes rows. -/
theorem mem_delete {ks : DBKeyStore} {id : String} {x : KeyRow}
    (hx : x ∈ (ks.delete id).1.keys) : x ∈ ks.keys := by
  unfold delete at hx
  split at hx
  · exact List.mem_of_mem_filter hx
  · exact hx

end DBKeyStore

/-! ## Runs of calls -/

/-- A call that writes the `keys` table, with what its collaborators answer. -/
inductive KeystoreCall
  | create (env : KeystoreEnv) (name keyType : String) (curve : Option Curve)
      (tags : List (String × String))
  | importKey (env : KeystoreEnv) (name keyType : String) (curve : Option Curve)
      (privateKey publicKey : List UInt8) (tags : List (String × String))
  | update (id name : String) (tags : List (String × String))
  | delete (id : String)

/-- The table after one call. -/
def KeystoreCall.apply (ks : DBKeyStore) : KeystoreCall → DBKeyStore
  | .create env name keyType curve tags => (ks.create env name keyType curve tags).1
  | .importKey env name keyType curve privateKey publicKey tags =>
    (ks.importKey env name keyType curve privateKey publicKey tags).1
  | .update id name tags => (ks.update id name tags).1
  | .delete id => (ks.delete id).1

/-- The table after a run of calls. -/
def runCalls (ks : DBKeyStore) (calls : List KeystoreCall) : DBKeyStore :=
  calls.foldl KeystoreCall.apply ks

/-- What a call returns, its key dropped. -/
def KeystoreCall.result (ks : DBKeyStore) : KeystoreCall → Except Vault0Error Unit
  | .create env name keyType curve tags => (ks.create env name keyType curve tags).2.map (fun _ => ())
  | .importKey env name keyType curve privateKey publicKey tags =>
    (ks.importKey env name keyType curve privateKey publicKey tags).2.map (fun _ => ())
  | .update id name tags => (ks.update id name tags).2.map (fun _ => ())
  | .delete id => (ks.delete id).2

/-- A failed call leaves the table as it was, except an `Update` that found its row: it
has rewritten the row's name and tags when it fails to read the key back, on a curve name
that does not resolve. -/
theorem KeystoreCall.apply_of_error {ks : DBKeyStore} {call : KeystoreCall} {e : Vault0Error}
    (h : call.result ks = .error e) :
    call.apply ks = ks ∨
    ∃ id name tags, call = .update id name tags ∧ ∃ r ∈ ks.keys, r.id = id ∧ r.curve ≠ "" ∧
      ∀ c, curveByName r.curve ≠ .ok c := by
  cases call with
  | create env name keyType curve tags =>
    left
    revert h
    simp only [result, apply, DBKeyStore.create]
    repeat' split
    all_goals simp [Except.map]
  | importKey env name keyType curve privateKey publicKey tags =>
    left
    revert h
    simp only [result, apply, DBKeyStore.importKey]
    repeat' split
    all_goals simp [Except.map]
  | update id name tags =>
    revert h
    simp only [result, apply, DBKeyStore.update]
    split
    · next hany =>
      intro h
      refine .inr ⟨id, name, tags, rfl, ?_⟩
      obtain ⟨y, hy, hyid⟩ := List.any_eq_true.mp hany
      obtain ⟨r, hr⟩ : ∃ r, (DBKeyStore.updateRows ks.keys id name tags).find? (·.id = id) =
          some r :=
        Option.isSome_iff_exists.mp (List.find?_isSome.mpr ⟨_, List.mem_map_of_mem _ hy, by
          rw [decide_eq_true_eq] at hyid; simp [hyid]⟩)
      have hscan : ¬ ∃ k, DBKeyStore.scanKey r = .ok k := by
        rintro ⟨k, hk⟩
        simp [DBKeyStore.getPublicKey, hr, hk, Except.map] at h
      rw [DBKeyStore.scanKey_ok_iff] at hscan
      push_neg at hscan
      obtain ⟨x, hx, rfl⟩ := List.mem_map.mp (List.mem_of_find?_eq_some hr)
      have hid := List.find?_some hr
      refine ⟨x, hx, by split at hid <;> simpa using hid, ?_⟩
      split at hscan <;> exact hscan
    · exact fun _ => .inl rfl
  | delete id =>
    left
    revert h
    simp only [result, apply, DBKeyStore.delete]
    split
    · simp
    · exact fun _ => rfl

/-- After `Delete` of an id, `GetPublicKey` of it fails not-found, whether the key was
there or not. -/
theorem DBKeyStore.getPublicKey_delete (ks : DBKeyStore) (id : String) :
    (ks.delete id).1.getPublicKey id = .error (newResourceNotFoundError "key" id) := by
  have hnone : ∀ l : List KeyRow, (∀ x ∈ l, x.id ≠ id) → l.find? (·.id = id) = none :=
    fun l hl => List.find?_eq_none.mpr fun x hx => by simpa using hl x hx
  unfold DBKeyStore.delete
  split
  · simp only [DBKeyStore.getPublicKey]
    rw [hnone _ fun x hx => by simpa using List.of_mem_filter hx]
  · next h =>
    simp only [DBKeyStore.getPublicKey]
    rw [hnone _ fun x hx hid => h (List.any_eq_true.mpr ⟨x, hx, by simpa using hid⟩)]

/-- A call whose arguments the keystore could have checked: `Create` and `Import` with a
supported key type and a curve it reads back. -/
def KeystoreCall.PassesSupported : KeystoreCall → Prop
  | .create _ _ keyType curve _ => keyType ∈ supportedKeyTypes ∧ SupportedCurve curve
  | .importKey _ _ keyType curve _ _ _ => keyType ∈ supportedKeyTypes ∧ SupportedCurve curve
  | .update .. => True
  | .delete _ => True

/-- The stored curve of a supported curve argument resolves. -/
private theorem curveName_resolves {c : Option Curve} (hc : SupportedCurve c) :
    curveName c ≠ "" → ∃ c', curveByName (curveName c) = .ok c' := by
  rcases hc with rfl | rfl | rfl <;> simp [curveName, curveByName, p256, secp256k1Curve,
    curveNameP256, curveNameSecp256k1]

/-- The curve `Create` and `Import` store for a supported argument is supported. -/
private theorem defaultCurve_supported {keyType : String} {c : Option Curve}
    (hc : SupportedCurve c) : SupportedCurve (defaultCurve keyType c) := by
  unfold defaultCurve
  split
  · exact .inr (.inl rfl)
  · exact hc

/-- An ECDSA key always gets a curve. -/
private theorem defaultCurve_ecdsa (c : Option Curve) : defaultCurve keyTypeECDSA c ≠ none := by
  unfold defaultCurve
  split
  · simp
  · next h => simpa using h

/-- A new row with a supported key type, stored by `Create` or `Import` from a supported
curve argument, is supported. -/
private theorem supported_of_new {x : KeyRow} {c : Option Curve}
    (hk : x.keyType ∈ supportedKeyTypes) (hc : SupportedCurve c)
    (hx : x.curve = curveName (defaultCurve x.keyType c)) : x.Supported where
  keyType := hk
  ecdsa_curve h := by
    rw [hx, h]
    rcases @defaultCurve_supported keyTypeECDSA _ hc with h' | h' | h'
    · exact absurd h' (defaultCurve_ecdsa c)
    all_goals simp [h', curveName, p256, secp256k1Curve]
  curve_resolves := hx ▸ curveName_resolves (defaultCurve_supported hc)

/-- One call keeps every row supported when its arguments are. -/
theorem KeystoreCall.apply_supported {ks : DBKeyStore} {call : KeystoreCall}
    (hs : ∀ r ∈ ks.keys, r.Supported) (hc : call.PassesSupported) :
    ∀ r ∈ (call.apply ks).keys, r.Supported := by
  intro x hx
  cases call with
  | create env name keyType curve tags =>
    rcases DBKeyStore.mem_create hx with hx | ⟨rfl, hcv⟩
    · exact hs x hx
    · exact supported_of_new hc.1 hc.2 hcv
  | importKey env name keyType curve privateKey publicKey tags =>
    rcases DBKeyStore.mem_importKey hx with hx | ⟨rfl, hcv⟩
    · exact hs x hx
    · exact supported_of_new hc.1 hc.2 hcv
  | update id name tags =>
    obtain ⟨y, hy, hk, hcv⟩ := DBKeyStore.mem_update hx
    have hy := hs y hy
    exact ⟨hk ▸ hy.keyType, fun h => hcv ▸ hy.ecdsa_curve (hk ▸ h), hcv ▸ hy.curve_resolves⟩
  | delete id => exact hs x (DBKeyStore.mem_delete hx)

/-- Along every run whose `Create` and `Import` calls pass a supported key type and a
supported curve, every stored row stays supported and `GetPublicKey` reads it back. -/
theorem supported_of_run {ks : DBKeyStore} {calls : List KeystoreCall}
    (hs : ∀ r ∈ ks.keys, r.Supported) (hc : ∀ c ∈ calls, c.PassesSupported) :
    ∀ r ∈ (runCalls ks calls).keys,
      r.Supported ∧ ∃ k, (runCalls ks calls).getPublicKey r.id = .ok k := by
  induction calls generalizing ks with
  | nil => exact fun r hr => ⟨hs r hr, DBKeyStore.getPublicKey_ok hs hr⟩
  | cons c cs ih =>
    exact ih (KeystoreCall.apply_supported hs (hc c (List.mem_cons_self _ _)))
      (fun c' h => hc c' (List.mem_cons_of_mem _ h))

/-- The empty keystore. -/
def DBKeyStore.empty : DBKeyStore := ⟨[], .nil⟩

/-- Collaborators that all succeed, the database handing out the id `7`. -/
def okEnv : KeystoreEnv := ⟨some 7, 0, fun _ _ => .ok ([1], [2]), .ok⟩

/-- `Import` stores an ECDSA key on P-384 without complaint, and the row it writes is one
`GetPublicKey` cannot read back. -/
theorem importKey_p384_unreadable :
    (∃ r ∈ (DBKeyStore.empty.importKey okEnv "k" keyTypeECDSA (some p384) [1] [2] []).1.keys,
        ¬ r.Supported) ∧
      (DBKeyStore.empty.importKey okEnv "k" keyTypeECDSA (some p384) [1] [2] []).1.getPublicKey "7" =
        .error (newInvalidCurveError "P-256 or secp256k1" "P-384") := by
  refine ⟨⟨⟨"7", "k", keyTypeECDSA, "P-384", [], 0, [1], [2]⟩, by decide, fun h => ?_⟩, rfl⟩
  obtain ⟨c, hc⟩ := h.curve_resolves (by decide)
  simp [curveByName, curveNameP256, curveNameSecp256k1] at hc

/-- Creating an ECDSA key without a curve, on an empty keystore, stores a supported row
that `GetPublicKey` reads back. -/
theorem supported_of_run_create_ecdsa :
    (runCalls DBKeyStore.empty [.create okEnv "k" keyTypeECDSA none []]).keys =
        [⟨"7", "k", keyTypeECDSA, "P-256", [], 0, [1], [2]⟩] ∧
      (⟨"7", "k", keyTypeECDSA, "P-256", [], 0, [1], [2]⟩ : KeyRow).Supported ∧
      ∃ k, (runCalls DBKeyStore.empty [.create okEnv "k" keyTypeECDSA none []]).getPublicKey "7" =
        .ok k := by
  have h := @supported_of_run DBKeyStore.empty [.create okEnv "k" keyTypeECDSA none []]
    (by simp [DBKeyStore.empty])
    (by simp [KeystoreCall.PassesSupported, supportedKeyTypes, SupportedCurve])
  have hkeys : (runCalls DBKeyStore.empty [.create okEnv "k" keyTypeECDSA none []]).keys =
      [⟨"7", "k", keyTypeECDSA, "P-256", [], 0, [1], [2]⟩] := by decide
  exact ⟨hkeys, (h _ (hkeys ▸ List.mem_singleton_self _)).1,
    (h _ (hkeys ▸ List.mem_singleton_self _)).2⟩

end Vault0.Keystore
