import Vault0.Errors

/-!
# Keystore: the `keys` table and the calls that write it

`DBKeyStore` keeps one row per key in the `keys` table: the key type and the curve
name as strings, the tags, the creation time, the encrypted private key and the
public key. `Create` and `Import` insert a row, `Update` rewrites a row's name and
tags, `Delete` removes it, and `GetPublicKey` scans a row back into a `Key`, which
fails when the row's curve name is one `curveByName` does not know.

The table is kept in ascending `id` order: `id` is the primary key, and every read
of the table that matters here is `ORDER BY id`. A curve is seen through the one
field the keystore reads of it, `curve.Params().Name`.
-/

namespace Vault0.Keystore

open Vault0Error

/-- A curve argument (`elliptic.Curve`), through what the keystore reads of it:
`curve.Params().Name`. -/
structure Curve where
  name : String
  deriving DecidableEq, Repr

/-- `elliptic.P256()`. -/
def p256 : Curve := ⟨"P-256"⟩

/-- `elliptic.P384()`: a standard library curve that `Import` takes as an argument. -/
def p384 : Curve := ⟨"P-384"⟩

/-- `coreCrypto.Secp256k1Curve`, whose `Params().Name` its tests pin to `secp256k1`. -/
def secp256k1Curve : Curve := ⟨"secp256k1"⟩

/-- Modelled from the spec: `types.CurveNameP256` (the `types` package is absent); the
spec and `curveByName`'s own error text name the supported set "P-256 or secp256k1". -/
def curveNameP256 : String := "P-256"

/-- Modelled from the spec: `types.CurveNameSecp256k1`. -/
def curveNameSecp256k1 : String := "secp256k1"

/-- Modelled from the spec: `types.KeyTypeECDSA`; a key type is a string (`types.KeyType`),
and the spec lists four supported ones. -/
def keyTypeECDSA : String := "ecdsa"

/-- Modelled from the spec: `types.KeyTypeRSA`. -/
def keyTypeRSA : String := "rsa"

/-- Modelled from the spec: `types.KeyTypeEd25519`. -/
def keyTypeEd25519 : String := "ed25519"

/-- Modelled from the spec: `types.KeyTypeSymmetric`. -/
def keyTypeSymmetric : String := "symmetric"

/-- The key types the spec lists as supported. -/
def supportedKeyTypes : List String :=
  [keyTypeECDSA, keyTypeRSA, keyTypeEd25519, keyTypeSymmetric]

/-- `curveByName`: the curve a stored curve name stands for. -/
def curveByName (name : String) : Except Vault0Error Curve :=
  if name = curveNameP256 then .ok p256
  else if name = curveNameSecp256k1 then .ok secp256k1Curve
  else .error (newInvalidCurveError "P-256 or secp256k1" name)

/-- A row of the `keys` table. `curve` is `""` for a key without a curve, `tags` the
tags the row's JSON column decodes to, `createdAt` the `created_at` column in Unix seconds,
`privateKey` the encrypted material. -/
structure KeyRow where
  id : String
  name : String
  keyType : String
  curve : String
  tags : List (String × String)
  createdAt : Int
  privateKey : List UInt8
  publicKey : List UInt8
  deriving DecidableEq, Repr

/-- A key as the keystore returns it (`keystore.Key`), its `CreatedAt` in Unix nanoseconds;
reads leave `privateKey` empty. -/
structure Key where
  id : String
  name : String
  keyType : String
  curve : Option Curve
  tags : List (String × String)
  createdAt : Int
  privateKey : List UInt8
  publicKey : List UInt8
  deriving DecidableEq, Repr

/-- The keystore's `keys` table, in ascending `id` order with no `id` twice. -/
structure DBKeyStore where
  keys : List KeyRow
  sorted : keys.Pairwise (fun a b => a.id < b.id)

/-- What a `Create` or `Import` call's collaborators answer: the database's ID generator
(`none` when it fails), the clock (`time.Now()`, in Unix nanoseconds), the key generator and
the encryptor. -/
structure KeystoreEnv where
  generateID : Option Int
  now : Int
  generateKeyPair : String → Option Curve → Except Vault0Error (List UInt8 × List UInt8)
  encrypt : List UInt8 → Except Vault0Error (List UInt8)

/-- `time.Time.Unix()`: the whole seconds of a time given in Unix nanoseconds, rounded
down. -/
def unixSeconds (t : Int) : Int := t / 1000000000

/-- Modelled from the spec: the `created_at` column scanned back into `CreatedAt` (the driver
and the schema are absent), the time at the whole second stored. -/
def ofUnixSeconds (seconds : Int) : Int := seconds * 1000000000

/-- The curve `Create` and `Import` use: P-256 for an ECDSA key given none, otherwise the
curve given. -/
def defaultCurve (keyType : String) (curve : Option Curve) : Option Curve :=
  if keyType = keyTypeECDSA ∧ curve = none then some p256 else curve

/-- The `curve` column a call stores: the curve's name, or `""` without a curve. -/
def curveName (curve : Option Curve) : String :=
  (curve.map (·.name)).getD ""

namespace DBKeyStore

/-! ## Inserting a row -/

/-- Place a row in an `id`-ordered list of rows. -/
def insertRow (r : KeyRow) : List KeyRow → List KeyRow
  | [] => [r]
  | x :: xs => if r.id < x.id then r :: x :: xs else x :: insertRow r xs

/-- Inserting a row adds exactly that row. -/
theorem mem_insertRow {r x : KeyRow} {l : List KeyRow} :
    x ∈ insertRow r l ↔ x = r ∨ x ∈ l := by
  induction l with
  | nil => simp [insertRow]
  | cons y ys ih =>
    unfold insertRow
    split <;> simp [ih, or_left_comm]

/-- Inserting a row under a new id keeps the rows in id order. -/
theorem insertRow_sorted {r : KeyRow} {l : List KeyRow}
    (hl : l.Pairwise (fun a b => a.id < b.id)) (hr : ∀ x ∈ l, x.id ≠ r.id) :
    (insertRow r l).Pairwise (fun a b => a.id < b.id) := by
  induction l with
  | nil => simp [insertRow]
  | cons x xs ih =>
    rw [List.pairwise_cons] at hl
    have hx : r.id ≠ x.id := (hr x (List.mem_cons_self _ _)).symm
    unfold insertRow
    split
    · next hlt =>
      refine List.Pairwise.cons (fun y hy => ?_) (List.Pairwise.cons hl.1 hl.2)
      rcases List.mem_cons.mp hy with rfl | hy
      · exact hlt
      · exact lt_trans hlt (hl.1 y hy)
    · next hlt =>
      have hxr : x.id < r.id := lt_of_le_of_ne (not_lt.mp hlt) hx.symm
      refine List.Pairwise.cons (fun y hy => ?_)
        (ih hl.2 (fun y hy => hr y (List.mem_cons_of_mem _ hy)))
      rcases mem_insertRow.mp hy with rfl | hy
      · exact hxr
      · exact hl.1 y hy

/-- `INSERT INTO keys ...`: the primary key refuses an `id` already present. -/
def insert (ks : DBKeyStore) (r : KeyRow) : Except Vault0Error DBKeyStore :=
  if h : ∀ x ∈ ks.keys, x.id ≠ r.id then
    .ok ⟨insertRow r ks.keys, insertRow_sorted ks.sorted h⟩
  else .error newDatabaseError

/-- A successful insert places the row among the others. -/
theorem insert_keys {ks ks' : DBKeyStore} {r : KeyRow} (h : ks.insert r = .ok ks') :
    ks'.keys = insertRow r ks.keys := by
  unfold insert at h
  split at h
  · cases h; rfl
  · cases h

/-! ## The calls -/

/-- `DBKeyStore.Create`: an ECDSA key without a curve gets P-256; the key generator
makes the material, the encryptor seals the private part, and the row stores the
curve's name (or `""`). The key returned carries `time.Now()`, the row its Unix seconds. -/
def create (env : KeystoreEnv) (ks : DBKeyStore) (name keyType : String)
    (curve : Option Curve) (tags : List (String × String)) :
    DBKeyStore × Except Vault0Error Key :=
  let curve := defaultCurve keyType curve
  match env.generateID with
  | none => (ks, .error newDatabaseError)
  | some snowflakeID =>
    let keyID := toString snowflakeID
    match env.generateKeyPair keyType curve with
    | .error err => (ks, .error err)
    | .ok (privateKey, publicKey) =>
      match env.encrypt privateKey with
      | .error err => (ks, .error err)
      | .ok encryptedPrivateKey =>
        match ks.insert ⟨keyID, name, keyType, curveName curve, tags, unixSeconds env.now,
            encryptedPrivateKey, publicKey⟩ with
        | .error err => (ks, .error err)
        | .ok ks' => (ks', .ok ⟨keyID, name, keyType, curve, tags, env.now,
            encryptedPrivateKey, publicKey⟩)

/-- `DBKeyStore.Import`: the caller's material is encrypted and stored as given; an
ECDSA key without a curve gets P-256, and no key type or curve is checked. The key returned
carries `time.Now()`, the row its Unix seconds. -/
def importKey (env : KeystoreEnv) (ks : DBKeyStore) (name keyType : String)
    (curve : Option Curve) (privateKey publicKey : List UInt8)
    (tags : List (String × String)) : DBKeyStore × Except Vault0Error Key :=
  match env.encrypt privateKey with
  | .error err => (ks, .error err)
  | .ok encryptedPrivateKey =>
    let curve := defaultCurve keyType curve
    match env.generateID with
    | none => (ks, .error newDatabaseError)
    | some snowflakeID =>
      let keyID := toString snowflakeID
      match ks.insert ⟨keyID, name, keyType, curveName curve, tags, unixSeconds env.now,
          encryptedPrivateKey, publicKey⟩ with
      | .error err => (ks, .error err)
      | .ok ks' => (ks', .ok ⟨keyID, name, keyType, curve, tags, env.now,
          encryptedPrivateKey, publicKey⟩)

/-- The scan of one row into a `Key`, which `GetPublicKey` and `List` both run: a
non-empty curve name must be one `curveByName` knows. -/
def scanKey (r : KeyRow) : Except Vault0Error Key := do
  let curve ← if r.curve ≠ "" then some <$> curveByName r.curve else pure none
  pure ⟨r.id, r.name, r.keyType, curve, r.tags, ofUnixSeconds r.createdAt, [], r.publicKey⟩

/-- `DBKeyStore.GetPublicKey`. -/
def getPublicKey (ks : DBKeyStore) (id : String) : Except Vault0Error Key :=
  match ks.keys.find? (·.id = id) with
  | none => .error (newResourceNotFoundError "key" id)
  | some r => scanKey r

/-- The `UPDATE keys SET name = ?, tags = ? WHERE id = ?` statement. -/
def updateRows (keys : List KeyRow) (id name : String) (tags : List (String × String)) :
    List KeyRow :=
  keys.map fun r => if r.id = id then { r with name, tags } else r

/-- The `UPDATE` statement keeps the rows in id order. -/
theorem updateRows_pairwise {keys : List KeyRow} {id name : String}
    {tags : List (String × String)} (h : keys.Pairwise (fun a b => a.id < b.id)) :
    (updateRows keys id name tags).Pairwise (fun a b => a.id < b.id) := by
  unfold updateRows
  rw [List.pairwise_map]
  exact h.imp fun {a b} hab => by split <;> split <;> exact hab

/-- `DBKeyStore.Update`: rewrite the name and tags, then read the key back. The row
is rewritten even when the read-back fails. -/
def update (ks : DBKeyStore) (id name : String) (tags : List (String × String)) :
    DBKeyStore × Except Vault0Error Key :=
  if ks.keys.any (·.id = id) then
    let ks' : DBKeyStore := ⟨updateRows ks.keys id name tags, updateRows_pairwise ks.sorted⟩
    (ks', ks'.getPublicKey id)
  else (ks, .error (newResourceNotFoundError "key" id))

/-- `DBKeyStore.Delete`. -/
def delete (ks : DBKeyStore) (id : String) : DBKeyStore × Except Vault0Error Unit :=
  if ks.keys.any (·.id = id) then
    (⟨ks.keys.filter (·.id ≠ id), ks.sorted.sublist (List.filter_sublist _)⟩, .ok ())
  else (ks, .error (newResourceNotFoundError "key" id))

end DBKeyStore

end Vault0.Keystore
