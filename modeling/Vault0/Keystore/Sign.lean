import Vault0.Keystore.List
import Mathlib.Data.List.Nodup

/-!
# Keystore: `Sign`

`Sign` reads a row's key type, curve name and encrypted private key, decrypts the key and
dispatches on the key type. ECDSA parses the key with the secp256k1 unmarshaller when the
curve name is `secp256k1` and with the standard EC parser for any other name, hashes raw
data with SHA-256 and DER-encodes `(r, s)`; RSA parses PKCS#1, hashes raw data and signs
with PKCS#1 v1.5; Ed25519 parses PKCS#8 and signs the data as given; a symmetric key
gives HMAC-SHA256. The cryptographic primitives are the collaborators in `SignEnv`, with
the two facts of their library that `Sign` depends on: `sha256.Sum256` gives 32 bytes, and
`rsa.SignPKCS1v15` called with `crypto.SHA256` refuses a hash of any other length.

A key that `Create` makes for a supported type and curve can be signed with, whenever the
collaborators keep their contracts, for raw data of any length and for a digest unless the
key is RSA and the digest is not 32 bytes long (`create_sign`).
-/

namespace Vault0.Keystore

open Vault0Error

/-- Modelled from the spec: `keystore.DataType` (its declaration is absent): raw data,
which ECDSA and RSA hash first, or a digest. -/
inductive DataType
  | raw
  | digest
  deriving DecidableEq, Repr

/-- What `x509.ParsePKCS8PrivateKey` returns, through the one question `Sign` asks of it:
an Ed25519 key, or a key of another kind. -/
inductive PKCS8Key
  | ed25519 (key : List UInt8)
  | other
  deriving DecidableEq, Repr

/-- `Sign`'s collaborators: the encryptor's `Decrypt` and the cryptographic primitives.
A primitive answers `none` where the code gets an error, and `ed25519Sign` answers `none`
for a nil signature. `sha256.Sum256` returns 32 bytes, and `rsa.SignPKCS1v15` with
`crypto.SHA256`, as `signWithRSA` calls it, fails on a hash that is not 32 bytes long. -/
structure SignEnv where
  decrypt : List UInt8 → Except Vault0Error (List UInt8)
  sha256 : List UInt8 → List UInt8
  sha256_length : ∀ data, (sha256 data).length = 32
  unmarshalPrivateKey : List UInt8 → Option (List UInt8)
  parseECPrivateKey : List UInt8 → Option (List UInt8)
  ecdsaSign : List UInt8 → List UInt8 → Option (Int × Int)
  asn1Marshal : Int × Int → Option (List UInt8)
  parsePKCS1PrivateKey : List UInt8 → Option (List UInt8)
  signPKCS1v15 : List UInt8 → List UInt8 → Option (List UInt8)
  signPKCS1v15_hashed : ∀ k hash, hash.length ≠ 32 → signPKCS1v15 k hash = none
  parsePKCS8PrivateKey : List UInt8 → Option PKCS8Key
  ed25519Sign : List UInt8 → List UInt8 → Option (List UInt8)
  hmacSHA256 : List UInt8 → List UInt8 → List UInt8

namespace DBKeyStore

/-- The bytes ECDSA and RSA sign: the SHA-256 digest of raw data, or the digest given. -/
def hashData (env : SignEnv) (data : List UInt8) : DataType → List UInt8
  | .raw => env.sha256 data
  | .digest => data

/-- `signWithECDSA`: the secp256k1 unmarshaller for the curve name `secp256k1`, the
standard EC parser for any other name. -/
def signWithECDSA (env : SignEnv) (privateKeyBytes data : List UInt8) (dataType : DataType)
    (curveName : String) : Except Vault0Error (List UInt8) :=
  let privKey : Except Vault0Error (List UInt8) :=
    if curveName = curveNameSecp256k1 then
      match env.unmarshalPrivateKey privateKeyBytes with
      | none => .error (newInvalidKeyError "failed to parse secp256k1 private key")
      | some privKey => .ok privKey
    else
      match env.parseECPrivateKey privateKeyBytes with
      | none => .error (newInvalidKeyError "failed to parse ECDSA private key")
      | some privKey => .ok privKey
  match privKey with
  | .error err => .error err
  | .ok privKey =>
    match env.ecdsaSign privKey (hashData env data dataType) with
    | none => .error newSigningError
    | some signature =>
      match env.asn1Marshal signature with
      | none => .error newSigningError
      | some signatureBytes => .ok signatureBytes

/-- `signWithRSA`. -/
def signWithRSA (env : SignEnv) (privateKeyBytes data : List UInt8) (dataType : DataType) :
    Except Vault0Error (List UInt8) :=
  match env.parsePKCS1PrivateKey privateKeyBytes with
  | none => .error (newInvalidKeyError "failed to parse RSA private key")
  | some privKey =>
    match env.signPKCS1v15 privKey (hashData env data dataType) with
    | none => .error newSigningError
    | some signature => .ok signature

/-- `signWithEd25519`: the data is signed as given. -/
def signWithEd25519 (env : SignEnv) (privateKeyBytes data : List UInt8) :
    Except Vault0Error (List UInt8) :=
  match env.parsePKCS8PrivateKey privateKeyBytes with
  | none => .error (newInvalidKeyError "failed to parse Ed25519 private key")
  | some .other => .error (newInvalidKeyError "invalid Ed25519 private key")
  | some (.ed25519 privKey) =>
    match env.ed25519Sign privKey data with
    | none => .error newSigningError
    | some signature => .ok signature

/-- `signWithHMAC`: writing to an HMAC hasher never fails, so neither does this. -/
def signWithHMAC (env : SignEnv) (keyBytes data : List UInt8) : Except Vault0Error (List UInt8) :=
  .ok (env.hmacSHA256 keyBytes data)

/-- `signData`: dispatch on the key type; any other type fails naming ECDSA as the type
expected. -/
def signData (env : SignEnv) (keyType : String) (privateKeyBytes data : List UInt8)
    (dataType : DataType) (curveName : String) : Except Vault0Error (List UInt8) :=
  if keyType = keyTypeECDSA then signWithECDSA env privateKeyBytes data dataType curveName
  else if keyType = keyTypeRSA then signWithRSA env privateKeyBytes data dataType
  else if keyType = keyTypeEd25519 then signWithEd25519 env privateKeyBytes data
  else if keyType = keyTypeSymmetric then signWithHMAC env privateKeyBytes data
  else .error (newInvalidKeyTypeError keyTypeECDSA keyType)

/-- `DBKeyStore.Sign`: read the row, decrypt its private key and sign; the table is only
read. -/
def sign (env : SignEnv) (ks : DBKeyStore) (id : String) (data : List UInt8)
    (dataType : DataType) : Except Vault0Error (List UInt8) :=
  match ks.keys.find? (·.id = id) with
  | none => .error (newResourceNotFoundError "key" id)
  | some r => env.decrypt r.privateKey >>= fun privateKey =>
    signData env r.keyType privateKey data dataType r.curve

/-! ## What `Sign` reads of a row -/

/-- In an id-ordered table a stored row is what its id finds. -/
theorem find?_id_of_mem {ks : DBKeyStore} {r : KeyRow} (hr : r ∈ ks.keys) :
    ks.keys.find? (·.id = r.id) = some r := by
  have hnd : (ks.keys.map (·.id)).Nodup := List.pairwise_map.mpr (ks.sorted.imp ne_of_lt)
  obtain ⟨x, hx⟩ : ∃ x, ks.keys.find? (·.id = r.id) = some x :=
    Option.isSome_iff_exists.mp (List.find?_isSome.mpr ⟨r, hr, by simp⟩)
  rw [hx, List.inj_on_of_nodup_map hnd (List.mem_of_find?_eq_some hx) hr
    (by simpa using List.find?_some hx)]

/-- Collaborators that always succeed, for concrete runs: decryption and parsing return
their input, and a signature is made of the bytes signed. -/
def echoSignEnv : SignEnv where
  decrypt := .ok
  sha256 data := (data ++ List.replicate 32 0).take 32
  sha256_length data := by simp
  unmarshalPrivateKey := some
  parseECPrivateKey := some
  ecdsaSign _ hash := some (hash.length, 0)
  asn1Marshal rs := some [48, rs.1.toNat.toUInt8]
  parsePKCS1PrivateKey := some
  signPKCS1v15 _ hash := if hash.length = 32 then some hash else none
  signPKCS1v15_hashed _ _ h := if_neg h
  parsePKCS8PrivateKey privateKey := some (.ed25519 privateKey)
  ed25519Sign _ data := some data
  hmacSHA256 _ data := data

/-! ## `Create` then `Sign` -/

/-- What `Sign`'s collaborators promise about the keys `Create`'s collaborators make: the
decryptor undoes the encryptor, each supported key type's private key is read by the parser
the spec names for it (the secp256k1 unmarshaller on secp256k1, the standard EC parser on
P-256, PKCS#1 for RSA, PKCS#8 holding an Ed25519 key for Ed25519), and the signing
primitives succeed on every input they take (PKCS#1 v1.5 on a 32-byte hash). -/
structure RoundTrip (kenv : KeystoreEnv) (env : SignEnv) : Prop where
  decrypt_encrypt : ∀ k c, kenv.encrypt k = .ok c → env.decrypt c = .ok k
  p256 : ∀ priv pub, kenv.generateKeyPair keyTypeECDSA (some p256) = .ok (priv, pub) →
    (env.parseECPrivateKey priv).isSome
  secp256k1 : ∀ priv pub,
    kenv.generateKeyPair keyTypeECDSA (some secp256k1Curve) = .ok (priv, pub) →
    (env.unmarshalPrivateKey priv).isSome
  rsa : ∀ curve priv pub, kenv.generateKeyPair keyTypeRSA curve = .ok (priv, pub) →
    (env.parsePKCS1PrivateKey priv).isSome
  ed25519 : ∀ curve priv pub, kenv.generateKeyPair keyTypeEd25519 curve = .ok (priv, pub) →
    ∃ k, env.parsePKCS8PrivateKey priv = some (.ed25519 k)
  ecdsaSign : ∀ k hash, (env.ecdsaSign k hash).isSome
  asn1Marshal : ∀ signature, (env.asn1Marshal signature).isSome
  signPKCS1v15 : ∀ k hash, hash.length = 32 → (env.signPKCS1v15 k hash).isSome
  ed25519Sign : ∀ k data, (env.ed25519Sign k data).isSome

/-- What a successful `Create` did: the collaborators' answers and the row it inserted. -/
theorem create_ok {env : KeystoreEnv} {ks ks' : DBKeyStore} {name keyType : String}
    {curve : Option Curve} {tags : List (String × String)} {key : Key}
    (h : ks.create env name keyType curve tags = (ks', .ok key)) :
    ∃ (n : Int) (priv pub enc : List UInt8), env.generateKeyPair keyType (defaultCurve keyType curve) = .ok (priv, pub) ∧
      env.encrypt priv = .ok enc ∧
      ks.insert ⟨toString n, name, keyType, curveName (defaultCurve keyType curve), tags,
        unixSeconds env.now, enc, pub⟩ = .ok ks' ∧ key.id = toString n := by
  simp only [create] at h
  split at h
  · cases h
  · next n _ =>
    split at h
    · cases h
    · next priv pub hgen =>
      split at h
      · cases h
      · next enc henc =>
        split at h
        · cases h
        · next ks'' hins =>
          cases h
          exact ⟨n, priv, pub, enc, hgen, henc, hins, rfl⟩

/-- ECDSA signs once the parser the curve name picks reads the key and the primitives
succeed. -/
theorem signWithECDSA_ok {env : SignEnv} {privateKeyBytes : List UInt8} {curveName : String}
    (hparse : (if curveName = curveNameSecp256k1 then env.unmarshalPrivateKey privateKeyBytes
      else env.parseECPrivateKey privateKeyBytes).isSome)
    (hsign : ∀ k hash, (env.ecdsaSign k hash).isSome)
    (hmarshal : ∀ signature, (env.asn1Marshal signature).isSome)
    (data : List UInt8) (dataType : DataType) :
    ∃ signature, signWithECDSA env privateKeyBytes data dataType curveName = .ok signature := by
  obtain ⟨k, hk⟩ := Option.isSome_iff_exists.mp hparse
  obtain ⟨s, hs⟩ := Option.isSome_iff_exists.mp (hsign k (hashData env data dataType))
  obtain ⟨b, hb⟩ := Option.isSome_iff_exists.mp (hmarshal s)
  refine ⟨b, ?_⟩
  unfold signWithECDSA
  split_ifs at hk with hc <;> simp [hc, hk, hs, hb]

/-- A private key generated for a supported key type and curve signs any data, except a digest
that is not 32 bytes long under an RSA key. -/
theorem signData_ok_iff {kenv : KeystoreEnv} {env : SignEnv} (hrt : RoundTrip kenv env)
    {keyType : String} {curve : Option Curve} {priv pub : List UInt8}
    (hkt : keyType ∈ supportedKeyTypes) (hcurve : SupportedCurve curve)
    (hgen : kenv.generateKeyPair keyType (defaultCurve keyType curve) = .ok (priv, pub))
    (data : List UInt8) (dataType : DataType) :
    (∃ signature, signData env keyType priv data dataType
      (curveName (defaultCurve keyType curve)) = .ok signature) ↔
      (keyType = keyTypeRSA → dataType = .digest → data.length = 32) := by
  simp only [supportedKeyTypes, List.mem_cons, List.mem_singleton, List.not_mem_nil,
    or_false] at hkt
  rcases hkt with rfl | rfl | rfl | rfl
  · -- ECDSA, on P-256 (also for no curve) or secp256k1
    refine iff_of_true ?_ fun h => absurd h (by decide)
    rw [signData, if_pos rfl]
    have hdc : defaultCurve keyTypeECDSA curve = some p256 ∨
        defaultCurve keyTypeECDSA curve = some secp256k1Curve := by
      rcases hcurve with rfl | rfl | rfl <;> decide
    rcases hdc with hdc | hdc <;> rw [hdc] at hgen ⊢ <;>
      refine signWithECDSA_ok ?_ hrt.ecdsaSign hrt.asn1Marshal data dataType
    · rw [if_neg (by decide)]; exact hrt.p256 priv pub hgen
    · rw [if_pos (by decide)]; exact hrt.secp256k1 priv pub hgen
  · -- RSA: PKCS#1 v1.5 signs exactly the 32-byte hashes, which SHA-256 digests are
    obtain ⟨k, hk⟩ := Option.isSome_iff_exists.mp (hrt.rsa _ priv pub hgen)
    have hlen : (hashData env data dataType).length = 32 ↔
        (keyTypeRSA = keyTypeRSA → dataType = .digest → data.length = 32) := by
      cases dataType <;> simp [hashData, env.sha256_length]
    rw [signData, if_neg (by decide), if_pos rfl, ← hlen]
    by_cases h32 : (hashData env data dataType).length = 32
    · obtain ⟨s, hs⟩ := Option.isSome_iff_exists.mp (hrt.signPKCS1v15 k _ h32)
      exact iff_of_true ⟨s, by simp [signWithRSA, hk, hs]⟩ h32
    · exact iff_of_false (by simp [signWithRSA, hk, env.signPKCS1v15_hashed k _ h32]) h32
  · -- Ed25519
    refine iff_of_true ?_ fun h => absurd h (by decide)
    obtain ⟨k, hk⟩ := hrt.ed25519 _ priv pub hgen
    obtain ⟨s, hs⟩ := Option.isSome_iff_exists.mp (hrt.ed25519Sign k data)
    refine ⟨s, ?_⟩
    rw [signData, if_neg (by decide), if_neg (by decide), if_pos rfl]
    simp [signWithEd25519, hk, hs]
  · -- symmetric
    exact iff_of_true ⟨_, by rw [signData, if_neg (by decide), if_neg (by decide),
      if_neg (by decide), if_pos rfl]; rfl⟩ fun h => absurd h (by decide)

/-- `Create` then `Sign`: whenever the collaborators keep their contracts, a key made for a
supported key type and curve signs raw data of any length, and a digest unless the key is RSA
and the digest is not 32 bytes long. -/
theorem create_sign {kenv : KeystoreEnv} {env : SignEnv} (hrt : RoundTrip kenv env)
    {ks ks' : DBKeyStore} {name keyType : String} {curve : Option Curve}
    {tags : List (String × String)} {key : Key} (hkt : keyType ∈ supportedKeyTypes)
    (hcurve : SupportedCurve curve) (h : ks.create kenv name keyType curve tags = (ks', .ok key))
    (data : List UInt8) (dataType : DataType) :
    (∃ signature, ks'.sign env key.id data dataType = .ok signature) ↔
      (keyType = keyTypeRSA → dataType = .digest → data.length = 32) := by
  obtain ⟨n, priv, pub, enc, hgen, henc, hins, hid⟩ := create_ok h
  have hmem := insert_keys hins ▸ mem_insertRow.mpr (.inl rfl)
  rw [hid, sign, find?_id_of_mem hmem]
  simp only [hrt.decrypt_encrypt _ _ henc]
  exact signData_ok_iff hrt hkt hcurve hgen data dataType

theorem create_sign_ecdsa :
    RoundTrip okEnv echoSignEnv ∧ keyTypeECDSA ∈ supportedKeyTypes ∧ SupportedCurve none ∧
    DBKeyStore.empty.create okEnv "k" keyTypeECDSA none [] =
      ((DBKeyStore.empty.create okEnv "k" keyTypeECDSA none []).1,
        .ok ⟨"7", "k", keyTypeECDSA, some p256, [], 0, [1], [2]⟩) ∧
    ((∃ signature, (DBKeyStore.empty.create okEnv "k" keyTypeECDSA none []).1.sign echoSignEnv
      (⟨"7", "k", keyTypeECDSA, some p256, [], 0, [1], [2]⟩ : Key).id [5] .raw = .ok signature) ↔
      (keyTypeECDSA = keyTypeRSA → DataType.raw = .digest → [(5 : UInt8)].length = 32)) :=
  have hrt : RoundTrip okEnv echoSignEnv :=
    ⟨fun _ _ h => by cases h; rfl, fun _ _ _ => rfl, fun _ _ _ => rfl, fun _ _ _ _ => rfl,
      fun _ priv _ _ => ⟨priv, rfl⟩, fun _ _ => rfl, fun _ => rfl,
      fun _ _ h => by simp [echoSignEnv, h], fun _ _ => rfl⟩
  have hkt : keyTypeECDSA ∈ supportedKeyTypes := List.mem_cons_self _ _
  have hcurve : SupportedCurve none := .inl rfl
  have h : DBKeyStore.empty.create okEnv "k" keyTypeECDSA none [] =
      ((DBKeyStore.empty.create okEnv "k" keyTypeECDSA none []).1,
        .ok ⟨"7", "k", keyTypeECDSA, some p256, [], 0, [1], [2]⟩) := rfl
  ⟨hrt, hkt, hcurve, h, create_sign hrt hkt hcurve h [5] .raw⟩

end DBKeyStore

end Vault0.Keystore
