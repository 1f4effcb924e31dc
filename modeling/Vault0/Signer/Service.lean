import Vault0.Keystore.List

/-!
# Signer service: checks first, then the repository

Each call of `signer.service` checks its arguments in order and returns
`errors.NewInvalidInputError` naming the field of the first check that fails, before it
calls its `Repository`; a rejected call therefore leaves the repository as it was
(`SignerCall.apply_of_checks_error`). The signer package's other files (the `Signer` and
`Address` types, `SignerType` and the `Repository` implementation) are absent, so the
repository is a parameter, seen through the signers it holds.

`CreateSigner` and `UpdateSigner` refuse an internal signer whose user ID is nil or zero.
So along every run of calls, on any repository that stores no signer it was not given,
every internal signer the repository holds keeps a non-zero user ID
(`run_internal_has_user`).
-/

namespace Vault0.SignerService

open Keystore (Page)

/-- `signer.Internal` (its declaration is absent): the signer type the service compares
with; only equality with it matters. -/
def internal : String := "internal"

/-- `signer.Signer`: the ID the repository assigns, the name, the type, and the user an
internal signer belongs to (`none` for a nil pointer). -/
structure Signer where
  id : Int
  name : String
  signerType : String
  userID : Option Int
  deriving DecidableEq, Repr

/-- `signer.Address`: an address of a signer on a chain. -/
structure Address where
  id : Int
  signerID : Int
  chainType : String
  address : String
  deriving DecidableEq, Repr

/-- What a call fails with: `errors.NewInvalidInputError(message, field, value)`, with its
message and the field its details name, or a repository error passed on as it came. -/
inductive ServiceError
  | invalidInput (message field : String)
  | repository (err : Vault0Error)
  deriving DecidableEq, Repr

/-- The signer `Repository` as the service calls it on a state `σ`: the writes return the
new state, the reads only look at it. `Create` returns the signer it stored, ID set. -/
structure Repository (σ : Type) where
  create : σ → Signer → σ × Except Vault0Error Signer
  getByID : σ → Int → Except Vault0Error Signer
  update : σ → Signer → σ × Except Vault0Error Unit
  delete : σ → Int → σ × Except Vault0Error Unit
  getByUserID : σ → Int → Except Vault0Error (List Signer)
  list : σ → Int → String → Except Vault0Error (Page Signer)
  addAddress : σ → Address → σ × Except Vault0Error Address
  deleteAddress : σ → Int → σ × Except Vault0Error Unit
  getAddresses : σ → Int → Except Vault0Error (List Address)

/-! ## The checks -/

/-- A required ID: zero is rejected with the call's message and field. -/
def requireID (id : Int) (message field : String) : Except ServiceError Unit :=
  if id = 0 then .error (.invalidInput message field) else .ok ()

/-- A required string: the empty string is rejected with the call's message and field. -/
def requireString (value message field : String) : Except ServiceError Unit :=
  if value = "" then .error (.invalidInput message field) else .ok ()

/-- An internal signer needs a user ID that is set and not zero. -/
def requireUserID (signerType : String) (userID : Option Int) : Except ServiceError Unit :=
  if signerType = internal ∧ (userID = none ∨ userID = some 0) then
    .error (.invalidInput "User ID is required for internal signers" "user_id")
  else .ok ()

/-- Run a call's checks, then its repository calls: a failed check returns its error and
leaves the repository as it was. -/
def validated {σ α : Type} (s : σ) (checks : Except ServiceError Unit)
    (call : σ × Except ServiceError α) : σ × Except ServiceError α :=
  match checks with
  | .error e => (s, .error e)
  | .ok () => call

/-- A repository write's result, its error passed on. -/
def liftWrite {σ α : Type} : σ × Except Vault0Error α → σ × Except ServiceError α
  | (s, r) => (s, r.mapError .repository)

/-! ## The calls -/

section Calls

variable {σ : Type} (repo : Repository σ) (s : σ)

/-- `CreateSigner`'s checks. -/
def createSignerChecks (name signerType : String) (userID : Option Int) :
    Except ServiceError Unit := do
  requireString name "Name is required" "name"
  requireUserID signerType userID

/-- `CreateSigner`. -/
def createSigner (name signerType : String) (userID : Option Int) :
    σ × Except ServiceError Signer :=
  validated s (createSignerChecks name signerType userID)
    (liftWrite (repo.create s ⟨0, name, signerType, userID⟩))

/-- `UpdateSigner`'s checks. -/
def updateSignerChecks (id : Int) (name signerType : String) (userID : Option Int) :
    Except ServiceError Unit := do
  requireID id "Signer ID is required" "id"
  requireString name "Name cannot be empty" "name"
  requireUserID signerType userID

/-- `UpdateSigner`: read the signer, set its name, type and user, and write it back. -/
def updateSigner (id : Int) (name signerType : String) (userID : Option Int) :
    σ × Except ServiceError Signer :=
  validated s (updateSignerChecks id name signerType userID)
    (match repo.getByID s id with
    | .error err => (s, .error (.repository err))
    | .ok signer =>
      let signer := { signer with name, signerType, userID }
      match repo.update s signer with
      | (s', .error err) => (s', .error (.repository err))
      | (s', .ok ()) => (s', .ok signer))

/-- `DeleteSigner`. -/
def deleteSigner (id : Int) : σ × Except ServiceError Unit :=
  validated s (requireID id "Signer ID is required" "id") (liftWrite (repo.delete s id))

/-- `GetSignerByID`. -/
def getSignerByID (id : Int) : Except ServiceError Signer := do
  requireID id "Signer ID is required" "id"
  (repo.getByID s id).mapError .repository

/-- `FindSignersByUserID`. -/
def findSignersByUserID (userID : Int) : Except ServiceError (List Signer) := do
  requireID userID "User ID is required" "user_id"
  (repo.getByUserID s userID).mapError .repository

/-- `ListSigners`: a limit that is not positive becomes 10. -/
def listSigners (limit : Int) (nextToken : String) : Except ServiceError (Page Signer) :=
  (repo.list s (if limit ≤ 0 then 10 else limit) nextToken).mapError .repository

/-- `AddAddress`'s checks. -/
def addAddressChecks (signerID : Int) (chainType address : String) :
    Except ServiceError Unit := do
  requireID signerID "Signer ID is required" "signer_id"
  requireString chainType "Chain type is required" "chain_type"
  requireString address "Address is required" "address"

/-- `AddAddress`: the signer must be found before the address is stored. -/
def addAddress (signerID : Int) (chainType address : String) : σ × Except ServiceError Address :=
  validated s (addAddressChecks signerID chainType address)
    (match repo.getByID s signerID with
    | .error err => (s, .error (.repository err))
    | .ok _ => liftWrite (repo.addAddress s ⟨0, signerID, chainType, address⟩))

/-- `DeleteAddress`. -/
def deleteAddress (id : Int) : σ × Except ServiceError Unit :=
  validated s (requireID id "Address ID is required" "id") (liftWrite (repo.deleteAddress s id))

/-- `GetAddresses`: the signer must be found before its addresses are read. -/
def getAddresses (signerID : Int) : Except ServiceError (List Address) := do
  requireID signerID "Signer ID is required" "signer_id"
  let _ ← (repo.getByID s signerID).mapError .repository
  (repo.getAddresses s signerID).mapError .repository

end Calls

/-! ## Runs of calls -/

/-- A call of the service that writes the repository. -/
inductive SignerCall
  | createSigner (name signerType : String) (userID : Option Int)
  | updateSigner (id : Int) (name signerType : String) (userID : Option Int)
  | deleteSigner (id : Int)
  | addAddress (signerID : Int) (chainType address : String)
  | deleteAddress (id : Int)
  deriving DecidableEq, Repr

namespace SignerCall

variable {σ : Type}

/-- A call's checks, as it runs them. -/
def checks : SignerCall → Except ServiceError Unit
  | .createSigner name signerType userID => createSignerChecks name signerType userID
  | .updateSigner id name signerType userID => updateSignerChecks id name signerType userID
  | .deleteSigner id => requireID id "Signer ID is required" "id"
  | .addAddress signerID chainType address => addAddressChecks signerID chainType address
  | .deleteAddress id => requireID id "Address ID is required" "id"

/-- The repository's state after a call. -/
def apply (repo : Repository σ) (s : σ) : SignerCall → σ
  | .createSigner name signerType userID =>
    (Vault0.SignerService.createSigner repo s name signerType userID).1
  | .updateSigner id name signerType userID =>
    (Vault0.SignerService.updateSigner repo s id name signerType userID).1
  | .deleteSigner id => (Vault0.SignerService.deleteSigner repo s id).1
  | .addAddress signerID chainType address =>
    (Vault0.SignerService.addAddress repo s signerID chainType address).1
  | .deleteAddress id => (Vault0.SignerService.deleteAddress repo s id).1

/-- Every check fails with an invalid-input error, naming the field it checks. -/
theorem checks_error {call : SignerCall} {e : ServiceError} (h : call.checks = .error e) :
    ∃ message field, e = .invalidInput message field := by
  cases call <;>
    simp only [checks, createSignerChecks, updateSignerChecks, addAddressChecks, requireID,
      requireString, requireUserID] at h <;>
    split_ifs at h <;> simp only [bind, Except.bind, Except.error.injEq, reduceCtorEq] at h <;>
    exact ⟨_, _, h.symm⟩

/-- A call rejected by its checks leaves the repository as it was. -/
theorem apply_of_checks_error (repo : Repository σ) (s : σ) {call : SignerCall}
    {e : ServiceError} (h : call.checks = .error e) : call.apply repo s = s := by
  cases call <;> simp only [checks] at h <;>
    simp only [apply, Vault0.SignerService.createSigner, Vault0.SignerService.updateSigner,
      Vault0.SignerService.deleteSigner, Vault0.SignerService.addAddress,
      Vault0.SignerService.deleteAddress, validated, h]

end SignerCall

/-- The repository's state after a run of calls. -/
def runCalls {σ : Type} (repo : Repository σ) (s : σ) (calls : List SignerCall) : σ :=
  calls.foldl (SignerCall.apply repo) s

/-! ## Internal signers keep their user -/

/-- An internal signer has a user ID that is set and not zero. -/
def HasUser (y : Signer) : Prop :=
  y.signerType = internal → ∃ u, y.userID = some u ∧ u ≠ 0

/-- What the service needs of a repository, through the signers it holds: it stores no signer
it was not given. After a `Create` or an `Update` of a signer, every signer held was held
before or has that signer's type and user; the other writes add no signer. -/
structure StoresGiven {σ : Type} (repo : Repository σ) (signers : σ → List Signer) : Prop where
  create : ∀ s x, ∀ y ∈ signers (repo.create s x).1,
    y ∈ signers s ∨ (y.signerType = x.signerType ∧ y.userID = x.userID)
  update : ∀ s x, ∀ y ∈ signers (repo.update s x).1,
    y ∈ signers s ∨ (y.signerType = x.signerType ∧ y.userID = x.userID)
  delete : ∀ s id, ∀ y ∈ signers (repo.delete s id).1, y ∈ signers s
  addAddress : ∀ s a, ∀ y ∈ signers (repo.addAddress s a).1, y ∈ signers s
  deleteAddress : ∀ s id, ∀ y ∈ signers (repo.deleteAddress s id).1, y ∈ signers s

/-- The user check passes only for a signer that is not internal or has a non-zero user. -/
theorem hasUser_of_requireUserID {signerType : String} {userID : Option Int}
    (h : requireUserID signerType userID = .ok ()) (y : Signer) (ht : y.signerType = signerType)
    (hu : y.userID = userID) : HasUser y := by
  intro hi
  unfold requireUserID at h
  rw [ht, hu] at *
  split_ifs at h with hc
  cases userID with
  | none => exact absurd ⟨hi, .inl rfl⟩ hc
  | some u => exact ⟨u, rfl, fun h0 => hc ⟨hi, .inr (h0 ▸ rfl)⟩⟩

section Run

variable {σ : Type} {repo : Repository σ} {signers : σ → List Signer}

/-- A write's state is the repository's. -/
@[simp]
theorem liftWrite_fst {α : Type} (p : σ × Except Vault0Error α) : (liftWrite p).1 = p.1 := by
  cases p; rfl

/-- `CreateSigner`'s checks pass only when the user check does. -/
theorem createSignerChecks_userID {name signerType : String} {userID : Option Int}
    (h : createSignerChecks name signerType userID = .ok ()) :
    requireUserID signerType userID = .ok () := by
  simp only [createSignerChecks, bind, Except.bind] at h
  split at h
  · cases h
  · exact h

/-- `UpdateSigner`'s checks pass only when the user check does. -/
theorem updateSignerChecks_userID {id : Int} {name signerType : String} {userID : Option Int}
    (h : updateSignerChecks id name signerType userID = .ok ()) :
    requireUserID signerType userID = .ok () := by
  simp only [updateSignerChecks, bind, Except.bind] at h
  repeat' split at h
  all_goals first | cases h | exact h

/-- Every call keeps every held internal signer's user. -/
theorem SignerCall.apply_hasUser (hrepo : StoresGiven repo signers) {s : σ}
    (hs : ∀ y ∈ signers s, HasUser y) (call : SignerCall) :
    ∀ y ∈ signers (call.apply repo s), HasUser y := by
  cases call with
  | createSigner name signerType userID =>
    simp only [SignerCall.apply, Vault0.SignerService.createSigner, validated]
    split
    · exact hs
    · next hc =>
      exact fun y hy => (hrepo.create s ⟨0, name, signerType, userID⟩ y (by simpa using hy)).elim
        (hs y) fun ⟨ht, hu⟩ => hasUser_of_requireUserID (createSignerChecks_userID hc) y ht hu
  | updateSigner id name signerType userID =>
    simp only [SignerCall.apply, Vault0.SignerService.updateSigner, validated]
    split
    · exact hs
    · next hc =>
      split
      · exact hs
      · next signer _ =>
        have hupd : ∀ y ∈ signers (repo.update s { signer with name, signerType, userID }).1,
            HasUser y := fun y hy => (hrepo.update s _ y hy).elim (hs y)
          fun ⟨ht, hu⟩ => hasUser_of_requireUserID (updateSignerChecks_userID hc) y ht hu
        split <;> next heq => rw [heq] at hupd; exact hupd
  | deleteSigner id =>
    simp only [SignerCall.apply, Vault0.SignerService.deleteSigner, validated]
    split
    · exact hs
    · exact fun y hy => hs y (hrepo.delete s id y (by simpa using hy))
  | addAddress signerID chainType address =>
    simp only [SignerCall.apply, Vault0.SignerService.addAddress, validated]
    split
    · exact hs
    · split
      · exact hs
      · exact fun y hy => hs y (hrepo.addAddress s _ y (by simpa using hy))
  | deleteAddress id =>
    simp only [SignerCall.apply, Vault0.SignerService.deleteAddress, validated]
    split
    · exact hs
    · exact fun y hy => hs y (hrepo.deleteAddress s id y (by simpa using hy))

end Run

/-- Along every run of `CreateSigner`, `UpdateSigner`, `DeleteSigner`, `AddAddress` and
`DeleteAddress` calls, on a repository that stores no signer it was not given and starts with
every internal signer holding a non-zero user ID, every internal signer it holds keeps a
non-zero user ID. -/
theorem run_internal_has_user {σ : Type} (repo : Repository σ) (signers : σ → List Signer)
    (hrepo : StoresGiven repo signers) (s : σ) (hs : ∀ y ∈ signers s, HasUser y)
    (calls : List SignerCall) : ∀ y ∈ signers (runCalls repo s calls), HasUser y := by
  induction calls generalizing s with
  | nil => exact hs
  | cons call calls ih => exact ih _ (SignerCall.apply_hasUser hrepo hs call)

/-- An in-memory repository: the signers in a list, each created under the next ID, and no
address kept. -/
def listRepository : Repository (List Signer) where
  create s x := ({ x with id := s.length + 1 } :: s, .ok { x with id := s.length + 1 })
  getByID s id := match s.find? (·.id = id) with
    | some x => .ok x
    | none => .error (Vault0Error.newResourceNotFoundError "signer" (toString id))
  update s x := (s.map fun y => if y.id = x.id then x else y, .ok ())
  delete s id := (s.filter (·.id ≠ id), .ok ())
  getByUserID s userID := .ok (s.filter (·.userID = some userID))
  list s _ _ := .ok ⟨s, "", 0⟩
  addAddress s a := (s, .ok a)
  deleteAddress s _ := (s, .ok ())
  getAddresses _ _ := .ok []

theorem listRepository_storesGiven : StoresGiven listRepository id where
  create s x y hy := by
    rcases List.mem_cons.mp hy with rfl | hy
    · exact .inr ⟨rfl, rfl⟩
    · exact .inl hy
  update s x y hy := by
    obtain ⟨z, hz, rfl⟩ := List.mem_map.mp hy
    by_cases h : z.id = x.id
    · exact .inr (by simp [h])
    · exact .inl (by simpa [h] using hz)
  delete _ _ _ hy := List.mem_of_mem_filter hy
  addAddress _ _ _ hy := hy
  deleteAddress _ _ _ hy := hy

theorem run_internal_has_user_listRepository :
    StoresGiven listRepository id ∧ (∀ y ∈ id ([] : List Signer), HasUser y) ∧
    ∀ y ∈ id (runCalls listRepository []
      [.createSigner "ops" internal (some 7), .createSigner "cold" internal none,
        .updateSigner 1 "ops" internal (some 0), .createSigner "ext" "external" none]),
      HasUser y :=
  have hs : ∀ y ∈ id ([] : List Signer), HasUser y := fun _ hy => absurd hy (List.not_mem_nil _)
  ⟨listRepository_storesGiven, hs,
    run_internal_has_user listRepository id listRepository_storesGiven [] hs _⟩

end Vault0.SignerService
