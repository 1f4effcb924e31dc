import Mathlib.Data.String.Basic

/-!
# `errors`: the error values the modelled code builds and tests

`errors.Vault0Error` carries a code, a message, a details map and a wrapped cause.
The keystore and the sync engine branch only on the code (`errors.IsError`) and pass
the message on, so an error here is the pair of the two; the details map repeats the
constructor's arguments and the cause is only logged.
-/

namespace Vault0

/-- An application error (`errors.Vault0Error`): its code and its message. -/
structure Vault0Error where
  code : String
  message : String
  deriving DecidableEq, Repr

namespace Vault0Error

/-- `errors.ErrCodeDatabaseError`. -/
def errCodeDatabaseError : String := "database_error"

/-- `errors.ErrCodeResourceNotFound`. -/
def errCodeResourceNotFound : String := "resource_not_found"

/-- `errors.ErrCodeChainNotSupported`. -/
def errCodeChainNotSupported : String := "chain_not_supported"

/-- `errors.ErrCodeTransactionNotFound`. -/
def errCodeTransactionNotFound : String := "transaction_not_found"

/-- `errors.ErrCodeInvalidCurve`. -/
def errCodeInvalidCurve : String := "invalid_curve"

/-- `errors.ErrCodeOperationFailed`. -/
def errCodeOperationFailed : String := "operation_failed"

/-- `errors.ErrCodeInvalidKey`. -/
def errCodeInvalidKey : String := "invalid_key"

/-- `errors.ErrCodeSigningError`. -/
def errCodeSigningError : String := "signing_error"

/-- `errors.ErrCodeInvalidKeyType`. -/
def errCodeInvalidKeyType : String := "invalid_key_type"

/-- `errors.NewDatabaseError`: a storage failure, its cause dropped. -/
def newDatabaseError : Vault0Error :=
  ⟨errCodeDatabaseError, "Database operation failed"⟩

/-- `errors.NewResourceNotFoundError(resource, id)`. -/
def newResourceNotFoundError (resource id : String) : Vault0Error :=
  ⟨errCodeResourceNotFound, resource ++ " not found: " ++ id⟩

/-- `errors.NewChainNotSupportedError(chain)`. -/
def newChainNotSupportedError (chain : String) : Vault0Error :=
  ⟨errCodeChainNotSupported, "Chain not supported: " ++ chain⟩

/-- `errors.NewTransactionNotFoundError(hash)`. -/
def newTransactionNotFoundError (hash : String) : Vault0Error :=
  ⟨errCodeTransactionNotFound, "Transaction not found: " ++ hash⟩

/-- `errors.NewInvalidCurveError(expected, got)`. -/
def newInvalidCurveError (expected got : String) : Vault0Error :=
  ⟨errCodeInvalidCurve, "Invalid curve: expected " ++ expected ++ ", got " ++ got⟩

/-- `errors.NewOperationFailedError(operation, err)`: the cause is wrapped, not shown. -/
def newOperationFailedError (operation : String) : Vault0Error :=
  ⟨errCodeOperationFailed, operation ++ " operation failed"⟩

/-- `errors.NewInvalidKeyError(msg, err)`: the cause is wrapped, not shown. -/
def newInvalidKeyError (msg : String) : Vault0Error :=
  ⟨errCodeInvalidKey, msg⟩

/-- `errors.NewSigningError(err)`: the cause is wrapped, not shown. -/
def newSigningError : Vault0Error :=
  ⟨errCodeSigningError, "Signing operation failed"⟩

/-- `errors.NewInvalidKeyTypeError(expected, got)`. -/
def newInvalidKeyTypeError (expected got : String) : Vault0Error :=
  ⟨errCodeInvalidKeyType, "Invalid key type: expected " ++ expected ++ ", got " ++ got⟩

/-- Modelled from the spec: `errors.IsError` (absent from the sources), the test
"this error carries that code" that lets callers tell not-found from other failures. -/
def isError (e : Vault0Error) (code : String) : Bool :=
  e.code == code

end Vault0Error

end Vault0
