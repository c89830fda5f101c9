import IbcAttestor.Basic.Messages

/-!
# Errors and status codes
-/

namespace IbcAttestor

inductive AttestationAdapterError where
  | configError (reason : String)
  | invalidHeight
  | blockNotFinalized
  | retrievalError (reason : String)
  | commitmentError (reason : String)
  deriving DecidableEq

namespace AttestationAdapterError

def toString : AttestationAdapterError → String
  | .configError reason => s!"Failed to build attestor adapter due to: {reason}"
  | .invalidHeight => "Invalid height used"
  | .blockNotFinalized => "Block not finalized"
  | .retrievalError reason => s!"Error while retrieving data: {reason}"
  | .commitmentError reason => s!"Commitment error: {reason}"

/-- `matches!(error, AttestationAdapterError::RetrievalError(_))`. -/
def isRetrievalError : AttestationAdapterError → Bool
  | .retrievalError _ => true
  | _ => false

end AttestationAdapterError

inductive SignerError where
  | localError (reason : String)
  | remoteError (reason : String)
  | connectionError (reason : String)
  | invalidSignature (reason : String)
  | configError (reason : String)
  deriving DecidableEq

def SignerError.toString : SignerError → String
  | .localError reason => s!"Local signing error: {reason}"
  | .remoteError reason => s!"Remote signing error: {reason}"
  | .connectionError reason => s!"Connection failed: {reason}"
  | .invalidSignature reason => s!"Invalid signature format: {reason}"
  | .configError reason => s!"Failed to build signer due to: {reason}"

def UnknownEnumValue.toString (e : UnknownEnumValue) : String :=
  s!"unknown enumeration value {e.value}"

inductive AttestorError where
  | blockNotFinalized
  | invalidCommitment (reason : String)
  | commitmentNotFound (clientId : String) (sequence height : UInt64)
  | signerError (reason : String)
  | signerInitError (e : SignerError)
  | abiError (reason : String)
  | adapterError (e : AttestationAdapterError)
  | malformedCommitmentError (e : UnknownEnumValue)
  deriving DecidableEq

def AttestorError.toString : AttestorError → String
  | .blockNotFinalized => "Block is not finalized"
  | .invalidCommitment reason => s!"Packet commitment found but invalid due to: {reason}"
  | .commitmentNotFound clientId sequence height =>
    s!"Commitment not found client_id={clientId}, sequence={sequence} at height={height}"
  | .signerError reason => s!"Failed to sign attestation due to: {reason}"
  | .signerInitError e => s!"Signer initialization failed: {e.toString}"
  | .abiError reason => s!"AbiError: {reason}"
  | .adapterError e => s!"AdapterError: {e.toString}"
  | .malformedCommitmentError e => s!"MalformedCommitmentError: {e.toString}"

/-- `tonic::Code`. -/
inductive Code where
  | ok
  | cancelled
  | unknown
  | invalidArgument
  | deadlineExceeded
  | notFound
  | alreadyExists
  | permissionDenied
  | resourceExhausted
  | failedPrecondition
  | aborted
  | outOfRange
  | unimplemented
  | internal
  | unavailable
  | dataLoss
  | unauthenticated
  deriving DecidableEq

/-- The text of `format!("{code:?}")`. -/
def Code.debug : Code → String
  | .ok => "Ok"
  | .cancelled => "Cancelled"
  | .unknown => "Unknown"
  | .invalidArgument => "InvalidArgument"
  | .deadlineExceeded => "DeadlineExceeded"
  | .notFound => "NotFound"
  | .alreadyExists => "AlreadyExists"
  | .permissionDenied => "PermissionDenied"
  | .resourceExhausted => "ResourceExhausted"
  | .failedPrecondition => "FailedPrecondition"
  | .aborted => "Aborted"
  | .outOfRange => "OutOfRange"
  | .unimplemented => "Unimplemented"
  | .internal => "Internal"
  | .unavailable => "Unavailable"
  | .dataLoss => "DataLoss"
  | .unauthenticated => "Unauthenticated"

/-- `tonic::Status`. -/
structure Status where
  code : Code
  message : String
  deriving DecidableEq

def AttestorError.code : AttestorError → Code
  | .blockNotFinalized => .failedPrecondition
  | .commitmentNotFound _ _ _ => .notFound
  | .invalidCommitment _ | .malformedCommitmentError _ => .invalidArgument
  | .signerError _ | .signerInitError _ | .abiError _ | .adapterError _ => .internal

/-- `impl From<AttestorError> for Status`. -/
def Status.ofAttestorError (value : AttestorError) : Status := ⟨value.code, value.toString⟩

@[simp] theorem Status.code_ofAttestorError (e : AttestorError) :
    (Status.ofAttestorError e).code = e.code := rfl

end IbcAttestor
