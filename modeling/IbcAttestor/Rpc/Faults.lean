import IbcAttestor.Adapter.Calls
import IbcAttestor.Signer.Enum

/-!
# What a request failed for

Each failed request failed for one thing: something the caller sent, something the chain
answered or did not answer, or the signer. The status code is chosen by the layer in which
the error arose: a missing block and an existing receipt have a code of their own when the
service finds them, and are internal errors when an adapter does.
-/

namespace IbcAttestor

open Cooperative

inductive Fault where
  -- the caller's
  | undecodable
  | unknownType
  | aboveFinalized
  | missing
  | mismatch
  | receiptExists
  -- the chain's
  | notFinalized
  | unanswered
  | malformed
  | signer
  deriving DecidableEq

/-- The code that tells the caller's faults from the server's. -/
def Fault.code : Fault → Code
  | .undecodable | .unknownType | .mismatch | .receiptExists => .invalidArgument
  | .aboveFinalized | .notFinalized => .failedPrecondition
  | .missing => .notFound
  | .unanswered | .malformed | .signer => .internal

def AdapterEnum.reportedCode : AdapterEnum → Fault → Code
  | _, .undecodable => .internal
  | _, .notFinalized => .internal
  | .cosmos _, .receiptExists => .internal
  | _, fault => fault.code

/-- A retried call failed: three times without an answer, or with an answer in which there
is a fault. -/
def FailedCall (t : Trace node Metric) (s : Site) (op : ChainOp) (faultIn : op.Val → Option Fault)
    (fault : Fault) : Prop :=
  failures t s op = 3 ∧ fault = .unanswered ∨
    ∃ x, Replied t s (.chain op) (.ok x) ∧ faultIn x = some fault

/-- A call was answered, and there is no fault in the answer. -/
def GoodCall (t : Trace node Metric) (s : Site) (op : ChainOp)
    (faultIn : op.Val → Option Fault) : Prop :=
  ∃ x, Replied t s (.chain op) (.ok x) ∧ faultIn x = none

/-- What is wrong with the answer to a call for a height or a timestamp. -/
def blockFault : (op : ChainOp) → op.Val → Option Fault
  | .getBlock _ => fun block : Option EvmBlock => if block = none then some .notFinalized else none
  | .commit _ => fun header : SignedHeader =>
    if header.unixTimestamp < 0 then some .malformed else none
  | .getBlockTime _ => fun blockTime : Int64 => if blockTime < 0 then some .malformed else none
  | _ => fun _ => none

/-- What the answer to a lookup says is stored. -/
def heldIn : (op : ChainOp) → op.Val → Except Fault (Option Bytes32)
  | .routerGetCommitment _ _ _ => fun word : Bytes32 =>
    .ok (if word = Bytes32.zero then none else some word)
  | .v2PacketCommitment _ _ _ _ => heldInBytes
  | .v2PacketAcknowledgement _ _ _ => heldInBytes
  | .v2PacketReceipt _ _ _ => fun received : Bool =>
    if received then .error .receiptExists else .ok none
  | .getAccountWithCommitment _ _ => fun account : Option Account => match account with
    | none => .ok none
    | some account =>
      if account.data.length = anchorDiscriminatorLen + commitmentLen then
        .ok (Bytes32.tryFrom (account.data.drop anchorDiscriminatorLen))
      else .error .malformed
  | _ => fun _ => .ok none
where
  heldInBytes (bytes : Bytes) : Except Fault (Option Bytes32) :=
    if bytes = [] then .ok none
    else if bytes.length = commitmentLen then .ok (Bytes32.tryFrom bytes)
    else .error .malformed

variable (c : Crates)

/-- What is wrong when there is `stored` for a packet. -/
def storedFault (kind : CommitmentType) (p : Packet) : Option Bytes32 → Option Fault
  | none => match kind with
    | .receipt => none
    | _ => some .missing
  | some w => match kind with
    | .packet => if c.commitment p = w.bytes then none else some .mismatch
    | .ack => none
    | .receipt => some .receiptExists

def lookupFault (kind : CommitmentType) (p : Packet) (op : ChainOp) (x : op.Val) : Option Fault :=
  match heldIn op x with
  | .error fault => some fault
  | .ok stored => storedFault c kind p stored

/-- The packets and the commitment type of a request, as it encodes them. -/
structure Decoded (request : PacketAttestationRequest) (packets : List Packet)
    (kind : CommitmentType) : Prop where
  packets : List.Forall₂ (fun encoded p => c.packetAbiDecode encoded = .ok p) request.packets packets
  kind : request.commitmentType = kind.number

/-- What is wrong with a request alone. -/
inductive Refused : RpcRequest → Fault → Prop
  | undecodable {request encoded e} (mem : encoded ∈ request.packets)
      (failed : c.packetAbiDecode encoded = .error e) :
      Refused (.packetAttestation request) .undecodable
  | unknownType {request packets}
      (decoded : List.Forall₂ (fun encoded p => c.packetAbiDecode encoded = .ok p)
        request.packets packets)
      (unknown : ∀ kind : CommitmentType, request.commitmentType ≠ kind.number) :
      Refused (.packetAttestation request) .unknownType

/-- The finalized height could not be had, or it is below the height that is asked for. -/
inductive HeightFault (a : AdapterEnum) (asked : Option UInt64) (t : Trace node Metric) :
    Fault → Prop
  | call {fault} (call : FailedCall t [] a.heightCall (blockFault _) fault) :
      HeightFault a asked t fault
  | above {height finalized} (asks : asked = some height) (told : a.ToldHeight t finalized)
      (above : finalized < height) : HeightFault a asked t .aboveFinalized

/-- The first packet with a fault has this one. -/
def PacketFault (a : AdapterEnum) (packets : List Packet) (height : UInt64) (kind : CommitmentType)
    (t : Trace node Metric) (fault : Fault) : Prop :=
  ∃ i : Fin packets.length,
    FailedCall t [i.val] (a.lookupCall c height kind (packets.get i))
      (lookupFault c kind (packets.get i) _) fault ∧
    ∀ j < i, GoodCall t [j.val] (a.lookupCall c height kind (packets.get j))
      (lookupFault c kind (packets.get j) _)

/-- What is to be attested could not be read. A Tendermint node that reports a height out of
the range of its heights reports a malformed one. -/
inductive ReadingFault (a : AdapterEnum) (t : Trace node Metric) : RpcRequest → Fault → Prop
  | timestamp {request fault}
      (call : FailedCall t [] (a.timestampCall request.height) (blockFault _) fault) :
      ReadingFault a t (.stateAttestation request) fault
  | range {request finalized cosmos} (chain : a = .cosmos cosmos)
      (told : a.ToldHeight t finalized) (le : request.height ≤ finalized)
      (range : 2 ^ 63 ≤ request.height.toNat) :
      ReadingFault a t (.stateAttestation request) .malformed
  | packet {request packets kind fault} (decoded : Decoded c request packets kind)
      (packet : PacketFault c a packets request.height kind t fault) :
      ReadingFault a t (.packetAttestation request) fault

/-- The signer's part of the run is one that fails. -/
def SignerFault {c : Crates} (signer : SignerEnum c) (t : Trace node Metric) : Prop :=
  ∃ t₁ t₂ message e, t = t₁ ++ t₂ ∧ (∀ l ∈ t₁, ¬ SignerEnum.AtSigner l) ∧
    Completes (signer.sign message).run t₂ (.error e)

def RpcRequest.asked : RpcRequest → Option UInt64
  | .latestHeight _ => none
  | .stateAttestation request => some request.height
  | .packetAttestation request => some request.height

/-- There is a fault in the request, in the replies to its calls, or in the signer. -/
@[mk_iff] inductive EndedBy (a : AdapterEnum) (signer : SignerEnum c) (request : RpcRequest)
    (t : Trace node Metric) (fault : Fault) : Prop
  | refused (refused : Refused c request fault)
  | height (height : HeightFault a request.asked t fault)
  | reading (reading : ReadingFault c a t request fault)
  | signer (signer : fault = .signer ∧ SignerFault signer t)

variable {c} {retry : TokioRetry} {a : AdapterEnum} {t t₁ t₂ : Trace node Metric} {s : Site}
  {op : ChainOp} {faultIn : op.Val → Option Fault} {fault : Fault}

def Unasked (t : Trace node Metric) (s : Site) (op : ChainOp) : Prop :=
  ∀ x, ¬ Replied t s (.chain op) x

theorem Unasked.failures_eq (h : Unasked t s op) : failures t s op = 0 :=
  failures_eq_zero.mpr fun text => h (.error text)

theorem Unasked.append (h₁ : Unasked t₁ s op) (h₂ : Unasked t₂ s op) : Unasked (t₁ ++ t₂) s op :=
  fun x hx => (replied_append.mp hx).elim (h₁ x) (h₂ x)

end IbcAttestor
