import IbcAttestor.Basic.Messages
import IbcAttestor.Cooperative.Runs
import IbcAttestor.Metrics

/-!
# The calls that leave the process

What the adapters and the remote signer await: RPC calls of the chain nodes, the
timer between two attempts, and the calls of the signing service. An RPC call is
answered with the value used of its response, or with the text of its error.
-/

namespace IbcAttestor

open Cooperative

/-- `alloy::eips::BlockId`. -/
inductive BlockId where
  | latest
  | finalized
  | number (n : UInt64)
  deriving DecidableEq

/-- The header fields used of an EVM block. -/
structure EvmBlock where
  number : UInt64
  timestamp : UInt64
  deriving DecidableEq

/-- The fields used of a Tendermint signed header. -/
structure SignedHeader where
  height : UInt64
  unixTimestamp : Int64
  deriving DecidableEq

/-- `solana_commitment_config::CommitmentConfig`. -/
inductive CommitmentConfig where
  | processed
  | confirmed
  | finalized
  deriving DecidableEq

/-- `solana_sdk::pubkey::Pubkey`. -/
abbrev Pubkey := Bytes32

/-- The field used of a Solana account. -/
structure Account where
  data : Bytes
  deriving DecidableEq

/-- An RPC call of one of the three kinds of chain node. -/
inductive ChainOp where
  | getBlock (block : BlockId)
  | routerGetCommitment (router : Address) (hashedPath : Bytes32) (block : BlockId)
  | latestCommit
  | commit (height : UInt64)
  | v2PacketCommitment (clientId : String) (sequence height : UInt64) (prove : Bool)
  | v2PacketAcknowledgement (clientId : String) (sequence height : UInt64)
  | v2PacketReceipt (clientId : String) (sequence height : UInt64)
  | getSlotWithCommitment (config : CommitmentConfig)
  | getBlockTime (slot : UInt64)
  | getAccountWithCommitment (pubkey : Pubkey) (config : CommitmentConfig)
  deriving DecidableEq

/-- What is used of the response to a call. -/
abbrev ChainOp.Val : ChainOp → Type
  | .getBlock _ => Option EvmBlock
  | .routerGetCommitment _ _ _ => Bytes32
  | .latestCommit => SignedHeader
  | .commit _ => SignedHeader
  | .v2PacketCommitment _ _ _ _ => Bytes
  | .v2PacketAcknowledgement _ _ _ => Bytes
  | .v2PacketReceipt _ _ _ => Bool
  | .getSlotWithCommitment _ => UInt64
  | .getBlockTime _ => Int64
  | .getAccountWithCommitment _ _ => Option Account

inductive PubKeyType where
  | raw
  | cosmos
  | ethereum
  | solana
  deriving DecidableEq

structure GetWalletRequest where
  id : String
  pubkeyType : PubKeyType
  deriving DecidableEq

structure Wallet where
  id : String
  name : String
  tags : List String
  pubkey : Bytes
  addressBytes : Bytes
  formattedAddress : String
  deriving DecidableEq

structure RecoverableMessage where
  message : Bytes
  deriving DecidableEq

/-- The payload the attestor sends; the other kinds are never built. -/
inductive SignPayload where
  | recoverableMessage (m : RecoverableMessage)
  deriving DecidableEq

structure SignRequest where
  walletId : String
  payload : Option SignPayload
  deriving DecidableEq

/-- `sign_response::Signature`. -/
inductive SignResponseSignature where
  | evmSignature (r s v : Bytes)
  | cosmosSignature (signature : Bytes)
  | rawSignature (signature : Bytes)
  | solanaSignature (signature : Bytes)
  | recoverableSignature (r s v : Bytes)
  deriving DecidableEq

/-- A call of the remote signer. `connect` covers parsing the endpoint; the calls of
the service carry the `authorization` header. -/
inductive SignerOp where
  | connect (endpoint : String)
  | readToString (path : String)
  | getWallet (authorization : Option String) (request : GetWalletRequest)
  | sign (authorization : Option String) (request : SignRequest)
  deriving DecidableEq

abbrev SignerOp.Val : SignerOp → Type
  | .connect _ => Unit
  | .readToString _ => String
  | .getWallet _ _ => Option Wallet
  | .sign _ _ => Option SignResponseSignature

inductive NodeOp where
  | chain (op : ChainOp)
  | sleep (millis : ℕ)
  | signer (op : SignerOp)
  deriving DecidableEq

abbrev NodeOp.Ans : NodeOp → Type
  | .chain op => Except String op.Val
  | .sleep _ => Unit
  | .signer op => Except String op.Val

abbrev node : Interface := ⟨NodeOp, NodeOp.Ans⟩

/-- Await a chain call. -/
def chainCall (op : ChainOp) : Fallible node Metric String op.Val :=
  ExceptT.mk (@Proc.call node _ (.chain op))

def sleep (millis : ℕ) : Proc node Metric Unit := @Proc.call node _ (.sleep millis)

/-- Await a call of the remote signer. -/
def signerCall (op : SignerOp) : Fallible node Metric String op.Val :=
  ExceptT.mk (@Proc.call node _ (.signer op))

theorem completes_chainCall {op : ChainOp} {t : Trace node Metric} {r : Except String op.Val} :
    Completes (chainCall op).run t r ↔
      t = [⟨[], .call (.chain op)⟩, ⟨[], .reply (.chain op) r⟩] :=
  completes_call

theorem completes_sleep {millis : ℕ} {t : Trace node Metric} {r : Unit} :
    Completes (sleep millis) t r ↔
      t = [⟨[], .call (.sleep millis)⟩, ⟨[], .reply (.sleep millis) ()⟩] :=
  completes_call

theorem completes_signerCall {op : SignerOp} {t : Trace node Metric} {r : Except String op.Val} :
    Completes (signerCall op).run t r ↔
      t = [⟨[], .call (.signer op)⟩, ⟨[], .reply (.signer op) r⟩] :=
  completes_call

end IbcAttestor
