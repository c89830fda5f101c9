import IbcAttestor.Adapter.Enum
import IbcAttestor.Adapter.Policy
import IbcAttestor.Adapter.Store
import IbcAttestor.Basic.Reference
import IbcAttestor.Cooperative.Linearizable
import IbcAttestor.Cooperative.Runtime
import IbcAttestor.Cooperative.System
import IbcAttestor.Cooperative.Timed
import IbcAttestor.Keys.Stored
import IbcAttestor.Metrics
import IbcAttestor.Rpc.Account
import IbcAttestor.Rpc.Accounting
import IbcAttestor.Rpc.Agreement
import IbcAttestor.Rpc.Atomic
import IbcAttestor.Rpc.Attestor
import IbcAttestor.Rpc.Backends
import IbcAttestor.Rpc.Batch
import IbcAttestor.Rpc.Contract
import IbcAttestor.Rpc.Configured
import IbcAttestor.Rpc.Conversation
import IbcAttestor.Rpc.Effort
import IbcAttestor.Rpc.Finality
import IbcAttestor.Rpc.History
import IbcAttestor.Rpc.Outages
import IbcAttestor.Rpc.Replay
import IbcAttestor.Rpc.SigningOrder
import IbcAttestor.Rpc.Slots
import IbcAttestor.Rpc.StatusCodes
import IbcAttestor.Signer.Enum
import IbcAttestor.Signer.Format
import IbcAttestor.Signer.Keystore
import IbcAttestor.Signer.Soundness
