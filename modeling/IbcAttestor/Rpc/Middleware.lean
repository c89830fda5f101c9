import IbcAttestor.Cooperative.Oracle
import IbcAttestor.Rpc.Attestor

/-!
# The logging middleware

Every RPC is counted when its handler has finished, by method and status code.
What is only logged is left out.
-/

namespace IbcAttestor

open Cooperative

variable (c : Crates) {I : Interface} {α : Type}

def trackRpc (method : String) (fut : Fallible I Metric Status α) : Fallible I Metric Status α :=
  ExceptT.mk (fut.run.bind fun result =>
    let code := match result with
      | .ok _ => Code.ok
      | .error status => status.code
    .emit (.recordRpcRequest method (codeLabel code)) (.done result))

theorem eval_trackRpc (o : Oracle I) (method : String) (fut : Fallible I Metric Status α) :
    (trackRpc method fut).run.eval o = fut.run.eval o :=
  Proc.eval_bind o fut.run _

structure LoggingMiddleware (I : Interface) where
  inner : AttestorService I

namespace LoggingMiddleware

variable (self : LoggingMiddleware I)

def latestHeight (request : LatestHeightRequest) : Fallible I Metric Status LatestHeightResponse :=
  trackRpc "latest_height" (self.inner.latestHeight request)

def stateAttestation (request : StateAttestationRequest) :
    Fallible I Metric Status StateAttestationResponse :=
  trackRpc "state_attestation" (self.inner.stateAttestation c request)

def packetAttestation (request : PacketAttestationRequest) :
    Fallible I Metric Status PacketAttestationResponse :=
  trackRpc "packet_attestation" (self.inner.packetAttestation c request)

/-- The method a request is for. -/
def serve : RpcRequest → Fallible I Metric Status RpcResponse
  | .latestHeight request => do return .latestHeight (← self.latestHeight request)
  | .stateAttestation request => do return .stateAttestation (← self.stateAttestation c request)
  | .packetAttestation request => do
    return .packetAttestation (← self.packetAttestation c request)

variable {c self}

/-- A request comes to what its handler comes to, and is then counted. -/
theorem completes_serve {request : RpcRequest} {t : Trace I Metric} {r : Except Status RpcResponse}
    (h : Completes (self.serve c request).run t r) : ∃ t' e,
      t = t' ++ [⟨[], .event e⟩] ∧ Completes (self.inner.serve c request).run t' r := by
  have htrack : ∀ {α : Type} {method : String} {fut : Fallible I Metric Status α} {r},
      Completes (trackRpc method fut).run t r → ∃ t' e, t = t' ++ [⟨[], .event e⟩] ∧
        Completes fut.run t' r := by
    intro α method fut r hrun
    obtain ⟨result, t₁, t₂, rfl, h₁, h₂⟩ := completes_bind.mp hrun
    obtain ⟨t₃, rfl, h₃⟩ := h₂.resolve_left (by simp)
    obtain ⟨rfl, hr⟩ := h₃
    cases hr
    exact ⟨t₁, _, rfl, h₁⟩
  cases request with
  | latestHeight request =>
    obtain ⟨r', hrun, rfl⟩ := completes_mapOk.mp h
    obtain ⟨t', e, rfl, h'⟩ := htrack hrun
    exact ⟨t', e, rfl, completes_mapOk.mpr ⟨r', h', rfl⟩⟩
  | stateAttestation request =>
    obtain ⟨r', hrun, rfl⟩ := completes_mapOk.mp h
    obtain ⟨t', e, rfl, h'⟩ := htrack hrun
    exact ⟨t', e, rfl, completes_mapOk.mpr ⟨r', h', rfl⟩⟩
  | packetAttestation request =>
    obtain ⟨r', hrun, rfl⟩ := completes_mapOk.mp h
    obtain ⟨t', e, rfl, h'⟩ := htrack hrun
    exact ⟨t', e, rfl, completes_mapOk.mpr ⟨r', h', rfl⟩⟩

end LoggingMiddleware
end IbcAttestor
