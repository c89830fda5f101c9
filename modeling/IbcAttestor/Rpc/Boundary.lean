import IbcAttestor.Rpc.Value

/-!
# The service at its trait boundary

Nothing is known here of the adapter and the signer: each call of a trait method
is one awaited call that may be answered in any way. What is proved of this
service holds whatever the chain, its endpoint and the signing service do.
-/

namespace IbcAttestor

open Cooperative

/-- A call of a method of one of the two traits. -/
inductive TraitOp where
  | getLastHeightAtConfiguredFinality
  | getBlockTimestamp (height : UInt64)
  | getCommitment (clientId : String) (height sequence : UInt64) (commitmentPath : Bytes)
      (commitmentType : CommitmentType)
  | sign (message : Bytes)
  deriving DecidableEq

abbrev TraitOp.Ans : TraitOp → Type
  | .getLastHeightAtConfiguredFinality => Except AttestationAdapterError UInt64
  | .getBlockTimestamp _ => Except AttestationAdapterError UInt64
  | .getCommitment _ _ _ _ _ => Except AttestationAdapterError (Option Bytes32)
  | .sign _ => Except SignerError Signature

abbrev traits : Interface := ⟨TraitOp, TraitOp.Ans⟩

def boundaryAdapter : AttestationAdapter traits where
  getLastHeightAtConfiguredFinality :=
    ExceptT.mk (@Proc.call traits _ .getLastHeightAtConfiguredFinality)
  getBlockTimestamp height := ExceptT.mk (@Proc.call traits _ (.getBlockTimestamp height))
  getCommitment clientId height sequence commitmentPath commitmentType :=
    ExceptT.mk (@Proc.call traits _
      (.getCommitment clientId height sequence commitmentPath commitmentType))

def boundarySigner : Signer traits where
  sign message := ExceptT.mk (@Proc.call traits _ (.sign message))

def boundaryService : AttestorService traits := ⟨boundaryAdapter, boundarySigner⟩

variable (c : Crates)

def lookupOp (height : UInt64) (kind : CommitmentType) (p : Packet) : TraitOp :=
  .getCommitment (Crates.storeClient kind p) height p.sequence (c.pathOf kind p) kind

variable {c} {t : Trace traits Metric}

theorem completes_height {r : Except AttestationAdapterError UInt64} :
    Completes boundaryAdapter.getLastHeightAtConfiguredFinality.run t r ↔
      t = [⟨[], .call .getLastHeightAtConfiguredFinality⟩,
        ⟨[], .reply .getLastHeightAtConfiguredFinality r⟩] :=
  completes_call

theorem completes_timestamp {height : UInt64} {r : Except AttestationAdapterError UInt64} :
    Completes (boundaryAdapter.getBlockTimestamp height).run t r ↔
      t = [⟨[], .call (.getBlockTimestamp height)⟩,
        ⟨[], .reply (.getBlockTimestamp height) r⟩] :=
  completes_call

theorem completes_lookup {height : UInt64} {kind : CommitmentType} {p : Packet}
    {r : Except AttestationAdapterError (Option Bytes32)} :
    Completes (lookup c boundaryAdapter height kind p).run t r ↔
      t = [⟨[], .call (lookupOp c height kind p)⟩,
        ⟨[], .reply (lookupOp c height kind p) r⟩] :=
  completes_call

theorem completes_sign {message : Bytes} {r : Except SignerError Signature} :
    Completes (boundarySigner.sign message).run t r ↔
      t = [⟨[], .call (.sign message)⟩, ⟨[], .reply (.sign message) r⟩] :=
  completes_call

section Read

variable {request : PacketAttestationRequest} (v : PacketsRead c boundaryAdapter request t)

theorem PacketsRead.finalized_replied :
    Replied t [] .getLastHeightAtConfiguredFinality (.ok v.finalized) := by
  apply v.mem_of_mem_heightTrace
  rw [completes_height.mp v.read]
  simp

theorem PacketsRead.answered (i : Fin v.packets.length) :
    Replied t [i.val] (lookupOp c request.height v.kind (v.packets.get i)) (.ok (v.answers i)) := by
  refine v.mem_of_mem_lookupTrace (replied_child.mp ?_)
  rw [completes_lookup.mp (v.lookedUp i)]
  simp [Replied]

end Read

/-- Not a call or a reply of the signer. -/
def NotSigning (l : Label traits Metric) : Prop :=
  match l.act with
  | .call (.sign _) => False
  | .reply (.sign _) _ => False
  | _ => True

theorem prepareState_notSigning (request : StateAttestationRequest) :
    (prepareState boundaryAdapter request).run.Within NotSigning :=
  prepareState_within ⟨trivial, fun _ => ⟨trivial, trivial⟩⟩ ⟨trivial, fun _ => ⟨trivial, trivial⟩⟩
    fun _ _ _ => trivial

theorem preparePackets_notSigning (request : PacketAttestationRequest) :
    (preparePackets c boundaryAdapter request).run.Within NotSigning :=
  preparePackets_within ⟨trivial, fun _ => ⟨trivial, trivial⟩⟩
    (fun _ _ _ _ => ⟨trivial, fun _ => ⟨trivial, trivial⟩⟩) fun _ _ _ => trivial

/-- The lookups of a request: the one of packet `i` at site `[i]`, and no other. -/
def LookupsOf (c : Crates) (request : PacketAttestationRequest) (l : Label traits Metric) : Prop :=
  ∀ client height sequence path k,
    l.act = .call (.getCommitment client height sequence path k) →
      ∃ packets kind, decodeRequest c request = .ok (packets, kind) ∧
        ∃ i : Fin packets.length, l.site = [i.val] ∧
          .getCommitment client height sequence path k = lookupOp c request.height kind (packets.get i)

theorem preparePackets_lookups (request : PacketAttestationRequest) :
    (preparePackets c boundaryAdapter request).run.Within (LookupsOf c request) := by
  refine preparePackets_within ⟨?_, fun a => ⟨?_, trivial⟩⟩
    (fun packets kind hx i => ⟨?_, fun a => ⟨?_, trivial⟩⟩) ?_
  · intro client height sequence path k h
    cases h
  · intro client height sequence path k h
    cases h
  · intro client height sequence path k h
    exact ⟨packets, kind, hx, i, rfl, (Act.call.inj h).symm⟩
  · intro client height sequence path k h
    cases h
  · intro s e _ client height sequence path k h
    cases h

/-- Replies under which the sample packet is attested. -/
def sampleReplies : Oracle traits := fun _ op => match op with
  | .getLastHeightAtConfiguredFinality => .ok 120
  | .getBlockTimestamp _ => .ok 1700000000
  | .getCommitment _ _ _ _ _ => .ok (some sampleCommitment)
  | .sign _ => .ok samplePacketsSignature

def sampleRun : Trace traits Metric :=
  (boundaryService.packetAttestation sampleCrates samplePacketsRequest).run.sequential sampleReplies

theorem sampleRun_completes : ∃ response,
    Completes (boundaryService.packetAttestation sampleCrates samplePacketsRequest).run sampleRun
      (.ok response) := by
  have hvalue : (boundaryService.packetAttestation sampleCrates samplePacketsRequest).run.eval
      sampleReplies = .ok ⟨some ⟨100, none, encodePackets samplePackets,
        writeSignature samplePacketsSignature⟩⟩ := by
    have hheight : boundaryAdapter.getLastHeightAtConfiguredFinality.run.eval sampleReplies =
        .ok 120 := rfl
    have hprepared : (preparePackets sampleCrates boundaryAdapter samplePacketsRequest).run.eval
        sampleReplies = .ok samplePackets :=
      eval_preparePackets_sample sampleReplies hheight (by decide) rfl
    rw [boundaryService, eval_packetAttestation]
    simp only [hprepared]
    rfl
  exact ⟨_, Proc.sequential_completes hvalue⟩

end IbcAttestor
