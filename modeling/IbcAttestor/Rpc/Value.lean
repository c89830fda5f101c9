import IbcAttestor.Adapter.Enum
import IbcAttestor.Basic.Reference
import IbcAttestor.Cooperative.Oracle
import IbcAttestor.Rpc.Spec
import IbcAttestor.Signer.Enum

/-!
# The service against fixed replies

When the reply to every call is fixed, the result of an RPC is a pure function of
the results of the adapter's methods and of the signer. The sample chains, on which
the commitment of the sample packet is stored by height 100, answer every adapter so
that the packet is attested.
-/

namespace IbcAttestor

open Cooperative

section Handlers

variable (c : Crates) {I : Interface} {A : AttestationAdapter I} (o : Oracle I)

theorem eval_validateHeight (height : UInt64) :
    (validateHeight A height).run.eval o =
      (A.getLastHeightAtConfiguredFinality.run.eval o).mapError AttestorError.adapterError >>=
        fun finalized => heightVerdict finalized height := by
  simp only [validateHeight_eq, Fallible.eval_bind, Fallible.eval_mapErr, Fallible.eval_report]

def packetResult (kind : CommitmentType) (height : UInt64) (p : Packet)
    (answer : Except AttestationAdapterError (Option Bytes32)) :
    Except AttestorError PacketCompact :=
  answer.mapError AttestorError.adapterError >>= verdict c kind height p

theorem eval_createSinglePacketAttestation (height : UInt64) (p : Packet) (kind : CommitmentType) :
    (createSinglePacketAttestation c A height p kind).run.eval o =
      packetResult c kind height p ((lookup c A height kind p).run.eval o) := by
  simp only [createSinglePacketAttestation_eq, Fallible.eval_bind, Fallible.eval_mapErr,
    Fallible.eval_report, packetResult]

theorem eval_createPacketsAttestation (packets : List Packet) (height : UInt64)
    (kind : CommitmentType) :
    (createPacketsAttestation c A packets height kind).run.eval o =
      ((List.ofFn fun i : Fin packets.length => packetResult c kind height (packets.get i)
        ((lookup c A height kind (packets.get i)).run.eval (o.child i))).mapM id).map
          (PacketAttestation.mk height) := by
  unfold createPacketsAttestation
  simp only [Fallible.eval_bind, Fallible.eval_gather, Fallible.eval_ofExcept,
    eval_createSinglePacketAttestation]
  cases hresults : (List.ofFn fun i : Fin packets.length => packetResult c kind height (packets.get i)
    ((lookup c A height kind (packets.get i)).run.eval (o.child i))).mapM id <;>
      simp only [bind, Except.bind, hresults] <;> rfl

theorem eval_preparePackets (request : PacketAttestationRequest) :
    (preparePackets c A request).run.eval o =
      Except.mapError Status.ofAttestorError (do
        let x ← decodeRequest c request
        (validateHeight A request.height).run.eval o
        (createPacketsAttestation c A x.1 request.height x.2).run.eval o) := by
  simp only [preparePackets_eq, Fallible.eval_bind, Fallible.eval_mapErr, Fallible.eval_ofExcept]
  cases decodeRequest c request with
  | error e => rfl
  | ok x =>
    change Except.bind _ _ = Except.mapError _ (Except.bind _ _)
    cases (validateHeight A request.height).run.eval o <;> rfl

variable {S : Signer I}

theorem eval_signed (height : UInt64) (timestamp : Option UInt64) (payload : AttestationPayload) :
    (signed c S height timestamp payload).run.eval o =
      signedResult c height timestamp payload
        ((S.sign (payload.taggedSigningInput c)).run.eval o) := by
  unfold signed signAttestation
  simp only [Fallible.eval_bind, Fallible.eval_mapErr]
  cases (S.sign (payload.taggedSigningInput c)).run.eval o <;> rfl

theorem eval_packetAttestation (request : PacketAttestationRequest) :
    (AttestorService.packetAttestation c ⟨A, S⟩ request).run.eval o =
      (preparePackets c A request).run.eval o >>= fun u =>
        (signedResult c request.height none (packetsPayload c u)
          ((S.sign ((packetsPayload c u).taggedSigningInput c)).run.eval o)).map fun a =>
            ⟨some a⟩ := by
  simp only [packetAttestation_eq, Fallible.eval_bind, eval_signed]
  rfl

theorem eval_preparePackets_validated {request : PacketAttestationRequest} {packets : List Packet}
    {kind : CommitmentType} {f : UInt64} (hdecode : decodeRequest c request = .ok (packets, kind))
    (hheight : A.getLastHeightAtConfiguredFinality.run.eval o = .ok f)
    (hle : request.height ≤ f) :
    (preparePackets c A request).run.eval o = Except.mapError Status.ofAttestorError
      ((createPacketsAttestation c A packets request.height kind).run.eval o) := by
  rw [eval_preparePackets, hdecode, eval_validateHeight, hheight]
  change Except.mapError _ (Except.bind (heightVerdict f request.height) _) = _
  rw [heightVerdict_ok.mpr hle]
  rfl

theorem eval_preparePackets_ok {request : PacketAttestationRequest} {packets : List Packet}
    {kind : CommitmentType} {f : UInt64} {answers : Fin packets.length → Option Bytes32}
    (hdecode : decodeRequest c request = .ok (packets, kind))
    (hheight : A.getLastHeightAtConfiguredFinality.run.eval o = .ok f) (hle : request.height ≤ f)
    (hlookup : ∀ i : Fin packets.length,
      (lookup c A request.height kind (packets.get i)).run.eval (o.child i) = .ok (answers i))
    (haccepted : ∀ i : Fin packets.length, Accepted c kind (packets.get i) (answers i)) :
    (preparePackets c A request).run.eval o =
      .ok ⟨request.height, List.ofFn fun i => entryOf c kind (packets.get i) (answers i)⟩ := by
  have hresults : (List.ofFn fun i : Fin packets.length => packetResult c kind request.height
      (packets.get i) ((lookup c A request.height kind (packets.get i)).run.eval
        (o.child i))).mapM id =
      .ok (List.ofFn fun i => entryOf c kind (packets.get i) (answers i)) := by
    refine mapM_id_ofFn_ok.mpr ⟨_, rfl, fun i => ?_⟩
    rw [hlookup i]
    exact (verdict_ok c).mpr ⟨haccepted i, rfl⟩
  rw [eval_preparePackets_validated c o hdecode hheight hle, eval_createPacketsAttestation,
    hresults]
  rfl

def samplePacketsRequest : PacketAttestationRequest := ⟨[samplePacketEncoded], 100, 0⟩

theorem decodeRequest_sample (height : UInt64) :
    decodeRequest sampleCrates ⟨[samplePacketEncoded], height, 0⟩ =
      .ok ([samplePacket], .packet) := by
  refine (decodeRequest_ok _).mpr ⟨mapM_ok.mpr (.cons ?_ .nil), rfl⟩
  simp [sampleCrates, sampleAbiDecode_sample, Except.mapError]

theorem accepted_sample : Accepted sampleCrates .packet samplePacket (some sampleCommitment) := by
  refine ⟨sampleCommitment, rfl, ?_⟩
  simp [sampleCrates]

theorem entryOf_sample : entryOf sampleCrates .packet samplePacket (some sampleCommitment) =
    ⟨samplePathHash, sampleCommitment⟩ := by
  rw [entryOf]
  congr 1
  exact sampleKeccak256_packet

theorem eval_preparePackets_sample {height f : UInt64}
    (hheight : A.getLastHeightAtConfiguredFinality.run.eval o = .ok f) (hle : height ≤ f)
    (hlookup : (lookup sampleCrates A height .packet samplePacket).run.eval (o.child 0) =
      .ok (some sampleCommitment)) :
    (preparePackets sampleCrates A ⟨[samplePacketEncoded], height, 0⟩).run.eval o =
      .ok ⟨height, [⟨samplePathHash, sampleCommitment⟩]⟩ := by
  have hread := @eval_preparePackets_ok sampleCrates _ _ o ⟨[samplePacketEncoded], height, 0⟩ _ _ f
    (fun _ => some sampleCommitment) (decodeRequest_sample height) hheight hle
    (fun | ⟨0, _⟩ => hlookup) (fun | ⟨0, _⟩ => accepted_sample)
  rw [hread]
  simp [entryOf_sample]

end Handlers

section Adapters

variable {c : Crates} {retry : TokioRetry} {a : AdapterEnum} {o : Oracle node} {head : UInt64}

theorem AdapterEnum.eval_height {v : a.heightQuery.op.Val}
    (h : o [] (.chain a.heightQuery.op) = .ok v) :
    (a.adapter c retry).getLastHeightAtConfiguredFinality.run.eval o = a.heightQuery.check v := by
  rw [AdapterEnum.getLastHeightAtConfiguredFinality_eq, Fallible.eval_bind, Query.eval_run h]
  cases a.heightQuery.check v <;> rfl

theorem AdapterEnum.eval_lookup {height : UInt64} {kind : CommitmentType} {p : Packet}
    {v : (a.lookupQuery c height kind p).op.Val}
    (h : o [] (.chain (a.lookupQuery c height kind p).op) = .ok v) :
    (lookup c (a.adapter c retry) height kind p).run.eval o =
      (a.lookupQuery c height kind p).check v := by
  rw [AdapterEnum.lookup_eq, Query.eval_run h]

def sampleAccount : Account := ⟨List.replicate 8 0 ++ sampleCommitment.bytes⟩

/-- The answers of the three sample chains when `head` is finalized. -/
def sampleChain (head : UInt64) : (op : ChainOp) → op.Val
  | .getBlock (.number n) => some ⟨n, 1700000000⟩
  | .getBlock _ => some ⟨head, 1700000000⟩
  | .routerGetCommitment _ path _ =>
    if path = samplePathHash then sampleCommitment else Bytes32.zero
  | .latestCommit => ⟨head, 1700000000⟩
  | .commit height => ⟨height, 1700000000⟩
  | .v2PacketCommitment client sequence _ _ =>
    if client = "client-0" ∧ sequence = 7 then sampleCommitment.bytes else []
  | .v2PacketAcknowledgement _ _ _ => []
  | .v2PacketReceipt _ _ _ => false
  | .getSlotWithCommitment _ => head
  | .getBlockTime _ => 1700000000
  | .getAccountWithCommitment pubkey _ =>
    if pubkey = sampleCommitmentPda then some sampleAccount else none

def sampleWallet : Wallet := ⟨"wallet-1", "", [], [], sampleAddress.bytes, ""⟩

/-- The answers of a signing service with one wallet, that of the key 1. -/
def sampleService : (op : SignerOp) → op.Val
  | .connect _ => ()
  | .readToString _ => "token"
  | .getWallet _ _ => some sampleWallet
  | .sign _ _ => some (.recoverableSignature samplePacketsSignature.r.bytes
      samplePacketsSignature.s.bytes [27])

def sampleNode (head : UInt64) : Oracle node := fun _ op => match op with
  | .chain op => .ok (sampleChain head op)
  | .sleep _ => ()
  | .signer op => .ok (sampleService op)

def sampleEvm : AdapterEnum := .evm ⟨⟨sampleAddress, none⟩⟩

def sampleSolana : AdapterEnum := .solana ⟨sampleProgramId⟩

def sampleCosmos : AdapterEnum := .cosmos {}

def sampleLocalSigner : SignerEnum sampleCrates := .localSigner ⟨()⟩

theorem sampleCommitment_ne_zero : sampleCommitment ≠ Bytes32.zero := by decide

theorem tryFrom_sampleAccount :
    Bytes32.tryFrom (sampleAccount.data.drop anchorDiscriminatorLen) = some sampleCommitment := by
  rw [Bytes32.tryFrom_eq_some]
  exact List.drop_left' rfl

def IsSample (a : AdapterEnum) : Prop := a = sampleEvm ∨ a = sampleSolana ∨ a = sampleCosmos

theorem IsSample.eval_height (ha : IsSample a) :
    (a.adapter sampleCrates retry).getLastHeightAtConfiguredFinality.run.eval
      (sampleNode head) = .ok head := by
  rcases ha with rfl | rfl | rfl
  · exact @AdapterEnum.eval_height _ _ sampleEvm _ (sampleChain head (.getBlock .finalized)) rfl
  · exact @AdapterEnum.eval_height _ _ sampleSolana _
      (sampleChain head (.getSlotWithCommitment .finalized)) rfl
  · exact @AdapterEnum.eval_height _ _ sampleCosmos _ (sampleChain head .latestCommit) rfl

theorem IsSample.eval_lookup (ha : IsSample a) :
    (lookup sampleCrates (a.adapter sampleCrates retry) 100 .packet samplePacket).run.eval
      (sampleNode head) = .ok (some sampleCommitment) := by
  rcases ha with rfl | rfl | rfl
  · have hanswer : sampleNode head [] (.chain (sampleEvm.lookupQuery sampleCrates 100 .packet
        samplePacket).op) = .ok sampleCommitment :=
      congrArg Except.ok (if_pos sampleKeccak256_packet)
    rw [AdapterEnum.eval_lookup hanswer]
    exact congrArg Except.ok (if_neg sampleCommitment_ne_zero)
  · have hanswer : sampleNode head [] (.chain (sampleSolana.lookupQuery sampleCrates 100 .packet
        samplePacket).op) = .ok (some sampleAccount) := by
      refine congrArg Except.ok (if_pos ?_)
      change (samplePda _ _ _ _ _).1 = _
      rw [samplePda]
      rfl
    rw [AdapterEnum.eval_lookup hanswer]
    change SolanaAdapter.checkAccount (some sampleAccount) = _
    rw [SolanaAdapter.checkAccount, if_neg (by decide), tryFrom_sampleAccount]
  · have hanswer : sampleNode head [] (.chain (sampleCosmos.lookupQuery sampleCrates 100 .packet
        samplePacket).op) = .ok sampleCommitment.bytes :=
      rfl
    rw [AdapterEnum.eval_lookup hanswer]
    change CosmosAdapter.checkBytes sampleCommitment.bytes = _
    rw [CosmosAdapter.checkBytes, if_neg sampleCommitment.bytes_ne_nil,
      CosmosAdapter.commitmentTryInto, Bytes32.tryFrom_bytes]
    rfl

theorem IsSample.eval_preparePackets (ha : IsSample a) (hhead : 100 ≤ head) :
    (preparePackets sampleCrates (a.adapter sampleCrates retry) samplePacketsRequest).run.eval
      (sampleNode head) = .ok samplePackets :=
  eval_preparePackets_sample (sampleNode head) ha.eval_height hhead ha.eval_lookup

theorem sampleSha256_taggedSigningInput : sampleCrates.sha256
    ((packetsPayload sampleCrates samplePackets).taggedSigningInput sampleCrates) =
      samplePacketsPrehash := by
  have hinput : (packetsPayload sampleCrates samplePackets).taggedSigningInput sampleCrates =
      2 :: samplePacketsDigest.bytes :=
    congrArg (fun w : Bytes32 => (2 : UInt8) :: w.bytes) sampleSha256_packets
  rw [hinput]
  exact sampleSha256_packetsInput

theorem syncSign_sample :
    syncSign sampleCrates ()
      ((packetsPayload sampleCrates samplePackets).taggedSigningInput sampleCrates) =
        .ok samplePacketsSignature := by
  unfold syncSign
  rw [sampleSha256_taggedSigningInput]
  exact sampleSignHash_packets

theorem sampleLocalSigner_sign {message : Bytes} {σ : Signature}
    (h : syncSign sampleCrates () message = .ok σ) :
    (sampleLocalSigner.signer.sign message).run.eval o = .ok σ := by
  change Proc.eval (Proc.bind (ExceptT.run (Fallible.ofExcept _)) _) o = _
  rw [h]
  rfl

def samplePacketAttestation : Attestation :=
  ⟨100, none, encodePackets samplePackets, writeSignature samplePacketsSignature⟩

theorem IsSample.eval_packetAttestation (ha : IsSample a) (hhead : 100 ≤ head) :
    (AttestorService.packetAttestation sampleCrates
      ⟨a.adapter sampleCrates retry, sampleLocalSigner.signer⟩ samplePacketsRequest).run.eval
        (sampleNode head) = .ok ⟨some samplePacketAttestation⟩ := by
  rw [IbcAttestor.eval_packetAttestation, ha.eval_preparePackets hhead]
  change (signedResult _ _ _ _ _).map _ = _
  rw [sampleLocalSigner_sign syncSign_sample]
  rfl

theorem IsSample.attested (ha : IsSample a) (retry : TokioRetry) (hhead : 100 ≤ head) :
    ∃ t, AnsweredBy (sampleNode head) t ∧
      Attested sampleCrates ⟨a.adapter sampleCrates retry, sampleLocalSigner.signer⟩
        (.packetAttestation samplePacketsRequest) t samplePacketAttestation := by
  have hvalue : (AttestorService.serve sampleCrates
      ⟨a.adapter sampleCrates retry, sampleLocalSigner.signer⟩
      (.packetAttestation samplePacketsRequest)).run.eval (sampleNode head) =
        .ok (.packetAttestation ⟨some samplePacketAttestation⟩) := by
    simp only [AttestorService.serve, Fallible.eval_bind, ha.eval_packetAttestation hhead]
    rfl
  exact ⟨_, Proc.sequential_answeredBy _ _, _, Proc.sequential_completes hvalue, rfl⟩

end Adapters
end IbcAttestor
