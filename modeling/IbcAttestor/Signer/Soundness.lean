import IbcAttestor.Attestation
import IbcAttestor.Rpc.Value
import IbcAttestor.Signer.Enum

/-!
# What a returned signature recovers to

A signature of the local signer recovers to its key. The remote signer returns the
signature that the service made: what it recovers to is what the service's
signature recovers to.
-/

namespace IbcAttestor

open Cooperative

variable {c : Crates} {t : Trace node Metric}

theorem SignerEnum.completes_sign_ok {self : SignerEnum c} {message : Bytes} {σ : Signature}
    (h : Completes (self.sign message).run t (.ok σ)) : ∃ t₁,
      t = t₁ ++ [⟨[], .event (.incSignerSign "ok")⟩] ∧
        Completes (self.inner message).run t₁ (.ok σ) := by
  obtain ⟨r, t₁, t₂, rfl, h₁, h₂⟩ := completes_bind.mp h
  obtain ⟨t₃, rfl, h₃⟩ := h₂.resolve_left (by simp)
  obtain ⟨rfl, hr⟩ := h₃
  cases hr
  exact ⟨t₁, rfl, h₁⟩

theorem completes_signAttestation_ok {I : Interface} {S : Signer I} {height : UInt64}
    {timestamp : Option UInt64} {payload : AttestationPayload} {t : Trace I Metric}
    {a : SignedAttestation}
    (h : Completes (signAttestation c height timestamp payload S).run t (.ok a)) : ∃ σ,
      Completes (S.sign (payload.taggedSigningInput c)).run t (.ok σ) ∧
        a = ⟨height, timestamp, payload.data, c.signatureAsBytes σ⟩ := by
  unfold signAttestation at h
  rcases completes_bindOk.mp h with ⟨e, -, he⟩ | ⟨σ, t₁, t₂, rfl, h₁, h₂⟩
  · cases he
  obtain ⟨rfl, ha⟩ := h₂
  cases ha
  rw [List.append_nil]
  exact ⟨σ, completes_mapErr_ok.mp h₁, rfl⟩

/-- A signature of the local signer recovers to its key. One of the remote signer recovers
to what the bytes of the service recover to: if the service has signed the digest of the
message with the key of the wallet it has named, to the address of that wallet. -/
theorem signature_recovers {signer : SignerEnum c} {height : UInt64} {timestamp : Option UInt64}
    {payload : AttestationPayload} {a : SignedAttestation}
    (h : Completes (signAttestation c height timestamp payload signer.signer).run t (.ok a)) :
    match signer with
    | .localSigner s =>
      recoverAddress c (payload.taggedSigningInput c) a.signature = .ok (c.address s.inner)
    | .remoteSigner s => ∃ v : s.ServiceReplies (payload.taggedSigningInput c) t,
      recoverAddress c (payload.taggedSigningInput c) a.signature =
        recoverAddress c (payload.taggedSigningInput c) (v.r ++ v.s ++ v.v) ∧
      ∀ key σ, syncSign c key (payload.taggedSigningInput c) = .ok σ →
        c.signatureTryFrom (v.r ++ v.s ++ v.v) = .ok σ →
        (c.address key).bytes = v.wallet.addressBytes →
        ∃ address, recoverAddress c (payload.taggedSigningInput c) a.signature = .ok address ∧
          address.bytes = v.wallet.addressBytes := by
  obtain ⟨σ, hsign, rfl⟩ := completes_signAttestation_ok h
  obtain ⟨t₁, rfl, hinner⟩ := SignerEnum.completes_sign_ok hsign
  cases signer with
  | localSigner s =>
    obtain ⟨-, hσ⟩ := s.completes_sign_ok.mp hinner
    exact recoverAddress_syncSign c hσ
  | remoteSigner s =>
    obtain ⟨v, -, hparse⟩ := RemoteSigner.completes_sign_ok hinner
    refine ⟨v.extend _, ?_, fun key σ' hkey hσ' haddress => ?_⟩
    · apply recoverAddress_congr
      rw [c.signatureTryFrom_asBytes]
      exact hparse.symm
    · have hσ : σ = σ' := Except.ok.inj (hparse.symm.trans hσ')
      subst hσ
      exact ⟨c.address key, recoverAddress_syncSign c hkey, haddress⟩

def sampleRemoteSigner : SignerEnum sampleCrates :=
  .remoteSigner ⟨"http://localhost:9000", "wallet-1", none⟩

/-- The answers of a signing service that names a wallet and signs with the key 1. -/
def walletNode (wallet : Wallet) : Oracle node := fun s op => match op with
  | .signer (.getWallet _ _) => .ok (some wallet)
  | op => sampleNode 120 s op

def foreignWallet : Wallet :=
  ⟨"wallet-1", "", [], [], beDigits 20 0x2b5ad5c4795c026514f8317c7a215e218dccd6cf, ""⟩

theorem parse_sampleSignature : RemoteSigner.parseSignatureBytes sampleCrates
    (samplePacketsSignature.r.bytes ++ samplePacketsSignature.s.bytes ++ [27]) =
      .ok samplePacketsSignature := by
  have hbytes : samplePacketsSignature.r.bytes ++ samplePacketsSignature.s.bytes ++ [27] =
      sampleCrates.signatureAsBytes samplePacketsSignature := rfl
  rw [hbytes, RemoteSigner.parseSignatureBytes_ok]
  exact ⟨sampleCrates.length_signatureAsBytes _, sampleCrates.signatureTryFrom_asBytes _⟩

theorem sampleRemoteSigner_sign (wallet : Wallet) (message : Bytes) :
    (sampleRemoteSigner.signer.sign message).run.eval (walletNode wallet) =
      .ok samplePacketsSignature := by
  change Proc.eval (Proc.bind (ExceptT.run (RemoteSigner.sign _ _ _)) _) _ = _
  rw [Proc.eval_bind]
  exact parse_sampleSignature

theorem sampleRemoteSigner_run (wallet : Wallet) : ∃ t a,
    ∃ v : RemoteSigner.ServiceReplies ⟨"http://localhost:9000", "wallet-1", none⟩
      ((packetsPayload sampleCrates samplePackets).taggedSigningInput sampleCrates) t,
    Completes (signAttestation sampleCrates 100 none (packetsPayload sampleCrates samplePackets)
      sampleRemoteSigner.signer).run t (.ok a) ∧ v.wallet = wallet ∧
    a.signature = writeSignature samplePacketsSignature := by
  have hvalue : (signAttestation sampleCrates 100 none (packetsPayload sampleCrates samplePackets)
      sampleRemoteSigner.signer).run.eval (walletNode wallet) =
        .ok ⟨100, none, encodePackets samplePackets, writeSignature samplePacketsSignature⟩ := by
    unfold signAttestation
    rw [Fallible.eval_bind, Fallible.eval_mapErr, sampleRemoteSigner_sign]
    rfl
  have hrun := Proc.sequential_completes hvalue
  have hanswered := Proc.sequential_answeredBy (signAttestation sampleCrates 100 none
    (packetsPayload sampleCrates samplePackets) sampleRemoteSigner.signer).run (walletNode wallet)
  obtain ⟨σ, hsign, -⟩ := completes_signAttestation_ok hrun
  obtain ⟨t₁, ht, hinner⟩ := SignerEnum.completes_sign_ok hsign
  obtain ⟨v, -⟩ := RemoteSigner.completes_sign_ok hinner
  rw [ht] at hrun hanswered
  refine ⟨_, _, v.extend _, hrun, ?_, rfl⟩
  have hwallet := hanswered _ _ _ (v.extend _).named
  exact Option.some.inj (Except.ok.inj hwallet)

/-- The local signer, and a service that signs with the wallet it names. -/
theorem signature_recovers_sample :
    (∃ t a, Completes (signAttestation sampleCrates 100 none
        (packetsPayload sampleCrates samplePackets) sampleLocalSigner.signer).run t (.ok a) ∧
      recoverAddress sampleCrates
        ((packetsPayload sampleCrates samplePackets).taggedSigningInput sampleCrates)
        a.signature = .ok sampleAddress) ∧
    ∃ t a, Completes (signAttestation sampleCrates 100 none
        (packetsPayload sampleCrates samplePackets) sampleRemoteSigner.signer).run t (.ok a) ∧
      ∃ v : RemoteSigner.ServiceReplies ⟨"http://localhost:9000", "wallet-1", none⟩
        ((packetsPayload sampleCrates samplePackets).taggedSigningInput sampleCrates) t,
      recoverAddress sampleCrates
        ((packetsPayload sampleCrates samplePackets).taggedSigningInput sampleCrates)
        a.signature = recoverAddress sampleCrates
          ((packetsPayload sampleCrates samplePackets).taggedSigningInput sampleCrates)
          (v.r ++ v.s ++ v.v) := by
  constructor
  · have hvalue : (signAttestation sampleCrates 100 none
        (packetsPayload sampleCrates samplePackets) sampleLocalSigner.signer).run.eval
          (sampleNode 120) =
          .ok ⟨100, none, encodePackets samplePackets, writeSignature samplePacketsSignature⟩ := by
      unfold signAttestation
      rw [Fallible.eval_bind, Fallible.eval_mapErr, sampleLocalSigner_sign syncSign_sample]
      rfl
    have hrun := Proc.sequential_completes hvalue
    exact ⟨_, _, hrun, signature_recovers hrun⟩
  · obtain ⟨t, a, -, hrun, -⟩ := sampleRemoteSigner_run sampleWallet
    obtain ⟨v, hv, -⟩ := signature_recovers hrun
    exact ⟨t, a, hrun, v, hv⟩

/-- A signature made with the key 1 is returned for the wallet of the key 2. -/
theorem signature_foreign : ∃ t a,
    ∃ v : RemoteSigner.ServiceReplies ⟨"http://localhost:9000", "wallet-1", none⟩
      ((packetsPayload sampleCrates samplePackets).taggedSigningInput sampleCrates) t,
    Completes (signAttestation sampleCrates 100 none (packetsPayload sampleCrates samplePackets)
      sampleRemoteSigner.signer).run t (.ok a) ∧
    recoverAddress sampleCrates
      ((packetsPayload sampleCrates samplePackets).taggedSigningInput sampleCrates) a.signature =
        .ok sampleAddress ∧
    sampleAddress.bytes ≠ v.wallet.addressBytes := by
  obtain ⟨t, a, v, hrun, hwallet, ha⟩ := sampleRemoteSigner_run foreignWallet
  refine ⟨t, a, v, hrun, ?_, ?_⟩
  · rw [ha]
    exact recoverAddress_syncSign sampleCrates syncSign_sample
  · rw [hwallet]
    decide

end IbcAttestor
