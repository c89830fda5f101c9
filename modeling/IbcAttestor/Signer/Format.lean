import IbcAttestor.Rpc.Value

/-!
# The format of a remote signature

The remote signer joins the three fields of a reply before it looks at their length.
A reply with fields of other lengths is read as another signature whenever the joined
bytes are 65 and end in a parity.
-/

namespace IbcAttestor
namespace RemoteSigner

open Cooperative

/-- The signature in a reply with `r` and `s` of 32 bytes and `v` of one, a parity. -/
def exactSignature : Option SignResponseSignature → Option Signature
  | some (.recoverableSignature r s [v]) => do
    return ⟨← Bytes32.tryFrom r, ← Bytes32.tryFrom s, ← normalizeV v⟩
  | _ => none

theorem exactSignature_eq_some {reply : Option SignResponseSignature} {σ : Signature} :
    exactSignature reply = some σ ↔ ∃ v,
      reply = some (.recoverableSignature σ.r.bytes σ.s.bytes [v]) ∧
        normalizeV v = some σ.yParity := by
  constructor
  · intro h
    unfold exactSignature at h
    split at h
    case h_1 r s v =>
      simp only [Option.bind_eq_bind, Option.bind_eq_some_iff, Bytes32.tryFrom_eq_some,
        Option.pure_def, Option.some.injEq] at h
      obtain ⟨r, rfl, s, rfl, yParity, hv, rfl⟩ := h
      exact ⟨v, rfl, hv⟩
    case h_2 => cases h
  · rintro ⟨v, rfl, hv⟩
    simp [exactSignature, hv]

/-- The fields are not of 32, 32 and one byte, but are 65 bytes together and end in a
parity. -/
def Shifted : Option SignResponseSignature → Prop
  | some (.recoverableSignature r s v) =>
    ¬ (r.length = 32 ∧ s.length = 32 ∧ v.length = 1) ∧ (r ++ s ++ v).length = 65 ∧
      ∃ last yParity, (r ++ s ++ v).getLast? = some last ∧ normalizeV last = some yParity
  | _ => False

/-- A reply is taken for the signature in it, and for nothing else. -/
structure ReadsExactly (c : Crates) (reply : Option SignResponseSignature)
    (r : Except SignerError Signature) : Prop where
  accepted : ∀ σ, exactSignature reply = some σ → r = .ok σ
  rejected : exactSignature reply = none → ∃ reason, r = .error (.invalidSignature reason)
  written : ∀ σ, exactSignature reply = some σ → ∀ height timestamp payload,
    signedResult c height timestamp payload r = .ok ⟨height, timestamp, payload.data,
      σ.r.bytes ++ σ.s.bytes ++ [if σ.yParity then 28 else 27]⟩

variable {c : Crates}

theorem readsExactly_of_accepted {reply : Option SignResponseSignature} {σ : Signature}
    (h : exactSignature reply = some σ) : ReadsExactly c reply (.ok σ) where
  accepted σ' hσ' := by rw [Option.some.inj (h.symm.trans hσ')]
  rejected hnone := by
    rw [h] at hnone
    cases hnone
  written σ' hσ' height timestamp payload := by
    obtain rfl := Option.some.inj (h.symm.trans hσ')
    rw [signedResult, c.signatureAsBytes_eq]

theorem readsExactly_of_none {reply : Option SignResponseSignature}
    {r : Except SignerError Signature} (h : exactSignature reply = none) :
    ReadsExactly c reply r ↔ ∃ reason, r = .error (.invalidSignature reason) := by
  constructor
  · exact fun hread => hread.rejected h
  · intro hr
    refine ⟨?_, fun _ => hr, ?_⟩
    · simp [h]
    · simp [h]

theorem signatureTryFrom_isOk {b : Bytes} (hlength : b.length = 65) :
    (∃ σ, c.signatureTryFrom b = .ok σ) ↔
      ∃ last yParity, b.getLast? = some last ∧ normalizeV last = some yParity := by
  constructor
  · rintro ⟨σ, hσ⟩
    obtain ⟨v, rfl, hv⟩ := (c.signatureTryFrom_ok b σ).mp hσ
    exact ⟨v, σ.yParity, by simp, hv⟩
  · rintro ⟨last, yParity, hlast, hparity⟩
    have hinit : b.dropLast.length = 64 := by
      rw [List.length_dropLast, hlength]
    have hb : b = b.dropLast.take 32 ++ b.dropLast.drop 32 ++ [last] := by
      rw [List.take_append_drop, List.dropLast_append_getLast? last hlast]
    have hr : (b.dropLast.take 32).length = 32 := by
      rw [List.length_take]
      omega
    have hs : (b.dropLast.drop 32).length = 32 := by
      rw [List.length_drop]
      omega
    exact ⟨⟨⟨_, hr⟩, ⟨_, hs⟩, yParity⟩, (c.signatureTryFrom_ok b _).mpr ⟨last, hb, hparity⟩⟩

theorem replyResult_recoverable {r s v : Bytes} :
    replyResult c (some (.recoverableSignature r s v)) = parseSignatureBytes c (r ++ s ++ v) := rfl

theorem invalid_of_not_ok {b : Bytes} (h : ¬ ∃ σ, parseSignatureBytes c b = .ok σ) :
    ∃ reason, parseSignatureBytes c b = .error (.invalidSignature reason) := by
  unfold parseSignatureBytes at h ⊢
  by_cases hlength : b.length ≠ 65
  · rw [if_pos hlength]
    exact ⟨_, rfl⟩
  · rw [if_neg hlength] at h ⊢
    cases hb : c.signatureTryFrom b with
    | error reason => exact ⟨reason, rfl⟩
    | ok σ =>
      rw [hb] at h
      exact absurd ⟨σ, rfl⟩ h

/-- The joined bytes of a reply that is not in the format are read as a signature exactly
when the reply is shifted. -/
theorem shifted_iff {r s v : Bytes}
    (hnone : exactSignature (some (.recoverableSignature r s v)) = none) :
    (∃ σ, parseSignatureBytes c (r ++ s ++ v) = .ok σ) ↔
      Shifted (some (.recoverableSignature r s v)) := by
  have hparse : (∃ σ, parseSignatureBytes c (r ++ s ++ v) = .ok σ) ↔
      (r ++ s ++ v).length = 65 ∧ ∃ last yParity,
        (r ++ s ++ v).getLast? = some last ∧ normalizeV last = some yParity := by
    constructor
    · rintro ⟨σ, hσ⟩
      obtain ⟨hlength, hσ⟩ := parseSignatureBytes_ok.mp hσ
      exact ⟨hlength, signatureTryFrom_isOk hlength |>.mp ⟨σ, hσ⟩⟩
    · rintro ⟨hlength, hlast⟩
      obtain ⟨σ, hσ⟩ := signatureTryFrom_isOk hlength |>.mpr hlast
      exact ⟨σ, parseSignatureBytes_ok.mpr ⟨hlength, hσ⟩⟩
  rw [hparse]
  constructor
  · rintro ⟨hlength, last, yParity, hlast, hparity⟩
    refine ⟨?_, hlength, last, yParity, hlast, hparity⟩
    rintro ⟨hr, hs, hv⟩
    obtain ⟨v', rfl⟩ := List.length_eq_one_iff.mp hv
    obtain rfl : v' = last := by simpa using hlast
    have hsome : exactSignature (some (.recoverableSignature r s [v'])) =
        some ⟨⟨r, hr⟩, ⟨s, hs⟩, yParity⟩ :=
      exactSignature_eq_some.mpr ⟨v', rfl, hparity⟩
    rw [hsome] at hnone
    cases hnone
  · rintro ⟨-, hshifted⟩
    exact hshifted

theorem readsExactly_replyResult (reply : Option SignResponseSignature) :
    ReadsExactly c reply (replyResult c reply) ↔ reply ≠ none ∧ ¬ Shifted reply := by
  cases hexact : exactSignature reply with
  | some σ =>
    obtain ⟨v, rfl, hv⟩ := exactSignature_eq_some.mp hexact
    have hlength : (σ.r.bytes ++ σ.s.bytes ++ [v]).length = 65 := by
      simp [σ.r.length_bytes, σ.s.length_bytes]
    have hresult : replyResult c (some (.recoverableSignature σ.r.bytes σ.s.bytes [v])) = .ok σ :=
      parseSignatureBytes_ok.mpr ⟨hlength, (c.signatureTryFrom_ok _ σ).mpr ⟨v, rfl, hv⟩⟩
    rw [hresult]
    refine iff_of_true (readsExactly_of_accepted hexact) ⟨by simp, fun hshifted => ?_⟩
    exact hshifted.1 ⟨σ.r.length_bytes, σ.s.length_bytes, rfl⟩
  | none =>
    rw [readsExactly_of_none hexact]
    cases reply with
    | none => simp [replyResult]
    | some signature =>
      cases signature with
      | recoverableSignature r s v =>
        rw [replyResult_recoverable, ← @shifted_iff c r s v hexact]
        constructor
        · rintro ⟨reason, hreason⟩
          refine ⟨by simp, ?_⟩
          rintro ⟨σ, hσ⟩
          rw [hreason] at hσ
          cases hσ
        · rintro ⟨-, hnot⟩
          exact invalid_of_not_ok hnot
      | _ => exact iff_of_true ⟨_, rfl⟩ ⟨by simp, id⟩

/-- A reply to `Sign` is read exactly when it carries a signature that is not shifted. -/
theorem remote_signature_format {signer : RemoteSigner} {message : Bytes} {t : Trace node Metric}
    {r : Except SignerError Signature} {authorization : Option String} {request : SignRequest}
    {reply : Option SignResponseSignature} (h : Completes (signer.sign c message).run t r)
    (hreply : Replied t [] (.signer (.sign authorization request)) (.ok reply)) :
    ReadsExactly c reply r ↔ reply ≠ none ∧ ¬ Shifted reply := by
  rw [completes_sign_replied h hreply]
  exact readsExactly_replyResult reply

/-- A call of the service and its answer. -/
def answered (op : SignerOp) (a : op.Val) : Trace node Metric :=
  [⟨[], .call (.signer op)⟩, ⟨[], .reply (.signer op) (.ok a)⟩]

theorem completes_answered {f : String → SignerError} (op : SignerOp) (a : op.Val) :
    Completes ((signerCall op).mapErr f).run (answered op a) (.ok a) :=
  completes_mapErr_ok.mpr (completes_signerCall.mpr rfl)

def plainSigner : RemoteSigner := ⟨"http://localhost:9000", "wallet-1", none⟩

theorem exists_sign (c : Crates) (message : Bytes) (wallet : Wallet)
    (reply : Option SignResponseSignature) : ∃ t r,
    Completes (plainSigner.sign c message).run t r ∧
      Replied t [] (.signer (.sign none ⟨wallet.id, some (.recoverableMessage ⟨message⟩)⟩))
        (.ok reply) := by
  have hclient : Completes (plainSigner.createClient c).run
      (answered (.connect "http://localhost:9000") () ++ []) (.ok none) :=
    completes_bindOk.mpr (.inr ⟨(), _, _, rfl, completes_answered _ _, rfl, rfl⟩)
  refine ⟨answered (.connect "http://localhost:9000") () ++ [] ++
    (answered (.getWallet none ⟨"wallet-1", .ethereum⟩) (some wallet) ++
      (answered (.sign none ⟨wallet.id, some (.recoverableMessage ⟨message⟩)⟩) reply ++ [])),
    replyResult c reply, ?_, ?_⟩
  · unfold sign
    refine completes_bindOk.mpr (.inr ⟨none, _, _, rfl, hclient, ?_⟩)
    refine completes_bindOk.mpr (.inr ⟨some wallet, _, _, rfl, completes_answered _ _, ?_⟩)
    refine completes_bindOk.mpr (.inr ⟨reply, _, _, rfl, completes_answered _ _, ?_⟩)
    cases reply with
    | none => exact ⟨rfl, rfl⟩
    | some signature => cases signature <;> exact ⟨rfl, rfl⟩
  · simp [Replied, answered]

/-- A reply with `r` and `s` of 32 bytes and `v` the parity 27. -/
def sampleReply : Option SignResponseSignature :=
  some (.recoverableSignature samplePacketsSignature.r.bytes samplePacketsSignature.s.bytes [27])

theorem remote_signature_format_sample : ∃ r, ReadsExactly sampleCrates sampleReply r := by
  obtain ⟨t, r, h, hreply⟩ := exists_sign sampleCrates [] sampleWallet sampleReply
  refine ⟨r, (remote_signature_format h hreply).mpr ⟨by simp [sampleReply], ?_⟩⟩
  rintro ⟨hlength, -⟩
  exact hlength ⟨samplePacketsSignature.r.length_bytes, samplePacketsSignature.s.length_bytes, rfl⟩

/-- An `r` without its leading zero and an `s` with a zero too many. -/
def shiftedReply : Option SignResponseSignature :=
  some (.recoverableSignature (List.replicate 31 1) (0 :: List.replicate 32 2) [27])

/-- The fields of the shifted reply are accepted as a signature. -/
theorem remote_signature_shifted : ∃ t r σ,
    Completes (plainSigner.sign sampleCrates []).run t r ∧
    Replied t [] (.signer (.sign none ⟨sampleWallet.id, some (.recoverableMessage ⟨[]⟩)⟩))
      (.ok shiftedReply) ∧
    r = .ok σ ∧ σ.r.bytes = List.replicate 31 1 ++ [0] ∧
    ¬ ReadsExactly sampleCrates shiftedReply r := by
  obtain ⟨t, r, h, hreply⟩ := exists_sign sampleCrates [] sampleWallet shiftedReply
  have hr := completes_sign_replied h hreply
  refine ⟨t, r, ⟨⟨List.replicate 31 1 ++ [0], rfl⟩, ⟨List.replicate 32 2, rfl⟩, false⟩, h, hreply,
    hr.trans rfl, rfl, ?_⟩
  intro hread
  obtain ⟨reason, hreason⟩ := hread.rejected rfl
  rw [hr] at hreason
  cases hreason

end RemoteSigner
end IbcAttestor
