import IbcAttestor.Basic.Crates
import IbcAttestor.Node
import IbcAttestor.Signer.Basic

/-!
# The remote signer

Each signature opens a connection, asks for the configured wallet and has the
message signed by the wallet the service answered with. The signature is parsed,
and nothing else is checked of it.
-/

namespace IbcAttestor

open Cooperative

structure RemoteSigner where
  endpoint : String
  walletId : String
  serviceAccountTokenPath : Option String

/-- `char::is_whitespace`. -/
def isWhitespace (ch : Char) : Bool :=
  let n := ch.toNat
  (9 ≤ n && n ≤ 13) || n == 0x20 || n == 0x85 || n == 0xA0 || n == 0x1680 ||
    (0x2000 ≤ n && n ≤ 0x200A) || n == 0x2028 || n == 0x2029 || n == 0x202F || n == 0x205F ||
    n == 0x3000

/-- `str::trim`. -/
def strTrim (s : String) : String :=
  String.ofList (((s.toList.dropWhile isWhitespace).reverse.dropWhile isWhitespace).reverse)

variable (c : Crates)

def loadBearerHeader (path : String) : Fallible node Metric SignerError String := do
  let token ← (signerCall (.readToString path)).mapErr fun e =>
    SignerError.configError s!"read service account token at {path}: {e}"
  let trimmed := strTrim token
  if trimmed = "" then
    throw (.configError s!"service account token file at {path} is empty")
  else
    Fallible.ofExcept ((c.metadataValueParse s!"Bearer {trimmed}").mapError fun e =>
      .configError s!"invalid token bytes: {e}")

namespace RemoteSigner

variable (self : RemoteSigner)

/-- The `authorization` header that the new client attaches to its calls. -/
def createClient : Fallible node Metric SignerError (Option String) := do
  (signerCall (.connect self.endpoint)).mapErr SignerError.connectionError
  match self.serviceAccountTokenPath with
  | some path => return some (← loadBearerHeader c path)
  | none => return none

def signatureBytes : SignResponseSignature → Except SignerError Bytes
  | .recoverableSignature r s v => .ok (r ++ s ++ v)
  | _ => .error (.invalidSignature "expected resoverable signature")

def parseSignatureBytes (signatureBytes : Bytes) : Except SignerError Signature :=
  if signatureBytes.length ≠ 65 then
    .error (.invalidSignature s!"expected 65 bytes, got {signatureBytes.length}")
  else (c.signatureTryFrom signatureBytes).mapError .invalidSignature

def sign (message : Bytes) : Fallible node Metric SignerError Signature := do
  let client ← self.createClient c
  let wallet ← (signerCall (.getWallet client ⟨self.walletId, .ethereum⟩)).mapErr
    SignerError.remoteError
  match wallet with
  | none => throw (.remoteError "wallet not found")
  | some wallet =>
    let response ← (signerCall (.sign client
      ⟨wallet.id, some (.recoverableMessage ⟨message⟩)⟩)).mapErr SignerError.remoteError
    match response with
    | none => throw (.remoteError "no signature in response")
    | some signature =>
      let bytes ← Fallible.ofExcept (signatureBytes signature)
      Fallible.ofExcept (parseSignatureBytes c bytes)

variable {c self}

/-- What the remote signer does: calls of its own, and nothing that is counted. -/
def SignerLabel (l : Label node Metric) : Prop :=
  match l.act with
  | .call (.signer _) => True
  | .reply (.signer _) _ => True
  | _ => False

theorem signerCall_within (op : SignerOp) : (signerCall op).run.Within SignerLabel :=
  ⟨trivial, fun _ => ⟨trivial, trivial⟩⟩

theorem loadBearerHeader_within {P : Label node Metric → Prop} (path : String)
    (hread : (signerCall (.readToString path)).run.Within P) :
    (loadBearerHeader c path).run.Within P := by
  unfold loadBearerHeader
  apply Fallible.within_bind (Fallible.within_mapErr hread)
  intro token
  change
    (if strTrim token = "" then _ else _ : Fallible node Metric SignerError String).run.Within _
  rcases eq_or_ne (strTrim token) "" with hempty | hempty
  · rw [if_pos hempty]
    trivial
  · rw [if_neg hempty]
    trivial

theorem createClient_within {P : Label node Metric → Prop}
    (hconnect : ∀ endpoint, (signerCall (.connect endpoint)).run.Within P)
    (hread : ∀ path, (signerCall (.readToString path)).run.Within P) :
    (self.createClient c).run.Within P := by
  unfold createClient
  apply Fallible.within_bind (Fallible.within_mapErr (hconnect _))
  intro _
  cases self.serviceAccountTokenPath with
  | none => trivial
  | some path =>
    apply Fallible.within_bind (loadBearerHeader_within path (hread path))
    intro _
    trivial

theorem sign_within (message : Bytes) : (self.sign c message).run.Within SignerLabel := by
  unfold sign
  apply Fallible.within_bind
    (createClient_within (fun _ => signerCall_within _) fun _ => signerCall_within _)
  intro client
  apply Fallible.within_bind (Fallible.within_mapErr (signerCall_within _))
  intro wallet
  cases wallet with
  | none => trivial
  | some wallet =>
    apply Fallible.within_bind (Fallible.within_mapErr (signerCall_within _))
    intro response
    cases response with
    | none => trivial
    | some signature => exact Fallible.within_bind trivial fun _ => trivial

/-- What a signature of the remote signer was made of: the replies of the service to
`GetWallet` for the configured wallet and to `Sign` for the wallet it named. -/
structure ServiceReplies (signer : RemoteSigner) (message : Bytes) (t : Trace node Metric) where
  authorization : Option String
  wallet : Wallet
  r : Bytes
  s : Bytes
  v : Bytes
  named : Replied t [] (.signer (.getWallet authorization ⟨signer.walletId, .ethereum⟩))
    (.ok (some wallet))
  signed : Replied t [] (.signer (.sign authorization
    ⟨wallet.id, some (.recoverableMessage ⟨message⟩)⟩)) (.ok (some (.recoverableSignature r s v)))

def ServiceReplies.extend {message : Bytes} {t : Trace node Metric}
    (v : self.ServiceReplies message t) (t' : Trace node Metric) :
    self.ServiceReplies message (t ++ t') where
  authorization := v.authorization
  wallet := v.wallet
  r := v.r
  s := v.s
  v := v.v
  named := replied_append.mpr (.inl v.named)
  signed := replied_append.mpr (.inl v.signed)

theorem signatureBytes_ok {signature : SignResponseSignature} {b : Bytes} :
    signatureBytes signature = .ok b ↔
      ∃ r s v, signature = .recoverableSignature r s v ∧ b = r ++ s ++ v := by
  cases signature <;> simp [signatureBytes, eq_comm]

theorem parseSignatureBytes_ok {b : Bytes} {σ : Signature} :
    parseSignatureBytes c b = .ok σ ↔ b.length = 65 ∧ c.signatureTryFrom b = .ok σ := by
  unfold parseSignatureBytes
  by_cases h : b.length = 65
  · rw [if_neg (not_not_intro h)]
    cases c.signatureTryFrom b <;> simp [Except.mapError, h]
  · rw [if_pos h]
    simp [h]

theorem completes_sign_ok {message : Bytes} {t : Trace node Metric} {σ : Signature}
    (h : Completes (self.sign c message).run t (.ok σ)) :
    ∃ v : ServiceReplies self message t,
      (v.r ++ v.s ++ v.v).length = 65 ∧ c.signatureTryFrom (v.r ++ v.s ++ v.v) = .ok σ := by
  unfold sign at h
  rcases completes_bindOk.mp h with ⟨e, -, he⟩ | ⟨client, t₁, t₂, rfl, -, h₁⟩
  · cases he
  rcases completes_bindOk.mp h₁ with ⟨e, -, he⟩ | ⟨wallet, t₃, t₄, rfl, hwallet, h₂⟩
  · cases he
  have hnamed := completes_signerCall.mp (completes_mapErr_ok.mp hwallet)
  cases wallet with
  | none => cases (runs_throw.mp h₂).2
  | some wallet =>
    rcases completes_bindOk.mp h₂ with ⟨e, -, he⟩ | ⟨response, t₅, t₆, rfl, hsign, h₃⟩
    · cases he
    have hsigned := completes_signerCall.mp (completes_mapErr_ok.mp hsign)
    cases response with
    | none => cases (runs_throw.mp h₃).2
    | some signature =>
      rcases completes_bindOk.mp h₃ with ⟨e, -, he⟩ | ⟨b, t₇, t₈, rfl, hbytes, h₄⟩
      · cases he
      obtain ⟨rfl, hb⟩ := runs_ofExcept.mp hbytes
      obtain ⟨rfl, hσ⟩ := runs_ofExcept.mp h₄
      obtain ⟨r, s, v, rfl, rfl⟩ := signatureBytes_ok.mp (Outcome.finished.inj hb).symm
      obtain ⟨hlength, hparse⟩ := parseSignatureBytes_ok.mp (Outcome.finished.inj hσ).symm
      exact ⟨⟨client, wallet, r, s, v, by simp [Replied, hnamed], by simp [Replied, hsigned]⟩,
        hlength, hparse⟩

/-- The result for a reply of the service to `Sign`. -/
def replyResult (c : Crates) : Option SignResponseSignature → Except SignerError Signature
  | none => .error (.remoteError "no signature in response")
  | some signature => signatureBytes signature >>= parseSignatureBytes c

/-- Not a reply to `Sign`. -/
def NotSigned (l : Label node Metric) : Prop :=
  match l.act with
  | .reply (.signer (.sign _ _)) _ => False
  | _ => True

theorem completes_sign_replied {message : Bytes} {t : Trace node Metric}
    {r : Except SignerError Signature} {authorization : Option String} {request : SignRequest}
    {reply : Option SignResponseSignature} (h : Completes (self.sign c message).run t r)
    (hreply : Replied t [] (.signer (.sign authorization request)) (.ok reply)) :
    r = replyResult c reply := by
  have hclient : (self.createClient c).run.Within NotSigned :=
    createClient_within (fun _ => ⟨trivial, fun _ => ⟨trivial, trivial⟩⟩)
      fun _ => ⟨trivial, fun _ => ⟨trivial, trivial⟩⟩
  unfold sign at h
  rcases completes_bindOk.mp h with ⟨e, he, -⟩ | ⟨client, t₁, t₂, rfl, hc, h₁⟩
  · exact (he.within hclient _ hreply).elim
  have hreply₂ : Replied t₂ [] (.signer (.sign authorization request)) (.ok reply) :=
    (replied_append.mp hreply).resolve_left fun hm => hc.within hclient _ hm
  rcases completes_bindOk.mp h₁ with ⟨e, he, -⟩ | ⟨wallet, t₃, t₄, rfl, hwallet, h₂⟩
  · obtain ⟨e', he', -⟩ := completes_mapErr_error.mp he
    rw [completes_signerCall.mp he'] at hreply₂
    simp [Replied] at hreply₂
  have hreply₄ : Replied t₄ [] (.signer (.sign authorization request)) (.ok reply) := by
    rw [completes_signerCall.mp (completes_mapErr_ok.mp hwallet)] at hreply₂
    simpa [Replied] using hreply₂
  cases wallet with
  | none =>
    rw [(runs_throw.mp h₂).1] at hreply₄
    cases hreply₄
  | some wallet =>
    rcases completes_bindOk.mp h₂ with ⟨e, he, -⟩ | ⟨response, t₅, t₆, rfl, hsign, h₃⟩
    · obtain ⟨e', he', -⟩ := completes_mapErr_error.mp he
      rw [completes_signerCall.mp he'] at hreply₄
      simp only [Replied, List.mem_cons, Label.mk.injEq, reduceCtorEq, and_false, false_or,
        List.not_mem_nil, or_false, true_and] at hreply₄
      cases hreply₄
    have hend : t₆ = [] ∧ r = replyResult c response := by
      cases response with
      | none =>
        obtain ⟨ht, hr⟩ := runs_throw.mp h₃
        exact ⟨ht, Outcome.finished.inj hr⟩
      | some signature =>
        change Completes (Fallible.ofExcept (signatureBytes signature) >>= fun bytes =>
          Fallible.ofExcept (parseSignatureBytes c bytes)).run t₆ r at h₃
        rw [Fallible.ofExcept_bind] at h₃
        obtain ⟨ht, hr⟩ := runs_ofExcept.mp h₃
        exact ⟨ht, Outcome.finished.inj hr⟩
    obtain ⟨rfl, rfl⟩ := hend
    rw [completes_signerCall.mp (completes_mapErr_ok.mp hsign)] at hreply₄
    simp only [Replied, List.mem_cons, Label.mk.injEq, reduceCtorEq, and_false, false_or,
      List.append_nil, List.not_mem_nil, or_false, true_and] at hreply₄
    cases hreply₄
    rfl

end RemoteSigner
end IbcAttestor
