import IbcAttestor.Cooperative.Precedence
import IbcAttestor.Cooperative.System
import IbcAttestor.Rpc.Middleware
import IbcAttestor.Rpc.Outages
import IbcAttestor.Signer.Soundness

/-!
# The conversation with the signing service

A remote signature takes a connection, a token if one is configured, the wallet and the
signature itself, in this order. Whatever else a service does meanwhile, the signing service
is only asked to sign what a request attests, with the wallet that it has named and under
the token that was read for this very request.
-/

namespace IbcAttestor

open Cooperative

/-- The message is the signing input of an attestation for the height of the request. -/
def RpcRequest.Signs (c : Crates) : RpcRequest → Bytes → Prop
  | .latestHeight _, _ => False
  | .stateAttestation request, message => ∃ timestamp,
    message = (statePayload c ⟨request.height, timestamp⟩).taggedSigningInput c
  | .packetAttestation request, message => ∃ entries,
    message = (packetsPayload c ⟨request.height, entries⟩).taggedSigningInput c

namespace RemoteSigner

variable (c : Crates) (signer : RemoteSigner)

/-- A client has been opened that sends this header: none if no token is configured, else
that of the token in the file, read since the connection stands. -/
structure HasClient (h : List (Act node Metric)) (authorization : Option String) : Prop where
  connected : .reply (.signer (.connect signer.endpoint)) (.ok ()) ∈ h
  authorized : match signer.serviceAccountTokenPath with
    | none => authorization = none
    | some path => ∃ token header, .reply (.signer (.readToString path)) (.ok token) ∈ h ∧
        strTrim token ≠ "" ∧ c.metadataValueParse s!"Bearer {strTrim token}" = .ok header ∧
        authorization = some header

/-- What the service may be asked after the actions `h` of a request. -/
def MayAsk (request : RpcRequest) (h : List (Act node Metric)) : SignerOp → Prop
  | .connect endpoint => endpoint = signer.endpoint
  | .readToString path => signer.serviceAccountTokenPath = some path ∧
    .reply (.signer (.connect signer.endpoint)) (.ok ()) ∈ h
  | .getWallet authorization walletRequest => signer.HasClient c h authorization ∧
    walletRequest = ⟨signer.walletId, .ethereum⟩
  | .sign authorization signRequest => signer.HasClient c h authorization ∧
    ∃ wallet message, .reply (.signer (.getWallet authorization ⟨signer.walletId, .ethereum⟩))
        (.ok (some wallet)) ∈ h ∧
      signRequest = ⟨wallet.id, some (.recoverableMessage ⟨message⟩)⟩ ∧ request.Signs c message

def Conversation (request : RpcRequest) (h : List (Act node Metric)) : Act node Metric → Prop
  | .call (.signer op) => signer.MayAsk c request h op
  | _ => True

variable {c signer} {request : RpcRequest} {h : List (Act node Metric)}

theorem HasClient.mono {h' : List (Act node Metric)} {authorization : Option String}
    (hclient : signer.HasClient c h authorization) (hsub : h ⊆ h') :
    signer.HasClient c h' authorization where
  connected := hsub hclient.connected
  authorized := by
    have hauthorized := hclient.authorized
    cases hpath : signer.serviceAccountTokenPath with
    | none =>
      rw [hpath] at hauthorized
      exact hauthorized
    | some path =>
      rw [hpath] at hauthorized
      obtain ⟨token, header, hread, hrest⟩ := hauthorized
      exact ⟨token, header, hsub hread, hrest⟩

/-- A call has been made, and has been answered if its result is one. -/
def Answered (op : SignerOp) (h : List (Act node Metric)) (r : Except SignerError op.Val)
    (h' : List (Act node Metric)) : Prop :=
  h ⊆ h' ∧ ∀ a, r = .ok a → .reply (.signer op) (.ok a) ∈ h'

theorem signerCall_follows {op : SignerOp} {f : String → SignerError}
    (hask : signer.MayAsk c request h op) :
    ((signerCall op).mapErr f).run.Follows (signer.Conversation c request) h (Answered op h) := by
  refine ⟨hask, fun r => ⟨trivial, List.subset_append_left _ _, ?_⟩⟩
  intro a ha
  cases r with
  | error e => cases ha
  | ok b =>
    cases ha
    simp

theorem loadBearerHeader_follows {path : String}
    (hpath : signer.serviceAccountTokenPath = some path)
    (hconnected : .reply (.signer (.connect signer.endpoint)) (.ok ()) ∈ h) :
    (loadBearerHeader c path).run.Follows (signer.Conversation c request) h fun r h' =>
      ∀ header, r = .ok header → signer.HasClient c h' (some header) := by
  refine Fallible.follows_bind (signerCall_follows ⟨hpath, hconnected⟩)
    (fun e h' _ header hr => nomatch hr) fun token h' hread => ?_
  have htoken := hread.2 token rfl
  rcases eq_or_ne (strTrim token) "" with hempty | hempty
  · rw [if_pos hempty]
    intro header hr
    cases hr
  · rw [if_neg hempty]
    intro header hr
    refine ⟨hread.1 hconnected, ?_⟩
    rw [hpath]
    refine ⟨token, header, htoken, hempty, ?_, rfl⟩
    cases hparse : c.metadataValueParse s!"Bearer {strTrim token}" with
    | error e =>
      rw [hparse] at hr
      cases hr
    | ok header' =>
      rw [hparse] at hr
      cases hr
      rfl

theorem createClient_follows :
    (signer.createClient c).run.Follows (signer.Conversation c request) h fun r h' =>
      ∀ authorization, r = .ok authorization → signer.HasClient c h' authorization := by
  refine Fallible.follows_bind (signerCall_follows rfl)
    (fun e h' _ authorization hr => nomatch hr) fun _ h₁ hconnect => ?_
  have hconnected := hconnect.2 () rfl
  cases hpath : signer.serviceAccountTokenPath with
  | none =>
    intro authorization hr
    refine ⟨hconnected, ?_⟩
    rw [hpath]
    cases hr
    rfl
  | some path =>
    refine Fallible.follows_bind (loadBearerHeader_follows hpath hconnected)
      (fun e h' _ authorization hr => nomatch hr) fun header h₂ hheader => ?_
    intro authorization hr
    cases hr
    exact hheader header rfl

theorem sign_follows {message : Bytes} (hsigns : request.Signs c message) :
    (signer.sign c message).run.Follows (signer.Conversation c request) h fun _ _ => True := by
  refine Fallible.follows_bind createClient_follows (fun _ _ _ => trivial)
    fun authorization h₁ hclient => ?_
  have hclient := hclient authorization rfl
  refine Fallible.follows_bind (signerCall_follows ⟨hclient, rfl⟩) (fun _ _ _ => trivial)
    fun wallet h₂ hwallet => ?_
  cases wallet with
  | none => trivial
  | some wallet =>
    have hask : signer.MayAsk c request h₂
        (.sign authorization ⟨wallet.id, some (.recoverableMessage ⟨message⟩)⟩) :=
      ⟨hclient.mono hwallet.1, wallet, message, hwallet.2 _ rfl, rfl, hsigns⟩
    refine Fallible.follows_bind (signerCall_follows hask) (fun _ _ _ => trivial)
      fun response h₃ _ => ?_
    cases response with
    | none => trivial
    | some signature =>
      refine Fallible.follows_bind (Q := fun _ _ => True) trivial (fun _ _ _ => trivial) ?_
      intro bytes h₄ _
      trivial

theorem conversation_of_unsigned {l : Label node Metric} (hl : ¬ SignerEnum.AtSigner l)
    (h : List (Act node Metric)) : signer.Conversation c request h l.act := by
  obtain ⟨site, act⟩ := l
  cases act with
  | event e => trivial
  | reply op r => trivial
  | call op =>
    cases op with
    | chain op => trivial
    | sleep millis => trivial
    | signer op => exact (hl (.inl trivial)).elim

variable {retry : TokioRetry} {a : AdapterEnum}

-- The code of the service is long: from here on its order is derived by the rules alone.
attribute [local irreducible] Proc.Follows

theorem validateHeight_follows {height : UInt64} {post : Except AttestorError Unit →
      List (Act node Metric) → Prop} (hpost : ∀ r h, post r h) :
    (validateHeight (a.adapter c retry) height).run.Follows (signer.Conversation c request) h
      post :=
  Proc.Within.follows (validateHeight_within
    (AdapterEnum.height_within.mono fun _ => not_atSigner_of_label)
    (fun _ => not_atSigner_of_ofHandler []) _) (fun _ => conversation_of_unsigned) hpost

theorem prepareState_follows (stateRequest : StateAttestationRequest) :
    (prepareState (a.adapter c retry) stateRequest).run.Follows (signer.Conversation c request) h
      fun r _ => ∀ u, r = .ok u → u.height = stateRequest.height := by
  unfold prepareState
  refine Fallible.follows_bind (Q := fun _ _ => True)
    (Fallible.follows_mapErr (validateHeight_follows fun _ _ => trivial))
    (fun e h' _ u hu => nomatch hu) fun _ h' _ => ?_
  refine Fallible.follows_bind (Q := fun _ _ => True)
    (Fallible.follows_mapErr (Proc.Within.follows
      (AdapterEnum.timestamp_within fun _ _ _ => not_atSigner_of_label)
      (fun _ => conversation_of_unsigned) fun _ _ => trivial))
    (fun e h'' _ u hu => nomatch hu) fun timestamp h'' _ => ?_
  refine Fallible.follows_pure fun u hu => ?_
  cases hu
  rfl

theorem createPacketsAttestation_follows (packets : List Packet) (height : UInt64)
    (kind : CommitmentType) :
    (createPacketsAttestation c (a.adapter c retry) packets height kind).run.Follows
      (signer.Conversation c request) h fun r _ => ∀ u, r = .ok u → u.height = height := by
  unfold createPacketsAttestation
  refine Fallible.follows_bind (Q := fun _ _ => True)
    (Proc.Within.follows (Fallible.within_gather fun i => ?_)
      (fun _ => conversation_of_unsigned) fun _ _ => trivial)
    (fun e h' _ u hu => nomatch hu) fun validations h' _ => ?_
  · rw [createSinglePacketAttestation_eq]
    exact Fallible.within_bind
      (Fallible.within_mapErr (AdapterEnum.lookup_within.mono fun _ => not_atSigner_of_label))
      fun _ => Fallible.within_report fun e he =>
        not_atSigner_of_ofHandler [i.val] (ofHandler_verdictMetrics he)
  · refine Fallible.follows_bind (Q := fun _ _ => True) (Fallible.follows_ofExcept trivial)
      (fun e h' _ u hu => nomatch hu) fun entries h' _ => ?_
    refine Fallible.follows_pure fun u hu => ?_
    cases hu
    rfl

theorem preparePackets_follows (packetRequest : PacketAttestationRequest) :
    (preparePackets c (a.adapter c retry) packetRequest).run.Follows
      (signer.Conversation c request) h
      fun r _ => ∀ u, r = .ok u → u.height = packetRequest.height := by
  rw [preparePackets_eq]
  cases decodeRequest c packetRequest with
  | error e => exact Fallible.follows_ofExcept fun u hu => nomatch hu
  | ok x =>
    change ((validateHeight (a.adapter c retry) packetRequest.height).mapErr
      Status.ofAttestorError >>= fun _ => (createPacketsAttestation c (a.adapter c retry) x.1
        packetRequest.height x.2).mapErr Status.ofAttestorError).run.Follows _ _ _
    refine Fallible.follows_bind (Q := fun _ _ => True)
      (Fallible.follows_mapErr (validateHeight_follows fun _ _ => trivial))
      (fun e h' _ u hu => nomatch hu) fun _ h' _ => ?_
    refine Fallible.follows_mapErr
      ((createPacketsAttestation_follows x.1 packetRequest.height x.2).mono ?_)
    intro r h'' hr u hu
    cases r with
    | error e => cases hu
    | ok v =>
      cases hu
      exact hr u rfl

theorem signed_follows {height : UInt64} {timestamp : Option UInt64} {payload : AttestationPayload}
    (hsigns : request.Signs c (payload.taggedSigningInput c)) :
    (signed c (SignerEnum.remoteSigner (c := c) signer).signer height timestamp payload).run.Follows
      (signer.Conversation c request) h fun _ _ => True := by
  unfold signed signAttestation
  refine Fallible.follows_bind (Q := fun _ _ => True) (Fallible.follows_mapErr ?_)
    (fun _ _ _ => trivial) fun _ _ _ => Fallible.follows_pure trivial
  refine Fallible.follows_bind (Q := fun _ _ => True) (Fallible.follows_mapErr ?_)
    (fun _ _ _ => trivial) fun _ _ _ => Fallible.follows_pure trivial
  refine Proc.Follows.bind ((sign_follows hsigns).mono fun r h' _ => ?_)
  exact Proc.follows_emit trivial (Proc.follows_done trivial)

theorem prepared_follows {υ ρ : Type} {x : Fallible node Metric Status υ} {height : UInt64}
    {timestamp : υ → Option UInt64} {payload : υ → AttestationPayload} {wrap : Attestation → ρ}
    (hx : x.run.Follows (signer.Conversation c request) h fun r _ => ∀ u, r = .ok u →
      request.Signs c ((payload u).taggedSigningInput c)) :
    (x >>= fun u => signed c (SignerEnum.remoteSigner (c := c) signer).signer height (timestamp u)
        (payload u) >>= fun attestation => return wrap attestation).run.Follows
      (signer.Conversation c request) h fun _ _ => True := by
  refine Fallible.follows_bind hx (fun _ _ _ => trivial) fun u h₁ hu => ?_
  exact Fallible.follows_bind (signed_follows (hu u rfl)) (fun _ _ _ => trivial)
    fun _ _ _ => Fallible.follows_pure trivial

theorem trackRpc_follows {α : Type} {method : String} {fut : Fallible node Metric Status α}
    {wrap : α → RpcResponse}
    (hfut : fut.run.Follows (signer.Conversation c request) h fun _ _ => True) :
    (trackRpc method fut >>= fun response => return wrap response).run.Follows
      (signer.Conversation c request) h fun _ _ => True := by
  refine Fallible.follows_bind (Q := fun _ _ => True) (Proc.Follows.bind (hfut.mono ?_))
    (fun _ _ _ => trivial) fun _ _ _ => Fallible.follows_pure trivial
  intro r h' _
  exact Proc.follows_emit trivial (Proc.follows_done trivial)

/-- Every request keeps to the order of the conversation. -/
theorem serve_follows (request : RpcRequest) :
    (LoggingMiddleware.serve c
      ⟨⟨a.adapter c retry, (SignerEnum.remoteSigner (c := c) signer).signer⟩⟩ request).run.Follows
        (signer.Conversation c request) h fun _ _ => True := by
  cases request with
  | latestHeight latestRequest =>
    refine trackRpc_follows (Fallible.follows_bind (Q := fun _ _ => True)
      (Fallible.follows_mapErr (Proc.Within.follows
        (AdapterEnum.height_within.mono fun _ => not_atSigner_of_label)
        (fun _ => conversation_of_unsigned) fun _ _ => trivial))
      (fun _ _ _ => trivial) fun _ _ _ => Fallible.follows_pure trivial)
  | stateAttestation stateRequest =>
    refine trackRpc_follows ?_
    rw [stateAttestation_eq]
    refine prepared_follows ((prepareState_follows stateRequest).mono ?_)
    rintro r h' hr ⟨height, timestamp⟩ rfl
    obtain rfl : height = stateRequest.height := hr _ rfl
    exact ⟨timestamp, rfl⟩
  | packetAttestation packetRequest =>
    refine trackRpc_follows ?_
    rw [packetAttestation_eq]
    refine prepared_follows ((preparePackets_follows packetRequest).mono ?_)
    rintro r h' hr ⟨height, entries⟩ rfl
    obtain rfl : height = packetRequest.height := hr _ rfl
    exact ⟨entries, rfl⟩

/-- Each call of the signing service by a request comes in its place. -/
theorem mayAsk_of_runs {t : Trace node Metric} {o : Outcome (Except Status RpcResponse)}
    (hrun : Runs (LoggingMiddleware.serve c ⟨⟨a.adapter c retry,
      (SignerEnum.remoteSigner (c := c) signer).signer⟩⟩ request).run t o)
    {before after : Trace node Metric} {site : Site} {op : SignerOp}
    (ht : t = before ++ ⟨site, .call (.signer op)⟩ :: after) :
    signer.MayAsk c request before.acts op := by
  have hordered := (serve_follows (h := []) request).ordered hrun
  have hacts : t.acts = before.acts ++ .call (.signer op) :: after.acts := by
    rw [ht]
    simp [Trace.acts]
  rw [hacts] at hordered
  have hcall := (ordered_append.mp hordered.1).2.1
  exact hcall

end RemoteSigner

/-- In every state of a service with a remote signer, each call of the signing service by a
request has come in its place: it is to the configured endpoint and wallet, with the header
made of the token that this request has read, and only what the request attests is to be
signed. -/
theorem signing_conversation {c : Crates} {retry : TokioRetry} {a : AdapterEnum}
    {signer : RemoteSigner} {M : Type} {effect : Metric → M → M} {init : M}
    {s : System RpcRequest node Metric (Except Status RpcResponse) M}
    (h : System.Reachable (fun request => (LoggingMiddleware.serve c ⟨⟨a.adapter c retry,
      (SignerEnum.remoteSigner (c := c) signer).signer⟩⟩ request).run) effect init s)
    {task : Task RpcRequest node Metric (Except Status RpcResponse)} (htask : task ∈ s.tasks)
    {before after : Trace node Metric} {site : Site} {op : SignerOp}
    (hlog : task.log = before ++ ⟨site, .call (.signer op)⟩ :: after) :
    signer.MayAsk c task.request before.acts op :=
  RemoteSigner.mayAsk_of_runs (h.task_runs htask) hlog

/-- A remote signer with a token, which `sampleNode` has in every file. -/
def sampleTokenSigner : RemoteSigner :=
  ⟨"http://localhost:9000", "wallet-1", some "/run/secrets/token"⟩

theorem eval_loadBearerHeader {o : Oracle node} {path : String}
    (h : o [] (.signer (.readToString path)) = .ok "token") :
    (loadBearerHeader sampleCrates path).run.eval o = .ok "Bearer token" := by
  have htrim : strTrim "token" = "token" := by decide
  have hread : (signerCall (.readToString path)).run.eval o = .ok "token" := h
  simp only [loadBearerHeader, Fallible.eval_bind, Fallible.eval_mapErr, hread]
  change Proc.eval (ExceptT.run (if strTrim "token" = "" then _ else _)) _ = _
  rw [htrim, if_neg (by decide), Fallible.eval_ofExcept]
  rfl

theorem sampleTokenSigner_sign (message : Bytes) :
    ((SignerEnum.remoteSigner sampleTokenSigner : SignerEnum sampleCrates).signer.sign
      message).run.eval (sampleNode 120) = .ok samplePacketsSignature := by
  have hclient : (sampleTokenSigner.createClient sampleCrates).run.eval (sampleNode 120) =
      .ok (some "Bearer token") := by
    have hconnect : (signerCall (.connect sampleTokenSigner.endpoint)).run.eval (sampleNode 120) =
        .ok () := rfl
    simp only [RemoteSigner.createClient, Fallible.eval_bind, Fallible.eval_mapErr, hconnect]
    change Proc.eval (ExceptT.run (loadBearerHeader sampleCrates "/run/secrets/token" >>= _)) _ = _
    rw [Fallible.eval_bind, eval_loadBearerHeader rfl]
    rfl
  change Proc.eval (Proc.bind (ExceptT.run (RemoteSigner.sign _ _ _)) _) _ = _
  rw [Proc.eval_bind, RemoteSigner.sign, Fallible.eval_bind, hclient]
  exact parse_sampleSignature

/-- A request whose attestation is signed by the service, under the token that was read. -/
theorem signing_conversation_sample :
    ∃ (task : Task RpcRequest node Metric (Except Status RpcResponse)) (message : Bytes)
      (before after : Trace node Metric) (wallet : Wallet),
      task.log = before ++ ⟨[], .call (.signer (.sign (some "Bearer token")
        ⟨wallet.id, some (.recoverableMessage ⟨message⟩)⟩))⟩ :: after ∧
      sampleTokenSigner.MayAsk sampleCrates task.request before.acts
        (.sign (some "Bearer token") ⟨wallet.id, some (.recoverableMessage ⟨message⟩)⟩) := by
  have hsample : IsSample sampleEvm := .inl rfl
  let signer : SignerEnum sampleCrates := .remoteSigner sampleTokenSigner
  have hinner : (AttestorService.packetAttestation sampleCrates
      ⟨sampleEvm.adapter sampleCrates tokioRetry, signer.signer⟩
      samplePacketsRequest).run.eval (sampleNode 120) = .ok ⟨some samplePacketAttestation⟩ := by
    have hsigned := sampleTokenSigner_sign
      ((packetsPayload sampleCrates samplePackets).taggedSigningInput sampleCrates)
    rw [eval_packetAttestation, hsample.eval_preparePackets (by decide)]
    exact congrArg (fun r => (signedResult sampleCrates 100 none
      (packetsPayload sampleCrates samplePackets) r).map fun a =>
        PacketAttestationResponse.mk (some a)) hsigned
  have hvalue : (LoggingMiddleware.serve sampleCrates
      ⟨⟨sampleEvm.adapter sampleCrates tokioRetry, signer.signer⟩⟩
      (.packetAttestation samplePacketsRequest)).run.eval (sampleNode 120) =
        .ok (.packetAttestation ⟨some samplePacketAttestation⟩) := by
    simp only [LoggingMiddleware.serve, LoggingMiddleware.packetAttestation, Fallible.eval_bind,
      eval_trackRpc, hinner]
    rfl
  have hrun := Proc.sequential_completes hvalue
  have hanswered := Proc.sequential_answeredBy (LoggingMiddleware.serve sampleCrates
    ⟨⟨sampleEvm.adapter sampleCrates tokioRetry, signer.signer⟩⟩
    (.packetAttestation samplePacketsRequest)).run (sampleNode 120)
  obtain ⟨t, e, ht, hserve⟩ := LoggingMiddleware.completes_serve hrun
  have hattested : Attested sampleCrates ⟨sampleEvm.adapter sampleCrates tokioRetry,
      signer.signer⟩ (.packetAttestation samplePacketsRequest) t
        samplePacketAttestation := ⟨_, hserve, rfl⟩
  obtain ⟨t₁, t₂, σ, v, hsplit, hsign, -⟩ := hattested.packets
  obtain ⟨t₃, hcount, hremote⟩ := SignerEnum.completes_sign_ok hsign
  obtain ⟨⟨authorization, wallet, _, _, _, -, hreplied⟩, -⟩ :=
    RemoteSigner.completes_sign_ok hremote
  have hcalled := hremote.called hreplied
  obtain ⟨before, after, hlog⟩ := List.append_of_mem hcalled
  obtain ⟨task, m, hreach, hrequest, htask, -, -⟩ := @System.reachable_of_runs _ _ _ _ _
    (fun request => (LoggingMiddleware.serve sampleCrates
      ⟨⟨sampleEvm.adapter sampleCrates tokioRetry, signer.signer⟩⟩ request).run)
    (fun _ m => m) _ _ _ hrun ()
  have hsplit' : task.log = (t₁ ++ before) ++ ⟨[], .call (.signer (.sign authorization
      ⟨wallet.id, some (.recoverableMessage
        ⟨(packetsPayload sampleCrates v.attestation).taggedSigningInput sampleCrates⟩)⟩))⟩ ::
        (after ++ [⟨[], .event (.incSignerSign "ok")⟩] ++ [⟨[], .event e⟩]) := by
    rw [htask, ht, hsplit, hcount, hlog]
    simp
  have hmay := signing_conversation hreach (by simp) hsplit'
  have hheader : authorization = some "Bearer token" := by
    obtain ⟨token, header, hread, -, hparse, rfl⟩ := hmay.1.authorized
    obtain ⟨⟨site, act⟩, hmem, hact⟩ := List.mem_map.mp hread
    cases hact
    have htoken : Except.ok token = Except.ok "token" := hanswered site _ _ (by
      rw [← htask, hsplit']
      exact List.mem_append_left _ hmem)
    cases htoken
    have htrim : strTrim "token" = "token" := by decide
    rw [htrim] at hparse
    exact congrArg some (Except.ok.inj hparse).symm
  subst hheader
  exact ⟨task, _, _, _, wallet, hsplit', hmay⟩

end IbcAttestor
