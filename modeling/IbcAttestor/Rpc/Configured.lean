import IbcAttestor.Config
import IbcAttestor.Rpc.Conversation
import IbcAttestor.Rpc.Replay
import IbcAttestor.Rpc.Totals

/-!
# The service that a configuration makes

What is on the command line and in the file decides which nodes a running service asks, and
under whose key its attestations are signed.
-/

namespace IbcAttestor

open Cooperative

def ChainOp.chainType : ChainOp → ChainType
  | .getBlock _ | .routerGetCommitment _ _ _ => .evm
  | .latestCommit | .commit _ | .v2PacketCommitment _ _ _ _ | .v2PacketAcknowledgement _ _ _
  | .v2PacketReceipt _ _ _ => .cosmos
  | .getSlotWithCommitment _ | .getBlockTime _ | .getAccountWithCommitment _ _ => .solana

namespace AdapterEnum

variable {c : Crates} {a : AdapterEnum} {height : UInt64}

theorem heightQuery_chainType : a.heightQuery.op.chainType = a.chainType := by
  cases a <;> rfl

theorem timestampQuery_chainType {q : Query UInt64} (h : a.timestampQuery c height = .ok q) :
    q.op.chainType = a.chainType := by
  cases a with
  | evm a =>
    cases h
    rfl
  | solana a =>
    cases h
    rfl
  | cosmos a =>
    obtain ⟨height', -, rfl⟩ := exists_of_map_ok h
    rfl

theorem lookupQuery_chainType {kind : CommitmentType} {p : Packet} :
    (a.lookupQuery c height kind p).op.chainType = a.chainType := by
  cases a with
  | evm a => rfl
  | solana a => rfl
  | cosmos a => cases kind <;> rfl

end AdapterEnum

/-- A call of a node of the chain, or of the signing service if there is one. -/
def Label.Asks (chainType : ChainType) (signerType : SignerType) (l : Label node Metric) : Prop :=
  match l.act with
  | .call (.chain op) => op.chainType = chainType
  | .call (.signer _) => signerType = .remoteSigner
  | _ => True

section Service

variable {c : Crates} {retry : TokioRetry} {a : AdapterEnum} {signer : SignerEnum c}

theorem asks_of_label {op : ChainOp} {l : Label node Metric} (hop : op.chainType = a.chainType)
    (h : AdapterEnum.AdapterLabel op l) : Label.Asks a.chainType signer.signerType l := by
  obtain ⟨site, act⟩ := l
  obtain ⟨-, hact⟩ := h
  cases act with
  | event e => trivial
  | reply op' x => trivial
  | call op' =>
    rcases hact with rfl | ⟨delay, rfl⟩
    · exact hop
    · trivial

theorem sign_asks (message : Bytes) :
    (signer.signer.sign message).run.Within (Label.Asks a.chainType signer.signerType) := by
  cases signer with
  | localSigner s => exact Proc.within_bind trivial fun _ => ⟨trivial, trivial⟩
  | remoteSigner s =>
    apply ((SignerEnum.remoteSigner s).sign_within message).mono
    rintro ⟨site, act⟩ h
    cases act with
    | event e => trivial
    | reply op x => trivial
    | call op =>
      cases op with
      | chain op => rcases h with h | ⟨result, h⟩ <;> cases h
      | sleep delay => trivial
      | signer op => rfl

/-- Whatever is done for a request, only these are asked. -/
theorem serve_asks (request : RpcRequest) :
    (LoggingMiddleware.serve c ⟨⟨a.adapter c retry, signer.signer⟩⟩ request).run.Within
      (Label.Asks a.chainType signer.signerType) := by
  have hheight : (a.adapter c retry).getLastHeightAtConfiguredFinality.run.Within
      (Label.Asks a.chainType signer.signerType) :=
    AdapterEnum.height_within.mono fun _ => asks_of_label AdapterEnum.heightQuery_chainType
  have htrack : ∀ {α : Type} {method : String} {fut : Fallible node Metric Status α}
      {wrap : α → RpcResponse}, fut.run.Within (Label.Asks a.chainType signer.signerType) →
      (trackRpc method fut >>= fun x => return wrap x).run.Within
        (Label.Asks a.chainType signer.signerType) :=
    fun hfut => Fallible.within_bind (Proc.within_bind hfut fun _ => ⟨trivial, trivial⟩)
      fun _ => trivial
  have hprepared : ∀ {υ ρ : Type} {x : Fallible node Metric Status υ} {height : UInt64}
      {timestamp : υ → Option UInt64} {payload : υ → AttestationPayload} {wrap : Attestation → ρ},
      x.run.Within (Label.Asks a.chainType signer.signerType) →
      (x >>= fun u => signed c signer.signer height (timestamp u) (payload u) >>= fun a =>
        return wrap a).run.Within (Label.Asks a.chainType signer.signerType) :=
    fun hx => Fallible.within_bind hx fun _ =>
      Fallible.within_bind (signed_within (sign_asks _)) fun _ => trivial
  cases request with
  | latestHeight request =>
    exact htrack (Fallible.within_bind (Fallible.within_mapErr hheight) fun _ => trivial)
  | stateAttestation request =>
    apply htrack
    rw [stateAttestation_eq]
    exact hprepared (prepareState_within hheight (AdapterEnum.timestamp_within fun _ hq _ =>
      asks_of_label (AdapterEnum.timestampQuery_chainType hq)) fun _ _ _ => trivial)
  | packetAttestation request =>
    apply htrack
    rw [packetAttestation_eq]
    exact hprepared (preparePackets_within hheight (fun _ _ _ _ => AdapterEnum.lookup_within.mono
      fun _ => asks_of_label AdapterEnum.lookupQuery_chainType) fun _ _ _ => trivial)

end Service

/-- What is done for a request by the service of a file, started with these types. -/
structure RunsAs {c : Crates} (k : ConfigCrates) (host : Host c) (raw : RawConfig k.Value)
    (chainType : ChainType) (signerType : SignerType)
    (task : Task RpcRequest node Metric (Except Status RpcResponse)) : Prop where
  chain : ∀ site op, Called task.log site (.chain op) → op.chainType = chainType
  signer : ∀ site op, Called task.log site (.signer op) → signerType = .remoteSigner
  localKey : signerType = .localSigner → ∃ config file key,
    k.localSignerConfig raw.signer = .ok config ∧
    withExpandedHome host (keystoreAt host config.keystorePath) = .ok file ∧
    host.readFromKeystore file = .ok key ∧
    ∀ response attestation, task.fut.outcome = .finished (.ok response) →
      response.attestation = some attestation →
      recoverAddress c (signingInput c task.request attestation) attestation.signature =
        .ok (c.address key)
  remoteWallet : signerType = .remoteSigner → ∃ config,
    k.remoteSignerConfig raw.signer = .ok config ∧
    ∀ (before after : Trace node Metric) site op,
      task.log = before ++ ⟨site, .call (.signer op)⟩ :: after →
        RemoteSigner.MayAsk c ⟨config.endpoint, config.walletId, config.serviceAccountTokenPath⟩
          task.request before.acts op

/-- A service runs as its configuration says, in every state: it asks only nodes of the
configured chain type; the attestations of a local signer are those of the key in the
configured keystore, and no signing service is asked; that of a remote signer is the
configured one and is asked for the configured wallet. -/
theorem configured_service {c : Crates} {k : ConfigCrates} {host : Host c} {path : String}
    {chainType : ChainType} {signerType : SignerType} {config : RuntimeConfig c}
    (hload : RuntimeConfig.fromFile k host path chainType signerType = .ok config)
    {retry : TokioRetry} {M : Type} {effect : Metric → M → M} {init : M}
    {s : System RpcRequest node Metric (Except Status RpcResponse) M}
    (h : System.Reachable (fun request => (LoggingMiddleware.serve c
      ⟨⟨config.adapter.adapter c retry, config.signer.signer⟩⟩ request).run) effect init s) :
    ∃ contents raw, k.readToString path = .ok contents ∧ k.fromStr contents = .ok raw ∧
      ∀ task ∈ s.tasks, RunsAs k host raw chainType signerType task := by
  obtain ⟨contents, raw, hread, hraw, hadapter, hsigner, -, -⟩ := fromFile_ok hload
  refine ⟨contents, raw, hread, hraw, fun task htask => ?_⟩
  have hruns := h.task_runs htask
  have hasks := hruns.within (serve_asks task.request)
  rw [buildAdapter_chainType hadapter, buildSigner_signerType hsigner] at hasks
  refine ⟨fun site op hcalled => hasks _ hcalled, fun site op hcalled => hasks _ hcalled, ?_, ?_⟩
  · rintro rfl
    obtain ⟨signerConfig, file, key, hparsed, hfile, hkey, hlocal⟩ := buildSigner_local hsigner
    refine ⟨signerConfig, file, key, hparsed, hfile, hkey, fun response attestation hout ha => ?_⟩
    rw [hout] at hruns
    obtain ⟨t, e, -, hserve⟩ := LoggingMiddleware.completes_serve hruns
    have hattested : Attested c ⟨config.adapter.adapter c retry, config.signer.signer⟩
        task.request t attestation := ⟨response, hserve, ha⟩
    obtain ⟨-, t₂, σ, hsign, hsignature⟩ := hattested.spec
    rw [hlocal] at hsign
    obtain ⟨t₃, -, hinner⟩ := SignerEnum.completes_sign_ok hsign
    obtain ⟨-, hσ⟩ := (LocalSigner.completes_sign_ok _).mp hinner
    rw [hsignature]
    exact recoverAddress_syncSign c hσ
  · rintro rfl
    obtain ⟨signerConfig, hparsed, hremote⟩ := buildSigner_remote hsigner
    refine ⟨signerConfig, hparsed, fun before after site op hlog => ?_⟩
    rw [hremote] at hruns
    exact RemoteSigner.mayAsk_of_runs hruns hlog

/-- The file of an attestor of an EVM chain with a keystore under the home directory. -/
def sampleConfigCrates : ConfigCrates where
  Value := Unit
  fromStr contents := if contents = "" then .error "missing field" else
    .ok ⟨⟨⟨.inl 0, 8080⟩, ⟨.inl 0, 8081⟩⟩, (), (), none⟩
  evmAdapterConfig _ := .ok ⟨sampleAddress, none⟩
  solanaAdapterConfig _ := .error "missing field"
  cosmosAdapterConfig _ := .ok ⟨"http://localhost:8545"⟩
  localSignerConfig _ := .ok ⟨"~/keys/attestor".toList⟩
  remoteSignerConfig _ := .error "missing field"
  httpClientNew _ := .ok ()
  pubkeyFromStr _ := .error "Invalid"
  displayF64 _ := ""
  readToString path := if path = "attestor.toml" then .ok "[server]" else .error "not found"

def sampleConfig : RuntimeConfig sampleCrates where
  server := ⟨⟨.inl 0, 8080⟩, ⟨.inl 0, 8081⟩⟩
  adapter := sampleEvm
  signer := sampleLocalSigner
  tracing := none

theorem fromFile_sample : RuntimeConfig.fromFile sampleConfigCrates sampleHost "attestor.toml"
    .evm .localSigner = .ok sampleConfig := rfl

/-- An attestation of a configured service, under the key in the keystore. -/
theorem configured_service_sample :
    ∃ task : Task RpcRequest node Metric (Except Status RpcResponse),
      task.fut.outcome = .finished (.ok (.packetAttestation ⟨some samplePacketAttestation⟩)) ∧
      recoverAddress sampleCrates (signingInput sampleCrates task.request samplePacketAttestation)
        samplePacketAttestation.signature = .ok sampleAddress := by
  have hsample : IsSample sampleEvm := .inl rfl
  obtain ⟨task, m, hreach, -, hout⟩ := hsample.served tokioRetry
    (by decide : (100 : UInt64) ≤ 120) (fun _ m => m) ()
  obtain ⟨contents, raw, -, -, htasks⟩ := configured_service fromFile_sample hreach
  obtain ⟨config, file, key, -, -, -, hsigned⟩ := (htasks task (by simp)).localKey rfl
  exact ⟨task, hout, hsigned _ _ hout rfl⟩

end IbcAttestor
