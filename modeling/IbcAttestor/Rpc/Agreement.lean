import IbcAttestor.Rpc.Reads
import IbcAttestor.Rpc.Value

/-!
# Two attestors agree

Two attestors of one chain attest the same bytes for the same request, whenever each
is asked. The reason is a different one for each kind of commitment: a packet's is
computed, a receipt's is zero, and an acknowledgement's never changes once written.
-/

namespace IbcAttestor

open Cooperative

variable {M : Type} [LinearOrder M]

/-- The height that a call is about. -/
def ChainOp.pinned : ChainOp → Option UInt64
  | .getBlock (.number height) => some height
  | .routerGetCommitment _ _ (.number height) => some height
  | .commit height => some height
  | .getBlockTime slot => some slot
  | _ => none

/-- Two instances of one kind of adapter, of the same contract or program. The finality
setting may differ. -/
inductive SameKind : AdapterEnum → AdapterEnum → Prop
  | evm (router : Address) (offset offset' : Option UInt64) :
      SameKind (.evm ⟨⟨router, offset⟩⟩) (.evm ⟨⟨router, offset'⟩⟩)
  | solana (a : SolanaAdapter) : SameKind (.solana a) (.solana a)
  | cosmos (a a' : CosmosAdapter) : SameKind (.cosmos a) (.cosmos a')

/-- What is assumed of the chain: the state and the timestamp of a height that has been
reported as finalized never change, nor does an acknowledgement commitment once written. -/
structure SteadyChain (c : Crates) (world : World M) (a a' : AdapterEnum) : Prop where
  finalized : ∀ b, b = a ∨ b = a' → ∀ {m n n' height op x x'}, Reported world b m height →
    op.pinned = some height → m ≤ n → m ≤ n' →
    world n (.chain op) (.ok x) → world n' (.chain op) (.ok x') → x = x'
  ackAccount : ∀ {n n' client sequence program} {x x' : Account},
    world n (.chain (.getAccountWithCommitment (c.packetAckPda client sequence program).1
      .finalized)) (.ok (some x)) →
    world n' (.chain (.getAccountWithCommitment (c.packetAckPda client sequence program).1
      .finalized)) (.ok (some x')) →
    anchorDiscriminatorLen + commitmentLen ≤ x.data.length →
    anchorDiscriminatorLen + commitmentLen ≤ x'.data.length → x.data = x'.data
  ackBytes : ∀ {n n' client sequence height} {x x' : Bytes},
    world n (.chain (.v2PacketAcknowledgement client sequence height)) (.ok x) →
    world n' (.chain (.v2PacketAcknowledgement client sequence height)) (.ok x') →
    x ≠ [] → x' ≠ [] → x = x'

variable {c : Crates} {world : World M} {a a' : AdapterEnum}

/-- Whichever head was reported first, the later read is of the same state. -/
theorem SteadyChain.eq (hchain : SteadyChain c world a a') {m m' n n' : M} {height : UInt64}
    {op : ChainOp} {x x' : op.Val} (hm : Reported world a m height)
    (hm' : Reported world a' m' height) (hop : op.pinned = some height) (hn : m ≤ n)
    (hn' : m' ≤ n') (hx : world n (.chain op) (.ok x)) (hx' : world n' (.chain op) (.ok x')) :
    x = x' := by
  rcases le_total m m' with h | h
  · exact hchain.finalized a (.inl rfl) hm hop hn (h.trans hn') hx hx'
  · exact hchain.finalized a' (.inr rfl) hm' hop (h.trans hn) hn' hx hx'

theorem ack_agree (hkind : SameKind a a') (hchain : SteadyChain c world a a') {m m' n n' : M}
    {height : UInt64} {p : Packet} {w w' : Bytes32} (hm : Reported world a m height)
    (hm' : Reported world a' m' height) (hn : m ≤ n) (hn' : m' ≤ n')
    (hw : Reads world n (a.lookupQuery c height .ack p) (some w))
    (hw' : Reads world n' (a'.lookupQuery c height .ack p) (some w')) : w = w' := by
  obtain ⟨x, hx, hvalue⟩ := hw
  obtain ⟨x', hx', hvalue'⟩ := hw'
  cases hkind with
  | evm router offset offset' =>
    have heq : x = x' := hchain.eq hm hm' rfl hn hn' hx hx'
    rcases (EvmAdapter.commitmentQuery_check c _).mp hvalue with ⟨-, hnone⟩ | ⟨-, hsome⟩
    · cases hnone
    rcases (EvmAdapter.commitmentQuery_check c _).mp hvalue' with ⟨-, hnone⟩ | ⟨-, hsome'⟩
    · cases hnone
    rw [Option.some.inj hsome, Option.some.inj hsome', heq]
  | solana s =>
    rcases SolanaAdapter.checkAccount_ok.mp hvalue with ⟨-, hnone⟩ | ⟨account, v, rfl, hdata, hv⟩
    · cases hnone
    rcases SolanaAdapter.checkAccount_ok.mp hvalue' with
      ⟨-, hnone⟩ | ⟨account', v', rfl, hdata', hv'⟩
    · cases hnone
    cases hv
    cases hv'
    have heq := hchain.ackAccount hx hx' (SolanaAdapter.length_of_drop hdata).ge
      (SolanaAdapter.length_of_drop hdata').ge
    rw [heq, hdata'] at hdata
    exact Bytes32.ext hdata.symm
  | cosmos s s' =>
    rcases CosmosAdapter.checkBytes_ok.mp hvalue with ⟨-, hnone⟩ | ⟨v, hbytes, hv⟩
    · cases hnone
    rcases CosmosAdapter.checkBytes_ok.mp hvalue' with ⟨-, hnone⟩ | ⟨v', hbytes', hv'⟩
    · cases hnone
    cases hv
    cases hv'
    have hb : x = x' := hchain.ackBytes hx hx' (hbytes ▸ w.bytes_ne_nil) (hbytes' ▸ w'.bytes_ne_nil)
    exact Bytes32.ext (hbytes.symm.trans (hb.trans hbytes'))

theorem timestampQuery_eq (hkind : SameKind a a') (height : UInt64) :
    a.timestampQuery c height = a'.timestampQuery c height := by
  cases hkind <;> rfl

theorem timestampQuery_pinned {height : UInt64} {q : Query UInt64}
    (h : a.timestampQuery c height = .ok q) : q.op.pinned = some height := by
  cases a with
  | evm a =>
    cases h
    rfl
  | solana a =>
    cases h
    rfl
  | cosmos a =>
    obtain ⟨-, rfl⟩ := AdapterEnum.timestampQuery_cosmos.mp h
    rfl

theorem entry_agree (hkind : SameKind a a') (hchain : SteadyChain c world a a') {m m' n n' : M}
    {height : UInt64} {kind : CommitmentType} {p : Packet} {answer answer' : Option Bytes32}
    (hm : Reported world a m height) (hm' : Reported world a' m' height) (hn : m ≤ n)
    (hn' : m' ≤ n') (hanswer : Reads world n (a.lookupQuery c height kind p) answer)
    (hanswer' : Reads world n' (a'.lookupQuery c height kind p) answer')
    (haccepted : Accepted c kind p answer) (haccepted' : Accepted c kind p answer') :
    answer = answer' := by
  cases kind with
  | packet =>
    obtain ⟨w, rfl, hw⟩ := haccepted
    obtain ⟨w', rfl, hw'⟩ := haccepted'
    exact congrArg some (Bytes32.ext (hw.symm.trans hw'))
  | ack =>
    obtain ⟨w, rfl⟩ := haccepted
    obtain ⟨w', rfl⟩ := haccepted'
    exact congrArg some (ack_agree hkind hchain hm hm' hn hn' hanswer hanswer')
  | receipt => exact Eq.trans haccepted haccepted'.symm

variable {retry retry' : TokioRetry}

theorem packets_agree (hkind : SameKind a a') (hchain : SteadyChain c world a a')
    {request : PacketAttestationRequest} {t t' : Trace node Metric}
    (ht : Observed world t) (ht' : Observed world t')
    (v : PacketsRead c (a.adapter c retry) request t)
    (v' : PacketsRead c (a'.adapter c retry') request t') : v.attestation = v'.attestation := by
  have hreads := v.reads ht
  have hreads' := v'.reads ht'
  have hsame : (v.packets, v.kind) = (v'.packets, v'.kind) := by
    have h := (decodeRequest_ok c).mpr ⟨v.decoded, v.known⟩
    rw [(decodeRequest_ok c).mpr ⟨v'.decoded, v'.known⟩] at h
    exact (Except.ok.inj h).symm
  obtain ⟨packets, kind, f, answers, u₁, u₂, hdecoded, hknown, ht₀, hread, hle, hin, hlookup,
    haccepted⟩ := v
  obtain ⟨packets', kind', f', answers', u₁', u₂', hdecoded', hknown', ht₀', hread', hle', hin',
    hlookup', haccepted'⟩ := v'
  simp only [Prod.mk.injEq] at hsame hreads hreads'
  obtain ⟨rfl, rfl⟩ := hsame
  have hanswers : answers = answers' := by
    funext i
    obtain ⟨m, n, hmn, hm, hn⟩ := hreads i
    obtain ⟨m', n', hmn', hm', hn'⟩ := hreads' i
    exact entry_agree hkind hchain hm hm' hmn hmn' hn hn' (haccepted i) (haccepted' i)
  subst hanswers
  rfl

/-- Two attestors with any signers, asked at any moments: the same request gets the same
attested data. -/
theorem attestors_agree (hkind : SameKind a a') (hchain : SteadyChain c world a a')
    {signer signer' : Signer node} {request : RpcRequest} {t t' : Trace node Metric}
    {att att' : Attestation} (ht : Observed world t) (ht' : Observed world t')
    (h : Attested c ⟨a.adapter c retry, signer⟩ request t att)
    (h' : Attested c ⟨a'.adapter c retry', signer'⟩ request t' att') :
    att.attestedData = att'.attestedData := by
  cases request with
  | latestHeight request => exact h.not_latestHeight.elim
  | stateAttestation request =>
    obtain ⟨u, t₁, t₂, σ, rfl, v, -, rfl⟩ := h.state
    obtain ⟨u', t₁', t₂', σ', rfl, v', -, rfl⟩ := h'.state
    obtain ⟨m, n, q, hmn, hm, hq, x, hx, hvalue⟩ := v.reads ht.left
    obtain ⟨m', n', q', hmn', hm', hq', x', hx', hvalue'⟩ := v'.reads ht'.left
    have hqq : q = q' := by
      rw [timestampQuery_eq hkind, hq'] at hq
      exact (Except.ok.inj hq).symm
    subst hqq
    have heq := hchain.eq hm hm' (timestampQuery_pinned hq) hmn hmn' hx hx'
    have htimestamp : u.timestamp = u'.timestamp := by
      rw [heq, hvalue'] at hvalue
      exact (Except.ok.inj hvalue).symm
    have hu : u = u' := by
      obtain ⟨height, timestamp⟩ := u
      obtain ⟨height', timestamp'⟩ := u'
      cases htimestamp
      cases v.height_eq
      cases v'.height_eq
      rfl
    rw [hu]
  | packetAttestation request =>
    obtain ⟨t₁, t₂, σ, v, rfl, -, rfl⟩ := h.packets
    obtain ⟨t₁', t₂', σ', v', rfl, -, rfl⟩ := h'.packets
    rw [packets_agree hkind hchain ht.left ht'.left v v']

/-- The sample chains with a head that grows by one at each moment. -/
def sampleWorld : World ℕ := fun m op x => x = sampleNode (UInt64.ofNat (120 + m)) [] op

theorem observed_sampleWorld {t : Trace node Metric} (m : ℕ)
    (h : AnsweredBy (sampleNode (UInt64.ofNat (120 + m))) t) : Observed sampleWorld t :=
  h.observed m fun _ _ => rfl

theorem sampleChain_pinned {op : ChainOp} {height : UInt64} (h : op.pinned = some height)
    (head head' : UInt64) : sampleChain head op = sampleChain head' op := by
  cases op with
  | getBlock block =>
    cases block with
    | number n => rfl
    | latest => cases h
    | finalized => cases h
  | latestCommit => cases h
  | getSlotWithCommitment config => cases h
  | _ => rfl

theorem steadyChain_sample (a a' : AdapterEnum) : SteadyChain sampleCrates sampleWorld a a' where
  finalized := by
    intro b hb m n n' height op x x' hm hop hn hn' hx hx'
    have hvalue : x = sampleChain _ op := Except.ok.inj hx
    have hvalue' : x' = sampleChain _ op := Except.ok.inj hx'
    rw [hvalue, hvalue', sampleChain_pinned hop]
  ackAccount := by
    intro n n' client sequence program x x' hx hx' _ _
    have heq : (Except.ok (some x) : Except String (Option Account)) = .ok (some x') :=
      hx.trans hx'.symm
    cases heq
    rfl
  ackBytes := by
    intro n n' client sequence height x x' hx hx' _ _
    exact Except.ok.inj (hx.trans hx'.symm)

/-- Two attestors on Solana, asked when slot 120 and slot 130 are finalized. -/
theorem attestors_agree_sample : ∃ t t' att att',
    Attested sampleCrates ⟨sampleSolana.adapter sampleCrates tokioRetry, sampleLocalSigner.signer⟩
      (.packetAttestation samplePacketsRequest) t att ∧
    Attested sampleCrates ⟨sampleSolana.adapter sampleCrates tokioRetry, sampleLocalSigner.signer⟩
      (.packetAttestation samplePacketsRequest) t' att' ∧
    att.attestedData = att'.attestedData := by
  have hsolana : IsSample sampleSolana := .inr (.inl rfl)
  obtain ⟨t, ht, h⟩ := hsolana.attested tokioRetry (by decide : (100 : UInt64) ≤ .ofNat (120 + 0))
  obtain ⟨t', ht', h'⟩ := hsolana.attested tokioRetry
    (by decide : (100 : UInt64) ≤ .ofNat (120 + 10))
  exact ⟨t, t', _, _, h, h', attestors_agree (.solana _) (steadyChain_sample _ _)
    (observed_sampleWorld 0 ht) (observed_sampleWorld 10 ht') h h'⟩

end IbcAttestor
