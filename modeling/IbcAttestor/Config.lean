import IbcAttestor.Adapter.Enum
import IbcAttestor.Signer.Enum
import IbcAttestor.Signer.Keystore

/-!
# The configuration

The types of the adapter and of the signer are chosen on the command line; their
sections of the file are parsed once the type is known. Everything is built, and the
key of a local signer read, before the tracing section is looked at.
-/

namespace IbcAttestor

/-- `f64`, by its bits. -/
structure F64 where
  bits : BitVec 64
  deriving DecidableEq

namespace F64

def sign (x : F64) : ℕ := (x.bits >>> 63).toNat

def exponent (x : F64) : ℕ := ((x.bits >>> 52) &&& 0x7FF#64).toNat

def fraction (x : F64) : ℕ := (x.bits &&& 0xFFFFFFFFFFFFF#64).toNat

/-- `f64::is_finite`. -/
def isFinite (x : F64) : Bool := x.exponent != 2047

/-- The value of a finite number. -/
def value (x : F64) : ℚ :=
  (-1) ^ x.sign * (if x.exponent = 0 then (x.fraction : ℚ) / 2 ^ 1074
    else (2 ^ 52 + x.fraction : ℚ) * 2 ^ x.exponent / 2 ^ 1075)

end F64

/-- `std::net::SocketAddr`. -/
structure SocketAddr where
  ip : BitVec 32 ⊕ BitVec 128
  port : UInt16
  deriving DecidableEq

structure ServerConfig where
  /-- The address that the gRPC server should listen on. -/
  listenAddr : SocketAddr
  /-- The address that the HTTP health server should listen on. -/
  healthAddr : SocketAddr

structure TracingConfig where
  otlpEndpoint : String
  serviceName : String
  sampleRate : F64

structure SolanaAdapterConfig where
  routerProgramId : String

structure CosmosAdapterConfig where
  url : String

structure RemoteSignerConfig where
  endpoint : String
  walletId : String
  serviceAccountTokenPath : Option String

/-- `RawConfig`, with the adapter and the signer as TOML values. -/
structure RawConfig (Value : Type) where
  server : ServerConfig
  adapter : Value
  signer : Value
  tracing : Option TracingConfig

inductive ConfigError where
  | io (path reason : String)
  | toml (reason : String)
  | invalidTracingConfig (reason : String)
  | adapter (e : AttestationAdapterError)
  | signer (e : SignerError)
  deriving DecidableEq

/-- What is used of the `toml`, `tendermint_rpc` and `solana_sdk` crates, and of the file
system, when the configuration is loaded. -/
structure ConfigCrates where
  Value : Type
  fromStr : String → Except String (RawConfig Value)
  evmAdapterConfig : Value → Except String EvmAdapterConfig
  solanaAdapterConfig : Value → Except String SolanaAdapterConfig
  cosmosAdapterConfig : Value → Except String CosmosAdapterConfig
  localSignerConfig : Value → Except String LocalSignerConfig
  remoteSignerConfig : Value → Except String RemoteSignerConfig
  /-- `HttpClient::new`. -/
  httpClientNew : String → Except String Unit
  /-- `Pubkey::from_str`. -/
  pubkeyFromStr : String → Except String Pubkey
  /-- `f64` as text. -/
  displayF64 : F64 → String
  /-- `fs::read_to_string`. -/
  readToString : String → Except String String

inductive ChainType where
  | evm
  | solana
  | cosmos
  deriving DecidableEq

inductive SignerType where
  | localSigner
  | remoteSigner
  deriving DecidableEq

section Build

variable (k : ConfigCrates)

def EvmAdapter.build (config : EvmAdapterConfig) : Except AttestationAdapterError EvmAdapter :=
  .ok ⟨config⟩

def SolanaAdapter.build (config : SolanaAdapterConfig) :
    Except AttestationAdapterError SolanaAdapter := do
  let routerProgramId ← (k.pubkeyFromStr config.routerProgramId).mapError fun err =>
    AttestationAdapterError.configError
      s!"Invalid router program ID {config.routerProgramId}: {err}"
  return ⟨routerProgramId⟩

def CosmosAdapter.build (config : CosmosAdapterConfig) :
    Except AttestationAdapterError CosmosAdapter := do
  (k.httpClientNew config.url).mapError fun err =>
    AttestationAdapterError.configError s!"Cosmos client couldn't be initialized: {err}"
  return ⟨⟩

def RemoteSigner.build (config : RemoteSignerConfig) : Except SignerError RemoteSigner :=
  .ok ⟨config.endpoint, config.walletId, config.serviceAccountTokenPath⟩

/-- The adapter of the section, parsed and built for the type of the chain. -/
def buildAdapter (value : k.Value) : ChainType → Except ConfigError AdapterEnum
  | .evm => do
    let config ← (k.evmAdapterConfig value).mapError .toml
    ((EvmAdapter.build config).map .evm).mapError .adapter
  | .solana => do
    let config ← (k.solanaAdapterConfig value).mapError .toml
    ((SolanaAdapter.build k config).map .solana).mapError .adapter
  | .cosmos => do
    let config ← (k.cosmosAdapterConfig value).mapError .toml
    ((CosmosAdapter.build k config).map .cosmos).mapError .adapter

variable {c : Crates} (host : Host c)

/-- The signer of the section, parsed and built for the type of the signer. -/
def buildSigner (value : k.Value) : SignerType → Except ConfigError (SignerEnum c)
  | .localSigner => do
    let config ← (k.localSignerConfig value).mapError .toml
    ((LocalSigner.build host config).map .localSigner).mapError .signer
  | .remoteSigner => do
    let config ← (k.remoteSignerConfig value).mapError .toml
    ((RemoteSigner.build config).map .remoteSigner).mapError .signer

def TracingConfig.validate (self : TracingConfig) : Except ConfigError TracingConfig :=
  if !self.sampleRate.isFinite || !(0 ≤ self.sampleRate.value && self.sampleRate.value ≤ 1) then
    .error (.invalidTracingConfig
      s!"`tracing.sample_rate` must be a finite value in [0.0, 1.0], got {
        k.displayF64 self.sampleRate}")
  else .ok self

end Build

structure RuntimeConfig (c : Crates) where
  server : ServerConfig
  adapter : AdapterEnum
  signer : SignerEnum c
  tracing : Option TracingConfig

variable {c : Crates} (k : ConfigCrates) (host : Host c)

def RuntimeConfig.fromFile (path : String) (chainType : ChainType) (signerType : SignerType) :
    Except ConfigError (RuntimeConfig c) := do
  let contents ← (k.readToString path).mapError fun e => ConfigError.io path e
  let raw ← (k.fromStr contents).mapError ConfigError.toml
  let adapter ← buildAdapter k raw.adapter chainType
  let signer ← buildSigner k host raw.signer signerType
  let tracing ← match raw.tracing with
    | some tracing => (tracing.validate k).map some
    | none => .ok none
  return ⟨raw.server, adapter, signer, tracing⟩

variable {k host}

/-- What a sequence that succeeds has gone through. -/
theorem exists_of_bind_ok {α β ε : Type} {x : Except ε α} {f : α → Except ε β} {b : β}
    (h : (x >>= f) = .ok b) : ∃ a, x = .ok a ∧ f a = .ok b := by
  cases x with
  | error e => cases h
  | ok a => exact ⟨a, rfl, h⟩

theorem ok_of_mapError_ok {α ε ε' : Type} {x : Except ε α} {err : ε → ε'} {a : α}
    (h : x.mapError err = .ok a) : x = .ok a := by
  cases x with
  | error e => cases h
  | ok b =>
    cases h
    rfl

theorem exists_of_map_ok {α β ε : Type} {x : Except ε α} {f : α → β} {b : β}
    (h : x.map f = .ok b) : ∃ a, x = .ok a ∧ b = f a := by
  cases x with
  | error e => cases h
  | ok a =>
    cases h
    exact ⟨a, rfl, rfl⟩

/-- A section that was built had been parsed before. -/
theorem built_ok {α β γ ε : Type} {x : Except String α} {build : α → Except ε β} {wrap : β → γ}
    {err : ε → ConfigError} {b : γ}
    (h : (x.mapError ConfigError.toml >>= fun config =>
      ((build config).map wrap).mapError err) = .ok b) :
    ∃ config v, x = .ok config ∧ build config = .ok v ∧ b = wrap v := by
  obtain ⟨config, hparsed, hbuilt⟩ := exists_of_bind_ok h
  obtain ⟨v, hv, hwrap⟩ := exists_of_map_ok (ok_of_mapError_ok hbuilt)
  exact ⟨config, v, ok_of_mapError_ok hparsed, hv, hwrap⟩

/-- The chain type of an adapter. -/
def AdapterEnum.chainType : AdapterEnum → ChainType
  | .evm _ => .evm
  | .solana _ => .solana
  | .cosmos _ => .cosmos

theorem buildAdapter_chainType {value : k.Value} {chainType : ChainType} {adapter : AdapterEnum}
    (h : buildAdapter k value chainType = .ok adapter) : adapter.chainType = chainType := by
  cases chainType <;> obtain ⟨config, a, -, -, rfl⟩ := built_ok h <;> rfl

/-- The type of a signer. -/
def SignerEnum.signerType : SignerEnum c → SignerType
  | .localSigner _ => .localSigner
  | .remoteSigner _ => .remoteSigner

theorem buildSigner_signerType {value : k.Value} {signerType : SignerType} {signer : SignerEnum c}
    (h : buildSigner k host value signerType = .ok signer) : signer.signerType = signerType := by
  cases signerType <;> obtain ⟨config, s, -, -, rfl⟩ := built_ok h <;> rfl

/-- A local signer is built from the key in the file that its section names. -/
theorem buildSigner_local {value : k.Value} {signer : SignerEnum c}
    (h : buildSigner k host value .localSigner = .ok signer) : ∃ config file key,
      k.localSignerConfig value = .ok config ∧
      withExpandedHome host (keystoreAt host config.keystorePath) = .ok file ∧
      host.readFromKeystore file = .ok key ∧ signer = .localSigner ⟨key⟩ := by
  obtain ⟨config, s, hparsed, hbuilt, rfl⟩ := built_ok h
  obtain ⟨file, hfile, hread⟩ := exists_of_bind_ok hbuilt
  obtain ⟨key, hkey, hs⟩ := exists_of_bind_ok hread
  cases hs
  exact ⟨config, file, key, hparsed, hfile, ok_of_mapError_ok hkey, rfl⟩

theorem buildSigner_remote {value : k.Value} {signer : SignerEnum c}
    (h : buildSigner k host value .remoteSigner = .ok signer) : ∃ config,
      k.remoteSignerConfig value = .ok config ∧ signer = .remoteSigner
        ⟨config.endpoint, config.walletId, config.serviceAccountTokenPath⟩ := by
  obtain ⟨config, s, hparsed, hbuilt, rfl⟩ := built_ok h
  cases hbuilt
  exact ⟨config, hparsed, rfl⟩

theorem validate_ok {tracing tracing' : TracingConfig} : tracing.validate k = .ok tracing' ↔
    tracing' = tracing ∧ tracing.sampleRate.isFinite = true ∧
      0 ≤ tracing.sampleRate.value ∧ tracing.sampleRate.value ≤ 1 := by
  unfold TracingConfig.validate
  split_ifs with hbad
  · simp only [Bool.or_eq_true, Bool.not_eq_true', Bool.and_eq_false_iff,
      decide_eq_false_iff_not] at hbad
    apply iff_of_false (by simp)
    rintro ⟨-, hfinite, hlow, hhigh⟩
    rcases hbad with hbad | hbad | hbad
    · rw [hfinite] at hbad
      cases hbad
    · exact hbad hlow
    · exact hbad hhigh
  · simp only [Bool.or_eq_true, not_or, Bool.not_eq_true, Bool.not_eq_false', Bool.and_eq_true,
      decide_eq_true_eq] at hbad
    rw [Except.ok.injEq]
    exact ⟨fun h => ⟨h.symm, hbad.1, hbad.2⟩, fun h => h.1.symm⟩

/-- What a configuration that was loaded was made of. -/
theorem fromFile_ok {path : String} {chainType : ChainType} {signerType : SignerType}
    {config : RuntimeConfig c}
    (h : RuntimeConfig.fromFile k host path chainType signerType = .ok config) :
    ∃ contents raw, k.readToString path = .ok contents ∧ k.fromStr contents = .ok raw ∧
      buildAdapter k raw.adapter chainType = .ok config.adapter ∧
      buildSigner k host raw.signer signerType = .ok config.signer ∧
      config.server = raw.server ∧ config.tracing = raw.tracing := by
  obtain ⟨contents, hread, h⟩ := exists_of_bind_ok h
  obtain ⟨raw, hraw, h⟩ := exists_of_bind_ok h
  obtain ⟨adapter, hadapter, h⟩ := exists_of_bind_ok h
  obtain ⟨signer, hsigner, h⟩ := exists_of_bind_ok h
  refine ⟨contents, raw, ok_of_mapError_ok hread, ok_of_mapError_ok hraw, ?_⟩
  cases htracing : raw.tracing with
  | none =>
    simp only [htracing] at h
    cases h
    exact ⟨hadapter, hsigner, rfl, rfl⟩
  | some tracing =>
    simp only [htracing] at h
    obtain ⟨kept, hkept, h⟩ := exists_of_bind_ok h
    obtain ⟨tracing', hvalid, rfl⟩ := exists_of_map_ok hkept
    cases h
    exact ⟨hadapter, hsigner, rfl, congrArg some (validate_ok.mp hvalid).1⟩

end IbcAttestor
