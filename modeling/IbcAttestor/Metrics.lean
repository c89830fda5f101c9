import IbcAttestor.Error

/-!
# Metrics

The recording functions are effects of the service; `Metrics.record` is what each
does to the registry once `init` has set it. Request durations are left out.
-/

namespace IbcAttestor

/-- A call of one of the recording functions. -/
inductive Metric where
  | recordRpcRequest (method code : String)
  | observeHeightLag (lagBlocks : ℤ)
  | incHeightRejections
  | incCommitmentFailure (kind : String)
  | incRetryFailure (op : String)
  | setAdapterFinalizedHeight (height : UInt64)
  | incSignerSign (result : String)
  deriving DecidableEq

structure Metrics where
  rpcRequestsTotal : String → String → ℕ
  attestationHeightLagBlocks : List ℤ
  heightValidationRejectionsTotal : ℕ
  commitmentValidationFailuresTotal : String → ℕ
  adapterRetryFailuresTotal : String → ℕ
  adapterFinalizedHeight : ℤ
  signerSignsTotal : String → ℕ

namespace Metrics

/-- The registry as `init` leaves it. -/
def new : Metrics := ⟨fun _ _ => 0, [], 0, fun _ => 0, fun _ => 0, 0, fun _ => 0⟩

def incAt (v : String → ℕ) (label : String) : String → ℕ :=
  fun l => v l + if l = label then 1 else 0

def record : Metric → Metrics → Metrics
  | .recordRpcRequest method code, m =>
    { m with rpcRequestsTotal := fun me co =>
        m.rpcRequestsTotal me co + if me = method ∧ co = code then 1 else 0 }
  | .observeHeightLag lag, m =>
    { m with attestationHeightLagBlocks := m.attestationHeightLagBlocks ++ [lag] }
  | .incHeightRejections, m =>
    { m with heightValidationRejectionsTotal := m.heightValidationRejectionsTotal + 1 }
  | .incCommitmentFailure kind, m =>
    { m with commitmentValidationFailuresTotal :=
        incAt m.commitmentValidationFailuresTotal kind }
  | .incRetryFailure op, m =>
    { m with adapterRetryFailuresTotal := incAt m.adapterRetryFailuresTotal op }
  | .setAdapterFinalizedHeight height, m => { m with adapterFinalizedHeight := i64OfU64 height }
  | .incSignerSign result, m => { m with signerSignsTotal := incAt m.signerSignsTotal result }

end Metrics

/-- `u8::is_ascii_uppercase`. -/
def isAsciiUppercase (b : UInt8) : Bool := 65 ≤ b && b ≤ 90

/-- `u8::to_ascii_lowercase`. -/
def toAsciiLowercase (b : UInt8) : UInt8 := if isAsciiUppercase b then b + 32 else b

def pascalToSnake (s : String) : String :=
  String.ofList ((utf8 s).zipIdx.flatMap fun (b, i) =>
    let lower := Char.ofNat (toAsciiLowercase b).toNat
    if isAsciiUppercase b ∧ i ≠ 0 then ['_', lower] else [lower])

def codeLabel (code : Code) : String := pascalToSnake code.debug

theorem codeLabel_injective : Function.Injective codeLabel := by
  intro a b h
  cases a <;> cases b <;> first | rfl | exact absurd h (by decide)

example : codeLabel .failedPrecondition = "failed_precondition" := by decide

end IbcAttestor
