import Mathlib.Tactic

/-!
# Byte strings and words

`Vec<u8>` and `&[u8]` are lists of bytes; `[u8; 32]` and `[u8; 20]` carry their
length. Integers keep the widths they have in the source.
-/

namespace IbcAttestor

abbrev Bytes := List UInt8

/-- `[u8; 32]`, also `B256`. -/
@[ext] structure Bytes32 where
  bytes : Bytes
  length_bytes : bytes.length = 32
  deriving DecidableEq

@[ext] structure Address where
  bytes : Bytes
  length_bytes : bytes.length = 20
  deriving DecidableEq

namespace Bytes32

def zero : Bytes32 := ⟨List.replicate 32 0, by simp⟩

/-- `Vec<u8>::try_into::<[u8; 32]>`. -/
def tryFrom (b : Bytes) : Option Bytes32 :=
  if h : b.length = 32 then some ⟨b, h⟩ else none

theorem tryFrom_eq_some {b : Bytes} {w : Bytes32} : tryFrom b = some w ↔ b = w.bytes := by
  unfold tryFrom
  split_ifs with h
  · simp [Bytes32.ext_iff]
  · simp only [false_iff]
    rintro rfl
    exact h w.length_bytes

@[simp] theorem tryFrom_bytes (w : Bytes32) : tryFrom w.bytes = some w :=
  tryFrom_eq_some.mpr rfl

theorem bytes_ne_nil (w : Bytes32) : w.bytes ≠ [] := by
  intro h
  have := w.length_bytes
  simp [h] at this

end Bytes32

def utf8 (s : String) : Bytes := s.toByteArray.data.toList

theorem utf8_injective : Function.Injective utf8 := by
  intro s t h
  rw [← String.toByteArray_inj]
  exact ByteArray.ext (Array.toList_inj.mp h)

/-- `u64::to_be_bytes`. -/
def beBytes (n : UInt64) : Bytes :=
  [56, 48, 40, 32, 24, 16, 8, 0].map fun s => UInt8.ofNat (n.toNat / 2 ^ s)

@[simp] theorem length_beBytes (n : UInt64) : (beBytes n).length = 8 := rfl

theorem div_two_pow_eq {m n s : ℕ} (hup : m / 2 ^ (s + 8) = n / 2 ^ (s + 8))
    (hbyte : m / 2 ^ s % 256 = n / 2 ^ s % 256) : m / 2 ^ s = n / 2 ^ s := by
  rw [pow_add, ← Nat.div_div_eq_div_mul, ← Nat.div_div_eq_div_mul] at hup
  omega

theorem beBytes_injective : Function.Injective beBytes := by
  intro m n h
  simp only [beBytes, List.map_cons, List.map_nil, List.cons.injEq, ← UInt8.toNat_inj,
    UInt8.toNat_ofNat', and_true] at h
  obtain ⟨h7, h6, h5, h4, h3, h2, h1, h0⟩ := h
  have h8 : m.toNat / 2 ^ (56 + 8) = n.toNat / 2 ^ (56 + 8) := by
    rw [Nat.div_eq_of_lt m.toNat_lt, Nat.div_eq_of_lt n.toNat_lt]
  have hm := div_two_pow_eq (div_two_pow_eq (div_two_pow_eq (div_two_pow_eq (div_two_pow_eq
    (div_two_pow_eq (div_two_pow_eq (div_two_pow_eq h8 h7) h6) h5) h4) h3) h2) h1) h0
  simpa [UInt64.toNat_inj] using hm

/-- `i64::try_from(n).unwrap_or(i64::MAX)`. -/
def i64OfU64 (n : UInt64) : ℤ := min n.toNat (2 ^ 63 - 1)

/-- `i64::saturating_sub`. -/
def i64SaturatingSub (a b : ℤ) : ℤ := max (-2 ^ 63) (min (2 ^ 63 - 1) (a - b))

/-- `u64::try_from` of an `i64`. -/
def u64TryFromI64 (n : Int64) : Except String UInt64 :=
  if n < 0 then .error "out of range integral type conversion attempted" else .ok n.toUInt64

/-- `u8::saturating_sub`. -/
def u8SaturatingSub (a b : UInt8) : UInt8 := if b ≤ a then a - b else 0

/-- `u64::saturating_sub`. -/
def u64SaturatingSub (a b : UInt64) : UInt64 := if b ≤ a then a - b else 0

end IbcAttestor
