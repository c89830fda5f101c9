import IbcAttestor.Basic.Crates

/-!
# A concrete instance of the crates

The ABI layouts of the two attestations and the signature format, written out
with their round trips; hashes, packets and ECDSA signatures by a table of the
values of one sample packet, attested at height 100 and signed with the key 1.
-/

namespace IbcAttestor

/-- Big-endian digits of a number in base 256. -/
def beDigits : ℕ → ℕ → Bytes
  | 0, _ => []
  | k + 1, n => beDigits k (n / 256) ++ [UInt8.ofNat n]

def beValue (b : Bytes) : ℕ := b.foldl (fun acc x => acc * 256 + x.toNat) 0

@[simp] theorem length_beDigits (k n : ℕ) : (beDigits k n).length = k := by
  induction k generalizing n with
  | zero => rfl
  | succ k ih => simp [beDigits, ih]

theorem beValue_beDigits (k n : ℕ) : beValue (beDigits k n) = n % 256 ^ k := by
  induction k generalizing n with
  | zero => simp [beDigits, beValue, Nat.mod_one]
  | succ k ih =>
    have hsplit : n % 256 ^ (k + 1) = n / 256 % 256 ^ k * 256 + n % 256 := by
      rw [pow_succ', Nat.mod_mul]
      ring
    have hlast : beValue (beDigits (k + 1) n) =
        beValue (beDigits k (n / 256)) * 256 + n % 256 := by
      simp [beDigits, beValue]
    rw [hlast, ih, hsplit]

/-- A 256-bit word of the ABI. -/
def abiWord (n : ℕ) : Bytes := beDigits 32 n

@[simp] theorem length_abiWord (n : ℕ) : (abiWord n).length = 32 := length_beDigits 32 n

def Bytes32.ofNat (n : ℕ) : Bytes32 := ⟨abiWord n, length_abiWord n⟩

def abiUInt64 (b : Bytes) : UInt64 := UInt64.ofNat (beValue b)

@[simp] theorem abiUInt64_abiWord (n : UInt64) : abiUInt64 (abiWord n.toNat) = n := by
  have hlt : n.toNat < 256 ^ 32 := n.toNat_lt.trans (by norm_num)
  rw [abiUInt64, abiWord, beValue_beDigits, Nat.mod_eq_of_lt hlt, UInt64.ofNat_toNat]

def encodeState (a : StateAttestation) : Bytes :=
  abiWord a.height.toNat ++ abiWord a.timestamp.toNat

def decodeState (b : Bytes) : Except AbiError StateAttestation :=
  .ok ⟨abiUInt64 (b.take 32), abiUInt64 (b.drop 32)⟩

theorem decodeState_encodeState (a : StateAttestation) : decodeState (encodeState a) = .ok a := by
  simp [decodeState, encodeState]

def encodeEntry (e : PacketCompact) : Bytes := e.path.bytes ++ e.commitment.bytes

def encodePackets (a : PacketAttestation) : Bytes :=
  abiWord 0x20 ++ abiWord a.height.toNat ++ abiWord 0x40 ++ abiWord a.packets.length ++
    a.packets.flatMap encodeEntry

/-- Entries of 64 bytes each. -/
def decodeEntries : ℕ → Bytes → Option (List PacketCompact)
  | 0, _ => some []
  | n + 1, b => do
    let path ← Bytes32.tryFrom (b.take 32)
    let commitment ← Bytes32.tryFrom ((b.drop 32).take 32)
    return ⟨path, commitment⟩ :: (← decodeEntries n (b.drop 64))

def decodePackets (b : Bytes) : Except AbiError PacketAttestation :=
  match decodeEntries ((b.length - 128) / 64) (b.drop 128) with
  | some entries => .ok ⟨abiUInt64 ((b.drop 32).take 32), entries⟩
  | none => .error "buffer overrun while deserializing"

@[simp] theorem length_encodeEntry (e : PacketCompact) : (encodeEntry e).length = 64 := by
  simp [encodeEntry, e.path.length_bytes, e.commitment.length_bytes]

theorem decodeEntries_encode (es : List PacketCompact) :
    decodeEntries es.length (es.flatMap encodeEntry) = some es := by
  induction es with
  | nil => rfl
  | cons e es ih =>
    have hpath := e.path.length_bytes
    have hcommitment := e.commitment.length_bytes
    have hrest : ((e :: es).flatMap encodeEntry).drop 64 = es.flatMap encodeEntry :=
      List.drop_left' (length_encodeEntry e)
    rw [List.length_cons, decodeEntries, hrest, ih]
    simp [encodeEntry, hpath, hcommitment]

theorem decodePackets_encodePackets (a : PacketAttestation) :
    decodePackets (encodePackets a) = .ok a := by
  have hlength : ((encodePackets a).length - 128) / 64 = a.packets.length := by
    simp [encodePackets]
    omega
  have hbody : (encodePackets a).drop 128 = a.packets.flatMap encodeEntry :=
    List.drop_left' (by simp)
  have hheight : ((encodePackets a).drop 32).take 32 = abiWord a.height.toNat := by
    simp [encodePackets]
  rw [decodePackets, hlength, hbody, decodeEntries_encode, hheight]
  simp

def parseSignature (b : Bytes) : Except String Signature :=
  match Bytes32.tryFrom (b.take 32), Bytes32.tryFrom ((b.drop 32).take 32), b.drop 64 with
  | some r, some s, [v] =>
    match normalizeV v with
    | some yParity => .ok ⟨r, s, yParity⟩
    | none => .error s!"invalid parity: {v}"
  | _, _, _ => .error "invalid signature length"

def writeSignature (σ : Signature) : Bytes :=
  σ.r.bytes ++ σ.s.bytes ++ [if σ.yParity then 28 else 27]

theorem parseSignature_ok (b : Bytes) (σ : Signature) : parseSignature b = .ok σ ↔
    ∃ v, b = σ.r.bytes ++ σ.s.bytes ++ [v] ∧ normalizeV v = some σ.yParity := by
  constructor
  · intro h
    unfold parseSignature at h
    split at h
    case h_2 => cases h
    case h_1 r s v hr hs hv =>
      rw [Bytes32.tryFrom_eq_some] at hr hs
      split at h
      case h_2 => cases h
      case h_1 yParity hy =>
        cases h
        refine ⟨v, ?_, hy⟩
        have hdrop : b.drop 64 = (b.drop 32).drop 32 := by rw [List.drop_drop]
        rw [← hr, ← hs, ← hv, hdrop, List.append_assoc, List.take_append_drop,
          List.take_append_drop]
  · rintro ⟨v, rfl, hv⟩
    have hrest : (σ.r.bytes ++ σ.s.bytes ++ [v]).drop 64 = [v] :=
      List.drop_left' (by simp [σ.r.length_bytes, σ.s.length_bytes])
    rw [parseSignature, hrest]
    simp [σ.r.length_bytes, σ.s.length_bytes, hv]

def hexDigit (n : ℕ) : Char := "0123456789abcdef".toList.getD n '0'

def hexString (b : Bytes) : String :=
  String.ofList (b.flatMap fun x => [hexDigit (x.toNat / 16), hexDigit (x.toNat % 16)])

def samplePacket : Packet := ⟨7, "client-0", "client-1", 1700000000, []⟩

def samplePacketEncoded : Bytes :=
  [0x20, 7, 0xa0, 0xe0, 1700000000, 0x120, 8].flatMap abiWord ++
    utf8 "client-0" ++ List.replicate 24 0 ++ abiWord 8 ++ utf8 "client-1" ++
    List.replicate 24 0 ++ abiWord 0

def sampleCommitment : Bytes32 :=
  .ofNat 0x6027ad54799fd71b4ade7047da9a5765e28201e293a84895b8ad36ea940fd88a

def samplePathHash : Bytes32 :=
  .ofNat 0xd2736dc08e5d9f425ac62b28b1e43c4c83edfa4ebe41f2ca0b7be098cb2dde0e

def samplePackets : PacketAttestation := ⟨100, [⟨samplePathHash, sampleCommitment⟩]⟩

/-- The same entry, stated of height 0. -/
def genesisPackets : PacketAttestation := ⟨0, [⟨samplePathHash, sampleCommitment⟩]⟩

/-- The SHA-256 digests of the two attestations, and of the two signing inputs. -/
def samplePacketsDigest : Bytes32 :=
  .ofNat 0xcede3fd03d1402d52470c2316b2bb5f46efae984ba8f7b7e5d550cd0886eb01a

def samplePacketsPrehash : Bytes32 :=
  .ofNat 0x9deb45fe31963bc6341cb292728d6e526640a35d10c230a9a34bb900426f4f1c

def genesisPacketsDigest : Bytes32 :=
  .ofNat 0x6d34edecb5d8e55349ca5198f7aa32f9885e6cdeedcc94544d7bac4684b75d38

def genesisPacketsPrehash : Bytes32 :=
  .ofNat 0xe816b4b58c30a594148058be977a0931b250652c56faac15c38ca40dd7d36d84

/-- The two signatures made with the key 1. -/
def samplePacketsSignature : Signature where
  r := .ofNat 0xdb07e1ecf4ce34929d738f02bc3b3ac3d6f7bb2b20273b9ebe0a934134cd9510
  s := .ofNat 0x367e7b0cab0bd83230e300900a95eb06319bf60edcbf3dcddb606b3a6b0ff5b0
  yParity := false

def genesisPacketsSignature : Signature where
  r := .ofNat 0x77bcc2aca237333ff30c3da339a549a7bd328f8b6f2198453b684b262736be1c
  s := .ofNat 0x6725d023429bdd105f17ae2a6b12e9a0d864d609fbb927be541693812c8d7a5a
  yParity := false

def sampleAddress : Address :=
  ⟨beDigits 20 0x7e5f4552091a69125d5dfcb7b8c2659029395bdf, length_beDigits _ _⟩

-- The tables are irreducible, so that unfolding a process never compares byte strings.
@[irreducible] def sampleAbiDecode (b : Bytes) : Except AbiError Packet :=
  if b = samplePacketEncoded then .ok samplePacket else .error "type check failed"

theorem sampleAbiDecode_sample : sampleAbiDecode samplePacketEncoded = .ok samplePacket := by
  rw [sampleAbiDecode, if_pos rfl]

@[irreducible] def sampleSha256 (b : Bytes) : Bytes32 :=
  if b = encodePackets samplePackets then samplePacketsDigest
  else if b = 2 :: samplePacketsDigest.bytes then samplePacketsPrehash
  else if b = encodePackets genesisPackets then genesisPacketsDigest
  else if b = 2 :: genesisPacketsDigest.bytes then genesisPacketsPrehash
  else Bytes32.zero

theorem sampleSha256_packets :
    sampleSha256 (encodePackets samplePackets) = samplePacketsDigest := by
  rw [sampleSha256, if_pos rfl]

theorem cons_ne_encodePackets (w : Bytes32) (a : PacketAttestation) :
    2 :: w.bytes ≠ encodePackets a := by
  intro h
  have hlength := congrArg List.length h
  simp [encodePackets, w.length_bytes] at hlength
  omega

theorem sampleSha256_packetsInput :
    sampleSha256 (2 :: samplePacketsDigest.bytes) = samplePacketsPrehash := by
  rw [sampleSha256, if_neg (cons_ne_encodePackets _ _), if_pos rfl]

theorem sampleSha256_genesis :
    sampleSha256 (encodePackets genesisPackets) = genesisPacketsDigest := by
  have hne : encodePackets genesisPackets ≠ encodePackets samplePackets := by
    intro h
    have hdecode := congrArg decodePackets h
    rw [decodePackets_encodePackets, decodePackets_encodePackets] at hdecode
    have hheight := congrArg PacketAttestation.height (Except.ok.inj hdecode)
    exact absurd hheight (by decide)
  rw [sampleSha256, if_neg hne, if_neg (cons_ne_encodePackets _ _).symm, if_pos rfl]

theorem sampleSha256_genesisInput :
    sampleSha256 (2 :: genesisPacketsDigest.bytes) = genesisPacketsPrehash := by
  have hne : 2 :: genesisPacketsDigest.bytes ≠ 2 :: samplePacketsDigest.bytes := by decide
  rw [sampleSha256, if_neg (cons_ne_encodePackets _ _), if_neg hne,
    if_neg (cons_ne_encodePackets _ _), if_pos rfl]

@[irreducible] def sampleKeccak256 (b : Bytes) : Bytes32 :=
  if b = utf8 "client-0" ++ 1 :: beBytes 7 then samplePathHash
  else if b = utf8 "client-1" ++ 3 :: beBytes 7 then
    .ofNat 0x67f388e969c07e776e442c25e3fa824e958e55a5adb897a6e7d0523401103143
  else if b = utf8 "client-1" ++ 2 :: beBytes 7 then
    .ofNat 0xc92224c50ec400388df69c4366041a1acda5cd076b7654892bd251bbe9533983
  else Bytes32.zero

theorem sampleKeccak256_packet :
    sampleKeccak256 (utf8 "client-0" ++ 1 :: beBytes 7) = samplePathHash := by
  rw [sampleKeccak256, if_pos rfl]

@[irreducible] def sampleSignHash (hash : Bytes32) : Except String Signature :=
  if hash = samplePacketsPrehash then .ok samplePacketsSignature
  else if hash = genesisPacketsPrehash then .ok genesisPacketsSignature
  else .error "unknown digest"

theorem sampleSignHash_packets :
    sampleSignHash samplePacketsPrehash = .ok samplePacketsSignature := by
  rw [sampleSignHash, if_pos rfl]

theorem sampleSignHash_genesis :
    sampleSignHash genesisPacketsPrehash = .ok genesisPacketsSignature := by
  have hne : genesisPacketsPrehash ≠ samplePacketsPrehash := by decide
  rw [sampleSignHash, if_neg hne, if_pos rfl]

theorem sampleHeight_ok (h h' : UInt64) :
    (if h.toNat < 2 ^ 63 then .ok h else .error "integer overflow" : Except String UInt64) = .ok h' ↔
      h' = h ∧ h.toNat < 2 ^ 63 := by
  split_ifs with hlt
  · rw [Except.ok.injEq, and_iff_left hlt, eq_comm]
  · rw [iff_false_right fun h => hlt h.2]
    exact fun h => nomatch h

/-- The Solana program of the sample, and the accounts of the sample packet. -/
def sampleProgramId : Bytes32 := ⟨List.replicate 32 1, by simp⟩

def sampleCommitmentPda : Bytes32 :=
  .ofNat 0xdb93c5a52a4ca2bbafca3f2df79d439cf73dc32927e89fda91650f5635173c76

def sampleAckPda : Bytes32 :=
  .ofNat 0xe332d934d4725b23859df6c67c0a489005c94b6cfd057d794f7aeddd3be827dc

def sampleReceiptPda : Bytes32 :=
  .ofNat 0xdf909d7f65126cb163e0182cb7bd667ef86dc954a610f0ab24636888a74d943c

@[irreducible] def samplePda (client : String) (account : Bytes32 × UInt8) (clientId : String)
    (sequence : UInt64) (program : Bytes32) : Bytes32 × UInt8 :=
  if clientId = client ∧ sequence = 7 ∧ program = sampleProgramId then account
  else (Bytes32.zero, 0)

def samplePathByte : CommitmentType → UInt8
  | .packet => 1
  | .receipt => 2
  | .ack => 3

theorem samplePathByte_injective : Function.Injective samplePathByte := by
  intro a b h
  cases a <;> cases b <;> first | rfl | exact absurd h (by decide)

def sampleCrates : Crates where
  sha256 := sampleSha256
  keccak256 := sampleKeccak256
  hexEncode := hexString
  packetAbiDecode := sampleAbiDecode
  stateAbiEncode := encodeState
  stateAbiDecode := decodeState
  stateAbiDecode_encode := decodeState_encodeState
  packetsAbiEncode := encodePackets
  packetsAbiDecode := decodePackets
  packetsAbiDecode_encode := decodePackets_encodePackets
  commitment p := if p = samplePacket then sampleCommitment.bytes else []
  commitmentPath p := utf8 p.sourceClient ++ samplePathByte .packet :: beBytes p.sequence
  ackCommitmentPath p := utf8 p.destClient ++ samplePathByte .ack :: beBytes p.sequence
  receiptCommitmentPath p := utf8 p.destClient ++ samplePathByte .receipt :: beBytes p.sequence
  pathByte := samplePathByte
  pathByte_injective := samplePathByte_injective
  commitmentPath_eq _ := rfl
  ackCommitmentPath_eq _ := rfl
  receiptCommitmentPath_eq _ := rfl
  heightTryFrom h := if h.toNat < 2 ^ 63 then .ok h else .error "integer overflow"
  heightTryFrom_ok := sampleHeight_ok
  packetCommitmentPda := samplePda "client-0" (sampleCommitmentPda, 254)
  packetAckPda := samplePda "client-1" (sampleAckPda, 254)
  packetReceiptPda := samplePda "client-1" (sampleReceiptPda, 253)
  metadataValueParse s := .ok s
  signatureTryFrom := parseSignature
  signatureTryFrom_ok := parseSignature_ok
  signatureAsBytes := writeSignature
  signatureAsBytes_eq _ := rfl
  PrivateKeySigner := Unit
  address _ := sampleAddress
  signHashSync _ := sampleSignHash
  recoverAddressFromPrehash σ hash :=
    if sampleSignHash hash = .ok σ then .ok sampleAddress else .error "signature recovery failed"
  recover_sign _ _ _ h := if_pos h

end IbcAttestor
