import IbcAttestor.Rpc.Value

/-!
# Confirmations on an EVM chain

With a finality offset the adapter subtracts the offset from the latest block number,
and stops at zero: while the chain is shorter than the offset, the genesis block is
reported as finalized although no block is.
-/

namespace IbcAttestor

open Cooperative

variable {c : Crates} {retry : TokioRetry} {a : AdapterEnum} {height : UInt64}
  {t t' : Trace node Metric}

theorem validateHeight_replied {r : Except AttestorError Unit} {x : a.heightQuery.op.Val}
    (h : Completes (validateHeight (a.adapter c retry) height).run t r)
    (hx : Replied t [] (.chain a.heightQuery.op) (.ok x)) :
    r = (a.heightQuery.check x).mapError AttestorError.adapterError >>= fun finalized =>
      heightVerdict finalized height := by
  rcases completes_validateHeight.mp h with ⟨e, he, rfl⟩ | ⟨f, t₁, rfl, hf, rfl⟩
  · rw [← AdapterEnum.completes_height_replied he hx]
    rfl
  · have hx₁ : Replied t₁ [] (.chain a.heightQuery.op) (.ok x) := by simpa [Replied] using hx
    rw [← AdapterEnum.completes_height_replied hf hx₁]
    rfl

theorem latestHeight_replied {signer : Signer node} {request : LatestHeightRequest}
    {r : Except Status LatestHeightResponse} {x : a.heightQuery.op.Val}
    (h : Completes (AttestorService.latestHeight ⟨a.adapter c retry, signer⟩ request).run t r)
    (hx : Replied t [] (.chain a.heightQuery.op) (.ok x)) :
    r = ((a.heightQuery.check x).mapError fun e => Status.ofAttestorError (.adapterError e)).map
      LatestHeightResponse.mk := by
  unfold AttestorService.latestHeight at h
  rcases completes_bindOk.mp h with ⟨_, he, rfl⟩ | ⟨f, t₁, t₂, rfl, h₁, h₂⟩
  · obtain ⟨e, hheight, rfl⟩ := completes_mapErr_error.mp he
    rw [← AdapterEnum.completes_height_replied hheight hx]
    rfl
  · obtain ⟨rfl, h₂⟩ := h₂
    cases h₂
    rw [List.append_nil] at hx
    rw [← AdapterEnum.completes_height_replied (completes_mapErr_ok.mp h₁) hx]
    rfl

theorem exists_validateHeight (c : Crates) (retry : TokioRetry) (a : AdapterEnum)
    (height : UInt64) (x : a.heightQuery.op.Val) : ∃ t r,
    Completes (validateHeight (a.adapter c retry) height).run t r ∧
      Replied t [] (.chain a.heightQuery.op) (.ok x) := by
  obtain ⟨t, hrun, hx⟩ := a.completes_height_answered c retry x
  cases hcheck : a.heightQuery.check x with
  | error e =>
    rw [hcheck] at hrun
    exact ⟨t, _, completes_validateHeight.mpr (.inl ⟨e, hrun, rfl⟩), hx⟩
  | ok f =>
    rw [hcheck] at hrun
    exact ⟨_, _, completes_validateHeight.mpr (.inr ⟨f, t, rfl, hrun, rfl⟩),
      replied_append.mpr (.inl hx)⟩

theorem exists_latestHeight (c : Crates) (retry : TokioRetry) (a : AdapterEnum)
    (signer : Signer node) (request : LatestHeightRequest) (x : a.heightQuery.op.Val) : ∃ t r,
    Completes (AttestorService.latestHeight ⟨a.adapter c retry, signer⟩ request).run t r ∧
      Replied t [] (.chain a.heightQuery.op) (.ok x) := by
  obtain ⟨t, hrun, hx⟩ := a.completes_height_answered c retry x
  unfold AttestorService.latestHeight
  cases hcheck : a.heightQuery.check x with
  | error e =>
    rw [hcheck] at hrun
    exact ⟨t, _, completes_bindOk.mpr
      (.inl ⟨_, completes_mapErr_error.mpr ⟨e, hrun, rfl⟩, rfl⟩), hx⟩
  | ok f =>
    rw [hcheck] at hrun
    exact ⟨t ++ [], _, completes_bindOk.mpr (.inr ⟨f, t, [], rfl, completes_mapErr_ok.mpr hrun,
      rfl, rfl⟩), replied_append.mpr (.inl hx)⟩

theorem u64SaturatingSub_toNat (m n : UInt64) :
    (u64SaturatingSub m n).toNat = m.toNat - n.toNat := by
  unfold u64SaturatingSub
  split_ifs with h
  · exact UInt64.toNat_sub_of_le m n h
  · have hlt : m.toNat < n.toNat := UInt64.lt_iff_toNat_lt.mp (UInt64.not_le.mp h)
    rw [Nat.sub_eq_zero_of_le hlt.le]
    rfl

/-- With an offset of `offset` and a latest block numbered `latest`, the validation of
`height` and the reported height leave `offset` blocks on top. -/
structure Confirmed (offset latest height : UInt64) (validated : Except AttestorError Unit)
    (reported : Except Status LatestHeightResponse) : Prop where
  validated_iff : validated = .ok () ↔ height.toNat + offset.toNat ≤ latest.toNat
  reported_eq : ∀ n, reported = .ok ⟨n⟩ → n.toNat + offset.toNat = latest.toNat
  early : latest < offset → ∃ e, reported = .error e

theorem confirmed_iff {offset latest height : UInt64} :
    Confirmed offset latest height (heightVerdict (u64SaturatingSub latest offset) height)
      (.ok ⟨u64SaturatingSub latest offset⟩) ↔ offset ≤ latest := by
  have hsub := u64SaturatingSub_toNat latest offset
  constructor
  · intro h
    have heq := h.reported_eq _ rfl
    rw [hsub] at heq
    rw [UInt64.le_iff_toNat_le]
    omega
  · intro hle
    rw [UInt64.le_iff_toNat_le] at hle
    refine ⟨?_, ?_, ?_⟩
    · rw [heightVerdict_ok, UInt64.le_iff_toNat_le, hsub]
      omega
    · intro n hn
      cases hn
      rw [hsub]
      omega
    · intro hlt
      rw [UInt64.lt_iff_toNat_lt] at hlt
      omega

/-- The offset is a number of confirmations from the moment the chain is longer than it. -/
theorem finality_offset {evm : EvmAdapter} {offset : UInt64} {block : EvmBlock}
    {signer : Signer node} {request : LatestHeightRequest} {validated : Except AttestorError Unit}
    {reported : Except Status LatestHeightResponse}
    (hoffset : evm.config.finalityOffset = some offset)
    (hvalidated : Completes (validateHeight ((AdapterEnum.evm evm).adapter c retry) height).run t
      validated)
    (hblock : Replied t [] (.chain (.getBlock .latest)) (.ok (some block)))
    (hreported : Completes (AttestorService.latestHeight
      ⟨(AdapterEnum.evm evm).adapter c retry, signer⟩ request).run t' reported)
    (hblock' : Replied t' [] (.chain (.getBlock .latest)) (.ok (some block))) :
    Confirmed offset block.number height validated reported ↔ offset ≤ block.number := by
  obtain ⟨⟨router, finalityOffset⟩⟩ := evm
  obtain rfl : finalityOffset = some offset := hoffset
  have hcheck : (AdapterEnum.evm ⟨⟨router, some offset⟩⟩).heightQuery.check (some block) =
      .ok (u64SaturatingSub block.number offset) := rfl
  have hv := validateHeight_replied hvalidated hblock
  have hr := latestHeight_replied hreported hblock'
  rw [hcheck] at hv hr
  subst hv hr
  exact confirmed_iff

def sampleOffsetEvm : EvmAdapter := ⟨⟨sampleAddress, some 1⟩⟩

theorem sampleOffsetEvm_runs (block : EvmBlock) (height : UInt64) (signer : Signer node) :
    ∃ t t' validated reported,
      Completes (validateHeight ((AdapterEnum.evm sampleOffsetEvm).adapter sampleCrates tokioRetry)
        height).run t validated ∧
      Replied t [] (.chain (.getBlock .latest)) (.ok (some block)) ∧
      Completes (AttestorService.latestHeight
        ⟨(AdapterEnum.evm sampleOffsetEvm).adapter sampleCrates tokioRetry, signer⟩ {}).run t'
          reported ∧
      Replied t' [] (.chain (.getBlock .latest)) (.ok (some block)) := by
  obtain ⟨t, validated, hvalidated, hblock⟩ := exists_validateHeight sampleCrates tokioRetry
    (.evm sampleOffsetEvm) height (some block)
  obtain ⟨t', reported, hreported, hblock'⟩ := exists_latestHeight sampleCrates tokioRetry
    (.evm sampleOffsetEvm) signer {} (some block)
  exact ⟨t, t', validated, reported, hvalidated, hblock, hreported, hblock'⟩

theorem finality_offset_sample :
    ∃ validated reported, Confirmed 1 120 119 validated reported := by
  obtain ⟨t, t', validated, reported, hvalidated, hblock, hreported, hblock'⟩ :=
    sampleOffsetEvm_runs ⟨120, 1700000000⟩ 119 sampleLocalSigner.signer
  exact ⟨validated, reported,
    (finality_offset rfl hvalidated hblock hreported hblock').mpr (by decide)⟩

/-- The genesis block is the only one, and is reported and accepted as finalized. -/
theorem finality_offset_genesis : ∃ t t' validated reported,
    Completes (validateHeight ((AdapterEnum.evm sampleOffsetEvm).adapter sampleCrates tokioRetry)
      0).run t validated ∧
    Replied t [] (.chain (.getBlock .latest)) (.ok (some ⟨0, 1700000000⟩)) ∧
    Completes (AttestorService.latestHeight ⟨(AdapterEnum.evm sampleOffsetEvm).adapter sampleCrates
      tokioRetry, sampleLocalSigner.signer⟩ {}).run t' reported ∧
    Replied t' [] (.chain (.getBlock .latest)) (.ok (some ⟨0, 1700000000⟩)) ∧
    validated = .ok () ∧ reported = .ok ⟨0⟩ ∧ ¬ Confirmed 1 0 0 validated reported := by
  obtain ⟨t, t', validated, reported, hvalidated, hblock, hreported, hblock'⟩ :=
    sampleOffsetEvm_runs ⟨0, 1700000000⟩ 0 sampleLocalSigner.signer
  have hv : validated = .ok () := validateHeight_replied hvalidated hblock
  have hr : reported = .ok ⟨0⟩ := latestHeight_replied hreported hblock'
  refine ⟨t, t', validated, reported, hvalidated, hblock, hreported, hblock', hv, hr, ?_⟩
  intro hconfirmed
  exact absurd (hconfirmed.validated_iff.mp hv) (by decide)

end IbcAttestor
