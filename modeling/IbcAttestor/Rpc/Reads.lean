import IbcAttestor.Adapter.Enum
import IbcAttestor.Cooperative.Timed

/-!
# What an attestation was read from

A world says what may be answered to each call at each moment. Behind a returned
attestation there is a report of a finalized height, and not earlier than that the
answers that its data is made of.
-/

namespace IbcAttestor

open Cooperative

variable {M : Type} [Preorder M]

/-- What may be answered at each moment. -/
abbrev World (M : Type) := M → (op : NodeOp) → NodeOp.Ans op → Prop

/-- A query may have the value `v` at a moment. -/
def Reads {α : Type} (world : World M) (m : M) (q : Query α) (v : α) : Prop :=
  ∃ x, world m (.chain q.op) (.ok x) ∧ q.check x = .ok v

/-- At a moment, the adapter may report a finalized height that is not below `height`. -/
def Reported (world : World M) (a : AdapterEnum) (m : M) (height : UInt64) : Prop :=
  ∃ finalized, Reads world m a.heightQuery finalized ∧ height ≤ finalized

variable {c : Crates} {retry : TokioRetry} {world : World M} {a : AdapterEnum}
  {t : Trace node Metric}

theorem AdapterEnum.height_replied {f : UInt64}
    (h : Completes (a.adapter c retry).getLastHeightAtConfiguredFinality.run t (.ok f)) :
    ∃ x, Replied t [] (.chain a.heightQuery.op) (.ok x) ∧ a.heightQuery.check x = .ok f := by
  rcases AdapterEnum.completes_height h with ⟨x, hreply, -, hx⟩ | ⟨-, text, hx⟩
  · exact ⟨x, hreply, hx.symm⟩
  · cases hx

theorem AdapterEnum.lookup_replied {height : UInt64} {kind : CommitmentType} {p : Packet}
    {answer : Option Bytes32}
    (h : Completes (lookup c (a.adapter c retry) height kind p).run t (.ok answer)) :
    ∃ x, Replied t [] (.chain (a.lookupQuery c height kind p).op) (.ok x) ∧
      (a.lookupQuery c height kind p).check x = .ok answer := by
  rw [AdapterEnum.lookup_eq] at h
  obtain ⟨x, hreply, -, hx⟩ := Query.completes_run_ok h
  exact ⟨x, hreply, hx⟩

theorem PacketsRead.reads_during {request : PacketAttestationRequest}
    (v : PacketsRead c (a.adapter c retry) request t) {u : Stamped M node Metric}
    (hu : Observes world u) (ht : u.map Prod.snd = t) (i : Fin v.packets.length) :
    ∃ m n, n ∈ u.map Prod.fst ∧ m ≤ n ∧ Reported world a m request.height ∧
      Reads world n (a.lookupQuery c request.height v.kind (v.packets.get i)) (v.answers i) := by
  obtain ⟨x, hx, hf⟩ := AdapterEnum.height_replied v.read
  obtain ⟨y, hy, hanswer⟩ := AdapterEnum.lookup_replied (v.lookedUp i)
  have hy' := List.mem_cons_of_mem
    ⟨[], .event (.observeHeightLag (heightLag v.finalized request.height))⟩ (replied_child.mp hy)
  obtain ⟨m, n, hmem, hmn, hm, hn⟩ := hu.reply_reply (ht.trans v.trace_eq) hx hy'
  exact ⟨m, n, hmem, hmn, ⟨_, ⟨x, hm, hf⟩, v.height_le⟩, y, hn, hanswer⟩

theorem PacketsRead.reads {request : PacketAttestationRequest}
    (v : PacketsRead c (a.adapter c retry) request t) (ht : Observed world t)
    (i : Fin v.packets.length) : ∃ m n, m ≤ n ∧ Reported world a m request.height ∧
      Reads world n (a.lookupQuery c request.height v.kind (v.packets.get i)) (v.answers i) := by
  obtain ⟨u, hu, ho⟩ := ht
  obtain ⟨m, n, -, hmn, hm, hn⟩ := v.reads_during ho hu i
  exact ⟨m, n, hmn, hm, hn⟩

theorem StateRead.reads {request : StateAttestationRequest} {u : StateAttestation}
    (v : StateRead (a.adapter c retry) request t u) (ht : Observed world t) :
    ∃ m n q, m ≤ n ∧ Reported world a m request.height ∧
      a.timestampQuery c request.height = .ok q ∧ Reads world n q u.timestamp := by
  obtain ⟨-, f, t₁, t₂, rfl, hread, hle, htimestamp⟩ := v
  obtain ⟨x, hx, hf⟩ := AdapterEnum.height_replied hread
  rcases AdapterEnum.completes_timestamp htimestamp with ⟨e, -, -, he⟩ | ⟨q, hq, hrun⟩
  · cases he
  · obtain ⟨y, hy, -, hvalue⟩ := Query.completes_run_ok hrun
    obtain ⟨w, hw, ho⟩ := ht
    obtain ⟨m, n, -, hmn, hm, hn⟩ := ho.reply_reply hw hx (List.mem_cons_of_mem _ hy)
    exact ⟨m, n, q, hmn, ⟨f, ⟨x, hm, hf⟩, hle⟩, hq, y, hn, hvalue⟩

end IbcAttestor
