import IbcAttestor.Rpc.Boundary

/-!
# Batches

The packets of a request are looked up concurrently. The result is that of validating
them one after another, whatever the order in which the lookups come to their ends.
-/

namespace IbcAttestor

open Cooperative

variable (c : Crates) {I : Interface} (A : AttestationAdapter I)

abbrev Item := Packet × Except AttestationAdapterError (Option Bytes32)

/-- Validate the packets one after another, up to the first error. -/
def validateInOrder (kind : CommitmentType) (height : UInt64) :
    List Item → Except AttestorError (List PacketCompact)
  | [] => .ok []
  | (p, answer) :: items => do
    let entry ← packetResult c kind height p answer
    let entries ← validateInOrder kind height items
    return entry :: entries

variable {kind : CommitmentType} {height : UInt64}

theorem validateInOrder_eq_mapM (items : List Item) : validateInOrder c kind height items =
    (items.map fun item => packetResult c kind height item.1 item.2).mapM id := by
  induction items with
  | nil => rfl
  | cons item items ih =>
    rw [List.map_cons, List.mapM_cons, validateInOrder, ih]
    rfl

theorem validateInOrder_ok {items : List Item} {entries : List PacketCompact} :
    validateInOrder c kind height items = .ok entries ↔
      List.Forall₂ (fun item entry => packetResult c kind height item.1 item.2 = .ok entry)
        items entries := by
  rw [validateInOrder_eq_mapM, mapM_ok, List.forall₂_map_left_iff]
  rfl

/-- The error is that of the first packet that has one. -/
theorem validateInOrder_error {items : List Item} {e : AttestorError} :
    validateInOrder c kind height items = .error e ↔ ∃ before item after,
      items = before ++ item :: after ∧
      (∀ x ∈ before, ∃ entry, packetResult c kind height x.1 x.2 = .ok entry) ∧
      packetResult c kind height item.1 item.2 = .error e := by
  rw [validateInOrder_eq_mapM, mapM_error_iff]
  constructor
  · rintro ⟨before, r, after, heq, hbefore, hr⟩
    obtain ⟨itemsBefore, rest, rfl, rfl, hrest⟩ := List.map_eq_append_iff.mp heq
    obtain ⟨item, itemsAfter, rfl, rfl, -⟩ := List.map_eq_cons_iff.mp hrest
    exact ⟨itemsBefore, item, itemsAfter, rfl,
      fun x hx => hbefore _ (List.mem_map_of_mem hx), hr⟩
  · rintro ⟨before, item, after, rfl, hbefore, hitem⟩
    refine ⟨_, _, _, List.map_append, ?_, hitem⟩
    intro r hr
    obtain ⟨x, hx, rfl⟩ := List.mem_map.mp hr
    exact hbefore x hx

theorem validateInOrder_append (ps qs : List Item) : validateInOrder c kind height (ps ++ qs) = do
    let entries ← validateInOrder c kind height ps
    let entries' ← validateInOrder c kind height qs
    return entries ++ entries' := by
  induction ps with
  | nil =>
    change _ = validateInOrder c kind height qs >>= fun entries' => pure entries'
    rw [bind_pure]
    rfl
  | cons item ps ih =>
    rw [List.cons_append, validateInOrder, validateInOrder, ih]
    simp only [bind_assoc, pure_bind, List.cons_append]

/-- The attestation of two batches, from those of each. -/
def joinBatches (r r' : Except AttestorError PacketAttestation) :
    Except AttestorError PacketAttestation := do
  let a ← r
  let a' ← r'
  return ⟨a.height, a.packets ++ a'.packets⟩

theorem joinBatches_validateInOrder (ps qs : List Item) :
    (validateInOrder c kind height (ps ++ qs)).map (PacketAttestation.mk height) =
      joinBatches ((validateInOrder c kind height ps).map (PacketAttestation.mk height))
        ((validateInOrder c kind height qs).map (PacketAttestation.mk height)) := by
  rw [validateInOrder_append]
  cases validateInOrder c kind height ps with
  | error e => rfl
  | ok entries => cases validateInOrder c kind height qs <;> rfl

/-- All that was done for a packet was to look it up with the given result, and to record
metrics. -/
def LookedUp (height : UInt64) (kind : CommitmentType) (item : Item) (t : Trace I Metric) : Prop :=
  ∃ t₁, ∃ recorded : List Metric, t = t₁ ++ recorded.map (fun e => ⟨[], .event e⟩) ∧
    Completes (lookup c A height kind item.1).run t₁ item.2

/-- The lookup of each item was made among the concurrent children, with its result. -/
def Assigned (height : UInt64) (kind : CommitmentType) (items : List Item)
    (t : Trace I Metric) : Prop :=
  ∀ i : Fin items.length, LookedUp c A height kind (items.get i) (childTrace i t)

variable {c A}

theorem LookedUp.unique {p : Packet}
    {answer answer' : Except AttestationAdapterError (Option Bytes32)} {t : Trace I Metric}
    (h : LookedUp c A height kind (p, answer) t)
    (h' : LookedUp c A height kind (p, answer') t) : answer = answer' := by
  obtain ⟨t₁, recorded, rfl, hrun⟩ := h
  obtain ⟨t₁', recorded', heq, hrun'⟩ := h'
  exact (hrun.unique hrun' heq).2

theorem completes_createSingle_lookedUp {p : Packet} {t : Trace I Metric}
    {r : Except AttestorError PacketCompact}
    (h : Completes (createSinglePacketAttestation c A height p kind).run t r) : ∃ answer,
      LookedUp c A height kind (p, answer) t ∧ r = packetResult c kind height p answer := by
  rcases (completes_createSinglePacketAttestation c).mp h with
    ⟨e, hrun, rfl⟩ | ⟨answer, t₁, rfl, hrun, rfl⟩
  · exact ⟨.error e, ⟨t, [], by simp, hrun⟩, rfl⟩
  · exact ⟨.ok answer, ⟨t₁, _, rfl, hrun⟩, rfl⟩

/-- What the result of a batch is, given the results of the lookups. -/
structure InOrder (c : Crates) (height : UInt64) (kind : CommitmentType) (items : List Item)
    (r : Except AttestorError PacketAttestation) : Prop where
  sequential : r = (validateInOrder c kind height items).map (PacketAttestation.mk height)
  all : ∀ entries, r = .ok ⟨height, entries⟩ ↔
    List.Forall₂ (fun item entry => packetResult c kind height item.1 item.2 = .ok entry)
      items entries
  lowest : ∀ e, r = .error e ↔ ∃ before item after, items = before ++ item :: after ∧
    (∀ x ∈ before, ∃ entry, packetResult c kind height x.1 x.2 = .ok entry) ∧
    packetResult c kind height item.1 item.2 = .error e

theorem inOrder_validate (items : List Item) : InOrder c height kind items
    ((validateInOrder c kind height items).map (PacketAttestation.mk height)) where
  sequential := rfl
  all := by
    intro entries
    rw [← validateInOrder_ok]
    cases validateInOrder c kind height items <;> simp [Except.map]
  lowest := by
    intro e
    rw [← validateInOrder_error]
    cases validateInOrder c kind height items <;> simp [Except.map]

theorem exists_assigned {packets : List Packet} {t : Trace I Metric}
    {r : Except AttestorError PacketAttestation}
    (h : Completes (createPacketsAttestation c A packets height kind).run t r) :
    ∃ items : List Item, items.map Prod.fst = packets ∧ Assigned c A height kind items t ∧
      r = (validateInOrder c kind height items).map (PacketAttestation.mk height) := by
  obtain ⟨-, rs, hrs, rfl⟩ := (completes_createPacketsAttestation c).mp h
  choose answers hanswers hresults using fun i => completes_createSingle_lookedUp (hrs i)
  refine ⟨List.ofFn fun i => (packets.get i, answers i), ?_, ?_, ?_⟩
  · rw [List.map_ofFn]
    exact List.ofFn_get packets
  · intro i
    have hi : i.val < packets.length := by simpa using i.isLt
    rw [List.get_ofFn]
    exact hanswers ⟨i.val, hi⟩
  · rw [validateInOrder_eq_mapM, List.map_ofFn]
    congr 3
    exact funext hresults

theorem assigned_unique {items items' : List Item} {t : Trace I Metric}
    (hpackets : items.map Prod.fst = items'.map Prod.fst) (h : Assigned c A height kind items t)
    (h' : Assigned c A height kind items' t) : items = items' := by
  have hlength : items.length = items'.length := by
    simpa using congrArg List.length hpackets
  apply List.ext_get hlength
  intro n hn hn'
  have hfst : (items.get ⟨n, hn⟩).1 = (items'.get ⟨n, hn'⟩).1 := by
    have hget := List.getElem_of_eq hpackets (i := n) (by simpa using hn)
    simpa using hget
  have hitem := h ⟨n, hn⟩
  have hitem' := h' ⟨n, hn'⟩
  generalize items.get ⟨n, hn⟩ = item at hfst hitem ⊢
  generalize items'.get ⟨n, hn'⟩ = item' at hfst hitem' ⊢
  obtain ⟨p, answer⟩ := item
  obtain ⟨p', answer'⟩ := item'
  obtain rfl : p = p' := hfst
  rw [hitem.unique hitem']

theorem batch_of_assigned {items : List Item} {t : Trace I Metric}
    {r : Except AttestorError PacketAttestation}
    (h : Completes (createPacketsAttestation c A (items.map Prod.fst) height kind).run t r)
    (hitems : Assigned c A height kind items t) :
    r = (validateInOrder c kind height items).map (PacketAttestation.mk height) := by
  obtain ⟨items', hpackets, hitems', rfl⟩ := exists_assigned h
  rw [assigned_unique hpackets hitems' hitems]

/-- A batch looks up each of its packets, and its result is that of validating them one
after another with the results of their lookups, however these were interleaved; so the
result of two batches together is that of the first and then of the second. -/
theorem batch_in_order {packets : List Packet} {t : Trace I Metric}
    {r : Except AttestorError PacketAttestation}
    (h : Completes (createPacketsAttestation c A packets height kind).run t r) :
    (∃ items, items.map Prod.fst = packets ∧ Assigned c A height kind items t) ∧
    ∀ items, items.map Prod.fst = packets → Assigned c A height kind items t →
      InOrder c height kind items r ∧
      ∀ ps qs t₁ t₂ r₁ r₂, items = ps ++ qs →
        Completes (createPacketsAttestation c A (ps.map Prod.fst) height kind).run t₁ r₁ →
        Completes (createPacketsAttestation c A (qs.map Prod.fst) height kind).run t₂ r₂ →
        Assigned c A height kind ps t₁ → Assigned c A height kind qs t₂ →
        r = joinBatches r₁ r₂ := by
  obtain ⟨items, hpackets, hitems, -⟩ := exists_assigned h
  refine ⟨⟨items, hpackets, hitems⟩, ?_⟩
  intro items' hpackets' hitems'
  subst hpackets'
  have hr := batch_of_assigned h hitems'
  refine ⟨hr ▸ inOrder_validate items', ?_⟩
  intro ps qs t₁ t₂ r₁ r₂ heq h₁ h₂ hps hqs
  rw [hr, heq, joinBatches_validateInOrder, ← batch_of_assigned h₁ hps, ← batch_of_assigned h₂ hqs]

/-- A batch of the sample packet twice. -/
theorem batch_in_order_sample : ∃ t r items,
    Assigned sampleCrates boundaryAdapter 100 .packet items t ∧
    Completes (createPacketsAttestation sampleCrates boundaryAdapter [samplePacket, samplePacket]
      100 .packet).run t r ∧ InOrder sampleCrates 100 .packet items r := by
  have hrun := Proc.sequential_completes (rfl : (createPacketsAttestation sampleCrates
    boundaryAdapter [samplePacket, samplePacket] 100 .packet).run.eval sampleReplies = _)
  obtain ⟨⟨items, hpackets, hitems⟩, hall⟩ := batch_in_order hrun
  exact ⟨_, _, items, hitems, hrun, (hall items hpackets hitems).1⟩

end IbcAttestor
