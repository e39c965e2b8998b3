import LeosSdk.CyphalSubs

/-!
# Cyphal node: subscribing, all or nothing

`leos_cyphal_subscribe` allocates, registers and then looks for a slot, and
returns from the middle when the registration is rejected or the table is
full: in the first case with the block still allocated, in the second with the
subscription registered as well. It is atomic on error exactly on the calls
that run into neither (`subscribe_atomic`).

Nothing is assumed here of the run before the call: the slot table stays a
table of distinct blocks in use (`Node.SlotsLive`) even where slots and
registry no longer agree. That much every call keeps, whatever its search by
port-ID found, and it is enough: a new block is in no slot, so the search does
not see it, and a released one is not the new one.

The result then goes exit by exit. A call that gets no block has changed
nothing. A rejected one keeps its block, which was not in use before.
Otherwise the new block is registered and in use, and the call ends well just
if a slot is free after the old subscription, if there is one, was looked for
(`Node.Room`); if it does not, nothing is undone.
-/

namespace LeosSdk

namespace Cyphal

variable {L : Canard} {n n' : Node} {port : Port} {s t : Ptr}
  {o : Outside} {nodeNull : Bool} {extent : Nat} {callback : RxCallback}
  {userReference : UserRef}

/-! ## The slot table in any run -/

/-- The slots hold distinct blocks in use. Less than the invariant of tidy
nodes, and kept by every call. -/
structure Node.SlotsLive (n : Node) : Prop where
  distinct : n.subscriptions.Distinct
  live : ∀ s, n.subscriptions.Has s → s ∈ n.live

theorem slotsLive_init (mem : Ptr → Subscription) : (Node.init mem).SlotsLive where
  distinct := Slots.distinct_empty
  live _ h := absurd h Slots.has_empty

/-- A block handed out is in no slot. -/
theorem Node.SlotsLive.fresh (h : n.SlotsLive) (hs : s ∉ n.live) :
    ¬n.subscriptions.Has s := fun ht => hs (h.live s ht)

/-- Another block may come into use, whatever is registered. -/
theorem slotsLive_of_le (h : n.SlotsLive) (hsub : n'.subscriptions = n.subscriptions)
    (hlive : n.live ⊆ n'.live) : n'.SlotsLive where
  distinct := hsub ▸ h.distinct
  live s hs := hlive (h.live s (hsub ▸ hs))

/-- Releasing frees the block of a slot and clears it; a block in no slot
stays. -/
theorem slotsLive_release (scrap : Subscription) (portId : PortId) (h : n.SlotsLive) :
    (n.release scrap portId).2.SlotsLive
      ∧ ∀ s ∈ n.live, ¬n.subscriptions.Has s →
        s ∈ (n.release scrap portId).2.live
          ∧ ¬(n.release scrap portId).2.subscriptions.Has s := by
  cases hf : n.findPort portId with
  | none =>
      simp only [Node.release, hf]
      exact ⟨h, fun s hs hnot => ⟨hs, hnot⟩⟩
  | some found =>
      obtain ⟨i, t⟩ := found
      have hslot : n.subscriptions i = some t := (Slots.findFirst_some hf).1
      rw [release_some hf]
      refine ⟨⟨Slots.distinct_clear h.distinct, fun s hs => ?_⟩, fun s hs hnot => ⟨?_, ?_⟩⟩
      · obtain ⟨hne, hs⟩ := (Slots.has_clear h.distinct hslot).mp hs
        exact Finset.mem_erase.mpr ⟨hne, h.live s hs⟩
      · refine Finset.mem_erase.mpr ⟨?_, hs⟩
        rintro rfl
        exact hnot ⟨i, hslot⟩
      · exact fun hs => hnot ((Slots.has_clear h.distinct hslot).mp hs).2

/-- The two outcomes of installing. -/
theorem install_cases (s : Ptr) (freed : Option Ptr) (n : Node) :
    (∃ i, n.subscriptions i = none
      ∧ n.install s freed = ⟨.ok, freed, { n with subscriptions := n.subscriptions.put i s }⟩)
    ∨ (∀ i, n.subscriptions i ≠ none)
      ∧ n.install s freed = ⟨.tooManySubscriptions, freed, n⟩ := by
  cases hf : n.subscriptions.firstFree with
  | some i => exact .inl ⟨i, Slots.firstFree_some hf, by simp only [Node.install, hf]⟩
  | none =>
      refine .inr ⟨fun i hi => ?_, by simp only [Node.install, hf]⟩
      obtain ⟨j, hj⟩ := Slots.exists_firstFree hi
      rw [hf] at hj
      cases hj

theorem slotsLive_install (freed : Option Ptr) (h : n.SlotsLive) (hs : s ∈ n.live)
    (hnot : ¬n.subscriptions.Has s) : (n.install s freed).node.SlotsLive := by
  rcases install_cases s freed n with ⟨i, hi, heq⟩ | ⟨-, heq⟩
  · rw [heq]
    refine ⟨Slots.distinct_put h.distinct hnot, fun t ht => ?_⟩
    rcases (Slots.has_put hi).mp ht with rfl | ht
    · exact hs
    · exact h.live t ht
  · rw [heq]
    exact h

theorem slotsLive_subscribe (h : n.SlotsLive)
    (ho : nodeNull = false → ∀ s, o.alloc = some s → ¬n.subscriptions.Has s) :
    (subscribe L o nodeNull port extent callback userReference n).node.SlotsLive := by
  cases nodeNull with
  | true => exact h
  | false =>
      cases ha : o.alloc with
      | none => simpa only [subscribe, ha, Bool.false_eq_true, if_false] using h
      | some s =>
          have hsub : n.live ⊆ insert s n.live := Finset.subset_insert ..
          cases hv : L.validArgs port with
          | false =>
              simp only [subscribe, ha, Bool.false_eq_true, if_false, Canard.rxSubscribe, hv,
                L.error_neg, if_true]
              exact slotsLive_of_le h rfl hsub
          | true =>
              rw [subscribe_enroll ha hv]
              have h₁ : (n.enroll port s
                  (newBlock port extent s callback userReference)).SlotsLive :=
                slotsLive_of_le h rfl hsub
              have hnot := ho rfl s ha
              obtain ⟨h₂, hkeep⟩ := slotsLive_release o.scrap port.portId h₁
              obtain ⟨hs, hnot'⟩ := hkeep s (Finset.mem_insert_self ..) hnot
              dsimp only
              split
              · exact slotsLive_install _ h₂ hs hnot'
              · exact slotsLive_install _ h₁ (Finset.mem_insert_self ..) hnot

theorem rxUnsubscribe_same (L : Canard) (port : Port) (n : Node) :
    (L.rxUnsubscribe port n).2.subscriptions = n.subscriptions
      ∧ (L.rxUnsubscribe port n).2.live = n.live := by
  unfold Canard.rxUnsubscribe
  split
  · split <;> exact ⟨rfl, rfl⟩
  · exact ⟨rfl, rfl⟩

theorem slotsLive_unsubscribe (h : n.SlotsLive) :
    (unsubscribe L o nodeNull port n).node.SlotsLive := by
  obtain ⟨hsub, hlive⟩ := rxUnsubscribe_same L port n
  have h₁ : (L.rxUnsubscribe port n).2.SlotsLive :=
    slotsLive_of_le h hsub hlive.ge
  have h₂ := (slotsLive_release o.scrap port.portId h₁).1
  unfold unsubscribe
  split
  · exact h
  · dsimp only
    split
    · exact h₁
    · split
      · exact h₁
      · split
        · rename_i heq
          rwa [heq] at h₂
        · rename_i heq
          rwa [heq] at h₂

theorem slotsLive_step {l : NodeCall} (hs : NodeStep L n l n') (h : n.SlotsLive) :
    n'.SlotsLive := by
  obtain ⟨op, o, r, freed⟩ := l
  obtain ⟨ho, heq⟩ := hs
  obtain rfl : (op.apply L o n).node = n' := congrArg Outcome.node heq
  cases op with
  | subscribe => exact slotsLive_subscribe h fun _ s hs => h.fresh (ho s hs)
  | unsubscribe => exact slotsLive_unsubscribe h

theorem slotsLive_run {mem : Ptr → Subscription} {xs : List (Rec Node NodeCall)}
    (h : Run (NodeStep L) (.init mem) xs n) : n.SlotsLive :=
  (h.invariant Node.SlotsLive (fun _ => True) (slotsLive_init mem)
    (fun _ hs _ => slotsLive_step hs) fun _ _ => trivial).1

/-! ## Atomicity -/

/-- Registry, slots and blocks in use are the same. -/
structure Node.SameRecords (n n' : Node) : Prop where
  registry : n'.rxSubscriptions = n.rxSubscriptions
  slots : n'.subscriptions = n.subscriptions
  heap : n'.live = n.live

/-- A slot is free, or becomes free when the port's old subscription, if it
has one, is looked for by its port-ID. -/
def Node.Room (n : Node) (port : Port) : Prop :=
  (∃ i, n.subscriptions i = none)
    ∨ n.rxSubscriptions port ≠ none ∧ n.findPort port.portId ≠ none

/-- With a node and a block, libcanard accepts the arguments and there is
room in the table. -/
def Accommodates (L : Canard) (n : Node) (nodeNull : Bool) (o : Outside) (port : Port) : Prop :=
  nodeNull = false → o.alloc ≠ none → L.validArgs port = true ∧ n.Room port

/-- Installing fails just if no slot is free, and then nothing is undone, so
the records differ by what came before. -/
theorem install_atomic (freed : Option Ptr) (hne : ¬n'.SameRecords n) :
    ((n.install s freed).result < 0 → n'.SameRecords (n.install s freed).node)
      ↔ ∃ i, n.subscriptions i = none := by
  rcases install_cases s freed n with ⟨i, hi, heq⟩ | ⟨hfull, heq⟩
  · rw [heq]
    exact ⟨fun _ => ⟨i, hi⟩, fun _ h => absurd h (by decide : ¬Result.ok < 0)⟩
  · rw [heq]
    constructor
    · intro h
      exact absurd (h (by decide : Result.tooManySubscriptions < 0)) hne
    · intro hx
      rcases hx with ⟨i, hi⟩
      exact absurd hi (hfull i)

theorem not_sameRecords (hs : s ∉ n.live) (hs' : s ∈ n'.live) : ¬n.SameRecords n' :=
  fun h => hs (h.heap ▸ hs')

/-- A registered block in search of a slot. If an old subscription is found by
its port-ID its slot becomes free, whichever kind it was of. -/
theorem enrolled_atomic (h : n.SlotsLive) (hs : s ∉ n.live) (ha : o.alloc = some s)
    (hv : L.validArgs port = true) :
    ((subscribe L o false port extent callback userReference n).result < 0 →
      n.SameRecords (subscribe L o false port extent callback userReference n).node)
      ↔ n.Room port := by
  rw [subscribe_enroll ha hv]
  generalize hn₁ : n.enroll port s (newBlock port extent s callback userReference) = n₁
  have hlive : s ∈ n₁.live := by
    rw [← hn₁]
    exact Finset.mem_insert_self ..
  have hsub : n₁.subscriptions = n.subscriptions := by rw [← hn₁]; rfl
  have hfind : n₁.findPort port.portId = n.findPort port.portId := by
    rw [← hn₁]
    exact findPort_enroll (h.fresh hs)
  dsimp only
  cases hreg : n.rxSubscriptions port with
  | none =>
      simp only [Option.isSome_none, Bool.false_eq_true, if_false]
      rw [install_atomic none (not_sameRecords hs hlive), hsub, Node.Room, hreg]
      simp
  | some old =>
      simp only [Option.isSome_some, if_true]
      cases hf : n.findPort port.portId with
      | none =>
          rw [hf] at hfind
          simp only [Node.release, hfind]
          rw [install_atomic none (not_sameRecords hs hlive), hsub, Node.Room, hf]
          simp
      | some found =>
          obtain ⟨i, t⟩ := found
          have hroom : n.Room port := .inr ⟨by rw [hreg]; simp, by rw [hf]; simp⟩
          have hne : s ≠ t := by
            rintro rfl
            exact h.fresh hs ⟨i, (Slots.findFirst_some hf).1⟩
          rw [release_some (hfind.trans hf)]
          refine (install_atomic _ (not_sameRecords hs ?_)).trans ?_
          · exact Finset.mem_erase.mpr ⟨hne, hlive⟩
          · exact ⟨fun _ => hroom, fun _ => ⟨i, Slots.clear_self⟩⟩

/-- A block rejected by libcanard stays allocated. -/
theorem rejected_leaks (hs : s ∉ n.live) (ha : o.alloc = some s)
    (hv : L.validArgs port = false) :
    ¬((subscribe L o false port extent callback userReference n).result < 0 →
      n.SameRecords (subscribe L o false port extent callback userReference n).node) := by
  have hout : subscribe L o false port extent callback userReference n
      = ⟨L.error, none, (n.allocate s).fill s callback userReference⟩ := by
    simp only [subscribe, ha, Bool.false_eq_true, if_false, Canard.rxSubscribe, hv,
      L.error_neg, if_true]
  rw [hout]
  exact fun h => not_sameRecords hs (Finset.mem_insert_self ..) (h L.error_neg)

/-- The call is atomic just if it is accommodated, by its exits in the order
of the source. -/
theorem subscribe_atomic_iff (h : n.SlotsLive) (ho : ∀ s, o.alloc = some s → s ∉ n.live) :
    ((subscribe L o nodeNull port extent callback userReference n).result < 0 →
      n.SameRecords (subscribe L o nodeNull port extent callback userReference n).node)
      ↔ Accommodates L n nodeNull o port := by
  have hsame : n.SameRecords n := ⟨rfl, rfl, rfl⟩
  cases nodeNull with
  | true =>
      constructor
      · intro _ h
        cases h
      · exact fun _ _ => hsame
  | false =>
      cases ha : o.alloc with
      | none =>
          simp only [subscribe, ha, Bool.false_eq_true, if_false]
          exact ⟨fun _ _ h => absurd ha h, fun _ _ => hsame⟩
      | some s =>
          have hiff : Accommodates L n false o port
              ↔ L.validArgs port = true ∧ n.Room port := by
            simp [Accommodates, ha]
          rw [hiff]
          cases hv : L.validArgs port with
          | false =>
              exact ⟨fun h => absurd h (rejected_leaks (ho s ha) ha hv), fun h => by cases h.1⟩
          | true =>
              rw [enrolled_atomic h (ho s ha) ha hv]
              simp

/-- In every reachable state and for all arguments: a negative result of
`leos_cyphal_subscribe` leaves registry, slots and blocks in use as they were
exactly when the call is accommodated. All that is used of the run is that the
slots hold distinct blocks in use. -/
theorem subscribe_atomic {mem : Ptr → Subscription} {xs : List (Rec Node NodeCall)}
    {r : Result} {freed : Option Ptr} (h : Run (NodeStep L) (.init mem) xs n)
    (hs : NodeStep L n
      ⟨.subscribe nodeNull port extent callback userReference, o, r, freed⟩ n') :
    (r < 0 → n.SameRecords n') ↔ Accommodates L n nodeNull o port := by
  have hout : subscribe L o nodeNull port extent callback userReference n = ⟨r, freed, n'⟩ :=
    hs.2
  have hiff : ((subscribe L o nodeNull port extent callback userReference n).result < 0 →
      n.SameRecords (subscribe L o nodeNull port extent callback userReference n).node)
      ↔ Accommodates L n nodeNull o port :=
    subscribe_atomic_iff (slotsLive_run h) hs.1
  rwa [hout] at hiff

/-- A call is the step it computes. -/
theorem nodeStep_apply {op : NodeOp} {r : Result} {freed : Option Ptr}
    (ho : ∀ s ∈ o.alloc, s ∉ n.live) (hr : (op.apply L o n).result = r)
    (hf : (op.apply L o n).freed = freed) :
    NodeStep L n ⟨op, o, r, freed⟩ (op.apply L o n).node := by
  subst hr hf
  exact ⟨ho, rfl⟩

/-- Two subscriptions, one of them replaced and the other gone. -/
abbrev benchNode : Node := (runCalls benchCanard benchTidy benchInit).2

/-- A kind libcanard does not know is not accommodated. -/
theorem subscribe_atomic_rejected :
    ¬Accommodates benchCanard benchNode false ⟨some 103, blankBlock⟩ ⟨.other 7, 5⟩ := by
  intro h
  have hs : NodeStep benchCanard benchNode
      ⟨.subscribe false ⟨.other 7, 5⟩ 64 4 0, ⟨some 103, blankBlock⟩, -2, none⟩ _ :=
    nodeStep_apply (by decide) rfl rfl
  have hsame := (subscribe_atomic (runCalls_run (by decide)) hs).mpr h (by decide)
  exact not_sameRecords (by decide) (Finset.mem_insert_self ..) hsame

/-- As many message subscriptions as there are slots. -/
def benchFull : List (NodeOp × Outside) :=
  (List.range maxSubscriptions).map fun i => benchSubscribe ⟨.message, i.toUInt16⟩ i (100 + i)

/-- One subscription more is registered and keeps its block though the call
returns `LEOS_CYPHAL_TOO_MANY_SUBSCRIPTIONS`; one of an unknown kind, which
libcanard rejects, keeps its block too. -/
theorem failed_subscribe_keeps :
    ∃ (xs : List (Rec Node NodeCall)) (n n₁ n₂ : Node),
      Run (NodeStep benchCanard) benchInit xs n
        ∧ NodeStep benchCanard n ⟨.subscribe false ⟨.message, 25⟩ 64 25 0,
          ⟨some 125, blankBlock⟩, .tooManySubscriptions, none⟩ n₁
        ∧ n₁.rxSubscriptions ⟨.message, 25⟩ = some 125 ∧ ¬n.SameRecords n₁
        ∧ NodeStep benchCanard n ⟨.subscribe false ⟨.other 7, 25⟩ 64 25 0,
          ⟨some 125, blankBlock⟩, -2, none⟩ n₂
        ∧ ¬n.SameRecords n₂ := by
  have hfresh : FreshCalls benchCanard benchFull benchInit := by decide +kernel
  have hnew : ∀ s ∈ some 125, s ∉ (runCalls benchCanard benchFull benchInit).2.live := by
    decide +kernel
  refine ⟨_, _, _, _, runCalls_run hfresh,
    nodeStep_apply hnew (by decide +kernel) (by decide +kernel), by decide +kernel,
    not_sameRecords (hnew 125 rfl) (by decide +kernel),
    nodeStep_apply hnew (by decide +kernel) (by decide +kernel),
    not_sameRecords (hnew 125 rfl) (by decide +kernel)⟩

end Cyphal

end LeosSdk
