import LeosSdk.CyphalSubs

/-!
# Cyphal node: slots, registry and heap

Three records of the same subscriptions: the slot table, libcanard's registry
and the heap's blocks (`Node.Ledger`). They agree after any calls on tidy
nodes, none of which had a block rejected by libcanard: a rejected
registration returns without giving its block back.

That slots and registry agree is the invariant of tidy nodes (`CyphalSubs`),
and that what is in a slot is in use as well. What is left is that nothing
else is in use (`Node.NoLeak`). It is kept by binding and unbinding, so by
every effect of a call but a rejected one, and the rejected ones are excluded.

A block that a call frees is freed after it was unregistered, as the source
unregisters or replaces before it looks for the slot (`effect_frees`). So no
block is freed twice, or while a transfer could still be delivered to it.
-/

namespace LeosSdk

namespace Cyphal

variable {L : Canard} {n n' : Node} {s old : Ptr}

/-- No entry twice; entries, registered objects and blocks in use are the
same. -/
structure Node.Ledger (n : Node) : Prop where
  distinct : n.subscriptions.Distinct
  registered : ∀ s, n.subscriptions.Has s ↔ ∃ port, n.rxSubscriptions port = some s
  live : ∀ s, n.subscriptions.Has s ↔ s ∈ n.live

/-- libcanard does not reject what the heap had a block for. -/
def Accepted (L : Canard) (l : NodeCall) : Prop :=
  match l.op with
  | .subscribe nodeNull port .. =>
    nodeNull = false → l.outside.alloc ≠ none → L.validArgs port = true
  | .unsubscribe .. => True

instance : (l : NodeCall) → Decidable (Accepted L l)
  | ⟨.subscribe .., _, _, _⟩ => inferInstanceAs (Decidable (_ → _ → _))
  | ⟨.unsubscribe .., _, _, _⟩ => isTrue trivial

/-- A block freed by a call was in use and is not registered when freed;
registrations do not change between the free and the return. -/
def FreesOnce (x : Rec Node NodeCall) : Prop :=
  ∀ s, x.label.freed = some s →
    s ∈ x.pre.live ∧ s ∉ x.post.live ∧ ∀ port, x.post.rxSubscriptions port ≠ some s

/-- Every block in use is in a slot. The half of the agreement that a rejected
registration breaks. -/
def Node.NoLeak (n : Node) : Prop := ∀ s ∈ n.live, n.subscriptions.Has s

theorem ledger_of_inv (hi : n.Inv L) (hl : n.NoLeak) : n.Ledger :=
  ⟨hi.distinct, hi.registered, fun s => ⟨hi.live s, hl s⟩⟩

theorem noLeak_bind {port : Port} {i : Fin maxSubscriptions} {b : Subscription}
    (hl : n.NoLeak) (hfree : n.subscriptions i = none) : (n.bind port i s b).NoLeak := by
  intro t ht
  rcases Finset.mem_insert.mp ht with rfl | ht
  · exact (Slots.has_put hfree).mpr (.inl rfl)
  · exact (Slots.has_put hfree).mpr (.inr (hl t ht))

theorem noLeak_unbind {port : Port} {i : Fin maxSubscriptions} {scrap : Subscription}
    (hi : n.Inv L) (hl : n.NoLeak) (hslot : n.subscriptions i = some old) :
    (n.unbind port i old scrap).NoLeak := by
  intro t ht
  obtain ⟨hne, ht⟩ := Finset.mem_erase.mp ht
  exact (Slots.has_clear hi.distinct hslot).mpr ⟨hne, hl t ht⟩

/-- Every effect but a rejected block leaves no block outside the slots. -/
theorem effect_noLeak {l : NodeCall} (h : Effect L n l n') (ha : Accepted L l)
    (hi : n.Inv L) (hl : n.NoLeak) : n'.NoLeak := by
  cases h with
  | failed => exact hl
  | rejected hs ho hv =>
      have hv' := ha rfl (by simp [ho])
      rw [hv] at hv'
      cases hv'
  | subscribed hs hv hreg hfree => exact noLeak_bind hl hfree
  | replaced hs hv hreg hslot hj => exact noLeak_bind (noLeak_unbind hi hl hslot) hj
  | nothing => exact hl
  | unsubscribed hreg hslot => exact noLeak_unbind hi hl hslot

/-- A block once unbound is registered for no port. -/
theorem unbind_unregistered {port : Port} {i : Fin maxSubscriptions} {scrap : Subscription}
    (hi : n.Inv L) (hreg : n.rxSubscriptions port = some old) (port' : Port) :
    (n.unbind port i old scrap).rxSubscriptions port' ≠ some old := by
  intro h
  rcases registered_update h with ⟨-, h⟩ | ⟨hne, h⟩
  · cases h
  · exact hne (hi.injective _ _ _ h hreg)

/-- The block an effect frees was in use, and is registered for no port any
more. -/
theorem effect_frees {l : NodeCall} (h : Effect L n l n') (hi : n.Inv L) :
    FreesOnce ⟨n, l, n'⟩ := by
  intro t ht
  cases h with
  | failed | rejected | subscribed | nothing => cases ht
  | replaced hs hv hreg hslot hj =>
      cases ht
      have hne := hi.ne_fresh hs hreg
      refine ⟨hi.live _ (hi.has hreg), ?_, fun port' h => ?_⟩
      · simp [Node.bind, Node.unbind, hne]
      · rcases registered_update h with ⟨-, heq⟩ | ⟨-, h⟩
        · exact hne (Option.some.inj heq).symm
        · exact unbind_unregistered hi hreg port' h
  | unsubscribed hreg hslot =>
      cases ht
      exact ⟨hi.live _ (hi.has hreg), Finset.notMem_erase _ _, unbind_unregistered hi hreg⟩

/-- In every run of calls on tidy nodes with no block rejected, the three
records agree in every state and no block is freed twice or while registered.
The run keeps the invariant of tidy nodes together with `NoLeak`. -/
theorem slots_registry_heap_agree {mem : Ptr → Subscription} {xs : List (Rec Node NodeCall)}
    (h : Run (NodeStep L) (.init mem) xs n)
    (hgood : ∀ x ∈ xs, Tidy L x.pre x.label ∧ Accepted L x.label) :
    n.Ledger ∧ ∀ x ∈ xs, FreesOnce x := by
  obtain ⟨-, hxs⟩ := tidy_run h fun x hx => (hgood x hx).1
  obtain ⟨⟨hi, hl⟩, -⟩ := h.invariant (fun n => n.Inv L ∧ n.NoLeak)
    (fun x => Tidy L x.pre x.label ∧ Accepted L x.label)
    ⟨inv_init mem, fun s hs => by cases hs⟩
    (fun x hs hg hi => by
      have he := nodeStep_effect hi.1 hs hg.1
      exact ⟨effect_inv he hi.1, effect_noLeak he hg.2 hi.1 hi.2⟩) hgood
  exact ⟨ledger_of_inv hi hl, fun x hx => effect_frees (hxs x hx).2 (hxs x hx).1⟩

/-- After a port was subscribed twice only the block of the other one is in
use. -/
theorem slots_registry_heap_agree_resubscribed :
    (runCalls benchCanard benchTidy benchInit).2.Ledger
      ∧ (runCalls benchCanard benchTidy benchInit).2.live = {102} :=
  ⟨(slots_registry_heap_agree (runCalls_run (by decide)) (by decide)).1, by decide⟩

/-- With one port-ID under two kinds the other kind's block is freed while
registered, and the block of the port unsubscribed keeps its slot. -/
theorem collision_frees_registered :
    ∃ (xs : List (Rec Node NodeCall)) (n : Node),
      Run (NodeStep benchCanard) benchInit xs n
        ∧ ¬n.Ledger ∧ ∃ x ∈ xs, ¬FreesOnce x := by
  have hfresh : FreshCalls benchCanard benchCollision benchInit := by decide
  refine ⟨_, _, runCalls_run hfresh, fun hl => ?_, ?_⟩
  · have hreg : (runCalls benchCanard benchCollision benchInit).2.rxSubscriptions
        ⟨.message, 5⟩ = some 100 := by decide
    have hhas :
        ¬(runCalls benchCanard benchCollision benchInit).2.subscriptions.Has 100 := by
      decide
    exact hhas ((hl.registered 100).mpr ⟨_, hreg⟩)
  · refine ⟨_, .tail _ (.tail _ (.head _)), fun hf => ?_⟩
    exact (hf 100 (by decide)).2.2 ⟨.message, 5⟩ (by decide)

end Cyphal

end LeosSdk
