import Mathlib.Data.PNat.Notation
import LeosSdk.Arena
import LeosSdk.CyphalAtomic

/-!
# Cyphal nodes on one heap

All nodes allocate from one arena: `heap_allocate` and `heap_deallocate` of
`memory.c` ignore the node and use the global `heap`, and `leos_cyphal_init`
sets that `heap` up anew for whichever node it initialises. So no node's
blocks are ever handed out again while it holds them exactly if no node is
initialised while another one holds any (`blocks_kept`).

A node holds the blocks in its slots, those libcanard has registered and which
it has not freed, and those of its queued frames. `canardTxPush` is known by
its result and by the blocks it keeps allocated, none when it fails.
`o1heapInit` succeeds on the arena of this repository.

Of a call on a node only this matters: it frees at most the block of a slot,
and keeps afterwards nothing but what it got from the heap and what was kept
before (`CallKeeps`), which needs no tidiness of the node. With it the
invariant over all nodes is kept: everything held is allocated, and held once.
A block freed was held by the node that frees it and so by no other.
Initialising is the one step that takes blocks from others, because the heap
is empty afterwards; if anything was held, it is disturbed in that very step,
which gives the other direction.
-/

namespace LeosSdk

namespace Cyphal

variable {L : Canard} {n : Node} {port : Port} {s t : Ptr} {o : Outside} {op : NodeOp}
  {K : Type} {size : ℕ+}

/-! ## What a node keeps -/

/-- `s` is in a slot, or registered and not given back. -/
def Node.Keeps (n : Node) (s : Ptr) : Prop :=
  n.subscriptions.Has s ∨ s ∈ n.live ∧ ∃ port, n.rxSubscriptions port = some s

/-- The block a call gets from the heap. -/
def NodeOp.allocated (op : NodeOp) (o : Outside) : Option Ptr :=
  match op with
  | .subscribe false .. => o.alloc
  | _ => none

theorem keeps_release (scrap : Subscription) (portId : PortId) (h : n.SlotsLive) :
    (∀ t, (n.release scrap portId).1 = some t → n.subscriptions.Has t)
      ∧ ∀ s, (n.release scrap portId).2.Keeps s →
        n.Keeps s ∧ (n.release scrap portId).1 ≠ some s := by
  cases hf : n.findPort portId with
  | none =>
      simp only [Node.release, hf]
      refine ⟨fun t ht => ?_, fun s hs => ⟨hs, by simp⟩⟩
      cases ht
  | some found =>
      obtain ⟨i, t⟩ := found
      have hslot : n.subscriptions i = some t := (Slots.findFirst_some hf).1
      rw [release_some hf]
      refine ⟨fun t' ht => ?_, fun s hs => ?_⟩
      · obtain rfl := Option.some.inj ht
        exact ⟨i, hslot⟩
      · rcases hs with hs | ⟨hs, hreg⟩
        · obtain ⟨hne, hs⟩ := (Slots.has_clear h.distinct hslot).mp hs
          exact ⟨.inl hs, fun heq => hne (Option.some.inj heq).symm⟩
        · obtain ⟨hne, hs⟩ := Finset.mem_erase.mp hs
          exact ⟨.inr ⟨hs, hreg⟩, fun heq => hne (Option.some.inj heq).symm⟩

theorem keeps_install {freed : Option Ptr} (h : (n.install s freed).node.Keeps t) :
    t = s ∨ n.Keeps t := by
  rcases install_cases s freed n with ⟨i, hi, heq⟩ | ⟨-, heq⟩
  · rw [heq] at h
    rcases h with h | h
    · exact ((Slots.has_put hi).mp h).imp_right .inl
    · exact .inr (.inr h)
  · rw [heq] at h
    exact .inr h

theorem install_freed (s : Ptr) (freed : Option Ptr) (n : Node) :
    (n.install s freed).freed = freed := by
  rcases install_cases s freed n with ⟨i, -, heq⟩ | ⟨-, heq⟩ <;> rw [heq]

theorem keeps_enroll {b : Subscription} (h : (n.enroll port s b).Keeps t) :
    t = s ∨ n.Keeps t := by
  rcases h with h | ⟨hlive, port', hreg⟩
  · exact .inr (.inl h)
  · rcases Finset.mem_insert.mp hlive with rfl | hlive
    · exact .inl rfl
    · rcases registered_update hreg with ⟨-, heq⟩ | ⟨-, hreg⟩
      · exact .inl (Option.some.inj heq).symm
      · exact .inr (.inr ⟨hlive, port', hreg⟩)

theorem keeps_allocate {callback : RxCallback} {userReference : UserRef}
    (h : ((n.allocate s).fill s callback userReference).Keeps t) : t = s ∨ n.Keeps t := by
  rcases h with h | ⟨hlive, hreg⟩
  · exact .inr (.inl h)
  · exact (Finset.mem_insert.mp hlive).imp_right fun hlive => .inr ⟨hlive, hreg⟩

theorem keeps_rxUnsubscribe (h : (L.rxUnsubscribe port n).2.Keeps t) : n.Keeps t := by
  unfold Canard.rxUnsubscribe at h
  split at h
  · split at h
    · rcases h with h | ⟨hlive, port', hreg⟩
      · exact .inl h
      · rcases registered_update hreg with ⟨-, heq⟩ | ⟨-, hreg⟩
        · cases heq
        · exact .inr ⟨hlive, port', hreg⟩
    · exact h
  · exact h

/-- A call frees at most the block of a slot, and keeps afterwards nothing but
what it got from the heap and what was kept before. -/
structure CallKeeps (n : Node) (allocated : Option Ptr) (out : Outcome) : Prop where
  freed : ∀ t, out.freed = some t → n.subscriptions.Has t
  keeps : ∀ s, out.node.Keeps s → allocated = some s ∨ n.Keeps s ∧ out.freed ≠ some s

theorem callKeeps_none {allocated : Option Ptr} {r : Result} {n' : Node}
    (h : ∀ s, n'.Keeps s → allocated = some s ∨ n.Keeps s) :
    CallKeeps n allocated ⟨r, none, n'⟩ where
  freed _ ht := by cases ht
  keeps s hs := (h s hs).imp_right fun hs => ⟨hs, by simp⟩

theorem callKeeps_install {m : Node} {freed : Option Ptr}
    (hfreed : ∀ t, freed = some t → n.subscriptions.Has t)
    (hkeeps : ∀ t, m.Keeps t → t = s ∨ n.Keeps t ∧ freed ≠ some t) :
    CallKeeps n (some s) (m.install s freed) := by
  refine ⟨fun t ht => ?_, fun t ht => ?_⟩
  · rw [install_freed] at ht
    exact hfreed t ht
  · rw [install_freed]
    rcases keeps_install ht with rfl | ht
    · exact .inl rfl
    · exact (hkeeps t ht).imp_left fun heq => congrArg some heq.symm

theorem subscribe_keeps {nodeNull : Bool} {extent : Nat} {callback : RxCallback}
    {userReference : UserRef} (h : n.SlotsLive)
    (ho : nodeNull = false → ∀ s, o.alloc = some s → ¬n.subscriptions.Has s) :
    CallKeeps n ((NodeOp.subscribe nodeNull port extent callback userReference).allocated o)
      (subscribe L o nodeNull port extent callback userReference n) := by
  cases nodeNull with
  | true => exact callKeeps_none fun _ => .inr
  | false =>
      cases ha : o.alloc with
      | none =>
          simp only [subscribe, ha, Bool.false_eq_true, if_false]
          exact callKeeps_none fun _ => .inr
      | some s =>
          have hall : (NodeOp.subscribe false port extent callback userReference).allocated o
              = some s := ha
          rw [hall]
          cases hv : L.validArgs port with
          | false =>
              simp only [subscribe, ha, Bool.false_eq_true, if_false, Canard.rxSubscribe, hv,
                L.error_neg, if_true]
              exact callKeeps_none fun t ht =>
                (keeps_allocate ht).imp_left fun heq => congrArg some heq.symm
          | true =>
              rw [subscribe_enroll ha hv]
              generalize hb : newBlock port extent s callback userReference = b
              have h₁ : (n.enroll port s b).SlotsLive :=
                slotsLive_of_le h rfl (Finset.subset_insert ..)
              obtain ⟨hfreed, hkeeps⟩ := keeps_release o.scrap port.portId h₁
              dsimp only
              split
              · -- the old block is another one: the new one is in no slot yet
                refine callKeeps_install hfreed fun t ht => ?_
                obtain ⟨ht, hne⟩ := hkeeps t ht
                exact (keeps_enroll ht).imp_right fun ht => ⟨ht, hne⟩
              · refine callKeeps_install (fun _ ht => by cases ht) fun t ht => ?_
                exact (keeps_enroll ht).imp_right fun ht => ⟨ht, by simp⟩

theorem unsubscribe_keeps {nodeNull : Bool} (h : n.SlotsLive) :
    CallKeeps n none (unsubscribe L o nodeNull port n) := by
  obtain ⟨hsub, hlive⟩ := rxUnsubscribe_same L port n
  have h₁ : (L.rxUnsubscribe port n).2.SlotsLive := slotsLive_of_le h hsub hlive.ge
  obtain ⟨hfreed, hkeeps⟩ := keeps_release o.scrap port.portId h₁
  rw [hsub] at hfreed
  unfold unsubscribe
  split
  · exact callKeeps_none fun _ => .inr
  · dsimp only
    split
    · exact callKeeps_none fun _ hs => .inr (keeps_rxUnsubscribe hs)
    · split
      · exact callKeeps_none fun _ hs => .inr (keeps_rxUnsubscribe hs)
      · split
        · rename_i heq
          rw [heq] at hfreed hkeeps
          exact ⟨hfreed, fun t ht => .inr ((hkeeps t ht).imp_left keeps_rxUnsubscribe)⟩
        · rename_i heq
          rw [heq] at hkeeps
          exact callKeeps_none fun t ht => .inr (keeps_rxUnsubscribe (hkeeps t ht).1)

theorem apply_keeps (h : n.SlotsLive)
    (ho : ∀ s, op.allocated o = some s → ¬n.subscriptions.Has s) :
    CallKeeps n (op.allocated o) (op.apply L o n) ∧ (op.apply L o n).node.SlotsLive := by
  cases op with
  | subscribe nodeNull port extent callback userReference =>
      have ho' : nodeNull = false → ∀ s, o.alloc = some s → ¬n.subscriptions.Has s := by
        rintro rfl s hs
        exact ho s hs
      exact ⟨subscribe_keeps h ho', slotsLive_subscribe h ho'⟩
  | unsubscribe nodeNull port =>
      exact ⟨unsubscribe_keeps h, slotsLive_unsubscribe h⟩

/-! ## Nodes and their heap -/

def Result.txError : Result := -4

/-- `leos_cyphal_push`: its result for that of `canardTxPush`. -/
def push (r : Int) : Result := if r < 0 then .txError else .ok

/-- A node with the blocks of its queued frames. -/
structure QueueNode extends Node where
  txq : Finset Block

/-- What a node may hold in memory. -/
inductive Held where
  | subscription (s : Ptr)
  | frame (b : Block)
deriving DecidableEq

/-- A subscription lies in a block of `sizeof(leos_cyphal_subscription_t)`. -/
def subscriptionBlock (size : ℕ+) (s : Ptr) : Block := ⟨s, size, size.property⟩

def Held.block (size : ℕ+) : Held → Block
  | .subscription s => subscriptionBlock size s
  | .frame b => b

def QueueNode.Holds (n : QueueNode) : Held → Prop
  | .subscription s => n.toNode.Keeps s
  | .frame b => b ∈ n.txq

/-- The nodes, of which some are initialised, and the one heap. -/
structure Nodes (K : Type) where
  node : K → Option QueueNode
  heap : Arena

def Nodes.start : Nodes K := ⟨fun _ => none, .init⟩

def Nodes.Holds (w : Nodes K) (k : K) (held : Held) : Prop :=
  ∃ n, w.node k = some n ∧ n.Holds held

def Nodes.set [DecidableEq K] (w : Nodes K) (k : K) (n : QueueNode) (heap : Arena) : Nodes K :=
  ⟨Function.update w.node k (some n), heap⟩

inductive NodesLabel (K : Type) where
  | init (k : K)
  | call (k : K) (l : NodeCall)
  | push (k : K) (frames : List Block) (result : Result)

def NodesLabel.node : NodesLabel K → K
  | .init k => k
  | .call k _ => k
  | .push k .. => k

/-- The pointer of a call, if any, as a list of blocks. -/
def blocks (size : ℕ+) (s : Option Ptr) : List Block :=
  s.toList.map (subscriptionBlock size)

/-- `leos_cyphal_init` once for each node, and calls on initialised nodes. -/
inductive NodesStep [DecidableEq K] (L : Canard) (size : ℕ+) :
    Nodes K → NodesLabel K → Nodes K → Prop
  | init {w k mem} (hk : w.node k = none) :
      NodesStep L size w (.init k) (w.set k ⟨.init mem, ∅⟩ .init)
  | call {w k n l n' heap} (hk : w.node k = some n)
      (ha : w.heap.Allocates (blocks size (l.op.allocated l.outside)) heap)
      (hc : l.op.apply L l.outside n.toNode = ⟨l.result, l.freed, n'⟩) :
      NodesStep L size w (.call k l)
        (w.set k ⟨n', n.txq⟩ (heap.freeAll (blocks size l.freed)))
  | push {w k n frames r heap} (hk : w.node k = some n)
      (ha : w.heap.Allocates frames heap) (hr : r < 0 → frames = []) :
      NodesStep L size w (.push k frames (Cyphal.push r))
        (w.set k ⟨n.toNode, n.txq ∪ frames.toFinset⟩ heap)

/-! ## Keeping what others hold -/

variable {w w' : Nodes K} {k k' : K} {held held' : Held}

/-- What the step's node does leaves the blocks of the others allocated. -/
def Undisturbed (size : ℕ+) (x : Rec (Nodes K) (NodesLabel K)) : Prop :=
  ∀ k held, k ≠ x.label.node → x.pre.Holds k held →
    held.block size ∈ x.pre.heap.live → held.block size ∈ x.post.heap.live

/-- No two blocks held overlap. -/
def Nodes.Apart (size : ℕ+) (w : Nodes K) : Prop :=
  ∀ k held k' held', w.Holds k held → w.Holds k' held' → (k, held) ≠ (k', held') →
    ¬(held.block size).Overlaps (held'.block size)

/-- An initialisation finds no node holding anything. -/
def InitAlone (x : Rec (Nodes K) (NodesLabel K)) : Prop :=
  match x.label with
  | .init _ => ∀ k held, ¬x.pre.Holds k held
  | _ => True

/-- Everything held is allocated, and held once: by one node, and there in one
place. -/
structure Nodes.Inv (size : ℕ+) (w : Nodes K) : Prop where
  slots : ∀ k n, w.node k = some n → n.toNode.SlotsLive
  live : ∀ k held, w.Holds k held → held.block size ∈ w.heap.live
  once : ∀ k held k' held', w.Holds k held → w.Holds k' held' →
    held.block size = held'.block size → (k, held) = (k', held')

theorem not_holds_start (k : K) (held : Held) : ¬(Nodes.start : Nodes K).Holds k held := by
  intro h
  rcases h with ⟨n, hn, -⟩
  cases hn

theorem nodesInv_start : (Nodes.start : Nodes K).Inv size where
  slots _ _ h := by cases h
  live k held h := absurd h (not_holds_start k held)
  once k held _ _ h := absurd h (not_holds_start k held)

theorem Nodes.Inv.apart (hi : w.Inv size) : w.Apart size := by
  intro k held k' held' h h' hne
  refine w.heap.apart _ (hi.live k held h) _ (hi.live k' held' h') fun heq => ?_
  exact hne (hi.once k held k' held' h h' heq)

theorem mem_blocks {p : Option Ptr} {b : Block} :
    b ∈ blocks size p ↔ ∃ s, p = some s ∧ b = subscriptionBlock size s := by
  cases p with
  | none => simp [blocks]
  | some s => simp [blocks]

/-- A node may come to hold new blocks, of one sort, besides old ones still
allocated. The pattern of both a call and a push. -/
theorem nodesInv_of_new {New : Held → Prop} (hi : w.Inv size)
    (hslots : ∀ k n, w'.node k = some n → n.toNode.SlotsLive)
    (hcases : ∀ k' held, w'.Holds k' held → w.Holds k' held ∨ k' = k ∧ New held)
    (hlive : ∀ k' held, w'.Holds k' held → held.block size ∈ w'.heap.live)
    (hnew : ∀ held, New held → held.block size ∉ w.heap.live)
    (hinj : ∀ held held', New held → New held' → held.block size = held'.block size →
      held = held') : w'.Inv size where
  slots := hslots
  live := hlive
  once := by
    intro k₁ held₁ k₂ held₂ h₁ h₂ heq
    rcases hcases k₁ held₁ h₁ with old₁ | ⟨hk₁, new₁⟩ <;>
      rcases hcases k₂ held₂ h₂ with old₂ | ⟨hk₂, new₂⟩
    · exact hi.once k₁ held₁ k₂ held₂ old₁ old₂ heq
    · exact absurd (heq ▸ hi.live k₁ held₁ old₁) (hnew held₂ new₂)
    · exact absurd (heq ▸ hi.live k₂ held₂ old₂) (hnew held₁ new₁)
    · rw [hinj held₁ held₂ new₁ new₂ heq, hk₁, hk₂]

theorem not_holds_init {mem : Ptr → Subscription} :
    ¬QueueNode.Holds ⟨.init mem, ∅⟩ held := by
  cases held with
  | subscription s =>
      intro h
      rcases h with hhas | ⟨hlive, -⟩
      · exact Slots.has_empty hhas
      · exact Finset.notMem_empty s hlive
  | frame b => exact Finset.notMem_empty b

variable [DecidableEq K]

theorem node_set {n n' : QueueNode} {heap : Arena} (h : (w.set k n heap).node k' = some n') :
    k' = k ∧ n' = n ∨ k' ≠ k ∧ w.node k' = some n' := by
  by_cases hk : k' = k
  · simp only [Nodes.set, hk, Function.update_self] at h
    exact .inl ⟨hk, (Option.some.inj h).symm⟩
  · simp only [Nodes.set, Function.update_of_ne hk] at h
    exact .inr ⟨hk, h⟩

theorem holds_set {n : QueueNode} {heap : Arena} (h : (w.set k n heap).Holds k' held) :
    k' = k ∧ n.Holds held ∨ k' ≠ k ∧ w.Holds k' held := by
  obtain ⟨n', hn, h⟩ := h
  rcases node_set hn with ⟨hk, rfl⟩ | ⟨hk, hn⟩
  · exact .inl ⟨hk, h⟩
  · exact .inr ⟨hk, n', hn, h⟩

theorem slots_set {n : QueueNode} {heap : Arena} (hi : w.Inv size)
    (hn : n.toNode.SlotsLive) :
    ∀ k' n', (w.set k n heap).node k' = some n' → n'.toNode.SlotsLive := by
  intro k' n' h
  rcases node_set h with ⟨-, rfl⟩ | ⟨-, h⟩
  · exact hn
  · exact hi.slots k' n' h

theorem subscriptionBlock_injective (size : ℕ+) :
    Function.Injective (subscriptionBlock size) := fun _ _ h => congrArg Block.addr h

/-- After a call on `k` a block held is one just allocated or one held
before and not freed. -/
theorem holds_call {n : QueueNode} {n' : Node} {l : NodeCall} {heap : Arena}
    (hi : w.Inv size) (hk : w.node k = some n)
    (hc : CallKeeps n.toNode (l.op.allocated l.outside) ⟨l.result, l.freed, n'⟩)
    (h : (w.set k ⟨n', n.txq⟩ heap).Holds k' held) :
    (k' = k ∧ ∃ s, l.op.allocated l.outside = some s ∧ held = .subscription s)
      ∨ w.Holds k' held ∧ held.block size ∉ blocks size l.freed := by
  -- the block freed was `k`'s, as a subscription
  have hfreed : ∀ t, l.freed = some t → w.Holds k' held →
      held.block size = subscriptionBlock size t → (k', held) = (k, .subscription t) := by
    intro t ht hold hb
    exact hi.once k' held k (.subscription t) hold ⟨n, hk, .inl (hc.freed t ht)⟩ hb
  rcases holds_set h with ⟨rfl, hown⟩ | ⟨hne, hold⟩
  · cases held with
    | subscription s =>
        rcases hc.keeps s hown with ha | ⟨hkeeps, hne⟩
        · exact .inl ⟨rfl, s, ha, rfl⟩
        · refine .inr ⟨⟨n, hk, hkeeps⟩, fun hmem => ?_⟩
          obtain ⟨t, ht, hb⟩ := mem_blocks.mp hmem
          obtain rfl := subscriptionBlock_injective size hb
          exact hne ht
    | frame b =>
        refine .inr ⟨⟨n, hk, hown⟩, fun hmem => ?_⟩
        obtain ⟨t, ht, hb⟩ := mem_blocks.mp hmem
        cases hfreed t ht ⟨n, hk, hown⟩ hb
  · refine .inr ⟨hold, fun hmem => ?_⟩
    obtain ⟨t, ht, hb⟩ := mem_blocks.mp hmem
    exact hne (congrArg Prod.fst (hfreed t ht hold hb))

theorem nodesInv_call {n : QueueNode} {n' : Node} {l : NodeCall} {heap : Arena}
    (hi : w.Inv size) (hk : w.node k = some n)
    (ha : w.heap.Allocates (blocks size (l.op.allocated l.outside)) heap)
    (hc : l.op.apply L l.outside n.toNode = ⟨l.result, l.freed, n'⟩) :
    (w.set k ⟨n', n.txq⟩ (heap.freeAll (blocks size l.freed))).Inv size := by
  have hnew : ∀ s, l.op.allocated l.outside = some s →
      subscriptionBlock size s ∈ blocks size (l.op.allocated l.outside) :=
    fun s hs => mem_blocks.mpr ⟨s, hs, rfl⟩
  have hfresh : ∀ s, l.op.allocated l.outside = some s → ¬n.subscriptions.Has s :=
    fun s hs hhas => ha.notMem (hnew s hs) (hi.live k (.subscription s) ⟨n, hk, .inl hhas⟩)
  obtain ⟨hkeeps, hslots⟩ := apply_keeps (L := L) (hi.slots k n hk) hfresh
  rw [hc] at hkeeps hslots
  have hcases : ∀ k' held,
      (w.set k ⟨n', n.txq⟩ (heap.freeAll (blocks size l.freed))).Holds k' held →
        w.Holds k' held
          ∨ k' = k ∧ ∃ s, l.op.allocated l.outside = some s ∧ held = .subscription s :=
    fun k' held h => ((holds_call hi hk hkeeps h).imp_right And.left).symm
  refine nodesInv_of_new hi (slots_set hi hslots) hcases (fun k' held h => ?_)
    (fun held h => ?_) fun held held' h h' _ => ?_
  · refine Arena.mem_freeAll.mpr ?_
    rcases holds_call hi hk hkeeps h with ⟨-, s, hs, rfl⟩ | ⟨hold, hnot⟩
    · refine ⟨(Arena.mem_allocates ha).mpr (.inl (hnew s hs)), fun hmem => ?_⟩
      obtain ⟨t, ht, hb⟩ := mem_blocks.mp hmem
      obtain rfl := subscriptionBlock_injective size hb
      exact hfresh s hs (hkeeps.freed s ht)
    · exact ⟨(Arena.mem_allocates ha).mpr (.inr (hi.live k' held hold)), hnot⟩
  · obtain ⟨s, hs, rfl⟩ := h
    exact ha.notMem (hnew s hs)
  · obtain ⟨s, hs, rfl⟩ := h
    obtain ⟨s', hs', rfl⟩ := h'
    rw [Option.some.inj (hs.symm.trans hs')]

theorem nodesInv_push {n : QueueNode} {frames : List Block} {heap : Arena}
    (hi : w.Inv size) (hk : w.node k = some n) (ha : w.heap.Allocates frames heap) :
    (w.set k ⟨n.toNode, n.txq ∪ frames.toFinset⟩ heap).Inv size := by
  have hcases : ∀ k' held,
      (w.set k ⟨n.toNode, n.txq ∪ frames.toFinset⟩ heap).Holds k' held →
        w.Holds k' held ∨ k' = k ∧ ∃ b ∈ frames, held = .frame b := by
    intro k' held h
    rcases holds_set h with ⟨rfl, hown⟩ | ⟨-, hold⟩
    · cases held with
      | subscription s => exact .inl ⟨n, hk, hown⟩
      | frame b =>
          rcases Finset.mem_union.mp hown with hb | hb
          · exact .inl ⟨n, hk, hb⟩
          · exact .inr ⟨rfl, b, List.mem_toFinset.mp hb, rfl⟩
    · exact .inl hold
  refine nodesInv_of_new hi (slots_set hi (hi.slots k n hk)) hcases
    (fun k' held h => (Arena.mem_allocates ha).mpr ?_) (fun held h => ?_)
    fun held held' h h' heq => ?_
  · rcases hcases k' held h with h | ⟨-, b, hb, rfl⟩
    · exact .inr (hi.live k' held h)
    · exact .inl hb
  · obtain ⟨b, hb, rfl⟩ := h
    exact ha.notMem hb
  · obtain ⟨b, -, rfl⟩ := h
    obtain ⟨b', -, rfl⟩ := h'
    exact congrArg Held.frame heq

/-- An initialisation while nothing is held. -/
theorem nodesInv_init {mem : Ptr → Subscription} (hi : w.Inv size)
    (hnone : ∀ k held, ¬w.Holds k held) :
    (w.set k ⟨.init mem, ∅⟩ .init).Inv size := by
  have hnot : ∀ k' held, ¬(w.set k ⟨.init mem, ∅⟩ .init).Holds k' held := by
    intro k' held h
    rcases holds_set h with ⟨-, hown⟩ | ⟨-, hold⟩
    · exact not_holds_init hown
    · exact hnone k' held hold
  exact ⟨slots_set hi (slotsLive_init mem), fun k' held h => absurd h (hnot k' held),
    fun k' held _ _ h => absurd h (hnot k' held)⟩

/-- Step lemma: an initialisation that finds nothing held, and any call or
push, keep the invariant. -/
theorem nodesInv_step {l : NodesLabel K} (hs : NodesStep L size w l w') (hi : w.Inv size)
    (hgood : InitAlone ⟨w, l, w'⟩) : w'.Inv size := by
  cases hs with
  | init hk => exact nodesInv_init hi hgood
  | call hk ha hc => exact nodesInv_call hi hk ha hc
  | push hk ha hr => exact nodesInv_push hi hk ha

/-! ## Over runs -/

/-- What is held stays allocated through anything another node does, except
for being initialised. -/
theorem undisturbed_of_alone {l : NodesLabel K} (hs : NodesStep L size w l w')
    (hi : w.Inv size) (hgood : InitAlone ⟨w, l, w'⟩) : Undisturbed size ⟨w, l, w'⟩ := by
  intro k held hne h hlive
  refine (nodesInv_step hs hi hgood).live k held ?_
  obtain ⟨n, hn, h⟩ := h
  cases hs with
  | init hk => exact ⟨n, (Function.update_of_ne hne ..).trans hn, h⟩
  | call hk ha hc => exact ⟨n, (Function.update_of_ne hne ..).trans hn, h⟩
  | push hk ha hr => exact ⟨n, (Function.update_of_ne hne ..).trans hn, h⟩

/-- Initialising empties the heap, so that anything held is disturbed. -/
theorem alone_of_undisturbed {l : NodesLabel K} (hs : NodesStep L size w l w')
    (hi : w.Inv size) (hu : Undisturbed size ⟨w, l, w'⟩) : InitAlone ⟨w, l, w'⟩ := by
  cases hs with
  | @init k₀ mem hk =>
      intro k held h
      have hne : k ≠ k₀ := by
        rintro rfl
        obtain ⟨n, hn, -⟩ := h
        rw [hk] at hn
        cases hn
      exact Finset.notMem_empty _ (hu k held hne h (hi.live k held h))
  | call => trivial
  | push => trivial

/-- In every run over any number of nodes on the one heap: what nodes hold is
never made available by another node, and no two blocks held overlap, exactly
if every initialisation finds no node holding a block. The equivalence is that
of one step, and that blocks are apart follows from the invariant. -/
theorem blocks_kept {xs : List (Rec (Nodes K) (NodesLabel K))}
    (h : Run (NodesStep L size) .start xs w) :
    ((∀ x ∈ xs, Undisturbed size x) ∧ ∀ x ∈ xs, x.post.Apart size)
      ↔ ∀ x ∈ xs, InitAlone x := by
  have hiff := h.forall_iff (Nodes.Inv size) InitAlone (Undisturbed size) nodesInv_start
    (fun x hs hi => ⟨undisturbed_of_alone hs hi, alone_of_undisturbed hs hi⟩)
    fun x hs ha hi => nodesInv_step hs hi ha
  refine ⟨fun hgood => hiff.mpr hgood.1, fun ha => ⟨hiff.mp ha, fun x hx => ?_⟩⟩
  have hxs := h.invariant (Nodes.Inv size) InitAlone nodesInv_start
    (fun x hs ha hi => nodesInv_step hs hi ha) ha
  exact (hxs.2 x hx).2.2.apart

/-! ## Concrete runs -/

def benchSize : ℕ+ := ⟨64, by decide⟩

/-- A subscription for message port 5 that gets the block at 100. -/
def benchCall : NodeCall :=
  ⟨.subscribe false ⟨.message, 5⟩ 64 1 0, ⟨some 100, blankBlock⟩, .ok, none⟩

/-- The first subscription of a node, on a heap in which nothing is allocated. -/
theorem nodesStep_benchCall (hk : w.node k = some ⟨benchInit, ∅⟩) (hheap : w.heap = .init) :
    ∃ n heap, NodesStep benchCanard benchSize w (.call k benchCall) (w.set k ⟨n, ∅⟩ heap)
      ∧ n.Keeps 100 ∧ subscriptionBlock benchSize 100 ∈ heap.live := by
  have hf : w.heap.Fresh (subscriptionBlock benchSize 100) := by
    rw [hheap]
    decide
  exact ⟨_, _, .call hk (.cons hf (.nil _)) rfl, .inl (by decide),
    Finset.mem_insert_self ..⟩

/-- Both nodes are initialised before either holds anything. -/
theorem blocks_kept_initialised_first :
    ∃ (xs : List (Rec (Nodes Bool) (NodesLabel Bool))) (w : Nodes Bool),
      Run (NodesStep benchCanard benchSize) .start xs w
        ∧ w.Holds true (.subscription 100) ∧ ∀ x ∈ xs, x.post.Apart benchSize := by
  let w₁ : Nodes Bool := Nodes.start.set false ⟨benchInit, ∅⟩ .init
  let w₂ := w₁.set true ⟨benchInit, ∅⟩ .init
  obtain ⟨n, heap, h₃, hkeeps, -⟩ := nodesStep_benchCall (k := true) (w := w₂) rfl rfl
  have hrun : Run (NodesStep benchCanard benchSize) .start
      [⟨.start, .init false, w₁⟩, ⟨w₁, .init true, w₂⟩, ⟨w₂, .call true benchCall, _⟩] _ :=
    .cons (.init rfl) (.cons (.init rfl) (.cons h₃ .nil))
  refine ⟨_, _, hrun, ⟨_, rfl, hkeeps⟩, ((blocks_kept hrun).mpr ?_).2⟩
  have h₁ : ∀ k held, ¬w₁.Holds k held := by
    intro k held h
    rcases holds_set h with ⟨-, h⟩ | ⟨-, n, hn, -⟩
    · exact not_holds_init h
    · cases hn
  intro x hx
  rcases List.mem_cons.mp hx with rfl | hx
  · exact not_holds_start
  · rcases List.mem_cons.mp hx with rfl | hx
    · exact h₁
    · obtain rfl := List.mem_singleton.mp hx
      trivial

/-- The second node's initialisation makes the first one's subscription
available, and the second node's subscription is put on top of it. -/
theorem second_init_shares :
    ∃ (xs : List (Rec (Nodes Bool) (NodesLabel Bool))) (w : Nodes Bool),
      Run (NodesStep benchCanard benchSize) .start xs w
        ∧ (∃ x ∈ xs, ¬Undisturbed benchSize x)
        ∧ w.Holds false (.subscription 100) ∧ w.Holds true (.subscription 100)
        ∧ ¬w.Apart benchSize := by
  let w₁ : Nodes Bool := Nodes.start.set false ⟨benchInit, ∅⟩ .init
  obtain ⟨n, heap, h₂, hkeeps, hlive⟩ := nodesStep_benchCall (k := false) (w := w₁) rfl rfl
  let w₂ := w₁.set false ⟨n, ∅⟩ heap
  let w₃ := w₂.set true ⟨benchInit, ∅⟩ .init
  obtain ⟨n', heap', h₄, hkeeps', -⟩ := nodesStep_benchCall (k := true) (w := w₃) rfl rfl
  have hrun : Run (NodesStep benchCanard benchSize) .start
      [⟨.start, .init false, w₁⟩, ⟨w₁, .call false benchCall, w₂⟩, ⟨w₂, .init true, w₃⟩,
        ⟨w₃, .call true benchCall, _⟩] _ :=
    .cons (.init rfl) (.cons h₂ (.cons (.init rfl) (.cons h₄ .nil)))
  have hheld : w₂.Holds false (.subscription 100) := ⟨_, rfl, hkeeps⟩
  refine ⟨_, _, hrun, ⟨⟨w₂, .init true, w₃⟩, by simp, fun hu => ?_⟩, ⟨_, rfl, hkeeps⟩,
    ⟨_, rfl, hkeeps'⟩, fun hapart => ?_⟩
  · exact Finset.notMem_empty _ (hu false _ (by simp [NodesLabel.node]) hheld hlive)
  · exact hapart false (.subscription 100) true (.subscription 100) ⟨_, rfl, hkeeps⟩
      ⟨_, rfl, hkeeps'⟩ (by simp) (Block.overlaps_self _)

end Cyphal

end LeosSdk
