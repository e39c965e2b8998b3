import LeosSdk.CyphalNode

/-!
# Cyphal node: where transfers are delivered

Each call either leaves the registered subscriptions alone, binds a port to a
new block, unbinds one, or does the latter two (`Effect`). That is so as long
as the slot searched by port-ID is the slot of the subscription meant and a
new one finds a free slot (`Tidy`); from it, transfers go to the latest
successful subscription of their kind and port-ID.

The search ignores the kind. With one port-ID subscribed under two kinds the
slot found first may be the other kind's, whose block is then freed while
libcanard still delivers to it (`other_kind_lost`).

The invariant says that the slots hold the registered objects, in blocks of
the heap that say what they were registered for, so ports have blocks of their
own. The code registers first and releases the old block then; on a tidy node
that is the same as unbinding first and binding then (`enroll_release`), and
for these two the invariant and what each port is bound to are simple. What a
port is bound to after a call is computed from the call alone
(`NodeCall.after`), and over a run that is the latest successful subscription,
unless unsubscribed since.
-/

namespace LeosSdk

namespace Cyphal

variable {L : Canard} {n n' : Node} {port port' : Port} {s old : Ptr}
  {i j : Fin maxSubscriptions} {b scrap : Subscription}

/-! ## Binding and unbinding -/

/-- `port` is registered with block `s`, in slot `i`. -/
def Node.bind (n : Node) (port : Port) (i : Fin maxSubscriptions) (s : Ptr)
    (b : Subscription) : Node where
  subscriptions := n.subscriptions.put i s
  rxSubscriptions := Function.update n.rxSubscriptions port (some s)
  live := insert s n.live
  mem := Function.update n.mem s b

/-- `port` is no longer registered and its block `s`, in slot `i`, freed. -/
def Node.unbind (n : Node) (port : Port) (i : Fin maxSubscriptions) (s : Ptr)
    (scrap : Subscription) : Node where
  subscriptions := n.subscriptions.clear i
  rxSubscriptions := Function.update n.rxSubscriptions port none
  live := n.live.erase s
  mem := Function.update n.mem s scrap

/-- The callback and user reference a port is bound to. -/
def Node.bound (n : Node) (port : Port) : Option (RxCallback × UserRef) :=
  (n.rxSubscriptions port).map fun s => ((n.mem s).callback, (n.mem s).userRef)

/-- The slots hold the registered objects, in blocks of the heap that say what
they were registered for. Slots and registry are two records of the same
blocks. -/
structure Node.Inv (L : Canard) (n : Node) : Prop where
  distinct : n.subscriptions.Distinct
  live : ∀ s, n.subscriptions.Has s → s ∈ n.live
  registered : ∀ s, n.subscriptions.Has s ↔ ∃ port, n.rxSubscriptions port = some s
  injective : ∀ port port' s, n.rxSubscriptions port = some s →
    n.rxSubscriptions port' = some s → port = port'
  valid : ∀ port s, n.rxSubscriptions port = some s → L.validArgs port = true
  portId : ∀ port s, n.rxSubscriptions port = some s → (n.mem s).portId = port.portId
  userReference : ∀ port s, n.rxSubscriptions port = some s →
    (n.mem s).userReference = some s

theorem inv_init (mem : Ptr → Subscription) : (Node.init mem).Inv L where
  distinct := Slots.distinct_empty
  live s h := absurd h Slots.has_empty
  registered s := by
    refine ⟨fun h => absurd h Slots.has_empty, ?_⟩
    intro hx
    rcases hx with ⟨_, h⟩
    cases h
  injective _ _ _ h := by cases h
  valid _ _ h := by cases h
  portId _ _ h := by cases h
  userReference _ _ h := by cases h

theorem Node.Inv.has (hi : n.Inv L) (h : n.rxSubscriptions port = some s) :
    n.subscriptions.Has s := (hi.registered s).mpr ⟨port, h⟩

/-- A block not handed out is not registered. -/
theorem Node.Inv.ne_fresh (hi : n.Inv L) (hs : s ∉ n.live)
    (h : n.rxSubscriptions port = some old) : old ≠ s := by
  rintro rfl
  exact hs (hi.live _ (hi.has h))

theorem registered_update {reg : Port → Option Ptr} {r : Option Ptr}
    (h : Function.update reg port r port' = some s) :
    port' = port ∧ r = some s ∨ port' ≠ port ∧ reg port' = some s := by
  by_cases hp : port' = port
  · subst hp
    rw [Function.update_self] at h
    exact .inl ⟨rfl, h⟩
  · rw [Function.update_of_ne hp] at h
    exact .inr ⟨hp, h⟩

/-- Ports have blocks of their own. -/
theorem Node.Inv.ne_of_port (hi : n.Inv L) (hreg : n.rxSubscriptions port = some old)
    (hp : port' ≠ port) (h : n.rxSubscriptions port' = some s) : s ≠ old := by
  rintro rfl
  exact hp (hi.injective _ _ _ h hreg)

/-- The registrations are the new one and the old ones, of other blocks. -/
theorem registered_bind {t : Ptr} (hi : n.Inv L) (hreg : n.rxSubscriptions port = none)
    (hs : s ∉ n.live) :
    (n.bind port i s b).rxSubscriptions port' = some t ↔
      port' = port ∧ t = s ∨ n.rxSubscriptions port' = some t ∧ t ≠ s := by
  constructor
  · intro h
    rcases registered_update h with ⟨rfl, heq⟩ | ⟨-, h⟩
    · exact .inl ⟨rfl, (Option.some.inj heq).symm⟩
    · exact .inr ⟨h, hi.ne_fresh hs h⟩
  · intro h
    rcases h with ⟨rfl, rfl⟩ | ⟨h, -⟩
    · exact Function.update_self ..
    · refine (Function.update_of_ne ?_ ..).trans h
      rintro rfl
      rw [hreg] at h
      cases h

/-- The registrations are the old ones of other blocks. -/
theorem registered_unbind {t : Ptr} (hi : n.Inv L) (hreg : n.rxSubscriptions port = some old) :
    (n.unbind port i old scrap).rxSubscriptions port' = some t ↔
      n.rxSubscriptions port' = some t ∧ t ≠ old := by
  constructor
  · intro h
    rcases registered_update h with ⟨-, heq⟩ | ⟨hne, h⟩
    · cases heq
    · exact ⟨h, hi.ne_of_port hreg hne h⟩
  · intro h
    rcases h with ⟨h, hne⟩
    refine (Function.update_of_ne ?_ ..).trans h
    rintro rfl
    exact hne (Option.some.inj (h.symm.trans hreg))

theorem inv_bind (hi : n.Inv L) (hreg : n.rxSubscriptions port = none)
    (hfree : n.subscriptions i = none) (hs : s ∉ n.live) (hv : L.validArgs port = true)
    (hb : b.portId = port.portId) (hself : b.userReference = some s) :
    (n.bind port i s b).Inv L := by
  have hnot : ¬n.subscriptions.Has s := fun h => hs (hi.live s h)
  refine ⟨Slots.distinct_put hi.distinct hnot, ?_, ?_, ?_, ?_, ?_, ?_⟩
  · intro t ht
    rcases (Slots.has_put hfree).mp ht with rfl | ht
    · exact Finset.mem_insert_self ..
    · exact Finset.mem_insert_of_mem (hi.live t ht)
  · intro t
    rw [show (n.bind port i s b).subscriptions = n.subscriptions.put i s from rfl,
      Slots.has_put hfree]
    constructor
    · intro h
      rcases h with rfl | ht
      · exact ⟨port, (registered_bind hi hreg hs).mpr (.inl ⟨rfl, rfl⟩)⟩
      · obtain ⟨port', h⟩ := (hi.registered t).mp ht
        exact ⟨port', (registered_bind hi hreg hs).mpr (.inr ⟨h, hi.ne_fresh hs h⟩)⟩
    · intro hx
      rcases hx with ⟨port', h⟩
      rcases (registered_bind hi hreg hs).mp h with ⟨-, rfl⟩ | ⟨h, -⟩
      · exact .inl rfl
      · exact .inr (hi.has h)
  · intro p₁ p₂ t h₁ h₂
    rcases (registered_bind hi hreg hs).mp h₁ with ⟨rfl, rfl⟩ | ⟨h₁, hne⟩ <;>
      rcases (registered_bind hi hreg hs).mp h₂ with ⟨rfl, heq⟩ | ⟨h₂, hne'⟩
    · rfl
    · exact absurd rfl hne'
    · exact absurd heq hne
    · exact hi.injective _ _ _ h₁ h₂
  · intro port' t h
    rcases (registered_bind hi hreg hs).mp h with ⟨rfl, -⟩ | ⟨h, -⟩
    · exact hv
    · exact hi.valid _ _ h
  · intro port' t h
    rcases (registered_bind hi hreg hs).mp h with ⟨rfl, rfl⟩ | ⟨h, hne⟩
    · simp [Node.bind, hb]
    · simpa [Node.bind, Function.update_of_ne hne] using hi.portId _ _ h
  · intro port' t h
    rcases (registered_bind hi hreg hs).mp h with ⟨rfl, rfl⟩ | ⟨h, hne⟩
    · simp [Node.bind, hself]
    · simpa [Node.bind, Function.update_of_ne hne] using hi.userReference _ _ h

theorem inv_unbind (hi : n.Inv L) (hreg : n.rxSubscriptions port = some old)
    (hslot : n.subscriptions i = some old) : (n.unbind port i old scrap).Inv L := by
  refine ⟨Slots.distinct_clear hi.distinct, ?_, ?_, ?_, ?_, ?_, ?_⟩
  · intro t ht
    obtain ⟨hne, ht⟩ := (Slots.has_clear hi.distinct hslot).mp ht
    exact Finset.mem_erase.mpr ⟨hne, hi.live t ht⟩
  · intro t
    rw [show (n.unbind port i old scrap).subscriptions = n.subscriptions.clear i from rfl,
      Slots.has_clear hi.distinct hslot]
    constructor
    · intro h
      rcases h with ⟨hne, ht⟩
      obtain ⟨port', h⟩ := (hi.registered t).mp ht
      exact ⟨port', (registered_unbind hi hreg).mpr ⟨h, hne⟩⟩
    · intro hx
      rcases hx with ⟨port', h⟩
      obtain ⟨h, hne⟩ := (registered_unbind hi hreg).mp h
      exact ⟨hne, hi.has h⟩
  · intro p₁ p₂ t h₁ h₂
    have h₁ := (registered_unbind hi hreg).mp h₁
    have h₂ := (registered_unbind hi hreg).mp h₂
    exact hi.injective _ _ _ h₁.1 h₂.1
  · intro port' t h
    exact hi.valid _ _ ((registered_unbind hi hreg).mp h).1
  · intro port' t h
    obtain ⟨h, hne⟩ := (registered_unbind hi hreg).mp h
    simpa [Node.unbind, Function.update_of_ne hne] using hi.portId _ _ h
  · intro port' t h
    obtain ⟨h, hne⟩ := (registered_unbind hi hreg).mp h
    simpa [Node.unbind, Function.update_of_ne hne] using hi.userReference _ _ h

theorem bound_bind (hi : n.Inv L) (hs : s ∉ n.live) :
    (n.bind port i s b).bound
      = Function.update n.bound port (some (b.callback, b.userRef)) := by
  funext port'
  by_cases hp : port' = port
  · subst hp
    simp [Node.bound, Node.bind]
  · rw [Function.update_of_ne hp]
    simp only [Node.bound, Node.bind, Function.update_of_ne hp]
    cases h : n.rxSubscriptions port' with
    | none => rfl
    | some t => simp [Function.update_of_ne (hi.ne_fresh hs h)]

theorem bound_unbind (hi : n.Inv L) (hreg : n.rxSubscriptions port = some old) :
    (n.unbind port i old scrap).bound = Function.update n.bound port none := by
  funext port'
  by_cases hp : port' = port
  · subst hp
    simp [Node.bound, Node.unbind]
  · rw [Function.update_of_ne hp]
    simp only [Node.bound, Node.unbind, Function.update_of_ne hp]
    cases h : n.rxSubscriptions port' with
    | none => rfl
    | some t => simp [Function.update_of_ne (hi.ne_of_port hreg hp h)]

/-! ## What a call does -/

/-- The slot found by port-ID is that of the port's own subscription. -/
def Node.FirstIsOwn (n : Node) (port : Port) : Prop :=
  ∀ s ∈ n.rxSubscriptions port, ∃ i, n.findPort port.portId = some (i, s)

/-- A port not yet subscribed finds a free slot. -/
def Node.HasRoom (n : Node) (port : Port) : Prop :=
  n.rxSubscriptions port = none → ∃ i, n.subscriptions i = none

/-- The search by port-ID meets no other kind's subscription first, and the
table has room for a new one. -/
def Tidy (L : Canard) (n : Node) (l : NodeCall) : Prop :=
  match l.op with
  | .subscribe nodeNull port .. =>
    nodeNull = false → l.outside.alloc ≠ none → L.validArgs port = true →
      n.FirstIsOwn port ∧ n.HasRoom port
  | .unsubscribe nodeNull port =>
    nodeNull = false → L.validArgs port = true → n.FirstIsOwn port

instance : Decidable (n.FirstIsOwn port) :=
  inferInstanceAs (Decidable (∀ s ∈ n.rxSubscriptions port, _))

instance : Decidable (n.HasRoom port) :=
  inferInstanceAs (Decidable (n.rxSubscriptions port = none → _))

instance : (l : NodeCall) → Decidable (Tidy L n l)
  | ⟨.subscribe .., _, _, _⟩ => inferInstanceAs (Decidable (_ → _ → _ → _ ∧ _))
  | ⟨.unsubscribe .., _, _, _⟩ => inferInstanceAs (Decidable (_ → _ → _))

/-- A block as `leos_cyphal_subscribe` registers it. -/
def newBlock (port : Port) (extent : Nat) (s : Ptr) (callback : RxCallback)
    (userReference : UserRef) : Subscription where
  portId := port.portId
  extent := extent
  transferIdTimeoutUsec := defaultTransferIdTimeoutUsec
  userReference := some s
  callback := callback
  userRef := userReference

/-- What a call of a tidy node can do. -/
inductive Effect (L : Canard) (n : Node) : NodeCall → Node → Prop
  | failed {nodeNull port extent callback userReference o r} (hr : r ≠ .ok) :
      Effect L n ⟨.subscribe nodeNull port extent callback userReference, o, r, none⟩ n
  | rejected {port extent callback userReference o s} (hs : s ∉ n.live)
      (ho : o.alloc = some s) (hv : L.validArgs port = false) :
      Effect L n ⟨.subscribe false port extent callback userReference, o, L.error, none⟩
        ((n.allocate s).fill s callback userReference)
  | subscribed {port extent callback userReference o s i} (hs : s ∉ n.live)
      (hv : L.validArgs port = true) (hreg : n.rxSubscriptions port = none)
      (hi : n.subscriptions i = none) :
      Effect L n ⟨.subscribe false port extent callback userReference, o, .ok, none⟩
        (n.bind port i s (newBlock port extent s callback userReference))
  | replaced {port extent callback userReference o s old i j} (hs : s ∉ n.live)
      (hv : L.validArgs port = true) (hreg : n.rxSubscriptions port = some old)
      (hi : n.subscriptions i = some old) (hj : n.subscriptions.clear i j = none) :
      Effect L n ⟨.subscribe false port extent callback userReference, o, .ok, some old⟩
        ((n.unbind port i old o.scrap).bind port j s
          (newBlock port extent s callback userReference))
  | nothing {nodeNull port o r} (h : nodeNull = false → n.rxSubscriptions port = none) :
      Effect L n ⟨.unsubscribe nodeNull port, o, r, none⟩ n
  | unsubscribed {port o old i} (hreg : n.rxSubscriptions port = some old)
      (hi : n.subscriptions i = some old) :
      Effect L n ⟨.unsubscribe false port, o, .ok, some old⟩ (n.unbind port i old o.scrap)

/-- The node once `canardRxSubscribe` has registered block `s`, in no slot
yet. -/
def Node.enroll (n : Node) (port : Port) (s : Ptr) (b : Subscription) : Node where
  subscriptions := n.subscriptions
  rxSubscriptions := Function.update n.rxSubscriptions port (some s)
  live := insert s n.live
  mem := Function.update n.mem s b

theorem rxSubscribe_fill {extent : Nat} {callback : RxCallback} {userReference : UserRef}
    (hv : L.validArgs port = true) :
    L.rxSubscribe port extent s ((n.allocate s).fill s callback userReference)
      = (if (n.rxSubscriptions port).isSome then 0 else 1,
        n.enroll port s (newBlock port extent s callback userReference)) := by
  simp [Canard.rxSubscribe, hv, Node.fill, Node.allocate, Node.enroll, newBlock]
  rfl

/-- A block in no slot does not matter to the search. -/
theorem findPort_enroll {portId : PortId} (h : ¬n.subscriptions.Has s) :
    (n.enroll port s b).findPort portId = n.findPort portId := by
  refine Slots.findFirst_congr fun t ht => ?_
  have hne : t ≠ s := by
    rintro rfl
    exact h ht
  simp only [Node.enroll, Function.update_of_ne hne]

theorem release_some {portId : PortId} (h : n.findPort portId = some (i, s)) :
    n.release scrap portId
      = (some s,
        { n.deallocate scrap s with subscriptions := n.subscriptions.clear i }) := by
  simp only [Node.release, h]
  rfl

/-- Registering first and releasing the old block then is the same as the
other way round, since the two blocks are different. -/
theorem enroll_release (hne : old ≠ s) :
    { (n.enroll port s b).deallocate scrap old with
        subscriptions := (n.subscriptions.clear i).put j s }
      = (n.unbind port i old scrap).bind port j s b := by
  simp [Node.enroll, Node.deallocate, Node.unbind, Node.bind, Function.update_comm hne,
    Finset.erase_insert_of_ne hne.symm]

theorem install_free (h : n.subscriptions i = none) (freed : Option Ptr) :
    ∃ j, n.subscriptions j = none
      ∧ n.install s freed
        = ⟨.ok, freed, { n with subscriptions := n.subscriptions.put j s }⟩ := by
  obtain ⟨j, hj⟩ := Slots.exists_firstFree h
  exact ⟨j, Slots.firstFree_some hj, by simp only [Node.install, hj]⟩

section Subscribe

variable {o : Outside} {extent : Nat} {callback : RxCallback} {userReference : UserRef}

/-- `subscribe` with a block and valid arguments. -/
theorem subscribe_enroll (ha : o.alloc = some s) (hv : L.validArgs port = true) :
    subscribe L o false port extent callback userReference n
      = (let n₁ := n.enroll port s (newBlock port extent s callback userReference)
        if (n.rxSubscriptions port).isSome then
          (n₁.release o.scrap port.portId).2.install s (n₁.release o.scrap port.portId).1
        else n₁.install s none) := by
  simp only [subscribe, ha, Bool.false_eq_true, if_false, rxSubscribe_fill hv]
  cases n.rxSubscriptions port with
  | none => rfl
  | some old => rfl

/-- The old block is released and the new one takes a free slot. -/
theorem enroll_replaces (scrap b : Subscription) (hi : n.Inv L) (hs : s ∉ n.live)
    (hreg : n.rxSubscriptions port = some old)
    (hfind : n.findPort port.portId = some (i, old)) :
    ∃ j, n.subscriptions.clear i j = none
      ∧ ((n.enroll port s b).release scrap port.portId).2.install s
          ((n.enroll port s b).release scrap port.portId).1
        = ⟨.ok, some old, (n.unbind port i old scrap).bind port j s b⟩ := by
  have hnot : ¬n.subscriptions.Has s := fun h => hs (hi.live s h)
  have hfind' : (n.enroll port s b).findPort port.portId = some (i, old) :=
    (findPort_enroll hnot).trans hfind
  rw [release_some hfind']
  have hclear : ({ (n.enroll port s b).deallocate scrap old with
      subscriptions := n.subscriptions.clear i } : Node).subscriptions i = none :=
    Slots.clear_self
  obtain ⟨j, hj, heq⟩ := install_free (s := s) hclear (some old)
  refine ⟨j, hj, heq.trans ?_⟩
  rw [← enroll_release (hi.ne_fresh hs hreg)]

/-- A `leos_cyphal_subscribe` on a tidy node, exit by exit. -/
theorem subscribe_effect (out : Outcome) (hi : n.Inv L) {nodeNull : Bool}
    (ho : ∀ s, o.alloc = some s → s ∉ n.live)
    (ht : Tidy L n ⟨.subscribe nodeNull port extent callback userReference, o,
      out.result, out.freed⟩)
    (h : subscribe L o nodeNull port extent callback userReference n = out) :
    Effect L n ⟨.subscribe nodeNull port extent callback userReference, o,
      out.result, out.freed⟩ out.node := by
  subst h
  cases nodeNull with
  | true => exact .failed (r := .invalidArgument) (by decide)
  | false =>
      cases ha : o.alloc with
      | none =>
          simp only [subscribe, ha, Bool.false_eq_true, if_false]
          exact .failed (by decide)
      | some s =>
          have hs := ho s ha
          cases hv : L.validArgs port with
          | false =>
              have hneg := L.error_neg
              simp only [subscribe, ha, Bool.false_eq_true, if_false,
                Canard.rxSubscribe, hv, hneg, if_true]
              exact .rejected hs ha hv
          | true =>
              obtain ⟨hfirst, hroom⟩ := ht rfl (by simp [ha]) hv
              rw [subscribe_enroll ha hv]
              cases hreg : n.rxSubscriptions port with
              | none =>
                  obtain ⟨i, hfree⟩ := hroom hreg
                  obtain ⟨j, hj, heq⟩ := install_free (s := s) (n := n.enroll port s
                    (newBlock port extent s callback userReference)) hfree none
                  simp only [Option.isSome_none, Bool.false_eq_true, if_false, heq]
                  exact .subscribed hs hv hreg hj
              | some old =>
                  obtain ⟨i, hfind⟩ := hfirst old hreg
                  obtain ⟨j, hj, heq⟩ := enroll_replaces o.scrap
                    (newBlock port extent s callback userReference) hi hs hreg hfind
                  simp only [Option.isSome_some, if_true, heq]
                  exact .replaced hs hv hreg (Slots.findFirst_some hfind).1 hj

end Subscribe

theorem unsubscribe_effect (out : Outcome) (hi : n.Inv L) {o : Outside} {nodeNull : Bool}
    (ht : Tidy L n ⟨.unsubscribe nodeNull port, o, out.result, out.freed⟩)
    (h : unsubscribe L o nodeNull port n = out) :
    Effect L n ⟨.unsubscribe nodeNull port, o, out.result, out.freed⟩ out.node := by
  subst h
  cases nodeNull with
  | true => exact .nothing (by simp)
  | false =>
      cases hv : L.validArgs port with
      | false =>
          have hneg := L.error_neg
          simp only [unsubscribe, Bool.false_eq_true, if_false, Canard.rxUnsubscribe, hv,
            hneg, if_true]
          refine .nothing fun _ => ?_
          cases hreg : n.rxSubscriptions port with
          | none => rfl
          | some s =>
              rw [hi.valid _ _ hreg] at hv
              cases hv
      | true =>
          cases hreg : n.rxSubscriptions port with
          | none =>
              simp only [unsubscribe, Bool.false_eq_true, if_false, Canard.rxUnsubscribe, hv,
                hreg, Option.isSome_none, if_true]
              exact .nothing fun _ => hreg
          | some old =>
              obtain ⟨i, hfind⟩ := ht rfl hv old hreg
              have hfind' : ({ n with
                  rxSubscriptions := Function.update n.rxSubscriptions port none } :
                  Node).findPort port.portId = some (i, old) := hfind
              simp only [unsubscribe, Bool.false_eq_true, if_false, Canard.rxUnsubscribe, hv,
                hreg, Option.isSome_some, if_true, release_some hfind']
              exact .unsubscribed hreg (Slots.findFirst_some hfind).1

/-- A call on a tidy node has one of the effects. All later results on tidy
nodes are by cases on them. -/
theorem nodeStep_effect {l : NodeCall} (hi : n.Inv L) (hs : NodeStep L n l n')
    (ht : Tidy L n l) : Effect L n l n' := by
  obtain ⟨op, o, r, freed⟩ := l
  obtain ⟨ho, h⟩ := hs
  cases op with
  | subscribe nodeNull port extent callback userReference =>
      exact subscribe_effect ⟨r, freed, n'⟩ hi ho ht h
  | unsubscribe nodeNull port => exact unsubscribe_effect ⟨r, freed, n'⟩ hi ht h

/-! ## The invariant over runs -/

/-- A block that is leaked instead of registered. -/
theorem inv_leak {callback : RxCallback} {userReference : UserRef} (hi : n.Inv L)
    (hs : s ∉ n.live) : ((n.allocate s).fill s callback userReference).Inv L where
  distinct := hi.distinct
  live t ht := Finset.mem_insert_of_mem (hi.live t ht)
  registered := hi.registered
  injective := hi.injective
  valid := hi.valid
  portId port t h := by
    simpa [Node.fill, Node.allocate, Function.update_of_ne (hi.ne_fresh hs h)]
      using hi.portId port t h
  userReference port t h := by
    simpa [Node.fill, Node.allocate, Function.update_of_ne (hi.ne_fresh hs h)]
      using hi.userReference port t h

theorem fresh_unbind (hs : s ∉ n.live) : s ∉ (n.unbind port i old scrap).live :=
  fun h => hs (Finset.mem_of_mem_erase h)

/-- Each effect keeps the invariant; a rejected block is leaked, in no slot
and registered for nothing. -/
theorem effect_inv {l : NodeCall} (h : Effect L n l n') (hi : n.Inv L) : n'.Inv L := by
  cases h with
  | failed => exact hi
  | rejected hs => exact inv_leak hi hs
  | subscribed hs hv hreg hfree => exact inv_bind hi hreg hfree hs hv rfl rfl
  | replaced hs hv hreg hslot hj =>
      refine inv_bind (inv_unbind hi hreg hslot) ?_ hj ?_ hv rfl rfl
      · exact Function.update_self ..
      · exact fresh_unbind hs
  | nothing => exact hi
  | unsubscribed hreg hslot => exact inv_unbind hi hreg hslot

/-- What a port is bound to after a call, as the caller sees it. -/
def NodeCall.after (l : NodeCall) (port : Port) (bound : Option (RxCallback × UserRef)) :
    Option (RxCallback × UserRef) :=
  match l.op with
  | .subscribe _ port' _ callback userReference =>
    if port' = port ∧ l.result = .ok then some (callback, userReference) else bound
  | .unsubscribe nodeNull port' =>
    if port' = port ∧ nodeNull = false then none else bound

theorem after_of_ne {l : NodeCall} (h : port ≠ l.op.port)
    (bound : Option (RxCallback × UserRef)) : l.after port bound = bound := by
  obtain ⟨op, o, r, freed⟩ := l
  cases op with
  | subscribe => exact if_neg fun hc => h hc.1.symm
  | unsubscribe => exact if_neg fun hc => h hc.1.symm

theorem effect_bound {l : NodeCall} (h : Effect L n l n') (hi : n.Inv L) (port : Port) :
    n'.bound port = l.after port (n.bound port) := by
  cases h with
  | failed hr => simp [NodeCall.after, hr]
  | @rejected port' _ callback userReference _ s hs =>
      have hr : L.error ≠ Result.ok := Int.ne_of_lt L.error_neg
      simp only [NodeCall.after, hr, and_false, if_false, Node.bound]
      cases h : n.rxSubscriptions port with
      | none => simp [Node.fill, Node.allocate, h]
      | some t =>
          simp [Node.fill, Node.allocate, h, Function.update_of_ne (hi.ne_fresh hs h)]
  | @subscribed port' _ _ _ _ _ _ hs =>
      rw [bound_bind hi hs, Function.update_apply]
      simp [NodeCall.after, newBlock, eq_comm]
  | @replaced port' _ _ _ _ _ _ _ _ hs _ hreg hslot =>
      rw [bound_bind (inv_unbind hi hreg hslot) (fresh_unbind hs), bound_unbind hi hreg,
        Function.update_idem, Function.update_apply]
      simp [NodeCall.after, newBlock, eq_comm]
  | @nothing nodeNull port' o r hnone =>
      simp only [NodeCall.after]
      split
      · rename_i hc
        obtain ⟨rfl, hn⟩ := hc
        simp [Node.bound, hnone hn]
      · rfl
  | unsubscribed hreg =>
      rw [bound_unbind hi hreg, Function.update_apply]
      simp [NodeCall.after, eq_comm]

/-- A transfer is delivered to what its port is bound to: the object
registered for it holds the callback and reference of its subscription. -/
theorem deliver_bound (hi : n.Inv L) (transfer : Transfer) :
    n.deliver transfer
      = (n.bound transfer.port).map fun (callback, userReference) =>
          ⟨callback, transfer, userReference⟩ := by
  cases h : n.rxSubscriptions transfer.port with
  | none => simp [Node.deliver, subscriptionDispatch, Node.bound, h]
  | some s =>
      simp [Node.deliver, subscriptionDispatch, Node.bound, h, hi.userReference _ _ h]

/-- The latest successful subscription of a port, unless unsubscribed since. -/
def latest (xs : List (Rec Node NodeCall)) (port : Port) : Option (RxCallback × UserRef) :=
  xs.foldl (fun bound x => x.label.after port bound) none

theorem tidy_run {mem : Ptr → Subscription} {xs : List (Rec Node NodeCall)}
    (h : Run (NodeStep L) (.init mem) xs n) (ht : ∀ x ∈ xs, Tidy L x.pre x.label) :
    n.Inv L ∧ ∀ x ∈ xs, x.pre.Inv L ∧ Effect L x.pre x.label x.post := by
  obtain ⟨hn, hxs⟩ := h.invariant (Node.Inv L) (fun x => Tidy L x.pre x.label)
    (inv_init mem) (fun x hs ht hi => effect_inv (nodeStep_effect hi hs ht) hi) ht
  refine ⟨hn, fun x hx => ?_⟩
  obtain ⟨hs, hi, -⟩ := hxs x hx
  exact ⟨hi, nodeStep_effect hi hs (ht x hx)⟩

theorem bound_latest {mem : Ptr → Subscription} {xs : List (Rec Node NodeCall)}
    (h : Run (NodeStep L) (.init mem) xs n) (ht : ∀ x ∈ xs, Tidy L x.pre x.label)
    (port : Port) : n.bound port = latest xs port := by
  induction h with
  | nil => rfl
  | @snoc xs n l n' h hs ih =>
      have ht' : ∀ x ∈ xs, Tidy L x.pre x.label :=
        fun x hx => ht x (List.mem_append_left _ hx)
      have hi := (tidy_run h ht').1
      have he := nodeStep_effect hi hs (ht ⟨n, l, n'⟩ (by simp))
      rw [effect_bound he hi, ih ht', latest, latest, List.foldl_append]
      rfl

/-- In every run of calls on tidy nodes transfers go to the latest successful
subscription of their kind and port-ID, and a call for one port leaves the
delivery of the others alone. The invariant turns what is delivered into what
is bound, and that follows the calls. -/
theorem delivered_to_latest {mem : Ptr → Subscription} {xs : List (Rec Node NodeCall)}
    (h : Run (NodeStep L) (.init mem) xs n) (ht : ∀ x ∈ xs, Tidy L x.pre x.label) :
    (∀ transfer, n.deliver transfer
        = (latest xs transfer.port).map fun (callback, userReference) =>
            ⟨callback, transfer, userReference⟩)
      ∧ ∀ x ∈ xs, ∀ transfer, transfer.port ≠ x.label.op.port →
        x.post.deliver transfer = x.pre.deliver transfer := by
  obtain ⟨hn, hxs⟩ := tidy_run h ht
  refine ⟨fun transfer => by rw [deliver_bound hn, bound_latest h ht], ?_⟩
  intro x hx transfer hp
  obtain ⟨hi, he⟩ := hxs x hx
  rw [deliver_bound hi, deliver_bound (effect_inv he hi), effect_bound he hi,
    after_of_ne hp]

/-! ## Concrete runs -/

/-- libcanard rejecting kinds it does not know. -/
def benchCanard : Canard where
  validArgs port :=
    match port.kind with
    | .other _ => false
    | _ => true
  error := -2
  error_neg := by decide

def blankBlock : Subscription := ⟨0, 0, 0, none, 0, 0⟩

def benchInit : Node := .init fun _ => blankBlock

def benchSubscribe (port : Port) (callback : RxCallback) (s : Ptr) : NodeOp × Outside :=
  (.subscribe false port 64 callback 0, ⟨some s, blankBlock⟩)

def benchUnsubscribe (port : Port) : NodeOp × Outside :=
  (.unsubscribe false port, ⟨none, blankBlock⟩)

def benchTransfer (port : Port) : Transfer := ⟨4, port, 1, 0, 0, ⟨8, some 900, 64⟩⟩

/-- A message port subscribed twice, with another port in between. -/
def benchTidy : List (NodeOp × Outside) :=
  [benchSubscribe ⟨.message, 5⟩ 1 100, benchSubscribe ⟨.request, 6⟩ 2 101,
    benchSubscribe ⟨.message, 5⟩ 3 102, benchUnsubscribe ⟨.request, 6⟩]

/-- A port subscribed twice, with another one in between: the second
subscription gets the transfers. -/
theorem delivered_to_latest_resubscribed :
    (runCalls benchCanard benchTidy benchInit).2.deliver (benchTransfer ⟨.message, 5⟩)
      = some ⟨3, benchTransfer ⟨.message, 5⟩, 0⟩ :=
  ((delivered_to_latest (runCalls_run (by decide)) (by decide)).1 _).trans (by decide)

/-- One port-ID under two kinds, then the second unsubscribed. -/
def benchCollision : List (NodeOp × Outside) :=
  [benchSubscribe ⟨.message, 5⟩ 1 100, benchSubscribe ⟨.request, 5⟩ 2 101,
    benchUnsubscribe ⟨.request, 5⟩]

/-- The message subscription is freed with the request's, though libcanard
still delivers to it. -/
theorem other_kind_lost :
    ∃ (xs : List (Rec Node NodeCall)) (n : Node),
      Run (NodeStep benchCanard) benchInit xs n
        ∧ latest xs ⟨.message, 5⟩ = some (1, 0)
        ∧ n.deliver (benchTransfer ⟨.message, 5⟩) = none := by
  have hfresh : FreshCalls benchCanard benchCollision benchInit := by decide
  exact ⟨_, _, runCalls_run hfresh, by decide, by decide⟩

end Cyphal

end LeosSdk
