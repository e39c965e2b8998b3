import LeosSdk.Purpleboard

/-!
# Purpleboard: who owns what on the heap

A board owns the bus and the four drivers its pointers lead to. The heap below
knows which objects are alive and which bus each driver was given, and notes
any misuse: a call on, a write to or a `delete` of an object that is not
there, and the use or `delete` of a driver whose bus is gone.

A caller that passes on only handles it was given and has not given back sees
neither misuse nor a leak (`boards_own_heap`), whatever the drivers answer and
wherever `new` puts things.

The invariant `Owned` says which pointers of which boards are set, that what
they lead to is alive and nobody else's, and that every living object is a
board or led to by one. Between two calls all pointers of all boards are set;
within `init` and `deinit` of one board only some of its own are (`upTo`).
Each `new` adds one pointer to the set (`owned_construct`) and each `delete`
takes one out (`owned_deletePart`), the bus only after the drivers that were
given it. What lies between, calls on drivers and the handing over of the bus,
leaves the set alone; that is one property of programs (`Works`), closed under
sequence and choice.
-/

namespace LeosSdk

namespace Purpleboard

/-! ## The heap -/

structure Heap where
  /-- What is alive. -/
  objs : List (Ptr × Cls)
  /-- The bus a driver was given. -/
  bus : Ptr → Option Ptr
  /-- The pointers in the boards. -/
  parts : Ptr → Part → Ptr
  misused : Bool

def Heap.empty : Heap := ⟨[], fun _ => none, fun _ _ => 0, false⟩

def Heap.obj (h : Heap) (p : Ptr) : Option Cls := h.objs.lookup p

def Heap.has (h : Heap) (cls : Cls) (p : Ptr) : Bool := h.obj p == some cls

/-- An object of the class, and the bus it uses. -/
def Heap.sound (h : Heap) (cls : Cls) (p : Ptr) : Bool :=
  h.has cls p && (h.bus p).all (h.has .twoWire)

def Heap.demand (h : Heap) (ok : Bool) : Heap := { h with misused := h.misused || !ok }

def Heap.alloc (h : Heap) (p : Ptr) (ctor : Ctor) : Heap :=
  { h with
    objs := (p, ctor.cls) :: h.objs
    bus := Function.update h.bus p ctor.bus }

def Heap.free (h : Heap) (p : Ptr) : Heap := { h with objs := h.objs.filter (·.1 != p) }

def Heap.link (h : Heap) (pb : Ptr) (part : Part) (p : Ptr) : Heap :=
  { h with parts := Function.update h.parts pb (Function.update (h.parts pb) part p) }

def Heap.attach (h : Heap) (p wire : Ptr) : Heap :=
  { h with bus := Function.update h.bus p (some wire) }

variable {F : Type}

/-- The heap behind the calls; the drivers answer as they like. -/
def heapEnv : Env Heap (Call F) (Answer F)
  | h, .new ctor, p, h' => h.obj p = none ∧ h' = h.alloc p ctor
  | h, .delete cls p, _, h' => h' = (h.demand (h.sound cls p)).free p
  | h, .load pb part, p, h' => p = h.parts pb part ∧ h' = h.demand (h.has .board pb)
  | h, .store pb part p, _, h' => h' = (h.demand (h.has .board pb)).link pb part p
  | h, .method (.begin part (some wire)) p, _, h' =>
    h' = (h.demand (h.has part.cls p && h.has .twoWire wire)).attach p wire
  | h, .method m p, _, h' => h' = h.demand (h.sound m.part.cls p)

/-! ## Ownership -/

/-- Of the living boards the pointers in `held` are set: each leads to a
living object of its class, which no other leads to, on the board's own bus
if on any; and nothing else is alive. -/
structure Heap.Owned (h : Heap) (held : Ptr → Part → Prop) : Prop where
  clean : h.misused = false
  part : ∀ {pb part}, h.obj pb = some .board → held pb part →
    h.obj (h.parts pb part) = some part.cls
  single : ∀ {pb pb' part part'}, h.obj pb = some .board → h.obj pb' = some .board →
    held pb part → held pb' part' → h.parts pb part = h.parts pb' part' → pb = pb'
  owned : ∀ {p cls}, h.obj p = some cls →
    cls = .board ∨ ∃ pb part, h.obj pb = some .board ∧ held pb part ∧ p = h.parts pb part
  bus : ∀ {pb part wire}, h.obj pb = some .board → held pb part →
    h.bus (h.parts pb part) = some wire →
    part ≠ .wire ∧ held pb .wire ∧ wire = h.parts pb .wire
  free : ∀ {pb}, h.obj pb = some .board → h.bus pb = none

/-- All pointers of all boards. -/
def whole (_ : Ptr) (_ : Part) : Prop := True

variable {h h' : Heap} {held held' : Ptr → Part → Prop} {pb p : Ptr} {part : Part}

theorem demand_true : h.demand true = h := by
  simp [Heap.demand]

theorem owned_empty : Heap.empty.Owned whole where
  clean := rfl
  part := by rintro _ _ ⟨⟩
  single := by rintro _ _ _ _ ⟨⟩
  owned := by rintro _ _ ⟨⟩
  bus := by rintro _ _ _ ⟨⟩
  free := by rintro _ ⟨⟩

theorem Heap.Owned.congr (ho : h.Owned held)
    (hheld : ∀ pb part, h.obj pb = some .board → (held pb part ↔ held' pb part)) :
    h.Owned held' where
  clean := ho.clean
  part hpb hp := ho.part hpb ((hheld _ _ hpb).mpr hp)
  single hpb hpb' hp hp' := ho.single hpb hpb' ((hheld _ _ hpb).mpr hp) ((hheld _ _ hpb').mpr hp')
  owned hp := by
    rcases ho.owned hp with rfl | ⟨pb, part, hpb, hpart, rfl⟩
    · exact .inl rfl
    · exact .inr ⟨pb, part, hpb, (hheld _ _ hpb).mp hpart, rfl⟩
  bus hpb hp hbus := by
    obtain ⟨hne, hwire, rfl⟩ := ho.bus hpb ((hheld _ _ hpb).mpr hp) hbus
    exact ⟨hne, (hheld _ _ hpb).mp hwire, rfl⟩
  free := ho.free

theorem Heap.Owned.has_board (hpb : h.obj pb = some .board) : h.has .board pb = true := by
  simp [Heap.has, hpb]

theorem Heap.Owned.sound (ho : h.Owned held) (hpb : h.obj pb = some .board)
    (hp : held pb part) : h.sound part.cls (h.parts pb part) = true := by
  simp only [Heap.sound, Heap.has, ho.part hpb hp, beq_self_eq_true, Bool.true_and]
  cases hbus : h.bus (h.parts pb part) with
  | none => rfl
  | some wire =>
      obtain ⟨-, hwire, rfl⟩ := ho.bus hpb hp hbus
      exact beq_iff_eq.mpr (ho.part hpb hwire)

theorem Heap.Owned.ne_board (ho : h.Owned held) (hpb : h.obj pb = some .board)
    (hp : held pb part) {pb' : Ptr} (hpb' : h.obj pb' = some .board) :
    h.parts pb part ≠ pb' := by
  intro heq
  have := ho.part hpb hp
  rw [heq, hpb'] at this
  cases part <;> cases this

/-- Two set pointers to one object are one pointer: they are of one board, and
the object's class tells which of its pointers it is. -/
theorem Heap.Owned.inj (ho : h.Owned held) {pb' : Ptr} {part' : Part}
    (hpb : h.obj pb = some .board) (hpb' : h.obj pb' = some .board) (hp : held pb part)
    (hp' : held pb' part') (heq : h.parts pb part = h.parts pb' part') :
    pb = pb' ∧ part = part' := by
  refine ⟨ho.single hpb hpb' hp hp' heq, Part.cls_injective ?_⟩
  have h₁ := ho.part hpb hp
  rw [heq, ho.part hpb' hp'] at h₁
  exact (Option.some.inj h₁).symm

/-! ## One pointer more, one pointer less -/

theorem obj_alloc {ctor : Ctor} {q : Ptr} {cls : Cls} :
    (h.alloc p ctor).obj q = some cls ↔
      q = p ∧ cls = ctor.cls ∨ q ≠ p ∧ h.obj q = some cls := by
  simp only [Heap.obj, Heap.alloc, List.lookup_cons]
  by_cases hq : q = p
  · simp [hq, eq_comm]
  · simp [hq, beq_eq_false_iff_ne.mpr hq]

theorem bus_alloc_of_ne {ctor : Ctor} {q : Ptr} (hne : q ≠ p) :
    (h.alloc p ctor).bus q = h.bus q :=
  Function.update_of_ne hne ..

theorem obj_free {q : Ptr} {cls : Cls} :
    (h.free p).obj q = some cls ↔ q ≠ p ∧ h.obj q = some cls := by
  simp only [Heap.obj, Heap.free]
  induction h.objs with
  | nil => simp
  | cons o objs ih =>
      obtain ⟨a, c⟩ := o
      rw [List.filter_cons]
      by_cases hq : q = a
      · subst hq
        by_cases hp : q = p
        · rw [if_neg (by simp [hp]), ih]
          simp [hp]
        · rw [if_pos (by simpa using hp), List.lookup_cons, List.lookup_cons]
          simp [hp]
      · have hcons : ∀ rest, List.lookup q ((a, c) :: rest) = List.lookup q rest := fun rest => by
          rw [List.lookup_cons, beq_eq_false_iff_ne.mpr hq]
        rw [hcons]
        split
        · rw [hcons, ih]
        · exact ih

/-- A new board has no pointer set yet, and its place was free, so no set
pointer leads there. -/
theorem owned_newBoard (ho : h.Owned held) (hfresh : h.obj pb = none) :
    (h.alloc pb .board).Owned fun q part => q ≠ pb ∧ held q part := by
  have hold : ∀ {q : Ptr}, q ≠ pb → (h.alloc pb .board).obj q = some .board →
      h.obj q = some .board := fun hne hq => by
    rcases obj_alloc.mp hq with ⟨rfl, -⟩ | ⟨-, hq⟩
    · exact absurd rfl hne
    · exact hq
  have hpart : ∀ {q : Ptr} {part : Part}, h.obj q = some .board → held q part →
      h.parts q part ≠ pb := fun hq hp heq => by
    have := ho.part hq hp
    rw [heq, hfresh] at this
    cases this
  refine ⟨ho.clean, fun hq hp => ?_, fun hq hq' hp hp' => ?_, fun hp => ?_,
    fun {q part wire} hq hp hbus => ?_, fun {q} hq => ?_⟩
  · have hq' := hold hp.1 hq
    exact obj_alloc.mpr (.inr ⟨hpart hq' hp.2, ho.part hq' hp.2⟩)
  · exact ho.single (hold hp.1 hq) (hold hp'.1 hq') hp.2 hp'.2
  · rcases obj_alloc.mp hp with ⟨-, rfl⟩ | ⟨hne, hp⟩
    · exact .inl rfl
    · rcases ho.owned hp with rfl | ⟨q, part, hq, hheld, rfl⟩
      · exact .inl rfl
      · have hqne : q ≠ pb := fun heq => by
          rw [heq, hfresh] at hq
          cases hq
        exact .inr ⟨q, part, obj_alloc.mpr (.inr ⟨hqne, hq⟩), ⟨hqne, hheld⟩, rfl⟩
  · have hq' := hold hp.1 hq
    rw [bus_alloc_of_ne (show (h.alloc pb .board).parts q part ≠ pb from hpart hq' hp.2)] at hbus
    obtain ⟨hne, hwire, rfl⟩ := ho.bus hq' hp.2 hbus
    exact ⟨hne, ⟨hp.1, hwire⟩, rfl⟩
  · rcases obj_alloc.mp hq with ⟨rfl, -⟩ | ⟨hne, hq⟩
    · exact Function.update_self ..
    · rw [bus_alloc_of_ne hne]
      exact ho.free hq

theorem parts_link {q : Ptr} {part' : Part} :
    (h.link pb part p).parts q part' = if q = pb ∧ part' = part then p else h.parts q part' := by
  by_cases hq : q = pb
  · subst hq
    by_cases hpart : part' = part
    · simp [Heap.link, hpart]
    · simp [Heap.link, hpart]
  · simp [Heap.link, hq]

/-- A new object behind a pointer that was not set: one more is set. The place
was free, so what the other pointers lead to stays what it was; if the object
was given a bus, it is its board's. -/
theorem owned_construct {ctor : Ctor} (ho : h.Owned held) (hpb : h.obj pb = some .board)
    (hunset : ¬held pb part) (hfresh : h.obj p = none) (hcls : ctor.cls = part.cls)
    (hbus : ∀ wire, ctor.bus = some wire →
      part ≠ .wire ∧ held pb .wire ∧ wire = h.parts pb .wire) :
    ((h.alloc p ctor).link pb part p).Owned fun q part' =>
      held q part' ∨ q = pb ∧ part' = part := by
  have hboard : ∀ {q : Ptr}, (h.alloc p ctor).obj q = some .board → h.obj q = some .board :=
    fun {q} hq => by
      rcases obj_alloc.mp hq with ⟨-, hc⟩ | ⟨-, hq⟩
      · rw [hcls] at hc
        cases part <;> cases hc
      · exact hq
  have hnew : ∀ {q : Ptr} {cls : Cls}, h.obj q = some cls → q ≠ p := fun hq heq => by
    rw [heq, hfresh] at hq
    cases hq
  have hstay : ∀ {q : Ptr} {part' : Part}, held q part' →
      ((h.alloc p ctor).link pb part p).parts q part' = h.parts q part' := fun {q part'} hp => by
    rw [parts_link, if_neg]
    · rfl
    · rintro ⟨rfl, rfl⟩
      exact hunset hp
  have hthis : ((h.alloc p ctor).link pb part p).parts pb part = p := by
    rw [parts_link, if_pos ⟨rfl, rfl⟩]
  have hbusOld : ∀ {q : Ptr}, q ≠ p →
      ((h.alloc p ctor).link pb part p).bus q = h.bus q := bus_alloc_of_ne
  refine ⟨ho.clean, fun {q part'} hq hp => ?_, fun {q q' part' part''} hq hq' hp hp' heq => ?_,
    fun {q cls} hq => ?_, fun {q part' wire} hq hp hw => ?_, fun {q} hq => ?_⟩
  · have hq' := hboard hq
    rcases hp with hp | ⟨rfl, rfl⟩
    · rw [hstay hp]
      exact obj_alloc.mpr (.inr ⟨hnew (ho.part hq' hp), ho.part hq' hp⟩)
    · rw [hthis]
      exact obj_alloc.mpr (.inl ⟨rfl, hcls.symm⟩)
  · have hb := hboard hq
    have hb' := hboard hq'
    rcases hp with hp | ⟨rfl, rfl⟩
    · rcases hp' with hp' | ⟨rfl, rfl⟩
      · rw [hstay hp, hstay hp'] at heq
        exact ho.single hb hb' hp hp' heq
      · rw [hstay hp, hthis] at heq
        exact absurd heq (hnew (ho.part hb hp))
    · rcases hp' with hp' | ⟨rfl, rfl⟩
      · rw [hstay hp', hthis] at heq
        exact absurd heq.symm (hnew (ho.part hb' hp'))
      · rfl
  · rcases obj_alloc.mp hq with ⟨rfl, -⟩ | ⟨hne, hq⟩
    · exact .inr ⟨pb, part, obj_alloc.mpr (.inr ⟨hnew hpb, hpb⟩), .inr ⟨rfl, rfl⟩, hthis.symm⟩
    · rcases ho.owned hq with rfl | ⟨q', part', hq', hp, rfl⟩
      · exact .inl rfl
      · exact .inr ⟨q', part', obj_alloc.mpr (.inr ⟨hnew hq', hq'⟩), .inl hp, (hstay hp).symm⟩
  · have hq' := hboard hq
    have hwireStay : held pb .wire →
        ((h.alloc p ctor).link pb part p).parts pb .wire = h.parts pb .wire := hstay
    rcases hp with hp | ⟨rfl, rfl⟩
    · rw [hstay hp, hbusOld (hnew (ho.part hq' hp))] at hw
      obtain ⟨hne, hwire, rfl⟩ := ho.bus hq' hp hw
      exact ⟨hne, .inl hwire, (hstay hwire).symm⟩
    · rw [hthis, show ((h.alloc p ctor).link q part' p).bus p = ctor.bus from
        Function.update_self ..] at hw
      obtain ⟨hne, hwire, rfl⟩ := hbus _ hw
      exact ⟨hne, .inl hwire, (hwireStay hwire).symm⟩
  · have hq' := hboard hq
    rw [hbusOld (hnew hq')]
    exact ho.free hq'

/-- The object behind a pointer goes, and the pointer with it; no other led
there. A bus goes last: no driver that is still alive was given it. -/
theorem owned_deletePart (ho : h.Owned held) (hpb : h.obj pb = some .board)
    (hset : held pb part) (hlast : part = .wire → ∀ part', held pb part' → part' = .wire) :
    (h.free (h.parts pb part)).Owned fun q part' => held q part' ∧ ¬(q = pb ∧ part' = part) := by
  have hboard : ∀ {q : Ptr}, (h.free (h.parts pb part)).obj q = some .board →
      h.obj q = some .board := fun hq => (obj_free.mp hq).2
  refine ⟨ho.clean, fun {q part'} hq hp => ?_, fun hq hq' hp hp' =>
    ho.single (hboard hq) (hboard hq') hp.1 hp'.1, fun {q cls} hq => ?_,
    fun {q part' wire} hq hp hw => ?_, fun hq => ho.free (hboard hq)⟩
  · refine obj_free.mpr ⟨fun heq => hp.2 ?_, ho.part (hboard hq) hp.1⟩
    exact ho.inj (hboard hq) hpb hp.1 hset heq
  · obtain ⟨hne, hq'⟩ := obj_free.mp hq
    rcases ho.owned hq' with rfl | ⟨q', part', hb, hp, rfl⟩
    · exact .inl rfl
    · refine .inr ⟨q', part', obj_free.mpr ⟨(ho.ne_board hpb hset hb).symm, hb⟩, ⟨hp, ?_⟩, rfl⟩
      rintro ⟨rfl, rfl⟩
      exact hne rfl
  · obtain ⟨hne, hwire, rfl⟩ := ho.bus (hboard hq) hp.1 hw
    refine ⟨hne, ⟨hwire, ?_⟩, rfl⟩
    rintro ⟨rfl, rfl⟩
    exact hne (hlast rfl _ hp.1)

/-- A board with no pointer set goes. -/
theorem owned_deleteBoard (ho : h.Owned held) (hpb : h.obj pb = some .board)
    (hnone : ∀ part, ¬held pb part) : (h.free pb).Owned held := by
  have hboard : ∀ {q : Ptr}, (h.free pb).obj q = some .board → h.obj q = some .board :=
    fun hq => (obj_free.mp hq).2
  refine ⟨ho.clean, fun {q part'} hq hp => ?_, fun hq hq' => ho.single (hboard hq) (hboard hq'),
    fun {q cls} hq => ?_, fun hq => ho.bus (hboard hq), fun hq => ho.free (hboard hq)⟩
  · exact obj_free.mpr ⟨ho.ne_board (hboard hq) hp hpb, ho.part (hboard hq) hp⟩
  · obtain ⟨hne, hq'⟩ := obj_free.mp hq
    rcases ho.owned hq' with rfl | ⟨q', part', hb, hp, rfl⟩
    · exact .inl rfl
    · refine .inr ⟨q', part', obj_free.mpr ⟨?_, hb⟩, hp, rfl⟩
      rintro rfl
      exact hnone _ hp

/-! ## A board at work -/

/-- The bus a call of `begin` hands over. -/
def Method.wire : Method F → Option Ptr
  | .begin _ wire => wire
  | _ => none

theorem heapEnv_method {m : Method F} (hm : m.wire = none) {r : m.Ret F} :
    heapEnv h (.method m p) r h' ↔ h' = h.demand (h.sound m.part.cls p) := by
  cases m with
  | begin part wire =>
      obtain rfl : wire = none := hm
      rfl
  | _ => rfl

/-- Handing a driver its board's bus changes nothing in who owns what. -/
theorem owned_attach (ho : h.Owned held) (hpb : h.obj pb = some .board) (hset : held pb part)
    (hne : part ≠ .wire) (hwire : held pb .wire) :
    (h.attach (h.parts pb part) (h.parts pb .wire)).Owned held := by
  refine ⟨ho.clean, ho.part, ho.single, ho.owned, fun {q part' wire} hq hp hw => ?_,
    fun {q} hq => ?_⟩
  · by_cases heq : h.parts q part' = h.parts pb part
    · obtain ⟨rfl, rfl⟩ := ho.inj hq hpb hp hset heq
      have hself := Function.update_self (h.parts q part') (some (h.parts q .wire)) h.bus
      replace hw : some (h.parts q .wire) = some wire := hself.symm.trans hw
      exact ⟨hne, hwire, (Option.some.inj hw).symm⟩
    · replace hw : h.bus (h.parts q part') = some wire := by
        rw [← hw]
        exact (Function.update_of_ne heq ..).symm
      exact ho.bus hq hp hw
  · rw [show (h.attach (h.parts pb part) (h.parts pb .wire)).bus q = h.bus q from
      Function.update_of_ne (ho.ne_board hpb hset hq).symm ..]
    exact ho.free hq

/-- Nothing is created, deleted or led elsewhere, and nothing misused: on a
heap that is owned such a program leaves the same pointers set, leading where
they led. -/
def Works {α : Type} (held : Ptr → Part → Prop) (pb : Ptr) (p : Api F α) : Prop :=
  ∀ s h, h.Owned held → h.obj pb = some .board → Ensures heapEnv p (fun _ _ _ h' =>
    h'.Owned held ∧ h'.obj = h.obj ∧ h'.parts = h.parts) s h

section Works

variable {α β : Type}

theorem works_pure {a : α} : Works held pb (pure a : Api F α) := fun _ _ ho _ => by
  rw [ensures_pure]
  exact ⟨ho, rfl, rfl⟩

theorem works_bind {p : Api F α} {f : α → Api F β} (hp : Works held pb p)
    (hf : ∀ a, Works held pb (f a)) : Works held pb (p >>= f) := by
  intro s h ho hpb
  rw [ensures_bind]
  refine (hp s h ho hpb).mono fun _ a s₁ h₁ h₁' => ?_
  obtain ⟨ho₁, hobjs, hparts⟩ := h₁'
  refine (hf a s₁ h₁ ho₁ (hobjs ▸ hpb)).mono fun _ _ _ h₂ h₂' => ?_
  obtain ⟨ho₂, hobjs', hparts'⟩ := h₂'
  exact ⟨ho₂, hobjs'.trans hobjs, hparts'.trans hparts⟩

theorem works_modify {f : Readings F → Readings F} :
    Works held pb (Prog.modify f : Api F Unit) := fun _ _ ho _ => by
  rw [ensures_modify]
  exact ⟨ho, rfl, rfl⟩

theorem works_ite {c : Prop} [Decidable c] {p q : Api F α} (hp : Works held pb p)
    (hq : Works held pb q) : Works held pb (if c then p else q) := by
  split
  · exact hp
  · exact hq

theorem ensures_load {s : Readings F} (hpb : h.obj pb = some .board) :
    Ensures heapEnv (Prog.ask (Call.load pb part) : Api F Ptr) (fun _ p s' h' =>
      p = h.parts pb part ∧ s' = s ∧ h' = h) s h := by
  rw [ensures_ask]
  rintro p h' ⟨rfl, rfl⟩
  rw [Heap.Owned.has_board hpb, demand_true]
  exact ⟨rfl, rfl, rfl⟩

theorem works_onBoard {m : Method F} (hm : m.wire = none) (hset : held pb m.part) :
    Works held pb (onBoard pb m) := by
  intro s h ho hpb
  unfold onBoard
  rw [ensures_bind]
  refine (ensures_load hpb).mono ?_
  rintro _ p s' h' ⟨rfl, rfl, rfl⟩
  rw [ensures_ask]
  intro r h'' hr
  rw [heapEnv_method hm, ho.sound hpb hset, demand_true] at hr
  rw [hr]
  exact ⟨ho, rfl, rfl⟩

theorem works_beginOn (hset : held pb part) (hne : part ≠ .wire) (hwire : held pb .wire) :
    Works held pb (beginOn pb part : Api F Bool) := by
  intro s h ho hpb
  rw [beginOn, ensures_bind]
  refine (ensures_load hpb).mono ?_
  rintro _ p s' h' ⟨rfl, rfl, rfl⟩
  rw [ensures_bind]
  refine (ensures_load hpb).mono ?_
  rintro _ wire s'' h'' ⟨rfl, rfl, rfl⟩
  rw [ensures_ask]
  intro r h₁ hr
  obtain rfl : h₁ = (h''.demand _).attach _ _ := hr
  have hfine : (h''.has part.cls (h''.parts pb part)
      && h''.has .twoWire (h''.parts pb .wire)) = true := by
    have := ho.part hpb hwire
    simp [Heap.has, ho.part hpb hset, this, Part.cls]
  rw [hfine, demand_true]
  exact ⟨owned_attach ho hpb hset hne hwire, rfl, rfl⟩

theorem works_setAll {settings : List Setting}
    (hset : ∀ setting ∈ settings, held pb setting.part) :
    Works held pb (setAll pb settings : Api F Unit) := by
  induction settings with
  | nil => exact works_pure
  | cons setting settings ih =>
      exact works_bind (works_onBoard rfl (hset _ (List.mem_cons_self ..)))
        fun _ => ih fun s hs => hset s (List.mem_cons_of_mem _ hs)

theorem works_detect {begun : Bool} {settings : List Setting} {result : PbResult}
    (hset : ∀ setting ∈ settings, held pb setting.part) :
    Works held pb (detect pb begun settings result : Api F PbResult) :=
  works_ite works_pure (works_bind (works_setAll hset) fun _ => works_pure)

theorem works_read {ops : FloatOps F} {sensorDataNull : Bool} :
    Works whole pb (read ops (some pb) sensorDataNull) := by
  have hon : ∀ m : Method F, m.wire = none → Works whole pb (onBoard pb m) :=
    fun m hm => works_onBoard hm trivial
  refine works_ite works_pure ?_
  refine works_bind (works_bind (hon _ rfl) fun _ => works_ite ?_ ?_) fun _ =>
    works_bind (works_bind (works_bind (hon _ rfl) fun _ => works_ite (hon _ rfl) works_pure)
      fun _ => works_ite ?_ ?_) fun _ =>
    works_bind (works_bind (hon _ rfl) fun _ => works_ite ?_ ?_) fun _ =>
    works_bind (hon _ rfl) fun _ => works_ite ?_ ?_
  all_goals
    repeat' first
      | exact works_pure
      | exact works_modify
      | exact hon _ rfl
      | refine works_bind ?_ fun _ => ?_

end Works

/-! ## leos_purpleboard_init and leos_purpleboard_deinit -/

/-- Of board `pb` the pointers in `built`, of the others all: how far `init`
or `deinit` of board `pb` has come. -/
def upTo (pb : Ptr) (built : List Part) (q : Ptr) (part : Part) : Prop := q ≠ pb ∨ part ∈ built

theorem upTo_self {built : List Part} (h : upTo pb built pb part) : part ∈ built :=
  h.resolve_left fun hne => hne rfl

/-- On the way through `init` or `deinit` of board `pb`, from heap `h`. -/
structure Reached (h : Heap) (pb : Ptr) (built : List Part) (h' : Heap) : Prop where
  owned : h'.Owned (upTo pb built)
  boards : ∀ q, h'.obj q = some .board ↔ h.obj q = some .board ∨ q = pb

theorem Reached.board {built : List Part} (hr : Reached h pb built h') :
    h'.obj pb = some .board :=
  (hr.boards pb).mpr (.inr rfl)

section Phases

variable {built : List Part} {s : Readings F} {h₀ : Heap}

theorem ensures_construct {ctor : Ctor} (hr : Reached h₀ pb built h) (hunset : part ∉ built)
    (hcls : ctor.cls = part.cls) (hbus : ∀ wire, ctor.bus = some wire →
      part ≠ .wire ∧ .wire ∈ built ∧ wire = h.parts pb .wire) :
    Ensures heapEnv (construct pb part ctor : Api F Unit) (fun _ _ _ h' =>
      Reached h₀ pb (part :: built) h') s h := by
  unfold construct
  rw [ensures_bind, ensures_ask]
  rintro p h₁ ⟨hfresh, rfl⟩
  rw [ensures_ask]
  intro _ h₂ h₂'
  have hkept : ∀ q, (h.alloc p ctor).obj q = some .board ↔ h.obj q = some .board := fun q => by
    rw [obj_alloc]
    constructor
    · rintro (⟨-, hc⟩ | ⟨-, hq⟩)
      · rw [hcls] at hc
        cases part <;> cases hc
      · exact hq
    · intro hq
      refine .inr ⟨?_, hq⟩
      rintro rfl
      rw [hfresh] at hq
      cases hq
  obtain rfl : h₂ = (h.alloc p ctor).link pb part p := by
    have hok : (h.alloc p ctor).has .board pb = true :=
      Heap.Owned.has_board ((hkept pb).mpr hr.board)
    obtain rfl : h₂ = ((h.alloc p ctor).demand _).link pb part p := h₂'
    rw [hok, demand_true]
  refine ⟨?_, fun q => (hkept q).trans (hr.boards q)⟩
  refine (owned_construct hr.owned hr.board (fun hset => hunset (upTo_self hset)) hfresh hcls
    fun wire hw => ?_).congr fun q part' _ => ?_
  · obtain ⟨hne, hwire, heq⟩ := hbus wire hw
    exact ⟨hne, .inr hwire, heq⟩
  · by_cases hq : q = pb
    · simp [upTo, hq, or_comm]
    · simp [upTo, hq]

theorem ensures_deletePart (hr : Reached h₀ pb (part :: built) h) (hunset : part ∉ built)
    (hlast : part = .wire → built = []) :
    Ensures heapEnv (deletePart pb part : Api F Unit) (fun _ _ _ h' =>
      Reached h₀ pb built h') s h := by
  have hset : upTo pb (part :: built) pb part := .inr (List.mem_cons_self ..)
  unfold deletePart
  rw [ensures_bind]
  refine (ensures_load hr.board).mono ?_
  rintro _ p s₁ h₁ ⟨rfl, rfl, rfl⟩
  rw [ensures_ask]
  intro _ h₂ h₂'
  obtain rfl : h₂ = (h₁.demand _).free _ := h₂'
  rw [hr.owned.sound hr.board hset, demand_true]
  refine ⟨?_, fun q => ?_⟩
  · refine (owned_deletePart hr.owned hr.board hset fun hw part' hp => ?_).congr
      fun q part' _ => ?_
    · have := upTo_self hp
      rw [hlast hw, hw] at this
      exact List.mem_singleton.mp this
    · by_cases hq : q = pb
      · subst hq
        by_cases hpart : part' = part
        · subst hpart
          simp [upTo, hunset]
        · simp [upTo, hpart]
      · simp [upTo, hq]
  · rw [obj_free, ← hr.boards]
    exact ⟨And.right, fun hq => ⟨(hr.owned.ne_board hr.board hset hq).symm, hq⟩⟩

theorem works_beginAll : Works whole pb (beginAll pb : Api F PbResult) := by
  have hbegin : ∀ part, part ≠ .wire → Works whole pb (beginOn pb part : Api F Bool) :=
    fun part hne => works_beginOn trivial hne trivial
  have hdetect : ∀ begun settings result,
      Works whole pb (detect pb begun settings result : Api F PbResult) :=
    fun _ _ _ => works_detect fun _ _ => trivial
  exact works_bind (works_onBoard rfl trivial) fun _ =>
    works_bind (hdetect _ _ _) fun _ => works_bind (hbegin _ (by decide)) fun _ =>
    works_bind (hdetect _ _ _) fun _ => works_bind (hbegin _ (by decide)) fun _ =>
    works_bind (hdetect _ _ _) fun _ => works_bind (hbegin _ (by decide)) fun _ => hdetect _ _ _

theorem ensures_init {i2c : Ptr} {sda scl : UInt32} (ho : h.Owned whole) :
    Ensures heapEnv (init i2c sda scl) (fun _ r _ h' => h'.Owned whole ∧ h.obj r.2 = none
      ∧ ∀ q, h'.obj q = some .board ↔ h.obj q = some .board ∨ q = r.2) s h := by
  unfold init
  rw [ensures_bind, ensures_ask]
  rintro pb h₀ ⟨hfresh, rfl⟩
  have hr₀ : Reached h pb [] (h.alloc pb .board) := by
    refine ⟨(owned_newBoard ho hfresh).congr fun q part _ => by simp [upTo, whole], fun q => ?_⟩
    rw [obj_alloc]
    constructor
    · rintro (⟨rfl, -⟩ | ⟨-, hq⟩)
      · exact .inr rfl
      · exact .inl hq
    · rintro (hq | rfl)
      · refine .inr ⟨?_, hq⟩
        rintro rfl
        rw [hfresh] at hq
        cases hq
      · exact .inl ⟨rfl, rfl⟩
  rw [ensures_bind]
  refine (ensures_construct hr₀ (by decide) rfl (by rintro _ ⟨⟩)).mono ?_
  intro _ _ s₁ h₁ hr₁
  rw [ensures_bind]
  refine (ensures_load hr₁.board).mono ?_
  rintro _ wire _ _ ⟨rfl, rfl, rfl⟩
  rw [ensures_bind]
  refine (ensures_construct hr₁ (by decide) rfl ?_).mono ?_
  · rintro _ ⟨⟩
    exact ⟨by decide, by decide, rfl⟩
  intro _ _ s₂ h₂ hr₂
  rw [ensures_bind]
  refine (ensures_construct hr₂ (by decide) rfl (by rintro _ ⟨⟩)).mono ?_
  intro _ _ s₃ h₃ hr₃
  rw [ensures_bind]
  refine (ensures_construct hr₃ (by decide) rfl (by rintro _ ⟨⟩)).mono ?_
  intro _ _ s₄ h₄ hr₄
  rw [ensures_bind]
  refine (ensures_construct hr₄ (by decide) rfl (by rintro _ ⟨⟩)).mono ?_
  intro _ _ s₅ h₅ hr₅
  have hall : h₅.Owned whole := hr₅.owned.congr fun q part _ => by
    cases part <;> simp [upTo, whole]
  rw [ensures_bind]
  refine (works_beginAll s₅ h₅ hall hr₅.board).mono ?_
  rintro _ result s₆ h₆ ⟨ho₆, hobjs, -⟩
  rw [ensures_pure]
  refine ⟨ho₆, hfresh, fun q => ?_⟩
  rw [hobjs]
  exact hr₅.boards q

theorem ensures_deinit (ho : h.Owned whole) (hpb : h.obj pb = some .board) :
    Ensures heapEnv (deinit (some pb) : Api F Unit) (fun _ _ _ h' => h'.Owned whole
      ∧ ∀ q, h'.obj q = some .board ↔ h.obj q = some .board ∧ q ≠ pb) s h := by
  unfold deinit
  rw [ensures_bind]
  refine (works_onBoard rfl trivial s h ho hpb).mono ?_
  rintro _ _ s₀ h₀ ⟨ho₀, hobjs, -⟩
  have hr₀ : Reached h pb [.bme, .ltr, .aqi, .tsl, .wire] h₀ := by
    refine ⟨ho₀.congr fun q part _ => by cases part <;> simp [upTo, whole], fun q => ?_⟩
    rw [hobjs]
    constructor
    · exact .inl
    · rintro (hq | rfl)
      · exact hq
      · exact hpb
  rw [ensures_bind]
  refine (ensures_deletePart hr₀ (by decide) (by rintro ⟨⟩)).mono fun _ _ s₁ h₁ hr₁ => ?_
  rw [ensures_bind]
  refine (ensures_deletePart hr₁ (by decide) (by rintro ⟨⟩)).mono fun _ _ s₂ h₂ hr₂ => ?_
  rw [ensures_bind]
  refine (ensures_deletePart hr₂ (by decide) (by rintro ⟨⟩)).mono fun _ _ s₃ h₃ hr₃ => ?_
  rw [ensures_bind]
  refine (ensures_deletePart hr₃ (by decide) (by rintro ⟨⟩)).mono fun _ _ s₄ h₄ hr₄ => ?_
  rw [ensures_bind]
  refine (ensures_deletePart hr₄ (by decide) fun _ => rfl).mono fun _ _ s₅ h₅ hr₅ => ?_
  rw [ensures_ask]
  intro _ h₆ h₆'
  obtain rfl : h₆ = (h₅.demand _).free pb := h₆'
  have hsound : h₅.sound .board pb = true := by
    simp [Heap.sound, Heap.has, hr₅.board, hr₅.owned.free hr₅.board]
  rw [hsound, demand_true]
  refine ⟨?_, fun q => ?_⟩
  · refine (owned_deleteBoard hr₅.owned hr₅.board fun part hp => ?_).congr fun q part hq => ?_
    · cases upTo_self hp
    · have hne := (obj_free.mp hq).1
      simp [upTo, whole, hne]
  · rw [obj_free, hr₅.boards]
    constructor
    · rintro ⟨hne, hq | rfl⟩
      · exact ⟨hq, hne⟩
      · exact absurd rfl hne
    · rintro ⟨hq, hne⟩
      exact ⟨hne, .inl hq⟩

end Phases

/-! ## Runs -/

abbrev BoardLabel (F : Type) := Label Op Op.Ret (Call F) (Answer F)

abbrev BoardRec (F : Type) := Rec (Readings F × Heap) (BoardLabel F)

/-- The three functions called one after the other, on any boards. -/
abbrev BoardStep (ops : FloatOps F) :
    Readings F × Heap → BoardLabel F → Readings F × Heap → Prop :=
  Session (program ops) heapEnv fun _ _ => False

/-- The handles a caller has been given and has not given back. -/
def handlesAfter (pbs : List Ptr) : BoardLabel F → List Ptr
  | .op (.init ..) _ r => r.2 :: pbs
  | .op (.deinit (some pb)) _ _ => pbs.erase pb
  | _ => pbs

def handles (xs : List (BoardRec F)) : List Ptr :=
  xs.foldl (fun pbs x => handlesAfter pbs x.label) []

/-- The handle an operation is called with. -/
def Op.handle : Op → Option Ptr
  | .init .. => none
  | .read pb _ => pb
  | .deinit pb => pb

def handleOf : BoardLabel F → Option Ptr
  | .tick => none
  | .op o _ _ => o.handle

/-- Each handle passed is `NULL` or one the caller has, which had `pbs`
before. -/
def ownHandles : List Ptr → List (BoardRec F) → Bool
  | _, [] => true
  | pbs, x :: xs =>
    (handleOf x.label).all pbs.contains && ownHandles (handlesAfter pbs x.label) xs

theorem ownHandles_snoc {xs : List (BoardRec F)} {x : BoardRec F} : ∀ {pbs : List Ptr},
    ownHandles pbs (xs ++ [x]) = true → ownHandles pbs xs = true
      ∧ ∀ pb, handleOf x.label = some pb →
        pb ∈ xs.foldl (fun pbs x => handlesAfter pbs x.label) pbs := by
  induction xs with
  | nil =>
      intro pbs hown
      refine ⟨rfl, fun pb hpb => ?_⟩
      simpa [ownHandles, hpb] using hown
  | cons y xs ih =>
      intro pbs hown
      rw [List.cons_append, ownHandles, Bool.and_eq_true] at hown
      obtain ⟨hxs, hx⟩ := ih hown.2
      exact ⟨by rw [ownHandles, hown.1, hxs]; rfl, hx⟩

/-- No misuse; the handles are the boards, each once, and what is alive are
they and what their pointers lead to, each from one pointer. -/
structure Accounted (pbs : List Ptr) (h : Heap) : Prop where
  clean : h.misused = false
  nodup : pbs.Nodup
  live : ∀ p, h.obj p ≠ none ↔ p ∈ pbs ∨ ∃ pb ∈ pbs, ∃ part, p = h.parts pb part
  classes : ∀ pb ∈ pbs, h.obj pb = some .board
    ∧ ∀ part, h.obj (h.parts pb part) = some part.cls
  single : ∀ pb ∈ pbs, ∀ pb' ∈ pbs, ∀ part part',
    h.parts pb part = h.parts pb' part' → pb = pb' ∧ part = part'

/-- Between two calls, with all pointers set, that the heap is owned is what a
caller can say of its handles. -/
theorem accounted_of_owned {pbs : List Ptr} (ho : h.Owned whole) (hnodup : pbs.Nodup)
    (hboards : ∀ q, h.obj q = some .board ↔ q ∈ pbs) : Accounted pbs h where
  clean := ho.clean
  nodup := hnodup
  live p := by
    constructor
    · intro hp
      obtain ⟨cls, hcls⟩ := Option.ne_none_iff_exists'.mp hp
      rcases ho.owned hcls with rfl | ⟨pb, part, hpb, -, rfl⟩
      · exact .inl ((hboards p).mp hcls)
      · exact .inr ⟨pb, (hboards pb).mp hpb, part, rfl⟩
    · rintro (hp | ⟨pb, hpb, part, rfl⟩)
      · rw [(hboards p).mpr hp]
        exact Option.some_ne_none _
      · rw [ho.part ((hboards pb).mpr hpb) trivial]
        exact Option.some_ne_none _
  classes pb hpb := ⟨(hboards pb).mpr hpb, fun _ => ho.part ((hboards pb).mpr hpb) trivial⟩
  single pb hpb pb' hpb' _ _ heq :=
    ho.inj ((hboards pb).mpr hpb) ((hboards pb').mpr hpb') trivial trivial heq

/-- Step lemma: whoever passes a handle it has finds the heap owned again
after the call, and its handles are still the boards. `init` adds a board and
its handle, `deinit` takes both away, and `read` works on what is there. -/
theorem handles_step {ops : FloatOps F} {w w' : Readings F × Heap} {l : BoardLabel F}
    {pbs : List Ptr} (hs : BoardStep ops w l w') (hown : ∀ pb, handleOf l = some pb → pb ∈ pbs)
    (ho : w.2.Owned whole) (hnodup : pbs.Nodup)
    (hboards : ∀ q, w.2.obj q = some .board ↔ q ∈ pbs) :
    w'.2.Owned whole ∧ (handlesAfter pbs l).Nodup
      ∧ ∀ q, w'.2.obj q = some .board ↔ q ∈ handlesAfter pbs l := by
  cases hs with
  | tick ht => exact ht.elim
  | @op o s e tr r s' e' hx =>
      cases o with
      | init i2c sda scl =>
          obtain ⟨ho', hfresh, hb⟩ := ensures_init ho _ _ _ _ hx
          refine ⟨ho', List.nodup_cons.mpr ⟨fun hm => ?_, hnodup⟩, fun q => ?_⟩
          · have := (hboards _).mpr hm
            rw [hfresh] at this
            cases this
          · rw [hb, hboards, handlesAfter, List.mem_cons, or_comm]
      | read pb sensorDataNull =>
          cases pb with
          | none =>
              obtain ⟨-, -, -, rfl⟩ := exec_ret.mp hx
              exact ⟨ho, hnodup, hboards⟩
          | some pb =>
              have hpb := (hboards pb).mpr (hown pb rfl)
              obtain ⟨ho', hobjs, -⟩ := works_read s e ho hpb _ _ _ _ hx
              exact ⟨ho', hnodup, fun q => by rw [hobjs]; exact hboards q⟩
      | deinit pb =>
          cases pb with
          | none =>
              obtain ⟨-, -, -, rfl⟩ := exec_ret.mp hx
              exact ⟨ho, hnodup, hboards⟩
          | some pb =>
              have hpb := (hboards pb).mpr (hown pb rfl)
              obtain ⟨ho', hb⟩ := ensures_deinit ho hpb _ _ _ _ hx
              refine ⟨ho', hnodup.erase pb, fun q => ?_⟩
              rw [hb, hboards, handlesAfter, hnodup.mem_erase_iff, and_comm]

/-- In every run of `init`, `read` and `deinit`, whatever the drivers answer
and wherever `new` puts things, a caller that passes on only handles it has
sees no misuse, and what is alive is exactly its boards and their parts. By
induction on the run with `handles_step`. -/
theorem boards_own_heap {ops : FloatOps F} {d : Readings F} {xs : List (BoardRec F)}
    {w : Readings F × Heap} (h : Run (BoardStep ops) (d, .empty) xs w)
    (hown : ownHandles [] xs = true) : Accounted (handles xs) w.2 := by
  suffices hi : w.2.Owned whole ∧ (handles xs).Nodup
      ∧ ∀ q, w.2.obj q = some .board ↔ q ∈ handles xs from
    accounted_of_owned hi.1 hi.2.1 hi.2.2
  induction h with
  | nil => exact ⟨owned_empty, List.nodup_nil, fun q => by simp [Heap.obj, Heap.empty, handles]⟩
  | @snoc xs w l w' _ hs ih =>
      obtain ⟨hxs, hlast⟩ := ownHandles_snoc hown
      obtain ⟨ho, hnodup, hboards⟩ := ih hxs
      have hhandles : handles (xs ++ [⟨w, l, w'⟩]) = handlesAfter (handles xs) l := by
        simp [handles]
      rw [hhandles]
      exact handles_step hs hlast ho hnodup hboards

/-! A heap that hands out the lowest address above all in use, and drivers
of which one does not begin. -/

def benchOps : FloatOps Nat := ⟨0, (· / 100), 101325⟩

def benchReadings : Readings Nat :=
  ⟨false, 0, 0, 0, 0, 0, false, 0, 0, 0, 0, false, 0, false, 0, 0, 0, 0, 0, 0, 0, 0, 0, 0, 0⟩

def benchRet : (m : Method Nat) → m.Ret Nat
  | .begin part _ => part != .tsl
  | .performReading | .newDataAvailable => true
  | .set _ | .enable _ => ()
  | .temperature | .pressure | .humidity | .readAltitude _ => 7
  | .gasResistance | .readUVS | .getFullLuminosity => 9
  | .getMode => .uvs
  | .aqiRead => (true, ⟨1, 1, 1, 1, 1, 1, 1, 1, 1, 1, 1⟩)
  | .getEvent => (false, 0)

def Heap.fresh (h : Heap) : Ptr := h.objs.foldr (fun o p => max (o.1 + 1) p) 1

theorem obj_fresh (h : Heap) : h.obj h.fresh = none := by
  have habove : ∀ (objs : List (Ptr × Cls)) (q : Nat),
      objs.foldr (fun o p => max (o.1 + 1) p) 1 ≤ q → objs.lookup q = none := by
    intro objs
    induction objs with
    | nil => exact fun _ _ => rfl
    | cons o objs ih =>
        intro q hq
        rw [List.foldr_cons, Nat.max_le] at hq
        rw [show o = (o.1, o.2) from rfl, List.lookup_cons,
          beq_eq_false_iff_ne.mpr (Nat.ne_of_gt hq.1)]
        exact ih q hq.2
  exact habove _ _ (Nat.le_refl _)

def benchDrivers : Heap → (i : Call Nat) → Answer Nat i × Heap
  | h, .new ctor => (h.fresh, h.alloc h.fresh ctor)
  | h, .delete cls p => ((), (h.demand (h.sound cls p)).free p)
  | h, .load pb part => (h.parts pb part, h.demand (h.has .board pb))
  | h, .store pb part p => ((), (h.demand (h.has .board pb)).link pb part p)
  | h, .method (.begin part (some wire)) p =>
    (part != .tsl, (h.demand (h.has part.cls p && h.has .twoWire wire)).attach p wire)
  | h, .method m p => (benchRet m, h.demand (h.sound m.part.cls p))

theorem benchDrivers_answers : Answers benchDrivers heapEnv := by
  intro h i
  cases i with
  | new ctor => exact ⟨obj_fresh h, rfl⟩
  | load => exact ⟨rfl, rfl⟩
  | method m p =>
      cases m with
      | begin part wire => cases wire <;> rfl
      | _ => rfl
  | _ => rfl

theorem boards_own_heap_two : ∃ (xs : List (BoardRec Nat)) (w : Readings Nat × Heap),
    Run (BoardStep benchOps) (benchReadings, .empty) xs w ∧ Accounted (handles xs) w.2
      ∧ (handles xs).length = 1 ∧ w.2.objs.length = 6 := by
  obtain ⟨xs, w, hrun, hw⟩ := evalsTo_run (fun _ _ => False) benchDrivers_answers
    (show evalsTo (program benchOps) benchDrivers 1
      [.init 5 4 5, .init 6 6 7, .read (some 1) false, .deinit (some 1), .read (some 7) false]
      (benchReadings, .empty) (fun xs w => ownHandles [] xs
        && decide ((handles xs).length = 1 ∧ w.2.objs.length = 6)) = true by decide +kernel)
  rw [Bool.and_eq_true, decide_eq_true_eq] at hw
  exact ⟨xs, w, hrun, boards_own_heap hrun hw.1, hw.2⟩

end Purpleboard

end LeosSdk
