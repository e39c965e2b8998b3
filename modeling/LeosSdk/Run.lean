import Mathlib.Logic.Relation
import Mathlib.Logic.Function.Basic
import LeosSdk.ProgLogic

/-!
# Runs

Labelled runs of a step relation, kept as the list of steps taken (`Rec`:
where a step started, what it was, where it ended) so that a theorem can speak
about any two moments of one run. `Run.invariant` is the induction every
safety result goes through, done once. A result that says exactly when a
property holds all along a run goes through `Run.forall_iff`: it is enough to
settle one step from an invariant state, if a good step leads to such a state
again.

`Session` makes a step relation out of programs: between two operations the
environment may move on its own (`tick`), and an operation is one complete
execution of its program. `interleave` lets the environment move before each
call of an operation as well.

`Fam` puts independent components side by side and `Run.project` recovers each
one's own run; `Shared` puts components with private memories on one
environment, and `SharedSession` lets each of them run its programs there.
Runs are built from the end, one step at a time; `Run.split` and `Run.head`
take them apart elsewhere. Concrete runs are computed (`evalOps`,
`evalShared`), and what is computed is a run.
-/

namespace LeosSdk

variable {W L K : Type}

/-! ## Runs of a step relation -/

/-- One step of a run. -/
structure Rec (W L : Type) where
  pre : W
  label : L
  post : W

inductive Run (Step : W → L → W → Prop) (w₀ : W) : List (Rec W L) → W → Prop
  | nil : Run Step w₀ [] w₀
  | snoc {xs w l w'} (h : Run Step w₀ xs w) (hs : Step w l w') :
      Run Step w₀ (xs ++ [⟨w, l, w'⟩]) w'

variable {Step : W → L → W → Prop} {w₀ w w' : W} {xs ys : List (Rec W L)}

/-- An invariant of the start that every good step preserves holds at the end
of every run of good steps, and at both ends of each of its steps. By
induction on the run. -/
theorem Run.invariant (I : W → Prop) (Good : Rec W L → Prop) (h0 : I w₀)
    (hstep : ∀ x : Rec W L, Step x.pre x.label x.post → Good x → I x.pre → I x.post)
    (h : Run Step w₀ xs w) (hgood : ∀ x ∈ xs, Good x) :
    I w ∧ ∀ x ∈ xs, Step x.pre x.label x.post ∧ I x.pre ∧ I x.post := by
  induction h with
  | nil => exact ⟨h0, fun x hx => (List.not_mem_nil hx).elim⟩
  | @snoc xs w l w' _ hs ih =>
      obtain ⟨hw, hxs⟩ := ih fun x hx => hgood x (List.mem_append_left _ hx)
      have hlast : (⟨w, l, w'⟩ : Rec W L) ∈ xs ++ [⟨w, l, w'⟩] := by simp
      have hw' : I w' := hstep ⟨w, l, w'⟩ hs (hgood _ hlast) hw
      refine ⟨hw', fun x hx => ?_⟩
      rcases List.mem_append.mp hx with hx | hx
      · exact hxs x hx
      · obtain rfl := List.mem_singleton.mp hx
        exact ⟨hs, hw, hw'⟩

/-- The last step that made `P` hold. -/
theorem Run.since {P : W → Prop} (h : Run Step w₀ xs w) (h0 : ¬P w₀) (hw : P w) :
    ∃ ys a zs, xs = ys ++ a :: zs ∧ ¬P a.pre ∧ P a.post ∧ ∀ z ∈ zs, P z.pre ∧ P z.post := by
  induction h with
  | nil => exact (h0 hw).elim
  | @snoc xs v l v' _ hs ih =>
      by_cases hv : P v
      · obtain ⟨ys, a, zs, rfl, hpre, hpost, hzs⟩ := ih hv
        refine ⟨ys, a, zs ++ [⟨v, l, v'⟩], by simp, hpre, hpost, fun z hz => ?_⟩
        rcases List.mem_append.mp hz with hz | hz
        · exact hzs z hz
        · obtain rfl := List.mem_singleton.mp hz
          exact ⟨hv, hw⟩
      · exact ⟨xs, _, [], rfl, hv, hw, fun z hz => (List.not_mem_nil hz).elim⟩

theorem Run.step_of_mem (h : Run Step w₀ xs w) {x : Rec W L} (hx : x ∈ xs) :
    Step x.pre x.label x.post :=
  ((h.invariant (fun _ => True) (fun _ => True) trivial (fun _ _ _ _ => trivial)
    fun _ _ => trivial).2 x hx).1

/-- Where two conditions on a step say the same from an invariant state, and a
step that meets the first keeps the invariant, they say the same of all the
steps of a run. -/
theorem Run.forall_iff (I : W → Prop) (P Q : Rec W L → Prop) (h0 : I w₀)
    (hiff : ∀ x : Rec W L, Step x.pre x.label x.post → I x.pre → (P x ↔ Q x))
    (hstep : ∀ x : Rec W L, Step x.pre x.label x.post → P x → I x.pre → I x.post)
    (h : Run Step w₀ xs w) : (∀ x ∈ xs, P x) ↔ ∀ x ∈ xs, Q x := by
  constructor
  · intro hP x hx
    obtain ⟨hs, hpre, -⟩ := (h.invariant I P h0 hstep hP).2 x hx
    exact (hiff x hs hpre).mp (hP x hx)
  · intro hQ x hx
    obtain ⟨hs, hpre, -⟩ := (h.invariant I Q h0
      (fun x hs hx hpre => hstep x hs ((hiff x hs hpre).mpr hx) hpre) hQ).2 x hx
    exact (hiff x hs hpre).mpr (hQ x hx)

/-- A run continued by one step in front. -/
theorem Run.cons {l : L} (hs : Step w₀ l w) (h : Run Step w xs w') :
    Run Step w₀ (⟨w₀, l, w⟩ :: xs) w' := by
  induction h with
  | nil => exact (Run.nil.snoc hs : Run Step w₀ ([] ++ [⟨w₀, l, w⟩]) w)
  | snoc _ hs' ih => exact .snoc ih hs'

/-- Splitting a run at any point. -/
theorem Run.split (h : Run Step w₀ (xs ++ ys) w) :
    ∃ w₁, Run Step w₀ xs w₁ ∧ Run Step w₁ ys w := by
  generalize hzs : xs ++ ys = zs at h
  induction h generalizing ys with
  | nil =>
      obtain ⟨rfl, rfl⟩ := List.append_eq_nil_iff.mp hzs
      exact ⟨w₀, .nil, .nil⟩
  | @snoc zs w l w' h hs ih =>
      rcases List.eq_nil_or_concat ys with rfl | ⟨ys, y, rfl⟩
      · rw [List.append_nil] at hzs
        exact ⟨w', hzs ▸ .snoc h hs, .nil⟩
      · rw [List.concat_eq_append, ← List.append_assoc] at hzs
        obtain ⟨hzs', hy⟩ := List.append_inj' hzs rfl
        obtain ⟨w₁, h₁, h₂⟩ := ih hzs'
        obtain rfl := (List.cons.inj hy).1
        exact ⟨w₁, h₁, by
          rw [List.concat_eq_append]
          exact .snoc h₂ hs⟩

/-- A run of one step relation is one of any that allows its steps under
other labels. -/
theorem Run.relabel {L' : Type} {Step' : W → L' → W → Prop} (f : L → L')
    (hf : ∀ w l w', Step w l w' → Step' w (f l) w') (h : Run Step w₀ xs w) :
    Run Step' w₀ (xs.map fun x => ⟨x.pre, f x.label, x.post⟩) w := by
  induction h with
  | nil => exact .nil
  | snoc _ hs ih =>
      rw [List.map_append]
      exact .snoc ih (hf _ _ _ hs)

theorem Run.eq_of_nil (h : Run Step w₀ [] w) : w = w₀ := by
  generalize hzs : [] = zs at h
  cases h with
  | nil => rfl
  | snoc => simp at hzs

/-- The first step of a run starts where the run does. -/
theorem Run.head {x : Rec W L} (h : Run Step w₀ (x :: xs) w) :
    x.pre = w₀ ∧ Step w₀ x.label x.post ∧ Run Step x.post xs w := by
  obtain ⟨w₁, h₁, h₂⟩ := Run.split (show Run Step w₀ ([x] ++ xs) w from h)
  generalize hzs : [x] = zs at h₁
  cases h₁ with
  | nil => cases hzs
  | @snoc zs w' l w₁ hz hs =>
      obtain ⟨rfl, hx⟩ := List.append_inj' (show [] ++ [x] = zs ++ _ from hzs) rfl
      obtain rfl := (List.cons.inj hx).1
      obtain rfl := hz.eq_of_nil
      exact ⟨rfl, hs, h₂⟩

/-! ## Independent components -/

/-- Component `k` takes a step and the others stand still. -/
def Fam [DecidableEq K] (Step : W → L → W → Prop) (ws : K → W) (l : K × L)
    (ws' : K → W) : Prop :=
  ∃ w', Step (ws l.1) l.2 w' ∧ ws' = Function.update ws l.1 w'

/-- The step of component `k` in a step of the family, if it is `k`'s. -/
def component [DecidableEq K] (k : K) (x : Rec (K → W) (K × L)) :
    Option (Rec W L) :=
  if x.label.1 = k then some ⟨x.pre k, x.label.2, x.post k⟩ else none

theorem Run.project [DecidableEq K] {ws₀ ws : K → W}
    {xs : List (Rec (K → W) (K × L))} (h : Run (Fam Step) ws₀ xs ws) (k : K) :
    Run Step (ws₀ k) (xs.filterMap (component k)) (ws k) := by
  induction h with
  | nil => exact .nil
  | @snoc xs ws l ws' _ hs ih =>
      obtain ⟨w', hw, rfl⟩ := hs
      rw [List.filterMap_append]
      by_cases hk : l.1 = k
      · subst hk
        have := Run.snoc ih hw
        simpa [component] using this
      · have hk' : k ≠ l.1 := fun h => hk h.symm
        simpa [component, hk, Function.update_of_ne hk'] using ih

/-- Component `k`'s step seen in the whole family. -/
def embed [DecidableEq K] (ws : K → W) (k : K) (x : Rec W L) :
    Rec (K → W) (K × L) :=
  ⟨Function.update ws k x.pre, (k, x.label), Function.update ws k x.post⟩

/-- A run of one component is a run of the family. -/
theorem Run.embed [DecidableEq K] {ws : K → W} {k : K} {xs : List (Rec W L)}
    {w : W} (h : Run Step (ws k) xs w) :
    Run (Fam Step) ws (xs.map (embed ws k)) (Function.update ws k w) := by
  induction h with
  | nil => rw [Function.update_eq_self]; exact .nil
  | @snoc xs w l w' _ hs ih =>
      rw [List.map_append]
      exact .snoc ih ⟨w', by simpa using hs, by simp⟩

theorem component_embed [DecidableEq K] (ws : K → W) (k : K) (xs : List (Rec W L)) :
    (xs.map (embed ws k)).filterMap (component k) = xs := by
  induction xs with
  | nil => rfl
  | cons x xs ih => simpa [component, embed] using ih

/-! ## Components on one environment -/

/-- Component `k` takes a step on its private memory and the environment,
and the other memories stay. -/
structure Shared {σ ε : Type} (Step : K → σ × ε → L → σ × ε → Prop) (w : (K → σ) × ε)
    (l : K × L) (w' : (K → σ) × ε) : Prop where
  own : Step l.1 (w.1 l.1, w.2) l.2 (w'.1 l.1, w'.2)
  others : ∀ k, k ≠ l.1 → w'.1 k = w.1 k

theorem shared_update [DecidableEq K] {σ ε : Type} {Step : K → σ × ε → L → σ × ε → Prop}
    {m : K → σ} {e e' : ε} {k : K} {l : L} {s' : σ} (h : Step k (m k, e) l (s', e')) :
    Shared Step (m, e) (k, l) (Function.update m k s', e') :=
  ⟨by simpa using h, fun _ hk => Function.update_of_ne hk ..⟩

/-! ## Sessions -/

/-- What happened in a step of a session. -/
inductive Label (Op : Type) (Ret : Op → Type) (ι : Type) (ρ : ι → Type)
  | tick
  | op (o : Op) (tr : List (Event ι ρ)) (r : Ret o)

section Session

variable {σ ε ι Op : Type} {ρ : ι → Type} {Ret : Op → Type}

/-- Operations are complete executions of their programs; between them the
environment moves alone. -/
inductive Session (prog : (o : Op) → Prog σ ι ρ (Ret o)) (E : Env ε ι ρ)
    (tick : ε → ε → Prop) : σ × ε → Label Op Ret ι ρ → σ × ε → Prop
  | tick {s e e'} (h : tick e e') : Session prog E tick (s, e) .tick (s, e')
  | op {o s e tr r s' e'} (h : Exec E (prog o) s e tr r s' e') :
      Session prog E tick (s, e) (.op o tr r) (s', e')

/-- Before each call is answered the environment may move. -/
def interleave (tick : ε → ε → Prop) (E : Env ε ι ρ) : Env ε ι ρ :=
  fun e i r e' => ∃ e₁, Relation.ReflTransGen tick e e₁ ∧ E e₁ i r e'

theorem interleave_of {tick : ε → ε → Prop} {E : Env ε ι ρ} {e i r e'}
    (h : E e i r e') : interleave tick E e i r e' :=
  ⟨e, .refl, h⟩

variable {prog : (o : Op) → Prog σ ι ρ (Ret o)} {E : Env ε ι ρ}
  {tick : ε → ε → Prop}

theorem Session.exec {o : Op} {w w' : σ × ε} {tr : List (Event ι ρ)} {r : Ret o}
    (h : Session prog E tick w (.op o tr r) w') : Exec E (prog o) w.1 w.2 tr r w'.1 w'.2 := by
  cases h with
  | op h => exact h

theorem Session.ticked {w w' : σ × ε} (h : Session prog E tick w .tick w') :
    w'.1 = w.1 ∧ tick w.2 w'.2 := by
  cases h with
  | tick h => exact ⟨rfl, h⟩

/-- A session's step seen through a view of the environment. -/
theorem Session.view {ε' : Type} {E' : Env ε' ι ρ} {tick' : ε' → ε' → Prop} (f : ε → ε')
    (hE : ∀ e i r e', E e i r e' → E' (f e) i r (f e'))
    (htick : ∀ e e', tick e e' → tick' (f e) (f e')) {w w' : σ × ε}
    {l : Label Op Ret ι ρ} (h : Session prog E tick w l w') :
    Session prog E' tick' (w.1, f w.2) l (w'.1, f w'.2) := by
  cases h with
  | tick h => exact .tick (htick _ _ h)
  | op h => exact .op (h.view f hE)

/-- What each tick preserves, any number of ticks preserves. -/
theorem ticks_preserve {J : ε → Prop} (hJ : ∀ e e', tick e e' → J e → J e')
    {e e' : ε} (h : Relation.ReflTransGen tick e e') (h0 : J e) : J e' := by
  induction h with
  | refl => exact h0
  | tail _ ht ih => exact hJ _ _ ht ih

/-- Run a list of operations with `h` answering and no ticks. -/
def evalOps (prog : (o : Op) → Prog σ ι ρ (Ret o))
    (h : ε → (i : ι) → ρ i × ε) (fuel : Nat) : List Op → σ × ε →
    Option (List (Rec (σ × ε) (Label Op Ret ι ρ)) × (σ × ε))
  | [], w => some ([], w)
  | o :: os, w =>
    match (prog o).eval h fuel w with
    | none => none
    | some (tr, r, w') =>
      (evalOps prog h fuel os w').map fun (xs, w'') =>
        (⟨w, .op o tr r, w'⟩ :: xs, w'')

theorem evalOps_run {h : ε → (i : ι) → ρ i × ε} (hE : Answers h E)
    {fuel : Nat} : ∀ {os : List Op} {w xs w'},
    evalOps prog h fuel os w = some (xs, w') →
      Run (Session prog E tick) w xs w'
  | [], _, _, _, heq => by cases heq; exact .nil
  | o :: os, w, xs, w', heq => by
      rw [evalOps] at heq
      split at heq
      · cases heq
      · rename_i hp
        rw [Option.map_eq_some_iff] at heq
        obtain ⟨⟨xs', w''⟩, heq, hx⟩ := heq
        cases hx
        exact .cons (.op (Prog.eval_exec hE hp)) (evalOps_run hE heq)

/-- The run of `os` satisfies `P`. -/
def evalsTo (prog : (o : Op) → Prog σ ι ρ (Ret o)) (h : ε → (i : ι) → ρ i × ε)
    (fuel : Nat) (os : List Op) (w : σ × ε)
    (P : List (Rec (σ × ε) (Label Op Ret ι ρ)) → σ × ε → Bool) : Bool :=
  match evalOps prog h fuel os w with
  | none => false
  | some (xs, w') => P xs w'

theorem evalsTo_run (tick : ε → ε → Prop) {h : ε → (i : ι) → ρ i × ε}
    (hE : Answers h E) {fuel : Nat}
    {os : List Op} {w : σ × ε}
    {P : List (Rec (σ × ε) (Label Op Ret ι ρ)) → σ × ε → Bool}
    (heval : evalsTo prog h fuel os w P = true) :
    ∃ xs w', Run (Session prog E tick) w xs w' ∧ P xs w' = true := by
  unfold evalsTo at heval
  split at heval
  · cases heval
  · rename_i xs w' heq
    exact ⟨xs, w', evalOps_run hE heq, heval⟩

end Session

/-! ## Sessions on one environment -/

section SharedSession

variable [DecidableEq K] {σ ε ι Op : Type} {ρ : ι → Type} {Ret : Op → Type}

/-- Component `k` runs its own programs; what its environment does may
depend on the component, its memory and the operation. -/
abbrev SharedSession (prog : K → (o : Op) → Prog σ ι ρ (Ret o))
    (E : K → σ → Label Op Ret ι ρ → Env ε ι ρ) (tick : ε → ε → Prop) :
    (K → σ) × ε → K × Label Op Ret ι ρ → (K → σ) × ε → Prop :=
  Shared fun k w l w' => Session (prog k) (E k w.1 l) tick w l w'

/-- Run a list of the components' operations with `h` answering. -/
def evalShared (prog : K → (o : Op) → Prog σ ι ρ (Ret o))
    (h : K → σ → Op → ε → (i : ι) → ρ i × ε) (fuel : Nat) :
    List (K × Op) → (K → σ) × ε →
    Option (List (Rec ((K → σ) × ε) (K × Label Op Ret ι ρ)) × ((K → σ) × ε))
  | [], w => some ([], w)
  | (k, o) :: os, w =>
    match (prog k o).eval (h k (w.1 k) o) fuel (w.1 k, w.2) with
    | none => none
    | some (tr, r, s', e') =>
      (evalShared prog h fuel os (Function.update w.1 k s', e')).map fun (xs, w'') =>
        (⟨w, (k, .op o tr r), (Function.update w.1 k s', e')⟩ :: xs, w'')

variable {prog : K → (o : Op) → Prog σ ι ρ (Ret o)}
  {E : K → σ → Label Op Ret ι ρ → Env ε ι ρ} {tick : ε → ε → Prop}
  {h : K → σ → Op → ε → (i : ι) → ρ i × ε} {fuel : Nat}

theorem evalShared_run (hE : ∀ k s o tr r, Answers (h k s o) (E k s (.op o tr r))) :
    ∀ {os : List (K × Op)} {w xs w'}, evalShared prog h fuel os w = some (xs, w') →
      Run (SharedSession prog E tick) w xs w'
  | [], _, _, _, heq => by cases heq; exact .nil
  | (k, o) :: os, w, xs, w', heq => by
      rw [evalShared] at heq
      split at heq
      · cases heq
      · rename_i hp
        rw [Option.map_eq_some_iff] at heq
        obtain ⟨⟨xs', w''⟩, heq, hx⟩ := heq
        cases hx
        exact .cons (shared_update (.op (Prog.eval_exec (hE _ _ _ _ _) hp))) (evalShared_run hE heq)

/-- The run of `os` satisfies `P`. -/
def sharedEvalsTo (prog : K → (o : Op) → Prog σ ι ρ (Ret o))
    (h : K → σ → Op → ε → (i : ι) → ρ i × ε) (fuel : Nat) (os : List (K × Op))
    (w : (K → σ) × ε)
    (P : List (Rec ((K → σ) × ε) (K × Label Op Ret ι ρ)) → (K → σ) × ε → Bool) : Bool :=
  match evalShared prog h fuel os w with
  | none => false
  | some (xs, w') => P xs w'

theorem sharedEvalsTo_run (tick : ε → ε → Prop)
    (hE : ∀ k s o tr r, Answers (h k s o) (E k s (.op o tr r))) {os : List (K × Op)}
    {w : (K → σ) × ε}
    {P : List (Rec ((K → σ) × ε) (K × Label Op Ret ι ρ)) → (K → σ) × ε → Bool}
    (heval : sharedEvalsTo prog h fuel os w P = true) :
    ∃ xs w', Run (SharedSession prog E tick) w xs w' ∧ P xs w' = true := by
  unfold sharedEvalsTo at heval
  split at heval
  · cases heval
  · rename_i xs w' heq
    exact ⟨xs, w', evalShared_run hE heq, heval⟩

end SharedSession

end LeosSdk
