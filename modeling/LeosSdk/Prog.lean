/-!
# Interactive programs

A sequential program with private memory `σ` that talks to the outside through
calls: call `i` is answered by some value of type `ρ i`, and everything else
in the world (hardware, an interrupt handler, a library) sits behind those
answers in an environment state `ε` the program never sees directly. Code
shared with an interrupt handler is written with its shared variables behind
calls too; what is left in `σ` is touched by the program alone, so
interleavings matter only at calls.

An environment is a relation, so it may leave an answer open, and an answer
may depend on what happened before through the environment's state alone. What
is assumed of the outside is said by the choice of the environment and nowhere
else.

`Exec` is the big-step meaning: a finite execution, the answers it got (its
trace), its result and the memories it leaves. Loops are `loop` nodes, not
fuel: an execution that iterates forever has no `Exec`. There is one inversion
lemma for each constructor and one for sequencing (`exec_bind`), by induction
on the first program; the rules of `ProgLogic` are these, read for all
executions at once.

Nothing here names a particular program.
-/

namespace LeosSdk

/-- A program returning `α`. `loop body b k` runs `body` from the carried
value `b` until it answers `.inr c`, then continues with `k c`. -/
inductive Prog (σ ι : Type) (ρ : ι → Type) : Type → Type 1 where
  | ret {α : Type} (a : α) : Prog σ ι ρ α
  | get {α : Type} (k : σ → Prog σ ι ρ α) : Prog σ ι ρ α
  | put {α : Type} (f : σ → σ) (k : Prog σ ι ρ α) : Prog σ ι ρ α
  | call {α : Type} (i : ι) (k : ρ i → Prog σ ι ρ α) : Prog σ ι ρ α
  | loop {α β γ : Type} (body : β → Prog σ ι ρ (β ⊕ γ)) (b : β)
      (k : γ → Prog σ ι ρ α) : Prog σ ι ρ α

/-- A call together with the answer it was given. -/
structure Event (ι : Type) (ρ : ι → Type) where
  call : ι
  answer : ρ call

/-- An environment: `E e i r e'` when, in state `e`, call `i` may be
answered `r`, leaving `e'`. -/
abbrev Env (ε ι : Type) (ρ : ι → Type) := ε → (i : ι) → ρ i → ε → Prop

variable {σ ι ε : Type} {ρ : ι → Type} {α β γ δ : Type}

namespace Prog

def bind {α δ : Type} : Prog σ ι ρ α → (α → Prog σ ι ρ δ) → Prog σ ι ρ δ
  | .ret a, f => f a
  | .get k, f => .get fun s => (k s).bind f
  | .put g k, f => .put g (k.bind f)
  | .call i k, f => .call i fun r => (k r).bind f
  | .loop body b k, f => .loop body b fun c => (k c).bind f

instance : Monad (Prog σ ι ρ) where
  pure := .ret
  bind := .bind

/-- The whole private memory. -/
def read : Prog σ ι ρ σ := .get .ret

def modify (f : σ → σ) : Prog σ ι ρ Unit := .put f (.ret ())

def ask (i : ι) : Prog σ ι ρ (ρ i) := .call i .ret

/-- A `while`-style loop carrying a value, returning the loop's result. The
body says whether to go on. -/
def iter (body : β → Prog σ ι ρ (β ⊕ γ)) (b : β) : Prog σ ι ρ γ :=
  .loop body b .ret

end Prog

/-! ## Executions -/

/-- `Exec E p s e tr a s' e'`: from private memory `s` and environment `e`,
program `p` runs to completion with trace `tr`, returning `a`. -/
inductive Exec (E : Env ε ι ρ) : {α : Type} → Prog σ ι ρ α → σ → ε →
    List (Event ι ρ) → α → σ → ε → Prop
  | ret {α : Type} {a : α} {s e} : Exec E (.ret a) s e [] a s e
  | get {α : Type} {k : σ → Prog σ ι ρ α} {s e tr a s' e'}
      (h : Exec E (k s) s e tr a s' e') : Exec E (.get k) s e tr a s' e'
  | put {α : Type} {f : σ → σ} {k : Prog σ ι ρ α} {s e tr a s' e'}
      (h : Exec E k (f s) e tr a s' e') : Exec E (.put f k) s e tr a s' e'
  | call {α : Type} {i : ι} {k : ρ i → Prog σ ι ρ α} {s e r e₁ tr a s' e'}
      (hr : E e i r e₁) (h : Exec E (k r) s e₁ tr a s' e') :
      Exec E (.call i k) s e (⟨i, r⟩ :: tr) a s' e'
  | next {α β γ : Type} {body : β → Prog σ ι ρ (β ⊕ γ)} {b b' : β}
      {k : γ → Prog σ ι ρ α} {s e tr s₁ e₁ tr' a s' e'}
      (hb : Exec E (body b) s e tr (.inl b') s₁ e₁)
      (h : Exec E (.loop body b' k) s₁ e₁ tr' a s' e') :
      Exec E (.loop body b k) s e (tr ++ tr') a s' e'
  | done {α β γ : Type} {body : β → Prog σ ι ρ (β ⊕ γ)} {b : β} {c : γ}
      {k : γ → Prog σ ι ρ α} {s e tr s₁ e₁ tr' a s' e'}
      (hb : Exec E (body b) s e tr (.inr c) s₁ e₁)
      (h : Exec E (k c) s₁ e₁ tr' a s' e') :
      Exec E (.loop body b k) s e (tr ++ tr') a s' e'

variable {E : Env ε ι ρ} {s s' : σ} {e e' : ε} {tr : List (Event ι ρ)} {a : α}

theorem exec_ret {a' : α} :
    Exec E (.ret a) s e tr a' s' e' ↔ tr = [] ∧ a' = a ∧ s' = s ∧ e' = e := by
  constructor
  · intro h; cases h; exact ⟨rfl, rfl, rfl, rfl⟩
  · rintro ⟨rfl, rfl, rfl, rfl⟩; exact .ret

theorem exec_get {k : σ → Prog σ ι ρ α} :
    Exec E (.get k) s e tr a s' e' ↔ Exec E (k s) s e tr a s' e' := by
  constructor
  · intro h; cases h; assumption
  · exact .get

theorem exec_put {f : σ → σ} {k : Prog σ ι ρ α} :
    Exec E (.put f k) s e tr a s' e' ↔ Exec E k (f s) e tr a s' e' := by
  constructor
  · intro h; cases h; assumption
  · exact .put

theorem exec_call {i : ι} {k : ρ i → Prog σ ι ρ α} :
    Exec E (.call i k) s e tr a s' e' ↔
      ∃ r e₁ tr₁, E e i r e₁ ∧ Exec E (k r) s e₁ tr₁ a s' e'
        ∧ tr = ⟨i, r⟩ :: tr₁ := by
  constructor
  · intro h
    cases h with
    | call hr h => exact ⟨_, _, _, hr, h, rfl⟩
  · intro hx
    rcases hx with ⟨r, e₁, tr₁, hr, h, rfl⟩
    exact .call hr h

/-- The iterations of a loop, split off from what follows it. -/
theorem exec_loop {body : β → Prog σ ι ρ (β ⊕ γ)} {b : β}
    {k : γ → Prog σ ι ρ α} :
    Exec E (.loop body b k) s e tr a s' e' ↔
      ∃ tr₁ c s₁ e₁ tr₂, Exec E (.iter body b) s e tr₁ c s₁ e₁
        ∧ Exec E (k c) s₁ e₁ tr₂ a s' e' ∧ tr = tr₁ ++ tr₂ := by
  constructor
  · intro h
    generalize hq : Prog.loop body b k = q at h
    induction h generalizing b with
    | ret | get | put | call => cases hq
    | next hb h _ ih =>
        cases hq
        obtain ⟨tr₁, c, s₁, e₁, tr₂, h₁, h₂, rfl⟩ := ih rfl
        exact ⟨_, c, s₁, e₁, tr₂, .next hb h₁, h₂, by simp⟩
    | done hb h =>
        cases hq
        exact ⟨_, _, _, _, _, .done hb .ret, h, by simp⟩
  · intro h
    rcases h with ⟨tr₁, c, s₁, e₁, tr₂, h₁, h₂, rfl⟩
    generalize hq : Prog.iter body b = q at h₁
    induction h₁ generalizing b with
    | ret | get | put | call => cases hq
    | next hb h _ ih =>
        cases hq
        rw [List.append_assoc]
        exact .next hb (ih h₂ rfl)
    | done hb h =>
        cases hq
        obtain ⟨rfl, rfl, rfl, rfl⟩ := exec_ret.mp h
        rw [List.append_assoc]
        exact .done hb h₂

/-- Executions of a sequence are an execution of the first program followed by
one of the continuation, and their traces follow one another. -/
theorem exec_bind {p : Prog σ ι ρ α} {f : α → Prog σ ι ρ δ} {d : δ} :
    Exec E (p.bind f) s e tr d s' e' ↔
      ∃ tr₁ a s₁ e₁ tr₂, Exec E p s e tr₁ a s₁ e₁
        ∧ Exec E (f a) s₁ e₁ tr₂ d s' e' ∧ tr = tr₁ ++ tr₂ := by
  induction p generalizing s e tr with
  | ret a =>
      constructor
      · intro h; exact ⟨[], a, s, e, tr, .ret, h, rfl⟩
      · intro h
        rcases h with ⟨tr₁, a, s₁, e₁, tr₂, h₁, h₂, rfl⟩
        obtain ⟨rfl, rfl, rfl, rfl⟩ := exec_ret.mp h₁
        exact h₂
  | get k ih => simp only [Prog.bind, exec_get, ih]
  | put g k ih => simp only [Prog.bind, exec_put, ih]
  | call i k ih =>
      simp only [Prog.bind, exec_call, ih]
      constructor
      · intro h
        rcases h with ⟨r, e₁, _, hr, ⟨tr₁, a, s₁, e₂, tr₂, h₁, h₂, rfl⟩, rfl⟩
        exact ⟨_, a, s₁, e₂, tr₂, ⟨r, e₁, tr₁, hr, h₁, rfl⟩, h₂, rfl⟩
      · intro h
        rcases h with ⟨_, a, s₁, e₂, tr₂, ⟨r, e₁, tr₁, hr, h₁, rfl⟩, h₂, rfl⟩
        exact ⟨r, e₁, _, hr, ⟨tr₁, a, s₁, e₂, tr₂, h₁, h₂, rfl⟩, rfl⟩
  | loop body b k _ ih =>
      simp only [Prog.bind, exec_loop (k := fun c => (k c).bind f), ih,
        exec_loop (k := k)]
      constructor
      · intro h
        rcases h with ⟨tr₁, c, s₁, e₁, _, hi, ⟨tr₂, a, s₂, e₂, tr₃, h₁, h₂, rfl⟩, rfl⟩
        exact ⟨_, a, s₂, e₂, tr₃, ⟨tr₁, c, s₁, e₁, tr₂, hi, h₁, rfl⟩, h₂, by simp⟩
      · intro h
        rcases h with ⟨_, a, s₂, e₂, tr₃, ⟨tr₁, c, s₁, e₁, tr₂, hi, h₁, rfl⟩, h₂, rfl⟩
        exact ⟨tr₁, c, s₁, e₁, _, hi, ⟨tr₂, a, s₂, e₂, tr₃, h₁, h₂, rfl⟩, by simp⟩

/-! Sequences, executed step by step. -/

theorem Exec.ask_bind {i : ι} {k : ρ i → Prog σ ι ρ α} {r : ρ i} {e₁ : ε} (hr : E e i r e₁)
    (h : Exec E (k r) s e₁ tr a s' e') :
    Exec E (Prog.ask i >>= k) s e (⟨i, r⟩ :: tr) a s' e' :=
  .call hr h

theorem Exec.modify_bind {f : σ → σ} {k : Unit → Prog σ ι ρ α}
    (h : Exec E (k ()) (f s) e tr a s' e') : Exec E (Prog.modify f >>= k) s e tr a s' e' :=
  .put h

theorem Exec.read_bind {k : σ → Prog σ ι ρ α} (h : Exec E (k s) s e tr a s' e') :
    Exec E (Prog.read >>= k) s e tr a s' e' :=
  .get h

/-- An execution seen through a view of the environment: where each answer
is one the viewed environment may give, so is the whole execution. -/
theorem Exec.view {ε' : Type} {E' : Env ε' ι ρ} (f : ε → ε')
    (hE : ∀ e i r e', E e i r e' → E' (f e) i r (f e')) {p : Prog σ ι ρ α}
    (h : Exec E p s e tr a s' e') : Exec E' p s (f e) tr a s' (f e') := by
  induction h with
  | ret => exact .ret
  | get _ ih => exact .get ih
  | put _ ih => exact .put ih
  | call hr _ ih => exact .call (hE _ _ _ _ hr) ih
  | next _ _ ihb ih => exact .next ihb ih
  | done _ _ ihb ih => exact .done ihb ih

end LeosSdk
