import LeosSdk.Run

/-!
# Programs over an implementation

`Prog.implement` carries out a program's accesses to its private memory and
its calls by programs over another interface. If each of those does to the
implementation what the access or call does to the interface (`Simulates`),
then an execution of the implemented program is one of the program itself
(`Simulates.exec`): what was proved of the program holds of its
implementation.

Between two of its own calls the implementation may be interrupted. An
interrupt the program has not noticed yet is a move of its environment before
the next call, or after the last one. So the induction over the program
carries two states of the environment: where the program's execution has got
to, and where the implementation is, some moves later. At a call of its own
the program makes these moves up; an access to memory only adds to them.

The trace of the program is the implementation's, with the calls that are not
the program's own left out (`view`), and of the changes to memory only those
the program can make have to be carried out (`Prog.StoresOnly`).
-/

namespace LeosSdk

variable {σ ι ε σ' ι' ε' : Type} {ρ : ι → Type} {ρ' : ι' → Type} {α β γ : Type}

/-- A program for each access and call of an interface. -/
structure Impl (σ ι : Type) (ρ : ι → Type) (σ' ι' : Type) (ρ' : ι' → Type) where
  load : Prog σ' ι' ρ' σ
  store : (σ → σ) → Prog σ' ι' ρ' Unit
  call : (i : ι) → Prog σ' ι' ρ' (ρ i)

def Prog.implement (I : Impl σ ι ρ σ' ι' ρ') : {α : Type} → Prog σ ι ρ α → Prog σ' ι' ρ' α
  | _, .ret a => .ret a
  | _, .get k => I.load >>= fun s => (k s).implement I
  | _, .put f k => I.store f >>= fun _ => k.implement I
  | _, .call i k => I.call i >>= fun r => (k r).implement I
  | _, .loop body b k => .loop (fun b => (body b).implement I) b fun c => (k c).implement I

/-- Every change the program can make to its private memory satisfies `P`. -/
def Prog.StoresOnly (P : (σ → σ) → Prop) : {α : Type} → Prog σ ι ρ α → Prop
  | _, .ret _ => True
  | _, .get k => ∀ s, (k s).StoresOnly P
  | _, .put f k => P f ∧ k.StoresOnly P
  | _, .call _ k => ∀ r, (k r).StoresOnly P
  | _, .loop body _ k => (∀ b, (body b).StoresOnly P) ∧ ∀ c, (k c).StoresOnly P

theorem Prog.ReadOnly.storesOnly {P : (σ → σ) → Prop} {p : Prog σ ι ρ α} (h : p.ReadOnly) :
    p.StoresOnly P := by
  induction p with
  | ret => trivial
  | get k ih => exact fun s => ih s (h s)
  | put => exact h.elim
  | call i k ih => exact fun r => ih r (h r)
  | loop body b k ihb ih => exact ⟨fun b => ihb b (h.1 b), fun c => ih c (h.2 c)⟩

open Relation (ReflTransGen)

variable {I : Impl σ ι ρ σ' ι' ρ'} {E : Env ε ι ρ} {tick : ε → ε → Prop} {E' : Env ε' ι' ρ'}
  {view : Event ι' ρ' → Option (Event ι ρ)} {P : (σ → σ) → Prop}
  {Sim : σ → ε → σ' → ε' → Prop}

/-- `Sim` relates the interface's memory and environment to those of the
implementation, and `view` says which of its calls are the program's own. Only
changes to the memory in `P` need be carried out. Each clause allows moves of
the environment on the way. -/
structure Simulates (I : Impl σ ι ρ σ' ι' ρ') (E : Env ε ι ρ) (tick : ε → ε → Prop)
    (E' : Env ε' ι' ρ') (view : Event ι' ρ' → Option (Event ι ρ)) (P : (σ → σ) → Prop)
    (Sim : σ → ε → σ' → ε' → Prop) : Prop where
  load : ∀ {s e t u}, Sim s e t u → Ensures E' I.load (fun tr a t' u' =>
    tr.filterMap view = [] ∧ a = s ∧ ∃ e', ReflTransGen tick e e' ∧ Sim s e' t' u') t u
  store : ∀ {f s e t u}, P f → Sim s e t u → Ensures E' (I.store f) (fun tr _ t' u' =>
    tr.filterMap view = [] ∧ ∃ e', ReflTransGen tick e e' ∧ Sim (f s) e' t' u') t u
  call : ∀ {i s e t u}, Sim s e t u → Ensures E' (I.call i) (fun tr r t' u' =>
    tr.filterMap view = [⟨i, r⟩] ∧ ∃ e₁ e₂ e', ReflTransGen tick e e₁ ∧ E e₁ i r e₂
      ∧ ReflTransGen tick e₂ e' ∧ Sim s e' t' u') t u

/-- `p` has an execution that leaves what the implementation left, up to
moves of the environment that are still to be noticed. -/
def Carries (E : Env ε ι ρ) (tick : ε → ε → Prop) (Sim : σ → ε → σ' → ε' → Prop)
    (p : Prog σ ι ρ α) (s : σ) (e : ε) (tr : List (Event ι ρ)) (a : α) (t' : σ') (u' : ε') : Prop :=
  ∃ s' e₁ e', Exec (interleave tick E) p s e tr a s' e₁ ∧ ReflTransGen tick e₁ e'
    ∧ Sim s' e' t' u'

/-- Loops are carried out iteration by iteration. -/
theorem carries_iter {body : β → Prog σ ι ρ (β ⊕ γ)} {body' : β → Prog σ' ι' ρ' (β ⊕ γ)}
    (hbody : ∀ {b t u tr r t' u'}, Exec E' (body' b) t u tr r t' u' → ∀ {s e₀ e},
      ReflTransGen tick e₀ e → Sim s e t u →
        Carries E tick Sim (body b) s e₀ (tr.filterMap view) r t' u')
    {b : β} {t t' : σ'} {u u' : ε'} {tr : List (Event ι' ρ')} {c : γ}
    (hx : Exec E' (Prog.iter body' b) t u tr c t' u') {s : σ} {e₀ e : ε}
    (he : ReflTransGen tick e₀ e) (hs : Sim s e t u) :
    Carries E tick Sim (Prog.iter body b) s e₀ (tr.filterMap view) c t' u' := by
  generalize hq : Prog.iter body' b = q at hx
  induction hx generalizing b s e₀ e with
  | ret | get | put | call => cases hq
  | next hb _ _ ih =>
      cases hq
      obtain ⟨s₁, e₁, e₂, hx₁, he₂, hs₁⟩ := hbody hb he hs
      obtain ⟨s', e₃, e', hx', he', hs'⟩ := ih (by exact hbody) he₂ hs₁ rfl
      rw [List.filterMap_append]
      exact ⟨s', e₃, e', .next hx₁ hx', he', hs'⟩
  | done hb h =>
      cases hq
      obtain ⟨rfl, rfl, rfl, rfl⟩ := exec_ret.mp h
      obtain ⟨s₁, e₁, e₂, hx₁, he₂, hs₁⟩ := hbody hb he hs
      rw [List.filterMap_append]
      exact ⟨s₁, e₁, e₂, .done hx₁ .ret, he₂, hs₁⟩

/-- An execution of the implementation is one of the program. By induction on
the program; the moves still to be noticed are carried along. -/
theorem Simulates.exec (hI : Simulates I E tick E' view P Sim) {p : Prog σ ι ρ α}
    (hp : p.StoresOnly P) : ∀ {t t' : σ'} {u u' : ε'} {tr : List (Event ι' ρ')} {a : α},
      Exec E' (p.implement I) t u tr a t' u' → ∀ {s : σ} {e₀ e : ε},
      ReflTransGen tick e₀ e → Sim s e t u →
        Carries E tick Sim p s e₀ (tr.filterMap view) a t' u' := by
  induction p with
  | ret a =>
      intro t t' u u' tr a' hx s e₀ e he hs
      obtain ⟨rfl, rfl, rfl, rfl⟩ := exec_ret.mp hx
      exact ⟨s, e₀, e, .ret, he, hs⟩
  | get k ih =>
      intro t t' u u' tr a hx s e₀ e he hs
      obtain ⟨tr₁, s₁, t₁, u₁, tr₂, h₁, h₂, rfl⟩ := exec_bind.mp hx
      obtain ⟨htr, rfl, e₁, he₁, hs₁⟩ := hI.load hs _ _ _ _ h₁
      obtain ⟨s', e₂, e', hx', he', hs'⟩ := ih _ (hp _) h₂ (he.trans he₁) hs₁
      rw [List.filterMap_append, htr]
      exact ⟨s', e₂, e', .get hx', he', hs'⟩
  | put f k ih =>
      intro t t' u u' tr a hx s e₀ e he hs
      obtain ⟨tr₁, _, t₁, u₁, tr₂, h₁, h₂, rfl⟩ := exec_bind.mp hx
      obtain ⟨htr, e₁, he₁, hs₁⟩ := hI.store hp.1 hs _ _ _ _ h₁
      obtain ⟨s', e₂, e', hx', he', hs'⟩ := ih hp.2 h₂ (he.trans he₁) hs₁
      rw [List.filterMap_append, htr]
      exact ⟨s', e₂, e', .put hx', he', hs'⟩
  | call i k ih =>
      intro t t' u u' tr a hx s e₀ e he hs
      obtain ⟨tr₁, r, t₁, u₁, tr₂, h₁, h₂, rfl⟩ := exec_bind.mp hx
      obtain ⟨htr, e₁, e₂, e₃, he₁, hr, he₃, hs₁⟩ := hI.call hs _ _ _ _ h₁
      obtain ⟨s', e₄, e', hx', he', hs'⟩ := ih r (hp r) h₂ he₃ hs₁
      rw [List.filterMap_append, htr]
      exact ⟨s', e₄, e', .call ⟨e₁, he.trans he₁, hr⟩ hx', he', hs'⟩
  | loop body b k ihb ih =>
      intro t t' u u' tr a hx s e₀ e he hs
      obtain ⟨tr₁, c, t₁, u₁, tr₂, h₁, h₂, rfl⟩ := exec_loop.mp hx
      obtain ⟨s₁, e₁, e₂, hx₁, he₂, hs₁⟩ := carries_iter (fun hb => ihb _ (hp.1 _) hb) h₁ he hs
      obtain ⟨s', e₃, e', hx', he', hs'⟩ := ih c (hp.2 c) h₂ he₂ hs₁
      rw [List.filterMap_append]
      exact ⟨s', e₃, e', exec_loop.mpr ⟨_, _, _, _, _, hx₁, hx', rfl⟩, he', hs'⟩

end LeosSdk
