import LeosSdk.Prog

/-!
# Rules for interactive programs

Three judgments over `Exec`, each with one rule per program constructor and
one for sequencing:

- `Ensures`: every completed execution satisfies the postcondition (partial
  correctness; the environment chooses the answers).
- `Total`: in addition no choice of answers makes the program run forever or
  wait for an answer that never comes.
- `ReadOnly`/`CallsOnly`: what a program cannot do by its shape alone.

Postconditions see the trace, so "what was asked, in which order" is an
ordinary postcondition. `Ensures` has its rules as equivalences: a program is
taken apart by rewriting, and what is left is a statement about answers. The
loop rule takes an invariant over the carried value, the trace so far and both
memories.

`CallsOnly` serves for what holds of a program whatever it does with the
answers: an assertion that each of its calls keeps, it keeps
(`Prog.CallsOnly.keeps`), also if the assertion speaks of the trace
(`Prog.CallsOnly.traced`). With it the many operations that do not matter to
some invariant are dealt with at once.

`eval` runs a program against a function that answers, for concrete
executions; what it computes is an execution of any environment that allows
these answers.
-/

namespace LeosSdk

variable {σ ι ε : Type} {ρ : ι → Type} {α β γ δ : Type}

/-- A postcondition: of the trace, the result and the memories left. -/
abbrev Post (σ ε ι : Type) (ρ : ι → Type) (α : Type) :=
  List (Event ι ρ) → α → σ → ε → Prop

/-! ## Partial correctness -/

/-- Every completed execution of `p` from `s`, `e` ends in `Q`. -/
def Ensures (E : Env ε ι ρ) (p : Prog σ ι ρ α) (Q : Post σ ε ι ρ α)
    (s : σ) (e : ε) : Prop :=
  ∀ tr a s' e', Exec E p s e tr a s' e' → Q tr a s' e'

variable {E : Env ε ι ρ} {s : σ} {e : ε}

theorem Ensures.mono {p : Prog σ ι ρ α} {Q Q' : Post σ ε ι ρ α}
    (h : Ensures E p Q s e) (hQ : ∀ tr a s' e', Q tr a s' e' → Q' tr a s' e') :
    Ensures E p Q' s e :=
  fun tr a s' e' hx => hQ _ _ _ _ (h tr a s' e' hx)

theorem Ensures.and {p : Prog σ ι ρ α} {Q Q' : Post σ ε ι ρ α}
    (h : Ensures E p Q s e) (h' : Ensures E p Q' s e) :
    Ensures E p (fun tr a s' e' => Q tr a s' e' ∧ Q' tr a s' e') s e :=
  fun tr a s' e' hx => ⟨h tr a s' e' hx, h' tr a s' e' hx⟩

@[simp] theorem ensures_pure {a : α} {Q : Post σ ε ι ρ α} :
    Ensures E (pure a : Prog σ ι ρ α) Q s e ↔ Q [] a s e := by
  constructor
  · intro h; exact h _ _ _ _ .ret
  · intro h tr a' s' e' hx
    obtain ⟨rfl, rfl, rfl, rfl⟩ := exec_ret.mp hx
    exact h

@[simp] theorem ensures_bind {p : Prog σ ι ρ α} {f : α → Prog σ ι ρ δ}
    {Q : Post σ ε ι ρ δ} :
    Ensures E (p >>= f) Q s e ↔
      Ensures E p (fun tr a s' e' =>
        Ensures E (f a) (fun tr' => Q (tr ++ tr')) s' e') s e := by
  constructor
  · intro h tr a s₁ e₁ h₁ tr' d s' e' h₂
    exact h _ _ _ _ (exec_bind.mpr ⟨tr, a, s₁, e₁, tr', h₁, h₂, rfl⟩)
  · intro h tr d s' e' hx
    obtain ⟨tr₁, a, s₁, e₁, tr₂, h₁, h₂, rfl⟩ := exec_bind.mp hx
    exact h _ _ _ _ h₁ _ _ _ _ h₂

@[simp] theorem ensures_read {Q : Post σ ε ι ρ σ} :
    Ensures E (Prog.read : Prog σ ι ρ σ) Q s e ↔ Q [] s s e := by
  constructor
  · intro h; exact h _ _ _ _ (.get .ret)
  · intro h tr a s' e' hx
    obtain ⟨rfl, rfl, rfl, rfl⟩ := exec_ret.mp (exec_get.mp hx)
    exact h

@[simp] theorem ensures_modify {f : σ → σ} {Q : Post σ ε ι ρ Unit} :
    Ensures E (Prog.modify f : Prog σ ι ρ Unit) Q s e ↔ Q [] () (f s) e := by
  constructor
  · intro h; exact h _ _ _ _ (.put .ret)
  · intro h tr a s' e' hx
    obtain ⟨rfl, rfl, rfl, rfl⟩ := exec_ret.mp (exec_put.mp hx)
    exact h

@[simp] theorem ensures_ask {i : ι} {Q : Post σ ε ι ρ (ρ i)} :
    Ensures E (Prog.ask i : Prog σ ι ρ (ρ i)) Q s e ↔
      ∀ r e', E e i r e' → Q [⟨i, r⟩] r s e' := by
  constructor
  · intro h r e' hr; exact h _ _ _ _ (.call hr .ret)
  · intro h tr a s' e' hx
    obtain ⟨r, e₁, tr₁, hr, h', rfl⟩ := exec_call.mp hx
    obtain ⟨rfl, rfl, rfl, rfl⟩ := exec_ret.mp h'
    exact h _ _ hr

theorem ensures_ite {c : Prop} [Decidable c] {p q : Prog σ ι ρ α}
    {Q : Post σ ε ι ρ α} :
    Ensures E (if c then p else q) Q s e ↔
      (c → Ensures E p Q s e) ∧ (¬c → Ensures E q Q s e) := by
  split <;> simp_all

/-- Loop rule: an invariant over the carried value and the trace so far, which
an iteration that goes on keeps and one that ends turns into the
postcondition. -/
theorem ensures_iter {body : β → Prog σ ι ρ (β ⊕ γ)} {Q : Post σ ε ι ρ γ}
    (I : β → List (Event ι ρ) → σ → ε → Prop)
    (hstep : ∀ b tr s e, I b tr s e →
      Ensures E (body b) (fun tr' r s' e' =>
        (∀ b', r = .inl b' → I b' (tr ++ tr') s' e')
          ∧ ∀ c, r = .inr c → Q (tr ++ tr') c s' e') s e)
    {b : β} (h0 : I b [] s e) : Ensures E (Prog.iter body b) Q s e := by
  intro tr c s' e' hx
  suffices h : ∀ tr₀, I b tr₀ s e → Q (tr₀ ++ tr) c s' e' from h [] h0
  generalize hq : Prog.iter body b = q at hx
  clear h0
  induction hx generalizing b with
  | ret | get | put | call => cases hq
  | next hb _ _ ih =>
      cases hq
      intro tr₀ hI
      rw [← List.append_assoc]
      exact ih (by exact hstep) rfl _ ((hstep _ _ _ _ hI _ _ _ _ hb).1 _ rfl)
  | done hb h =>
      cases hq
      intro tr₀ hI
      obtain ⟨rfl, rfl, rfl, rfl⟩ := exec_ret.mp h
      rw [List.append_nil]
      exact (hstep _ _ _ _ hI _ _ _ _ hb).2 _ rfl

/-! ## Total correctness -/

/-- Whatever the environment answers, `p` completes and ends in `Q`. A call
needs an answer, and a loop has to end, since the judgment is inductive. -/
inductive Total (E : Env ε ι ρ) : {α : Type} → Prog σ ι ρ α →
    Post σ ε ι ρ α → σ → ε → Prop
  | ret {α : Type} {a : α} {Q : Post σ ε ι ρ α} {s e} (h : Q [] a s e) :
      Total E (.ret a) Q s e
  | get {α : Type} {k : σ → Prog σ ι ρ α} {Q : Post σ ε ι ρ α} {s e}
      (h : Total E (k s) Q s e) : Total E (.get k) Q s e
  | put {α : Type} {f : σ → σ} {k : Prog σ ι ρ α} {Q : Post σ ε ι ρ α} {s e}
      (h : Total E k Q (f s) e) : Total E (.put f k) Q s e
  | call {α : Type} {i : ι} {k : ρ i → Prog σ ι ρ α} {Q : Post σ ε ι ρ α}
      {s e} (hans : ∃ r e₁, E e i r e₁)
      (h : ∀ r e₁, E e i r e₁ →
        Total E (k r) (fun tr => Q (⟨i, r⟩ :: tr)) s e₁) :
      Total E (.call i k) Q s e
  | loop {α β γ : Type} {body : β → Prog σ ι ρ (β ⊕ γ)} {b : β}
      {k : γ → Prog σ ι ρ α} {Q : Post σ ε ι ρ α} {s e}
      (J : Post σ ε ι ρ (β ⊕ γ)) (hb : Total E (body b) J s e)
      (hnext : ∀ tr b' s₁ e₁, J tr (.inl b') s₁ e₁ →
        Total E (.loop body b' k) (fun tr' => Q (tr ++ tr')) s₁ e₁)
      (hdone : ∀ tr c s₁ e₁, J tr (.inr c) s₁ e₁ →
        Total E (k c) (fun tr' => Q (tr ++ tr')) s₁ e₁) :
      Total E (.loop body b k) Q s e

theorem Total.mono {p : Prog σ ι ρ α} {Q Q' : Post σ ε ι ρ α}
    (h : Total E p Q s e) (hQ : ∀ tr a s' e', Q tr a s' e' → Q' tr a s' e') :
    Total E p Q' s e := by
  induction h with
  | ret h => exact .ret (hQ _ _ _ _ h)
  | get _ ih => exact .get (ih hQ)
  | put _ ih => exact .put (ih hQ)
  | call hans _ ih =>
      exact .call hans fun r e₁ hr => ih r e₁ hr fun tr => hQ (_ :: tr)
  | loop J hb _ _ _ ihn ihd =>
      exact .loop J hb
        (fun tr b' s₁ e₁ hJ => ihn tr b' s₁ e₁ hJ fun tr' => hQ (tr ++ tr'))
        (fun tr c s₁ e₁ hJ => ihd tr c s₁ e₁ hJ fun tr' => hQ (tr ++ tr'))

/-- A total program has an execution. -/
theorem Total.exec {p : Prog σ ι ρ α} {Q : Post σ ε ι ρ α}
    (h : Total E p Q s e) :
    ∃ tr a s' e', Exec E p s e tr a s' e' ∧ Q tr a s' e' := by
  induction h with
  | ret h => exact ⟨_, _, _, _, .ret, h⟩
  | get _ ih =>
      obtain ⟨tr, a, s', e', hx, hQ⟩ := ih
      exact ⟨tr, a, s', e', .get hx, hQ⟩
  | put _ ih =>
      obtain ⟨tr, a, s', e', hx, hQ⟩ := ih
      exact ⟨tr, a, s', e', .put hx, hQ⟩
  | call hans _ ih =>
      obtain ⟨r, e₁, hr⟩ := hans
      obtain ⟨tr, a, s', e', hx, hQ⟩ := ih r e₁ hr
      exact ⟨_, a, s', e', .call hr hx, hQ⟩
  | loop J _ _ _ ihb ihn ihd =>
      obtain ⟨tr, r, s₁, e₁, hx, hJ⟩ := ihb
      cases r with
      | inl b' =>
          obtain ⟨tr', a, s', e', hx', hQ⟩ := ihn tr b' s₁ e₁ hJ
          exact ⟨_, a, s', e', .next hx hx', hQ⟩
      | inr c =>
          obtain ⟨tr', a, s', e', hx', hQ⟩ := ihd tr c s₁ e₁ hJ
          exact ⟨_, a, s', e', .done hx hx', hQ⟩

/-- A total program is partially correct. -/
theorem Total.ensures {p : Prog σ ι ρ α} {Q : Post σ ε ι ρ α}
    (h : Total E p Q s e) : Ensures E p Q s e := by
  induction h with
  | ret h =>
      intro tr a s' e' hx
      obtain ⟨rfl, rfl, rfl, rfl⟩ := exec_ret.mp hx
      exact h
  | get _ ih => exact fun tr a s' e' hx => ih tr a s' e' (exec_get.mp hx)
  | put _ ih => exact fun tr a s' e' hx => ih tr a s' e' (exec_put.mp hx)
  | call _ _ ih =>
      intro tr a s' e' hx
      obtain ⟨r, e₁, tr₁, hr, h', rfl⟩ := exec_call.mp hx
      exact ih r e₁ hr _ _ _ _ h'
  | loop J _ _ _ ihb ihn ihd =>
      intro tr a s' e' hx
      cases hx with
      | next hb h => exact ihn _ _ _ _ (ihb _ _ _ _ hb) _ _ _ _ h
      | done hb h => exact ihd _ _ _ _ (ihb _ _ _ _ hb) _ _ _ _ h

theorem total_pure {a : α} {Q : Post σ ε ι ρ α} (h : Q [] a s e) :
    Total E (pure a : Prog σ ι ρ α) Q s e := .ret h

theorem total_bind {p : Prog σ ι ρ α} {f : α → Prog σ ι ρ δ}
    {Q : Post σ ε ι ρ δ}
    (h : Total E p (fun tr a s' e' =>
      Total E (f a) (fun tr' => Q (tr ++ tr')) s' e') s e) :
    Total E (p >>= f) Q s e := by
  show Total E (p.bind f) Q s e
  generalize hP : (fun tr a s' e' =>
    Total E (f a) (fun tr' => Q (tr ++ tr')) s' e') = P at h
  replace hP : ∀ tr a s' e', P tr a s' e' →
      Total E (f a) (fun tr' => Q (tr ++ tr')) s' e' := by
    intro tr a s' e' h; rw [← hP] at h; exact h
  induction h generalizing Q with
  | ret h => exact hP _ _ _ _ h
  | get _ ih => exact .get (ih hP)
  | put _ ih => exact .put (ih hP)
  | call hans _ ih =>
      exact .call hans fun r e₁ hr => ih r e₁ hr fun tr a s' e' h =>
        hP _ _ _ _ h
  | loop J hb _ _ _ ihn ihd =>
      refine .loop J hb (fun tr b' s₁ e₁ hJ => ?_) (fun tr c s₁ e₁ hJ => ?_)
      · exact ihn tr b' s₁ e₁ hJ fun tr' a s' e' h => by
          simpa only [List.append_assoc] using hP _ _ _ _ h
      · exact ihd tr c s₁ e₁ hJ fun tr' a s' e' h => by
          simpa only [List.append_assoc] using hP _ _ _ _ h

theorem total_read {Q : Post σ ε ι ρ σ} (h : Q [] s s e) :
    Total E (Prog.read : Prog σ ι ρ σ) Q s e := .get (.ret h)

/-- A call and what follows it. -/
theorem total_call {i : ι} {f : ρ i → Prog σ ι ρ δ} {Q : Post σ ε ι ρ δ}
    (hans : ∃ r e', E e i r e')
    (h : ∀ r e', E e i r e' → Total E (f r) (fun tr => Q (⟨i, r⟩ :: tr)) s e') :
    Total E (Prog.ask i >>= f) Q s e :=
  .call hans h

/-- Loop rule with a variant: each iteration that goes on keeps the invariant
and strictly decreases `m`. -/
theorem total_iter {body : β → Prog σ ι ρ (β ⊕ γ)} {Q : Post σ ε ι ρ γ}
    (I : β → List (Event ι ρ) → σ → ε → Prop) (m : β → σ → ε → Nat)
    (hstep : ∀ b tr s e, I b tr s e →
      Total E (body b) (fun tr' r s' e' =>
        (∀ b', r = .inl b' → I b' (tr ++ tr') s' e' ∧ m b' s' e' < m b s e)
          ∧ ∀ c, r = .inr c → Q (tr ++ tr') c s' e') s e)
    {b : β} (h0 : I b [] s e) : Total E (Prog.iter body b) Q s e := by
  suffices h : ∀ n b tr s e, m b s e ≤ n → I b tr s e →
      Total E (Prog.iter body b) (fun tr' => Q (tr ++ tr')) s e from
    h _ b [] s e (Nat.le_refl _) h0
  intro n
  induction n with
  | zero =>
      intro b tr s e hn hI
      refine .loop _ (hstep b tr s e hI) (fun tr' b' s₁ e₁ hJ => ?_)
        fun tr' c s₁ e₁ hJ => ?_
      · have := (hJ.1 b' rfl).2
        omega
      · exact .ret (by simpa using hJ.2 c rfl)
  | succ n ih =>
      intro b tr s e hn hI
      refine .loop _ (hstep b tr s e hI) (fun tr' b' s₁ e₁ hJ => ?_)
        fun tr' c s₁ e₁ hJ => ?_
      · obtain ⟨hI', hlt⟩ := hJ.1 b' rfl
        exact (ih b' (tr ++ tr') s₁ e₁ (by omega) hI').mono fun tr'' a s' e' h => by
          simpa only [List.append_assoc] using h
      · exact .ret (by simpa using hJ.2 c rfl)

/-! ## What a program's shape rules out -/

namespace Prog

/-- The program never writes its private memory. -/
def ReadOnly : {α : Type} → Prog σ ι ρ α → Prop
  | _, .ret _ => True
  | _, .get k => ∀ s, (k s).ReadOnly
  | _, .put _ _ => False
  | _, .call _ k => ∀ r, (k r).ReadOnly
  | _, .loop body _ k => (∀ b, (body b).ReadOnly) ∧ ∀ c, (k c).ReadOnly

/-- Every call the program can make satisfies `P`. -/
def CallsOnly (P : ι → Prop) : {α : Type} → Prog σ ι ρ α → Prop
  | _, .ret _ => True
  | _, .get k => ∀ s, (k s).CallsOnly P
  | _, .put _ k => k.CallsOnly P
  | _, .call i k => P i ∧ ∀ r, (k r).CallsOnly P
  | _, .loop body _ k => (∀ b, (body b).CallsOnly P) ∧ ∀ c, (k c).CallsOnly P

theorem readOnly_bind {p : Prog σ ι ρ α} {f : α → Prog σ ι ρ δ}
    (hp : p.ReadOnly) (hf : ∀ a, (f a).ReadOnly) : (p >>= f).ReadOnly := by
  show (p.bind f).ReadOnly
  induction p with
  | ret a => exact hf a
  | get k ih => exact fun s => ih s (hp s) hf
  | put g k => exact hp.elim
  | call i k ih => exact fun r => ih r (hp r) hf
  | loop body b k _ ih => exact ⟨hp.1, fun c => ih c (hp.2 c) hf⟩

theorem callsOnly_bind {P : ι → Prop} {p : Prog σ ι ρ α}
    {f : α → Prog σ ι ρ δ} (hp : p.CallsOnly P)
    (hf : ∀ a, (f a).CallsOnly P) : (p >>= f).CallsOnly P := by
  show (p.bind f).CallsOnly P
  induction p with
  | ret a => exact hf a
  | get k ih => exact fun s => ih s (hp s) hf
  | put g k ih => exact ih hp hf
  | call i k ih => exact ⟨hp.1, fun r => ih r (hp.2 r) hf⟩
  | loop body b k _ ih => exact ⟨hp.1, fun c => ih c (hp.2 c) hf⟩

theorem callsOnly_pure {P : ι → Prop} {a : α} :
    (pure a : Prog σ ι ρ α).CallsOnly P ↔ True := Iff.rfl

theorem callsOnly_ask_bind {P : ι → Prop} {i : ι} {k : ρ i → Prog σ ι ρ α} :
    (ask i >>= k).CallsOnly P ↔ P i ∧ ∀ r, (k r).CallsOnly P := Iff.rfl

theorem callsOnly_read_bind {P : ι → Prop} {k : σ → Prog σ ι ρ α} :
    (read >>= k).CallsOnly P ↔ ∀ s, (k s).CallsOnly P := Iff.rfl

theorem callsOnly_ite {P : ι → Prop} {c : Prop} [Decidable c] {p q : Prog σ ι ρ α} :
    (if c then p else q).CallsOnly P ↔ (c → p.CallsOnly P) ∧ (¬c → q.CallsOnly P) := by
  split <;> simp_all

theorem CallsOnly.mono {P P' : ι → Prop} (hP : ∀ i, P i → P' i)
    {p : Prog σ ι ρ α} (h : p.CallsOnly P) : p.CallsOnly P' := by
  induction p with
  | ret => trivial
  | get k ih => exact fun s => ih s (h s)
  | put f k ih => exact ih h
  | call i k ih => exact ⟨hP i h.1, fun r => ih r (h.2 r)⟩
  | loop body b k ihb ih => exact ⟨fun b => ihb b (h.1 b), fun c => ih c (h.2 c)⟩

theorem callsOnly_any (p : Prog σ ι ρ α) : p.CallsOnly fun _ => True := by
  induction p with
  | ret => trivial
  | get k ih => exact ih
  | put f k ih => exact ih
  | call i k ih => exact ⟨trivial, ih⟩
  | loop body b k ihb ih => exact ⟨ihb, ih⟩

end Prog

theorem Prog.ReadOnly.exec {p : Prog σ ι ρ α} {tr a s' e'}
    (hx : Exec E p s e tr a s' e') (h : p.ReadOnly) : s' = s := by
  induction hx with
  | ret => rfl
  | get _ ih => exact ih (h _)
  | put => exact h.elim
  | call _ _ ih => exact ih (h _)
  | next _ _ ihb ih => rw [ih h, ihb (h.1 _)]
  | done _ _ ihb ih => rw [ih (h.2 _), ihb (h.1 _)]

/-- What every allowed call preserves survives the program, and what it
guarantees of each answer holds all along the trace. -/
theorem Prog.CallsOnly.events {P : ι → Prop} {J : ε → Prop}
    {R : Event ι ρ → Prop}
    (hE : ∀ e i r e', P i → J e → E e i r e' → J e' ∧ R ⟨i, r⟩)
    {p : Prog σ ι ρ α} {tr a s' e'} (hx : Exec E p s e tr a s' e')
    (h : p.CallsOnly P) (h0 : J e) : J e' ∧ ∀ ev ∈ tr, R ev := by
  induction hx with
  | ret => exact ⟨h0, by simp⟩
  | get _ ih => exact ih (h _) h0
  | put _ ih => exact ih h h0
  | call hr _ ih =>
      obtain ⟨h₁, hR⟩ := hE _ _ _ _ h.1 h0 hr
      obtain ⟨h₂, htr⟩ := ih (h.2 _) h₁
      exact ⟨h₂, List.forall_mem_cons.mpr ⟨hR, htr⟩⟩
  | next _ _ ihb ih =>
      obtain ⟨h₁, htr⟩ := ihb (h.1 _) h0
      obtain ⟨h₂, htr'⟩ := ih h h₁
      exact ⟨h₂, List.forall_mem_append.mpr ⟨htr, htr'⟩⟩
  | done _ _ ihb ih =>
      obtain ⟨h₁, htr⟩ := ihb (h.1 _) h0
      obtain ⟨h₂, htr'⟩ := ih (h.2 _) h₁
      exact ⟨h₂, List.forall_mem_append.mpr ⟨htr, htr'⟩⟩

/-- What every allowed call preserves of the history and the environment,
the program does. -/
theorem Prog.CallsOnly.traced {P : ι → Prop} {J : List (Event ι ρ) → ε → Prop}
    (hE : ∀ tr e i r e', P i → J tr e → E e i r e' → J (tr ++ [⟨i, r⟩]) e')
    {p : Prog σ ι ρ α} {tr a s' e'} (hx : Exec E p s e tr a s' e')
    (h : p.CallsOnly P) {tr₀ : List (Event ι ρ)} (h0 : J tr₀ e) : J (tr₀ ++ tr) e' := by
  induction hx generalizing tr₀ with
  | ret => simpa using h0
  | get _ ih => exact ih (h _) h0
  | put _ ih => exact ih h h0
  | call hr _ ih =>
      have := ih (h.2 _) (hE _ _ _ _ _ h.1 h0 hr)
      simpa using this
  | next _ _ ihb ih =>
      rw [← List.append_assoc]
      exact ih h (ihb (h.1 _) h0)
  | done _ _ ihb ih =>
      rw [← List.append_assoc]
      exact ih (h.2 _) (ihb (h.1 _) h0)

/-- What every allowed call preserves, the program does. -/
theorem Prog.CallsOnly.keeps {P : ι → Prop} {J : ε → Prop}
    (hE : ∀ e i r e', P i → J e → E e i r e' → J e') {p : Prog σ ι ρ α}
    (hp : p.CallsOnly P) (h0 : J e) : Ensures E p (fun _ _ _ e' => J e') s e := by
  intro tr a s' e' hx
  exact (Prog.CallsOnly.events (R := fun _ => True)
    (fun e i r e' hi hJ hr => ⟨hE e i r e' hi hJ hr, trivial⟩) hx hp h0).1

/-- An execution seen through a view that is faithful while an invariant
holds which the program's calls keep. -/
theorem Prog.CallsOnly.view {ε' : Type} {E' : Env ε' ι ρ} {P : ι → Prop} {J : ε → Prop}
    (f : ε → ε') (hE : ∀ e i r e', P i → J e → E e i r e' → J e' ∧ E' (f e) i r (f e'))
    {p : Prog σ ι ρ α} {tr a s' e'} (hx : Exec E p s e tr a s' e') (h : p.CallsOnly P)
    (h0 : J e) : J e' ∧ Exec E' p s (f e) tr a s' (f e') := by
  induction hx with
  | ret => exact ⟨h0, .ret⟩
  | get _ ih =>
      obtain ⟨hJ, hx⟩ := ih (h _) h0
      exact ⟨hJ, .get hx⟩
  | put _ ih =>
      obtain ⟨hJ, hx⟩ := ih h h0
      exact ⟨hJ, .put hx⟩
  | call hr _ ih =>
      obtain ⟨hJ₁, hr'⟩ := hE _ _ _ _ h.1 h0 hr
      obtain ⟨hJ, hx⟩ := ih (h.2 _) hJ₁
      exact ⟨hJ, .call hr' hx⟩
  | next _ _ ihb ih =>
      obtain ⟨hJ₁, hb⟩ := ihb (h.1 _) h0
      obtain ⟨hJ, hx⟩ := ih h hJ₁
      exact ⟨hJ, .next hb hx⟩
  | done _ _ ihb ih =>
      obtain ⟨hJ₁, hb⟩ := ihb (h.1 _) h0
      obtain ⟨hJ, hx⟩ := ih (h.2 _) hJ₁
      exact ⟨hJ, .done hb hx⟩

/-- What every call preserves, any program does. -/
theorem ensures_keeps {J : ε → Prop} (hE : ∀ e i r e', J e → E e i r e' → J e')
    (p : Prog σ ι ρ α) (h0 : J e) : Ensures E p (fun _ _ _ e' => J e') s e :=
  p.callsOnly_any.keeps (fun e i r e' _ => hE e i r e') h0

/-! ## Running a program -/

/-- Iterate a fuelled step, collecting traces. -/
def evalLoop {S : Type} : Nat →
    (β → S → Option (List (Event ι ρ) × (β ⊕ γ) × S)) → β → S →
    Option (List (Event ι ρ) × γ × S)
  | 0, _, _, _ => none
  | n + 1, f, b, w =>
    match f b w with
    | none => none
    | some (tr, .inr c, w') => some (tr, c, w')
    | some (tr, .inl b', w') =>
      (evalLoop n f b' w').map fun (tr', c, w'') => (tr ++ tr', c, w'')

/-- Run `p` with `h` answering; `fuel` bounds each loop's iterations. -/
def Prog.eval (h : ε → (i : ι) → ρ i × ε) (fuel : Nat) : {α : Type} →
    Prog σ ι ρ α → σ × ε → Option (List (Event ι ρ) × α × σ × ε)
  | _, .ret a, w => some ([], a, w)
  | _, .get k, w => (k w.1).eval h fuel w
  | _, .put f k, w => k.eval h fuel (f w.1, w.2)
  | _, .call i k, w =>
    ((k (h w.2 i).1).eval h fuel (w.1, (h w.2 i).2)).map fun (tr, x) =>
      (⟨i, (h w.2 i).1⟩ :: tr, x)
  | _, .loop body b k, w =>
    match evalLoop fuel (fun b w => (body b).eval h fuel w) b w with
    | none => none
    | some (tr, c, w') =>
      ((k c).eval h fuel w').map fun (tr', x) => (tr ++ tr', x)

/-- `h` answers as `E` allows. -/
def Answers (h : ε → (i : ι) → ρ i × ε) (E : Env ε ι ρ) : Prop :=
  ∀ e i, E e i (h e i).1 (h e i).2

theorem evalLoop_exec {h : ε → (i : ι) → ρ i × ε} {fuel : Nat}
    {body : β → Prog σ ι ρ (β ⊕ γ)}
    (hbody : ∀ b w tr r w', (body b).eval h fuel w = some (tr, r, w') →
      Exec E (body b) w.1 w.2 tr r w'.1 w'.2) :
    ∀ n b w tr c w',
      evalLoop n (fun b w => (body b).eval h fuel w) b w = some (tr, c, w') →
      Exec E (.iter body b) w.1 w.2 tr c w'.1 w'.2 := by
  intro n
  induction n with
  | zero => intro b w tr c w' heq; cases heq
  | succ n ih =>
      intro b w tr c w' heq
      rw [evalLoop] at heq
      split at heq
      · cases heq
      · rename_i hb
        cases heq
        rw [← List.append_nil tr]
        exact .done (hbody _ _ _ _ _ hb) .ret
      · rename_i hb
        rw [Option.map_eq_some_iff] at heq
        obtain ⟨⟨tr', c', w''⟩, heq, hx⟩ := heq
        cases hx
        exact .next (hbody _ _ _ _ _ hb) (ih _ _ _ _ _ heq)

/-- What `eval` computes is an execution. -/
theorem Prog.eval_exec {h : ε → (i : ι) → ρ i × ε} (hE : Answers h E)
    {fuel : Nat} {p : Prog σ ι ρ α} : ∀ {w : σ × ε} {tr a w'},
    p.eval h fuel w = some (tr, a, w') →
      Exec E p w.1 w.2 tr a w'.1 w'.2 := by
  induction p with
  | ret a => intro w tr a' w' heq; cases heq; exact .ret
  | get k ih => intro w tr a' w' heq; exact .get (ih _ heq)
  | put f k ih => intro w tr a' w' heq; exact .put (ih heq)
  | call i k ih =>
      intro w tr a' w' heq
      rw [Prog.eval, Option.map_eq_some_iff] at heq
      obtain ⟨⟨tr', x⟩, heq, hx⟩ := heq
      cases hx
      exact .call (hE _ _) (ih _ heq)
  | loop body b k ihb ih =>
      intro w tr a' w' heq
      rw [Prog.eval] at heq
      split at heq
      · cases heq
      · rename_i hloop
        rw [Option.map_eq_some_iff] at heq
        obtain ⟨⟨tr', x⟩, heq, hx⟩ := heq
        cases hx
        exact exec_loop.mpr ⟨_, _, _, _, _,
          evalLoop_exec (fun b w tr r w' hb => ihb b hb) _ _ _ _ _ _ hloop,
          ih _ heq, rfl⟩

end LeosSdk
