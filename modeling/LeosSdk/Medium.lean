import Mathlib.Data.List.Forall2
import Mathlib.Data.List.Perm.Subperm
import Mathlib.Logic.Function.Basic

/-!
# A shared medium

What the stations that share a medium have sent over it, each with its sender,
oldest first. All that a station sees of the others is the part of this
history that is not its own (`sentByOthers`); a station that listens up to
some place in it hears what comes after that place later
(`sentByOthers_snoc`).

A station's own results can be proved on a history that grows by its own
messages and, at any time, by those of others, without knowing who these are.
Several stations are put together by giving them the same history in the end.

If each station's messages stand for something it was given, so does the whole
history, and no given thing is stood for twice (`exists_origin`): by induction
on the history, the first message takes the first of what its sender was
given. The lemmas on related lists then carry a part of the history, in order
or not, back to what was given.
-/

namespace LeosSdk

abbrev Medium (K P : Type) := List (K × P)

namespace Medium

variable {K P : Type} [DecidableEq K] {k : K} {log : Medium K P}

def sentBy (k : K) (log : Medium K P) : List P := (log.filter fun x => x.1 = k).map (·.2)

def sentByOthers (k : K) (log : Medium K P) : List P := (log.filter fun x => x.1 ≠ k).map (·.2)

@[simp] theorem sentBy_own (p : P) : sentBy k (log ++ [(k, p)]) = sentBy k log ++ [p] := by
  simp [sentBy]

@[simp] theorem sentBy_other {j : K} (hj : j ≠ k) (p : P) :
    sentBy k (log ++ [(j, p)]) = sentBy k log := by
  simp [sentBy, hj]

/-- What another station sent at place `i` comes after what they sent
before. -/
theorem sentByOthers_snoc {i : Nat} {j : K} {p : P} (hi : log[i]? = some (j, p)) (hj : j ≠ k) :
    sentByOthers k (log.take (i + 1)) = sentByOthers k (log.take i) ++ [p] := by
  rw [List.take_add_one, hi]
  simp [sentByOthers, hj]

theorem sentByOthers_take_mono {n m : Nat} (h : n ≤ m) :
    (sentByOthers k (log.take n)).Sublist (sentByOthers k (log.take m)) :=
  ((List.take_sublist_take_left h).filter _).map _

theorem sentByOthers_take_sublist (n : Nat) :
    (sentByOthers k (log.take n)).Sublist (sentByOthers k log) :=
  ((List.take_sublist n _).filter _).map _

theorem exists_sentBy_of_mem {p : P} (h : p ∈ sentByOthers k log) :
    ∃ j, j ≠ k ∧ p ∈ sentBy j log := by
  simp only [sentByOthers, List.mem_map, List.mem_filter, decide_eq_true_eq] at h
  obtain ⟨⟨j, q⟩, ⟨hmem, hne⟩, rfl⟩ := h
  exact ⟨j, hne, by simpa [sentBy] using hmem⟩

/-- Of two stations the others of one are the other one. -/
theorem sentByOthers_two {j : K} (h : ∀ i, i ≠ k ↔ i = j) (log : Medium K P) :
    sentByOthers k log = sentBy j log := by
  simp only [sentByOthers, sentBy, h]

/-! ## Where messages come from -/

/-- Messages heard of others, with their senders. -/
theorem exists_senders {ps : List P} (h : ps.Sublist (sentByOthers k log)) :
    ∃ heard : Medium K P, heard.Sublist log ∧ (∀ x ∈ heard, x.1 ≠ k) ∧ heard.map (·.2) = ps := by
  obtain ⟨heard, hheard, rfl⟩ := List.sublist_map_iff.mp h
  refine ⟨heard, hheard.trans List.filter_sublist, fun x hx => ?_, rfl⟩
  simpa using (List.mem_filter.mp (hheard.subset hx)).2

theorem sentBy_sublist {log' : Medium K P} (h : log'.Sublist log) (k : K) :
    (sentBy k log').Sublist (sentBy k log) :=
  (h.filter _).map _

variable {Q : Type} {R : Q → P → Prop}

/-- What each station's messages stand for, put together in the order of the
history. By induction on the history: its first message stands for the first
thing its sender was given. -/
theorem exists_origin : ∀ {log : Medium K P} {given : K → List Q},
    (∀ k, List.Forall₂ R (given k) (sentBy k log)) →
    ∃ origin : Medium K Q, (∀ k, sentBy k origin = given k)
      ∧ List.Forall₂ (fun q p => q.1 = p.1 ∧ R q.2 p.2) origin log
  | [], given, h => by
      refine ⟨[], fun k => ?_, .nil⟩
      exact (List.forall₂_nil_right_iff.mp (h k)).symm
  | (j, p) :: log, given, h => by
      have hj : List.Forall₂ R (given j) (p :: sentBy j log) := by simpa [sentBy] using h j
      obtain ⟨q, qs, hR, hqs, hgiven⟩ := List.forall₂_cons_right_iff.mp hj
      have hrest : ∀ k, List.Forall₂ R (Function.update given j qs k) (sentBy k log) := by
        intro k
        by_cases hk : k = j
        · subst hk
          simpa using hqs
        · have hne : ¬j = k := fun heq => hk heq.symm
          simpa [sentBy, hk, hne] using h k
      obtain ⟨origin, horigin, hall⟩ := exists_origin hrest
      refine ⟨(j, q) :: origin, fun k => ?_, .cons ⟨rfl, hR⟩ hall⟩
      by_cases hk : k = j
      · subst hk
        have := horigin k
        rw [Function.update_self] at this
        simp [sentBy, hgiven, ← this]
      · have hne : ¬j = k := fun heq => hk heq.symm
        have := horigin k
        rw [Function.update_of_ne hk] at this
        simpa [sentBy, hne] using this

end Medium

/-! ## Related lists -/

section Related

variable {P Q : Type} {R : Q → P → Prop}

/-- A part of a related list is related to a part of the other, in the same
order. -/
theorem forall₂_sublist {qs : List Q} {ps ps' : List P} (h : List.Forall₂ R qs ps)
    (hs : ps'.Sublist ps) : ∃ qs', qs'.Sublist qs ∧ List.Forall₂ R qs' ps' := by
  induction hs generalizing qs with
  | slnil => exact ⟨[], List.nil_sublist _, .nil⟩
  | cons p hs ih =>
      cases h with
      | cons hR h =>
          obtain ⟨qs', hqs, hall⟩ := ih h
          exact ⟨qs', hqs.cons _, hall⟩
  | cons_cons p hs ih =>
      cases h with
      | cons hR h =>
          obtain ⟨qs', hqs, hall⟩ := ih h
          exact ⟨_, hqs.cons_cons _, .cons hR hall⟩

/-- The same where the part comes in another order. -/
theorem forall₂_subperm {qs : List Q} {ps ps' : List P} (h : List.Forall₂ R qs ps)
    (hs : ps'.Subperm ps) : ∃ qs', qs'.Subperm qs ∧ List.Forall₂ R qs' ps' := by
  obtain ⟨ps'', hperm, hsub⟩ := hs
  obtain ⟨qs'', hqs, hall⟩ := forall₂_sublist h hsub
  obtain ⟨qs', hall', hperm'⟩ := List.perm_comp_forall₂ hperm.symm hall.flip
  exact ⟨qs', ⟨qs'', hperm'.symm, hqs⟩, hall'.flip⟩

/-- Related in two steps. -/
theorem forall₂_chain {M : Type} {S : P → M → Prop} {C : Q → M → Prop}
    (hC : ∀ q p m, R q p → S p m → C q m) {qs : List Q} {ps : List P} {ms : List M}
    (h : List.Forall₂ R qs ps) (h' : List.Forall₂ S ps ms) : List.Forall₂ C qs ms := by
  induction h generalizing ms with
  | nil =>
      cases h' with
      | nil => exact .nil
  | cons hR _ ih =>
      cases h' with
      | cons hS h' => exact .cons (hC _ _ _ hR hS) (ih h')

end Related

end LeosSdk
