import Mathlib.Data.List.Basic

/-!
# Delimited text

Reading text back that was put together with delimiters: `cut` takes what is
in front of the next one, `records` splits a text of records each of which
ends with one. Both give back what was put together where no part has the
delimiter in it, and `records` never gives a part that has.

The first is by induction on the part in front (`cut_append`, `records_line`):
as long as it does not have the delimiter in it, the reader does not stop in
it. For a text of many records it is applied record by record
(`records_lines`). The second is by induction on the text. Together they say
exactly which texts can be read back: a part with the delimiter in it is never
read, so nothing that has one was put together from parts.
-/

namespace LeosSdk

section Cutting

variable {α : Type} [DecidableEq α] {d : α} {xs ys part rest : List α}

/-- What is in front of the first `d`, and what follows it. -/
def cut (d : α) : List α → Option (List α × List α)
  | [] => none
  | x :: xs => if x = d then some ([], xs) else (cut d xs).map fun (part, rest) => (x :: part, rest)

theorem cut_append (h : d ∉ xs) (ys : List α) : cut d (xs ++ d :: ys) = some (xs, ys) := by
  induction xs with
  | nil => simp [cut]
  | cons x xs ih =>
      obtain ⟨hx, hxs⟩ := List.ne_and_not_mem_of_not_mem_cons h
      simp [cut, Ne.symm hx, ih hxs]

theorem cut_suffix (h : cut d xs = some (part, rest)) : rest <:+ xs := by
  induction xs generalizing part with
  | nil => cases h
  | cons x xs ih =>
      rw [cut] at h
      split at h
      · cases h
        exact List.suffix_cons ..
      · obtain ⟨⟨part', rest'⟩, hcut, heq⟩ := Option.map_eq_some_iff.mp h
        cases heq
        exact (ih hcut).trans (List.suffix_cons ..)

/-- The records of a text, `none` if the last one has no end. -/
def records (d : α) : List α → Option (List (List α))
  | [] => some []
  | x :: xs =>
    if x = d then (records d xs).map ([] :: ·)
    else match records d xs with
      | some (r :: rs) => some ((x :: r) :: rs)
      | _ => none

theorem records_line (h : d ∉ xs) (ys : List α) :
    records d (xs ++ d :: ys) = (records d ys).map (xs :: ·) := by
  induction xs with
  | nil => simp [records]
  | cons x xs ih =>
      obtain ⟨hx, hxs⟩ := List.ne_and_not_mem_of_not_mem_cons h
      simp only [List.cons_append, records, if_neg (Ne.symm hx), ih hxs]
      cases records d ys <;> rfl

/-- A text of records without the delimiter in them is read back record by
record. -/
theorem records_lines {ls : List (List α)} (h : ∀ l ∈ ls, d ∉ l) :
    records d (ls.flatMap (· ++ [d])) = some ls := by
  induction ls with
  | nil => rfl
  | cons l ls ih =>
      have hl := h l (List.mem_cons_self ..)
      have hls := ih fun l' hl' => h l' (List.mem_cons_of_mem _ hl')
      rw [List.flatMap_cons, List.append_assoc, List.singleton_append, records_line hl, hls]
      rfl

theorem not_mem_records {rs : List (List α)} (h : records d xs = some rs) : ∀ r ∈ rs, d ∉ r := by
  induction xs generalizing rs with
  | nil =>
      obtain rfl := Option.some.inj h
      exact fun r hr => (List.not_mem_nil hr).elim
  | cons x xs ih =>
      rw [records] at h
      split at h
      · obtain ⟨rs', hrs, rfl⟩ := Option.map_eq_some_iff.mp h
        intro r hr
        rcases List.mem_cons.mp hr with rfl | hr
        · exact List.not_mem_nil
        · exact ih hrs r hr
      · rename_i hx
        split at h
        · rename_i r' rs' hrs
          obtain rfl := Option.some.inj h
          intro r hr
          rcases List.mem_cons.mp hr with rfl | hr
          · have hr' := ih hrs r' (List.mem_cons_self ..)
            intro hmem
            rcases List.mem_cons.mp hmem with heq | hmem
            · exact hx heq.symm
            · exact hr' hmem
          · exact ih hrs r (List.mem_cons_of_mem _ hr)
        · cases h

end Cutting

section Reading

variable {α β γ : Type} {f : α → Option β} {xs : List α}

theorem exists_of_mem_mapM {bs : List β} (h : xs.mapM f = some bs) {b : β} (hb : b ∈ bs) :
    ∃ x ∈ xs, f x = some b := by
  induction xs generalizing bs with
  | nil =>
      obtain rfl := Option.some.inj h
      exact (List.not_mem_nil hb).elim
  | cons x xs ih =>
      rw [List.mapM_cons] at h
      obtain ⟨b', hx, h⟩ := Option.bind_eq_some_iff.mp h
      obtain ⟨bs', hxs, h⟩ := Option.bind_eq_some_iff.mp h
      obtain rfl := Option.some.inj h
      rcases List.mem_cons.mp hb with rfl | hb
      · exact ⟨x, List.mem_cons_self .., hx⟩
      · obtain ⟨y, hy, hfy⟩ := ih hxs hb
        exact ⟨y, List.mem_cons_of_mem _ hy, hfy⟩

theorem mapM_map {cs : List γ} {g : γ → α} {k : γ → β} (h : ∀ c ∈ cs, f (g c) = some (k c)) :
    (cs.map g).mapM f = some (cs.map k) := by
  induction cs with
  | nil => rfl
  | cons c cs ih =>
      have hc := h c (List.mem_cons_self ..)
      have hcs := ih fun c' hc' => h c' (List.mem_cons_of_mem _ hc')
      simp [hc, hcs]

end Reading

end LeosSdk
