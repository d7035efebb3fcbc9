import Mathlib.Data.List.Basic
/-! # Entries under keys
A table is searched for the first entry under a key. A history lists events in order, each under the index of what it
happened to. -/

/-! ## tables -/

namespace List

variable {κ α : Type} [BEq κ] [LawfulBEq κ] {l : List (κ × α)} {j k : κ}

theorem mem_of_lookup {a : α} (h : l.lookup k = some a) : (k, a) ∈ l := by
  obtain ⟨before, behind, rfl, -⟩ := lookup_eq_some_iff.1 h
  exact mem_append_right before mem_cons_self

theorem lookup_cons_eq_ite [DecidableEq κ] (k : κ) (a : α) (l : List (κ × α)) (j : κ) :
    ((k, a) :: l).lookup j = if j = k then some a else l.lookup j := by
  by_cases h : j = k
  · subst h
    rw [lookup_cons_self, if_pos rfl]
  · have hne : (j == k) = false := beq_false_of_ne h
    rw [lookup_cons, hne, if_neg h]

/-- Entries that go leave the other keys alone. -/
theorem lookup_filter_ne (h : j ≠ k) : (l.filter (·.1 != k)).lookup j = l.lookup j := by
  induction l with
  | nil => rfl
  | cons p rest ih =>
    obtain ⟨i, a⟩ := p
    by_cases hi : i = k
    · subst hi
      have hne : (j == i) = false := beq_false_of_ne h
      simp [lookup_cons, hne, ih]
    · simp [lookup_cons, hi, ih]

theorem lookup_filter_self (l : List (κ × α)) (k : κ) : (l.filter (·.1 != k)).lookup k = none := by
  rw [lookup_eq_none_iff]
  intro p hp
  have hne : p.1 ≠ k := by simpa using (mem_filter.1 hp).2
  simpa using hne.symm

/-- What is put in place of the entries under a key is found there, and nowhere else. -/
theorem lookup_replace [DecidableEq κ] (l : List (κ × α)) (k : κ) (a : α) (j : κ) :
    (l.map fun p => if p.1 = k then (k, a) else p).lookup j =
      if j = k then (l.lookup k).map fun _ => a else l.lookup j := by
  induction l with
  | nil => simp
  | cons p rest ih =>
    obtain ⟨i, b⟩ := p
    rw [map_cons, lookup_cons_eq_ite, lookup_cons_eq_ite]
    by_cases hi : i = k
    · rw [if_pos hi, lookup_cons_eq_ite, ih, if_pos hi.symm]
      by_cases hj : j = k
      · rw [if_pos hj, if_pos hj, Option.map_some]
      · rw [if_neg hj, if_neg hj, if_neg hj, if_neg (hi ▸ hj)]
    · rw [if_neg hi, lookup_cons_eq_ite, ih, if_neg (Ne.symm hi)]
      by_cases hj : j = i
      · subst hj
        rw [if_pos rfl, if_neg hi, if_pos rfl]
      · rw [if_neg hj, if_neg hj]

end List

/-! ## histories -/

namespace GamepadPool

/-- What happened at one index. -/
def eventsOf {ε : Type} (h : List (Nat × ε)) (i : Nat) : List ε := h.filterMap fun e => if e.1 = i then some e.2 else none

theorem eventsOf_snoc {ε : Type} (h : List (Nat × ε)) (j : Nat) (e : ε) (i : Nat) :
    eventsOf (h ++ [(j, e)]) i = if j = i then eventsOf h i ++ [e] else eventsOf h i := by
  unfold eventsOf
  split <;> simp [*]

/-- Where an element stands in a list with one more at its end: it is the last one, or it stood there before. -/
theorem split_of_snoc {α : Type} {l before later : List α} {x last : α} (h : l ++ [last] = before ++ x :: later) :
    (l = before ∧ x = last ∧ later = []) ∨ ∃ later', later = later' ++ [last] ∧ l = before ++ x :: later' := by
  rcases List.eq_nil_or_concat later with rfl | ⟨later', y, rfl⟩
  · obtain ⟨hl, hx⟩ := List.append_inj' h rfl
    exact .inl ⟨hl, (List.singleton_inj.1 hx).symm, rfl⟩
  · rw [List.concat_eq_append, ← List.cons_append, ← List.append_assoc] at h
    obtain ⟨hl, hy⟩ := List.append_inj' h rfl
    obtain rfl := List.singleton_inj.1 hy
    exact .inr ⟨later', List.concat_eq_append, hl⟩

end GamepadPool
