import GamepadPool.Proofs.Number.Rounding
/-! # Rounding keeps the order
Of two numbers the larger is never rounded to less. Where both are rounded to the same unit this is a fact about
quotients; where the units differ, the smallest number with the larger unit stands between the two. -/

namespace GamepadPool

/-! ## the order of numbers -/

namespace Number

variable {x y z : Number} {p q : Rat}

theorem exists_key (h : x.isNaN = false) : ∃ k, x.key? = some k := by
  rcases x with q | _ | (_ | _) | _
  · exact ⟨_, rfl⟩
  · exact ⟨_, rfl⟩
  · exact ⟨_, rfl⟩
  · exact ⟨_, rfl⟩
  · cases h

theorem isNaN_of_le (h : x.le y = true) : x.isNaN = false ∧ y.isNaN = false := by
  cases x <;> cases y <;> simp_all [le, key?, isNaN]

theorem le_trans (hxy : x.le y = true) (hyz : y.le z = true) : x.le z = true := by
  unfold le at *
  generalize x.key? = kx at *
  generalize y.key? = ky at *
  generalize z.key? = kz at *
  rcases kx with _ | ⟨i, p⟩ <;> rcases ky with _ | ⟨j, q⟩ <;> rcases kz with _ | ⟨k, r⟩ <;>
    simp only [Bool.false_eq_true, decide_eq_true_eq] at *
  rcases hxy with hlt | ⟨rfl, hpq⟩ <;> rcases hyz with hlt' | ⟨rfl, hqr⟩
  · exact .inl (hlt.trans hlt')
  · exact .inl hlt
  · exact .inl hlt'
  · exact .inr ⟨rfl, hpq.trans hqr⟩

theorem le_total (hx : x.isNaN = false) (hy : y.isNaN = false) : x.le y = true ∨ y.le x = true := by
  obtain ⟨⟨i, p⟩, hkx⟩ := exists_key hx
  obtain ⟨⟨j, q⟩, hky⟩ := exists_key hy
  simp only [le, hkx, hky, decide_eq_true_eq]
  rcases lt_trichotomy i j with hlt | rfl | hlt
  · exact .inl (.inl hlt)
  · rcases (Rat.le_total : p ≤ q ∨ q ≤ p) with hle | hle
    · exact .inl (.inr ⟨rfl, hle⟩)
    · exact .inr (.inr ⟨rfl, hle⟩)
  · exact .inr (.inl hlt)

theorem le_refl (h : x.isNaN = false) : x.le x = true := (le_total h h).elim id id

theorem infinite_le (h : x.isNaN = false) : (infinite true).le x = true := by
  rcases x with q | _ | (_ | _) | _ <;> simp_all [le, key?, isNaN]

theorem le_infinite (h : x.isNaN = false) : x.le (infinite false) = true := by
  rcases x with q | _ | (_ | _) | _ <;> simp_all [le, key?, isNaN]

theorem le_of_lt (h : x.lt y = true) : x.le y = true := (Bool.and_eq_true_iff.1 h).1

theorem le_of_not_lt (hx : x.isNaN = false) (hy : y.isNaN = false) (h : ¬ x.lt y = true) : y.le x = true := by
  rcases le_total hx hy with hle | hle
  · by_contra hno
    exact h (by simp [lt, hle, hno])
  · exact hle

theorem lt_of_lt_of_le (hxy : x.lt y = true) (hyz : y.le z = true) : x.lt z = true := by
  obtain ⟨hle, hnot⟩ := Bool.and_eq_true_iff.1 hxy
  rw [lt, le_trans hle hyz, Bool.true_and, Bool.not_eq_true']
  rw [Bool.not_eq_true', ← Bool.not_eq_true] at hnot
  exact Bool.not_eq_true _ ▸ fun hback => hnot (le_trans hyz hback)

/-- Ordered numbers are both finite, or one of them lies beyond all numbers. -/
theorem cases_of_le (h : x.le y = true) :
    (∃ p q, x.value? = some p ∧ y.value? = some q ∧ p ≤ q) ∨
      (x = infinite true ∧ y.isNaN = false) ∨ (y = infinite false ∧ x.isNaN = false) := by
  obtain ⟨hx, hy⟩ := isNaN_of_le h
  rcases x with p | _ | (_ | _) | _ <;> rcases y with q | _ | (_ | _) | _ <;> simp_all [le, key?, value?, isNaN]

theorem abs_cases (h : x.isNaN = false) : (∃ p, x.abs = rat p) ∨ x.abs = infinite false := by
  rcases x with q | _ | _ | _
  · exact .inl ⟨_, rfl⟩
  · exact .inl ⟨_, rfl⟩
  · exact .inr rfl
  · cases h

/-- Above zero, magnitudes are ordered as the numbers are. -/
theorem abs_le_abs_of_nonneg (h0 : (rat 0).le x = true) (h : x.le y = true) : x.abs.le y.abs = true := by
  rcases rat_le_iff.1 h0 with rfl | ⟨p, hp, hp0⟩
  · rcases y with q | _ | (_ | _) | _ <;> simp_all [le, key?, abs]
  · rcases rat_le_iff.1 (le_trans h0 h) with rfl | ⟨q, hq, hq0⟩
    · rw [abs_of_value hp]
      simp [le, key?, abs]
    · rw [abs_of_value hp, abs_of_value hq, abs_of_nonneg hp0, abs_of_nonneg hq0]
      exact (le_iff rfl rfl).2 ((le_iff hp hq).1 h)

/-- Below zero, they are ordered the other way. -/
theorem abs_le_abs_of_nonpos (h0 : y.le (rat 0) = true) (h : x.le y = true) : y.abs.le x.abs = true := by
  rcases le_rat_iff.1 h0 with rfl | ⟨q, hq, hq0⟩
  · rcases x with p | _ | (_ | _) | _ <;> simp_all [le, key?, abs]
  · rcases le_rat_iff.1 (le_trans h h0) with rfl | ⟨p, hp, hp0⟩
    · rw [abs_of_value hq]
      simp [le, key?, abs]
    · rw [abs_of_value hp, abs_of_value hq, abs_of_nonpos hp0, abs_of_nonpos hq0]
      exact (le_iff rfl rfl).2 (neg_le_neg ((le_iff hp hq).1 h))

end Number

/-! ## monotone roundings -/

/-- Keeps the order of all numbers. -/
def Rounding.Monotone (r : Rounding) : Prop := ∀ p q, p ≤ q → (r p).le (r q) = true

theorem Rounding.monotone_exact : Rounding.exact.Monotone := fun _ _ h => (Number.le_iff rfl rfl).2 h

namespace BinaryFormat

section Units

variable {n d n' d' : Nat} {u : Int}

theorem div_le_div_of_mul_le (hd : 0 < d) (hd' : 0 < d') (h : n * d' ≤ n' * d) : n / d ≤ n' / d' := by
  rw [Nat.le_div_iff_mul_le hd']
  apply Nat.le_of_mul_le_mul_right _ hd
  calc n / d * d' * d = n / d * d * d' := by ring
    _ ≤ n * d' := Nat.mul_le_mul_right d' (Nat.div_mul_le_self n d)
    _ ≤ n' * d := h

/-- The larger quotient has the larger nearest integer. -/
theorem divNearest_mono (hd : 0 < d) (hd' : 0 < d') (h : n * d' ≤ n' * d) : divNearest n d ≤ divNearest n' d' := by
  have hquot := div_le_div_of_mul_le hd hd' h
  rcases hquot.lt_or_eq with hlt | heq
  · have hup : divNearest n d ≤ n / d + 1 := by
      unfold divNearest
      dsimp only
      split <;> omega
    have hdown : n' / d' ≤ divNearest n' d' := by
      unfold divNearest
      dsimp only
      split <;> omega
    omega
  · -- the quotients agree, so what is left over decides
    have hrest : n % d * d' ≤ n' % d' * d := by
      have hsum := Nat.div_add_mod n d
      have hsum' := Nat.div_add_mod n' d'
      rw [← heq] at hsum'
      rw [← hsum, ← hsum'] at h
      have hcommon : d * (n / d) * d' = d' * (n / d) * d := by ring
      rw [Nat.add_mul, Nat.add_mul, hcommon] at h
      exact Nat.le_of_add_le_add_left h
    have hdouble : 2 * (n % d) * d' ≤ 2 * (n' % d') * d := by
      rw [Nat.mul_assoc, Nat.mul_assoc]
      exact Nat.mul_le_mul_left 2 hrest
    unfold divNearest
    rw [← heq]
    dsimp only
    by_cases hup : d < 2 * (n % d) ∨ 2 * (n % d) = d ∧ n / d % 2 = 1
    · have hup' : d' < 2 * (n' % d') ∨ 2 * (n' % d') = d' ∧ n / d % 2 = 1 := by
        rcases hup with hmore | ⟨hhalf, hodd⟩
        · left
          apply Nat.lt_of_mul_lt_mul_right (a := d)
          calc d' * d = d * d' := Nat.mul_comm d' d
            _ < 2 * (n % d) * d' := Nat.mul_lt_mul_of_pos_right hmore hd'
            _ ≤ 2 * (n' % d') * d := hdouble
        · have hle : d' ≤ 2 * (n' % d') := by
            apply Nat.le_of_mul_le_mul_right _ hd
            rwa [hhalf, Nat.mul_comm] at hdouble
          omega
      simp only [Bool.or_eq_true, decide_eq_true_eq, Bool.and_eq_true, beq_iff_eq, if_pos hup, if_pos hup']
      exact le_rfl
    · simp only [Bool.or_eq_true, decide_eq_true_eq, Bool.and_eq_true, beq_iff_eq, if_neg hup]
      split <;> omega

theorem significand_mono (hd : 0 < d) (hd' : 0 < d') (h : (n : Rat) / d ≤ n' / d') (u : Int) :
    significand n d u ≤ significand n' d' u := by
  obtain ⟨N, D, hD, hN, hm⟩ := significand_eq hd n u
  obtain ⟨N', D', hD', hN', hm'⟩ := significand_eq hd' n' u
  rw [hm, hm']
  apply divNearest_mono hD hD'
  have hcast : (N * D' : Rat) ≤ N' * D := by
    rw [hN, hN', mul_right_comm _ (D : Rat)]
    gcongr
  exact_mod_cast hcast

/-- The exponent found is not too small. -/
theorem lt_pow_exponentOf (hd : 0 < d) (n : Nat) : (n : Rat) / d < 2 ^ (exponentOf n d + 1) := by
  generalize he : (n.log2 : Int) - d.log2 = e
  rw [exponentOf_eq hd n he]
  split
  · have hhigh : (n : Rat) < 2 ^ ((n.log2 : Int) + 1) := by exact_mod_cast Nat.lt_log2_self (n := n)
    have hlow : (2 : Rat) ^ (d.log2 : Int) ≤ d := by exact_mod_cast Nat.log2_self_le hd.ne'
    rw [div_lt_iff₀ (by positivity)]
    calc (n : Rat) < 2 ^ ((n.log2 : Int) + 1) := hhigh
      _ = 2 ^ (e + 1) * 2 ^ (d.log2 : Int) := by
        rw [← zpow_add₀ two_ne_zero]
        congr 1
        omega
      _ ≤ 2 ^ (e + 1) * d := by gcongr
  · rename_i hle
    rw [sub_add_cancel]
    exact not_le.1 hle

end Units

variable {f : BinaryFormat} {p q : Rat}

/-- No number is as large as those with a larger unit. -/
theorem abs_lt_of_unitOf (f : BinaryFormat) (q : Rat) :
    |q| < 2 ^ (f.unitOf q.num.natAbs q.den + f.precision) := by
  have hlt := lt_pow_exponentOf q.den_pos q.num.natAbs
  rw [natAbs_div_den] at hlt
  refine hlt.trans_le (zpow_le_zpow_right₀ one_le_two ?_)
  have hmax : exponentOf q.num.natAbs q.den - (f.precision - 1) ≤ f.unitOf q.num.natAbs q.den := le_max_left _ _
  omega

theorem nearest_mono (hp : 0 < f.precision) (h : |p| ≤ |q|) : f.nearest p ≤ f.nearest q := by
  by_cases hp0 : p = 0
  · rw [hp0, nearest_zero]
    exact f.nearest_nonneg q
  by_cases hq0 : q = 0
  · rw [hq0, abs_zero] at h
    exact absurd (abs_nonpos_iff.1 h) hp0
  have hcases := f.unitOf_cases hp0
  have hcases' := f.unitOf_cases hq0
  have hlt := f.abs_lt_of_unitOf p
  have hlt' := f.abs_lt_of_unitOf q
  dsimp only at hcases hcases'
  rcases lt_trichotomy (f.unitOf p.num.natAbs p.den) (f.unitOf q.num.natAbs q.den) with hu | hu | hu
  · -- the smallest number with the larger unit stands between the two
    obtain ⟨k, hk⟩ : ∃ k : Nat, f.precision = k + 1 := ⟨f.precision - 1, by omega⟩
    have hfence : ((2 ^ k : Nat) : Rat) * 2 ^ f.unitOf q.num.natAbs q.den =
        2 ^ (f.unitOf q.num.natAbs q.den + (f.precision - 1)) := by
      rw [zpow_add₀ two_ne_zero, hk]
      push_cast
      rw [add_sub_cancel_right, zpow_natCast, mul_comm]
    have hunit : f.minUnit ≤ f.unitOf q.num.natAbs q.den := le_max_right _ _
    have hm : 2 ^ k ≤ 2 ^ f.precision := Nat.pow_le_pow_right (by norm_num) (by omega)
    have hbelow : |p| ≤ ((2 ^ k : Nat) : Rat) * 2 ^ f.unitOf q.num.natAbs q.den := by
      rw [hfence]
      exact hlt.le.trans (zpow_le_zpow_right₀ one_le_two (by omega))
    have habove : ((2 ^ k : Nat) : Rat) * 2 ^ f.unitOf q.num.natAbs q.den ≤ |q| := by
      rw [hfence]
      have hmin : f.minUnit ≤ f.unitOf p.num.natAbs p.den := le_max_right _ _
      exact (hcases'.resolve_left (by omega)).2
    exact (nearest_le hm hp hunit hbelow).trans (le_nearest hm hp hunit habove)
  · unfold nearest
    rw [← hu]
    dsimp only
    rw [scaled_eq, scaled_eq]
    have hsig := significand_mono p.den_pos q.den_pos (by rwa [natAbs_div_den, natAbs_div_den])
      (f.unitOf p.num.natAbs p.den)
    gcongr
  · -- the larger number does not have the smaller unit
    have hmin : f.minUnit ≤ f.unitOf q.num.natAbs q.den := le_max_right _ _
    have habove := (hcases.resolve_left (by omega)).2
    have hbelow : |q| < |p| :=
      hlt'.trans_le ((zpow_le_zpow_right₀ one_le_two (by omega)).trans habove)
    exact absurd h (not_le.2 hbelow)

theorem isNaN_round (f : BinaryFormat) (q : Rat) : (f.round q).isNaN = false := by
  rcases lt_or_ge (f.nearest q) (2 ^ (f.maxExponent + 1).toNat) with hlt | hge
  · rcases Number.value_eq_some.1 (value_round hlt) with h | ⟨h, -⟩ <;> rw [h] <;> rfl
  · rw [round_infinite hge]
    rfl

theorem monotone_round (hp : 0 < f.precision) : Rounding.Monotone f.round := by
  intro p q h
  rcases lt_or_ge (f.nearest p) (2 ^ (f.maxExponent + 1).toNat) with hlt | hge
  · -- a finite result is passed on as a bound
    have hsigned : (if p < 0 then -f.nearest p else f.nearest p) ≤ if q < 0 then -f.nearest q else f.nearest q := by
      have hnonneg := f.nearest_nonneg p
      have hnonneg' := f.nearest_nonneg q
      split <;> split
      · have := nearest_mono (p := q) (q := p) hp (by rw [abs_of_neg ‹_›, abs_of_neg ‹_›]; linarith)
        linarith
      · linarith
      · linarith
      · exact nearest_mono hp (by rwa [abs_of_nonneg (not_lt.1 ‹_›), abs_of_nonneg (not_lt.1 ‹_›)])
    have hfinite : q < 0 → f.nearest q < 2 ^ (f.maxExponent + 1).toNat := fun hq =>
      (nearest_mono hp (by rw [abs_of_neg hq, abs_of_neg (h.trans_lt hq)]; linarith)).trans_lt hlt
    exact Number.le_of_le_rat (value_round hlt) hsigned (rat_le_round le_rfl hfinite)
  · rw [round_infinite hge]
    by_cases hneg : p < 0
    · rw [decide_eq_true hneg]
      exact Number.infinite_le (f.isNaN_round q)
    · have hq : f.nearest p ≤ f.nearest q := by
        apply nearest_mono hp
        rw [abs_of_nonneg (not_lt.1 hneg), abs_of_nonneg ((not_lt.1 hneg).trans h)]
        exact h
      rw [round_infinite (hge.trans hq), decide_eq_false hneg, decide_eq_false ((not_lt.1 hneg).trans h).not_gt]
      rfl

end BinaryFormat

/-! ## the two places -/

/-- Both places of an arithmetic keep the order. -/
theorem Arithmetic.monotone_of {a : Arithmetic} (h : a = .exact ∨ a = .binary) : a.state.Monotone := by
  rcases h with rfl | rfl
  · exact Rounding.monotone_exact
  · exact BinaryFormat.monotone_round (f := .double) (by decide)

end GamepadPool
