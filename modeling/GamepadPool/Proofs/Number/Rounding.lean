import GamepadPool.Number.Binary
import Mathlib.Algebra.Order.Field.Power
import Mathlib.Algebra.Order.Field.Rat
import Mathlib.Data.Rat.Lemmas
import Mathlib.Tactic.FieldSimp
import Mathlib.Tactic.Linarith
import Mathlib.Tactic.Positivity
import Mathlib.Tactic.Ring
/-! # What rounding keeps
A value of a format is a fence that rounding never crosses: what lies on one side of it, or on it, is rounded to the
same side, or onto it. Around the fences, rounding errs by little. Both hold of binary formats and of exact
arithmetic, and are all that is asked of either. -/

namespace GamepadPool

/-! ## values of numbers -/

namespace Number

/-- The rational a finite number stands for. -/
def value? : Number → Option Rat
  | rat q => some q
  | negZero => some 0
  | infinite _ | nan => none

variable {x y : Number} {p q : Rat}

@[simp] theorem value_rat (q : Rat) : (rat q).value? = some q := rfl

@[simp] theorem value_negZero : negZero.value? = some 0 := rfl

theorem value_eq_some : x.value? = some q ↔ x = rat q ∨ (x = negZero ∧ q = 0) := by
  cases x <;> simp [value?, eq_comm]

theorem le_iff (hx : x.value? = some p) (hy : y.value? = some q) : x.le y = true ↔ p ≤ q := by
  rcases value_eq_some.1 hx with rfl | ⟨rfl, rfl⟩ <;> rcases value_eq_some.1 hy with rfl | ⟨rfl, rfl⟩ <;>
    simp [le, key?]

theorem lt_iff (hx : x.value? = some p) (hy : y.value? = some q) : x.lt y = true ↔ p < q := by
  have hle := le_iff hx hy
  have hge := le_iff hy hx
  simp only [lt, Bool.and_eq_true, Bool.not_eq_true', hle, ← Bool.not_eq_true, hge, not_le, and_iff_right_iff_imp]
  exact le_of_lt

/-- What is at least a rational is finite, or infinite upwards. -/
theorem rat_le_iff : (rat p).le x = true ↔ x = infinite false ∨ ∃ q, x.value? = some q ∧ p ≤ q := by
  rcases x with q | _ | (_ | _) | _ <;> simp [le, key?, value?]

/-- What is at most a rational is finite, or infinite downwards. -/
theorem le_rat_iff : x.le (rat p) = true ↔ x = infinite true ∨ ∃ q, x.value? = some q ∧ q ≤ p := by
  rcases x with q | _ | (_ | _) | _ <;> simp [le, key?, value?]

/-- A magnitude is never a negative zero. -/
theorem abs_of_value (h : x.value? = some q) : x.abs = rat |q| := by
  rcases value_eq_some.1 h with rfl | ⟨rfl, rfl⟩
  · rw [abs]
    split
    · rw [abs_of_neg ‹_›]
    · rw [abs_of_nonneg (not_lt.1 ‹_›)]
  · simp [abs]

/-- What is that far above zero or below it has such a magnitude. -/
theorem le_abs (h : (rat p).le x = true ∨ x.le (rat (-p)) = true) : (rat p).le x.abs = true := by
  rw [rat_le_iff, le_rat_iff] at h
  rcases h with (rfl | ⟨q, hq, hle⟩) | rfl | ⟨q, hq, hle⟩
  · rfl
  · rw [abs_of_value hq]
    exact (le_iff rfl rfl).2 (hle.trans (le_abs_self q))
  · rfl
  · rw [abs_of_value hq]
    exact (le_iff rfl rfl).2 ((le_neg_of_le_neg hle).trans (neg_le_abs q))

theorem le_of_le_rat (hx : x.value? = some p) (hp : p ≤ q) (hy : (rat q).le y = true) : x.le y = true := by
  rcases rat_le_iff.1 hy with rfl | ⟨w, hw, hle⟩
  · rcases value_eq_some.1 hx with rfl | ⟨rfl, rfl⟩ <;> simp [le, key?]
  · exact (le_iff hx hw).2 (hp.trans hle)

end Number

/-- A rational in `[0, 1]`. -/
def Number.InUnit (x : Number) : Prop := ∃ q, x = .rat q ∧ 0 ≤ q ∧ q ≤ 1

/-! ## what a rounding keeps -/

namespace Rounding

variable {r : Rounding} {q x lo hi : Rat}

/-- A value that rounding never crosses. -/
structure Keeps (r : Rounding) (x : Rat) : Prop where
  below : ∀ q, q ≤ x → (r q).le (.rat x) = true
  above : ∀ q, x ≤ q → (Number.rat x).le (r q) = true

/-- Between two kept values lies what lay between them. -/
theorem Keeps.between (hlo : r.Keeps lo) (hhi : r.Keeps hi) (h0 : lo ≤ q) (h1 : q ≤ hi) :
    ∃ v, (r q).value? = some v ∧ lo ≤ v ∧ v ≤ hi := by
  rcases Number.rat_le_iff.1 (hlo.above q h0) with hinf | ⟨v, hv, hlow⟩
  · have htop := hhi.below q h1
    rw [hinf] at htop
    cases htop
  · rcases Number.le_rat_iff.1 (hhi.below q h1) with hinf | ⟨w, hw, hhigh⟩
    · rw [hinf] at hv
      cases hv
    · obtain rfl : v = w := Option.some.inj (hv.symm.trans hw)
      exact ⟨v, hv, hlow, hhigh⟩

/-- A kept value stays as it is. -/
theorem Keeps.value (h : r.Keeps x) : (r x).value? = some x := by
  obtain ⟨v, hv, hlow, hhigh⟩ := h.between h le_rfl le_rfl
  rw [hv, le_antisymm hhigh hlow]

/-! ### finite operands -/

section Operations

variable {a b : Number} {p : Rat}

theorem value_add (h0 : r.Keeps 0) (ha : a.value? = some p) (hb : b.value? = some q) :
    (r.add a b).value? = (r (p + q)).value? := by
  rcases Number.value_eq_some.1 ha with rfl | ⟨rfl, rfl⟩ <;> rcases Number.value_eq_some.1 hb with rfl | ⟨rfl, rfl⟩ <;>
    simp [add, h0.value]

theorem value_mul (h0 : r.Keeps 0) (ha : a.value? = some p) (hb : b.value? = some q) :
    (r.mul a b).value? = (r (p * q)).value? := by
  rcases Number.value_eq_some.1 ha with rfl | ⟨rfl, rfl⟩ <;> rcases Number.value_eq_some.1 hb with rfl | ⟨rfl, rfl⟩ <;>
    simp [mul, h0.value]

theorem sub_rat (r : Rounding) (p q : Rat) : r.sub (.rat p) (.rat q) = r (p - q) := by
  by_cases hq : q = 0
  · simp [sub, Number.neg, add, hq]
  · simp [sub, Number.neg, add, hq, sub_eq_add_neg]

/-- The sign of a zero is lost when something else is subtracted. -/
theorem sub_of_value (ha : a.value? = some p) (hq : q ≠ 0) : r.sub a (.rat q) = r (p - q) := by
  rcases Number.value_eq_some.1 ha with rfl | ⟨rfl, rfl⟩
  · exact r.sub_rat p q
  · simp [sub, Number.neg, add, hq]

end Operations

/-! ### reliable roundings -/

/-- Keeps halves of integers up to a limit, and below it errs by little. -/
structure Reliable (r : Rounding) (limit : Nat) : Prop where
  keeps : ∀ k : Int, k.natAbs ≤ limit → r.Keeps (k / 2)
  near : ∀ q : Rat, |q| ≤ limit → ∃ v, (r q).value? = some v ∧ |v - q| ≤ (|q| + 1) / 2 ^ 24

theorem Reliable.keeps_int {limit : Nat} (h : r.Reliable limit) {k : Int} (hk : 2 * k.natAbs ≤ limit) : r.Keeps k := by
  have hhalf := h.keeps (2 * k) (by omega)
  push_cast at hhalf
  rwa [mul_div_cancel_left₀ _ (two_ne_zero' Rat)] at hhalf

theorem Reliable.keeps_zero {limit : Nat} (h : r.Reliable limit) : r.Keeps 0 := by
  exact_mod_cast h.keeps_int (k := 0) (by simp)

theorem Reliable.keeps_one {limit : Nat} (h : r.Reliable limit) (hlimit : 2 ≤ limit) : r.Keeps 1 := by
  exact_mod_cast h.keeps_int (k := 1) hlimit

theorem reliable_exact (limit : Nat) : Rounding.exact.Reliable limit := by
  refine ⟨fun k _ => ⟨fun q hq => ?_, fun q hq => ?_⟩, fun q _ => ⟨q, rfl, ?_⟩⟩
  · exact (Number.le_iff rfl rfl).2 hq
  · exact (Number.le_iff rfl rfl).2 hq
  · rw [sub_self, abs_zero]
    positivity

end Rounding

/-! ## binary formats -/

namespace BinaryFormat

section Significands

variable {n d k : Nat} {u : Int}

/-- A quotient never rounds past an integer it does not exceed. -/
theorem divNearest_le {n d m : Nat} (hd : 0 < d) (h : n ≤ m * d) : divNearest n d ≤ m := by
  have hle : n / d ≤ m := Nat.div_le_of_le_mul (by rwa [Nat.mul_comm])
  unfold divNearest
  dsimp only
  split
  · rename_i hup
    -- it is rounded up only when something is left over
    have hrest : n % d ≠ 0 := by
      intro hzero
      simp only [hzero, Bool.or_eq_true, decide_eq_true_eq, Bool.and_eq_true, beq_iff_eq] at hup
      omega
    have hne : n / d ≠ m := by
      intro heq
      have hsum := Nat.div_add_mod n d
      rw [heq, Nat.mul_comm] at hsum
      omega
    omega
  · exact hle

theorem le_divNearest (hd : 0 < d) (h : k * d ≤ n) : k ≤ divNearest n d := by
  have hle : k ≤ n / d := (Nat.le_div_iff_mul_le hd).2 h
  unfold divNearest
  dsimp only
  split <;> omega

/-- Twice the remainder left or borrowed is at most the divisor. -/
theorem divNearest_near (hd : 0 < d) :
    2 * n ≤ (2 * divNearest n d + 1) * d ∧ 2 * divNearest n d * d ≤ 2 * n + d := by
  have hsum := Nat.div_add_mod n d
  have hmod := Nat.mod_lt n hd
  rw [Nat.mul_comm] at hsum
  unfold divNearest
  dsimp only
  split
  · rename_i hup
    simp only [Bool.or_eq_true, decide_eq_true_eq, Bool.and_eq_true, beq_iff_eq] at hup
    constructor <;> ring_nf at hsum ⊢ <;> omega
  · rename_i hdown
    simp only [Bool.or_eq_true, decide_eq_true_eq, not_or] at hdown
    constructor <;> ring_nf at hsum ⊢ <;> omega

theorem scaled_eq (m : Nat) (u : Int) : scaled m u = m * 2 ^ u := by
  unfold scaled
  split
  · rename_i hu
    obtain ⟨j, rfl⟩ := Int.eq_ofNat_of_zero_le hu
    simp
  · rename_i hu
    obtain ⟨j, rfl⟩ : ∃ j : Nat, u = -j := ⟨(-u).toNat, by omega⟩
    simp [Rat.mkRat_eq_div, div_eq_mul_inv]

theorem scaled_nonneg (m : Nat) (u : Int) : 0 ≤ scaled m u := by
  rw [scaled_eq]
  positivity

/-- A significand is a quotient of naturals, rounded. -/
theorem significand_eq (hd : 0 < d) (n : Nat) (u : Int) :
    ∃ N D : Nat, 0 < D ∧ (N : Rat) = n / d / 2 ^ u * D ∧ significand n d u = divNearest N D := by
  have hd' : (d : Rat) ≠ 0 := by positivity
  unfold significand
  split
  · rename_i hu
    obtain ⟨j, rfl⟩ := Int.eq_ofNat_of_zero_le hu
    refine ⟨n, d * 2 ^ j, by positivity, ?_, rfl⟩
    push_cast
    rw [zpow_natCast]
    field_simp
  · rename_i hu
    obtain ⟨j, rfl⟩ : ∃ j : Nat, u = -j := ⟨(-u).toNat, by omega⟩
    refine ⟨n * 2 ^ j, d, hd, ?_, by simp⟩
    push_cast
    rw [zpow_neg, zpow_natCast]
    field_simp

theorem significand_le (hd : 0 < d) (h : (n : Rat) / d ≤ k * 2 ^ u) : significand n d u ≤ k := by
  obtain ⟨N, D, hD, hN, hm⟩ := significand_eq hd n u
  rw [hm]
  apply divNearest_le hD
  have hquot : (n : Rat) / d / 2 ^ u ≤ k := (div_le_iff₀ (by positivity)).2 h
  have hle : (N : Rat) ≤ k * D := by
    rw [hN]
    exact mul_le_mul_of_nonneg_right hquot (by positivity)
  exact_mod_cast hle

theorem le_significand (hd : 0 < d) (h : k * 2 ^ u ≤ (n : Rat) / d) : k ≤ significand n d u := by
  obtain ⟨N, D, hD, hN, hm⟩ := significand_eq hd n u
  rw [hm]
  apply le_divNearest hD
  have hquot : (k : Rat) ≤ n / d / 2 ^ u := (le_div_iff₀ (by positivity)).2 h
  have hle : (k * D : Rat) ≤ N := by
    rw [hN]
    exact mul_le_mul_of_nonneg_right hquot (by positivity)
  exact_mod_cast hle

/-- Rounding to a unit errs by half of it at most. -/
theorem scaled_near (hd : 0 < d) (n : Nat) (u : Int) : |scaled (significand n d u) u - n / d| ≤ 2 ^ u / 2 := by
  obtain ⟨N, D, hD, hN, hm⟩ := significand_eq hd n u
  obtain ⟨hlow, hhigh⟩ := divNearest_near (n := N) hD
  rw [scaled_eq, hm]
  generalize divNearest N D = m at hlow hhigh
  have hD' : (0 : Rat) < D := by positivity
  have hu : (0 : Rat) < 2 ^ u := by positivity
  have hlow' : 2 * (N : Rat) ≤ (2 * m + 1) * D := by exact_mod_cast hlow
  have hhigh' : 2 * (m : Rat) * D ≤ 2 * N + D := by exact_mod_cast hhigh
  rw [hN] at hlow' hhigh'
  -- counted in units, the quotient is within one half of the significand
  have hq : (n : Rat) / d = n / d / 2 ^ u * 2 ^ u := by field_simp
  rw [hq]
  generalize (n : Rat) / d / 2 ^ u = t at hlow' hhigh'
  have hup : t - m ≤ 1 / 2 := le_of_mul_le_mul_right (by linarith) hD'
  have hdown : m - t ≤ 1 / 2 := le_of_mul_le_mul_right (by linarith) hD'
  have hup' := mul_le_mul_of_nonneg_right hup hu.le
  have hdown' := mul_le_mul_of_nonneg_right hdown hu.le
  rw [abs_le]
  constructor <;> linarith

/-- How an exponent is tested against a quotient of naturals. -/
theorem fits_iff (hd : 0 < d) (n : Nat) (e : Int) :
    (if 0 ≤ e then Nat.pow 2 e.toNat * d ≤ n else d ≤ n * Nat.pow 2 (-e).toNat) ↔ (2 : Rat) ^ e ≤ n / d := by
  rw [le_div_iff₀ (by positivity)]
  split
  · rename_i he
    obtain ⟨j, rfl⟩ := Int.eq_ofNat_of_zero_le he
    norm_cast
  · obtain ⟨j, rfl⟩ : ∃ j : Nat, e = -j := ⟨(-e).toNat, by omega⟩
    rw [zpow_neg, zpow_natCast, inv_mul_le_iff₀ (by positivity), mul_comm _ (n : Rat), neg_neg, Int.toNat_natCast]
    norm_cast

/-- The difference of the logarithms, or one less. -/
theorem exponentOf_eq (hd : 0 < d) (n : Nat) {e : Int} (he : (n.log2 : Int) - d.log2 = e) :
    exponentOf n d = if (2 : Rat) ^ e ≤ n / d then e else e - 1 := by
  unfold exponentOf
  simp only [he, fits_iff hd n]

/-- The exponent found is not too large. -/
theorem pow_exponentOf_le (hn : 0 < n) (hd : 0 < d) : (2 : Rat) ^ exponentOf n d ≤ n / d := by
  generalize he : (n.log2 : Int) - d.log2 = e
  rw [exponentOf_eq hd n he]
  split
  · rename_i hle
    exact hle
  · -- one less than the difference of the logarithms always fits
    have hlow : (2 : Rat) ^ (n.log2 : Int) ≤ n := by exact_mod_cast Nat.log2_self_le hn.ne'
    have hhigh : (d : Rat) ≤ 2 ^ ((d.log2 : Int) + 1) := by exact_mod_cast (Nat.lt_log2_self (n := d)).le
    rw [le_div_iff₀ (by positivity)]
    calc (2 : Rat) ^ (e - 1) * d ≤ 2 ^ (e - 1) * 2 ^ ((d.log2 : Int) + 1) := by gcongr
      _ = 2 ^ (n.log2 : Int) := by
        rw [← zpow_add₀ two_ne_zero]
        congr 1
        omega
      _ ≤ n := hlow

end Significands

variable (f : BinaryFormat)

/-- The magnitude that a rational is rounded to, if it is not too large. -/
def nearest (q : Rat) : Rat :=
  let unit := f.unitOf q.num.natAbs q.den
  scaled (significand q.num.natAbs q.den unit) unit

variable {f} {q x : Rat}

theorem natAbs_div_den (q : Rat) : (q.num.natAbs : Rat) / q.den = |q| := by
  have habs : |q| = |(q.num : Rat)| / q.den := by
    conv_lhs => rw [← Rat.num_div_den q]
    rw [abs_div, Nat.abs_cast]
  rw [habs, ← Int.cast_abs, Int.abs_eq_natAbs, Int.cast_natCast]

theorem nearest_nonneg (f : BinaryFormat) (q : Rat) : 0 ≤ f.nearest q := scaled_nonneg _ _

theorem nearest_zero (f : BinaryFormat) : f.nearest 0 = 0 := by
  simp [nearest, significand, divNearest, scaled_eq]

/-- Below the largest values, a number is rounded to the nearest magnitude and keeps its sign. -/
theorem value_round (h : f.nearest q < 2 ^ (f.maxExponent + 1).toNat) :
    (f.round q).value? = some (if q < 0 then -f.nearest q else f.nearest q) := by
  unfold round
  split
  · rename_i hq
    subst hq
    simp [nearest_zero]
  · rw [nearest] at h ⊢
    dsimp only at h ⊢
    split
    · rename_i hm
      rw [hm, scaled_eq]
      split <;> simp
    · rw [if_neg (not_le.2 h)]
      simp

/-- Beyond the largest values there are the infinities. -/
theorem round_infinite (h : 2 ^ (f.maxExponent + 1).toNat ≤ f.nearest q) :
    f.round q = .infinite (decide (q < 0)) := by
  have hpos : 0 < f.nearest q := lt_of_lt_of_le (by positivity) h
  have hq : q ≠ 0 := by
    rintro rfl
    exact hpos.ne' f.nearest_zero
  unfold round
  rw [if_neg hq]
  rw [nearest] at h hpos
  dsimp only at h hpos ⊢
  rw [if_neg, if_pos h]
  intro hm
  rw [hm, scaled_eq] at hpos
  simp at hpos

theorem round_ne_negZero (h : 0 ≤ q) : f.round q ≠ .negZero := by
  unfold round
  simp only [decide_eq_true_eq, if_neg h.not_gt]
  split
  · simp
  · split
    · simp
    · split <;> simp

theorem rat_le_round (h : x ≤ if q < 0 then -f.nearest q else f.nearest q)
    (hfinite : q < 0 → f.nearest q < 2 ^ (f.maxExponent + 1).toNat) : (Number.rat x).le (f.round q) = true := by
  rw [Number.rat_le_iff]
  rcases lt_or_ge (f.nearest q) (2 ^ (f.maxExponent + 1).toNat) with hlt | hge
  · exact .inr ⟨_, value_round hlt, h⟩
  · have hpos : ¬ q < 0 := fun hneg => not_lt.2 hge (hfinite hneg)
    left
    rw [round_infinite hge, decide_eq_false hpos]

theorem round_le_rat (h : (if q < 0 then -f.nearest q else f.nearest q) ≤ x)
    (hfinite : 0 ≤ q → f.nearest q < 2 ^ (f.maxExponent + 1).toNat) : (f.round q).le (.rat x) = true := by
  rw [Number.le_rat_iff]
  rcases lt_or_ge (f.nearest q) (2 ^ (f.maxExponent + 1).toNat) with hlt | hge
  · exact .inr ⟨_, value_round hlt, h⟩
  · have hneg : q < 0 := not_le.1 fun hpos => not_lt.2 hge (hfinite hpos)
    left
    rw [round_infinite hge, decide_eq_true hneg]

/-- The unit is as small as the format has, or so small that the significand has all its bits. -/
theorem unitOf_cases (f : BinaryFormat) (hq : q ≠ 0) :
    let u := f.unitOf q.num.natAbs q.den
    u = f.minUnit ∨ (f.minUnit < u ∧ (2 : Rat) ^ (u + (f.precision - 1)) ≤ |q|) := by
  have hnum : 0 < q.num.natAbs := Int.natAbs_pos.2 (Rat.num_ne_zero.2 hq)
  have hexp := pow_exponentOf_le hnum q.den_pos
  rw [natAbs_div_den] at hexp
  intro u
  rcases le_or_gt (exponentOf q.num.natAbs q.den - (f.precision - 1)) f.minUnit with hle | hlt
  · exact .inl (max_eq_right hle)
  · have hu : u = exponentOf q.num.natAbs q.den - (f.precision - 1) := max_eq_left hlt.le
    refine .inr ⟨hu ▸ hlt, ?_⟩
    rw [hu, sub_add_cancel]
    exact hexp

section Values

variable {m : Nat} {j : Int}

/-- A value is a whole number of the units a number is rounded to, unless the number has a unit too large for it:
then the smallest number with that unit lies between the two. -/
theorem units_between (hm : m ≤ 2 ^ f.precision) (hp : 0 < f.precision) (hj : f.minUnit ≤ j) (hq : q ≠ 0) :
    let u := f.unitOf q.num.natAbs q.den
    ∃ k : Nat, (m : Rat) * 2 ^ j = k * 2 ^ u ∨ ((m : Rat) * 2 ^ j ≤ k * 2 ^ u ∧ k * 2 ^ u ≤ |q|) := by
  have hunit := f.unitOf_cases hq
  intro u
  rcases le_or_gt u j with hu | hu
  · refine ⟨m * 2 ^ (j - u).toNat, .inl ?_⟩
    push_cast
    rw [mul_assoc, ← zpow_natCast, ← zpow_add₀ two_ne_zero]
    congr 2
    omega
  · obtain ⟨-, hbits⟩ := hunit.resolve_left (by omega)
    obtain ⟨k, hk⟩ : ∃ k : Nat, (f.precision : Int) - 1 = k := ⟨f.precision - 1, by omega⟩
    have hpow : (2 : Rat) ^ (u + (f.precision - 1)) = (2 ^ k : Nat) * 2 ^ u := by
      push_cast
      rw [hk, add_comm, zpow_add₀ two_ne_zero, zpow_natCast]
    refine ⟨2 ^ k, .inr ⟨?_, hpow ▸ hbits⟩⟩
    calc (m : Rat) * 2 ^ j ≤ 2 ^ f.precision * 2 ^ (u - 1) := by
          gcongr
          · exact_mod_cast hm
          · exact one_le_two
          · omega
      _ = 2 ^ (u + (f.precision - 1)) := by
        rw [← zpow_natCast, ← zpow_add₀ two_ne_zero]
        congr 1
        omega
      _ = (2 ^ k : Nat) * 2 ^ u := hpow

theorem le_nearest (hm : m ≤ 2 ^ f.precision) (hp : 0 < f.precision) (hj : f.minUnit ≤ j)
    (h : m * 2 ^ j ≤ |q|) : m * 2 ^ j ≤ f.nearest q := by
  by_cases hq : q = 0
  · subst hq
    rwa [nearest_zero, ← abs_zero]
  obtain ⟨k, hk⟩ := units_between hm hp hj hq
  obtain ⟨hlow, hhigh⟩ : (m : Rat) * 2 ^ j ≤ k * 2 ^ f.unitOf q.num.natAbs q.den
      ∧ k * 2 ^ f.unitOf q.num.natAbs q.den ≤ |q| := by
    rcases hk with hk | hk
    · exact ⟨hk.le, hk ▸ h⟩
    · exact hk
  rw [← natAbs_div_den] at hhigh
  have hsig := le_significand q.den_pos hhigh
  refine hlow.trans ?_
  rw [nearest, scaled_eq]
  gcongr

theorem nearest_le (hm : m ≤ 2 ^ f.precision) (hp : 0 < f.precision) (hj : f.minUnit ≤ j)
    (h : |q| ≤ m * 2 ^ j) : f.nearest q ≤ m * 2 ^ j := by
  by_cases hq : q = 0
  · subst hq
    rwa [nearest_zero, ← abs_zero]
  obtain ⟨k, hk⟩ := units_between hm hp hj hq
  have hk' : (m : Rat) * 2 ^ j = k * 2 ^ f.unitOf q.num.natAbs q.den := by
    rcases hk with hk | ⟨hlow, hhigh⟩
    · exact hk
    · exact le_antisymm hlow (hhigh.trans h)
  rw [hk'] at h ⊢
  rw [← natAbs_div_den] at h
  have hsig := significand_le q.den_pos h
  rw [nearest, scaled_eq]
  gcongr

/-- A format keeps what a significand and a unit make, as long as it is not too large. -/
theorem keeps_value (hm : m ≤ 2 ^ f.precision) (hp : 0 < f.precision) (hj : f.minUnit ≤ j)
    (hbig : m * 2 ^ j < (2 : Rat) ^ (f.maxExponent + 1).toNat) : Rounding.Keeps f.round (m * 2 ^ j) := by
  have hx : (0 : Rat) ≤ m * 2 ^ j := by positivity
  constructor <;> intro q hq <;> rcases lt_or_ge q 0 with hneg | hpos
  · exact round_le_rat (by rw [if_pos hneg]; linarith [f.nearest_nonneg q]) fun h => absurd hneg h.not_gt
  · have hle := nearest_le hm hp hj (by rwa [abs_of_nonneg hpos])
    exact round_le_rat (by rwa [if_neg hpos.not_gt]) fun _ => hle.trans_lt hbig
  · linarith
  · have hle := le_nearest hm hp hj (by rwa [abs_of_nonneg hpos])
    exact rat_le_round (by rwa [if_neg hpos.not_gt]) fun h => absurd h hpos.not_gt

theorem keeps_neg_value (hm : m ≤ 2 ^ f.precision) (hp : 0 < f.precision) (hj : f.minUnit ≤ j)
    (hbig : m * 2 ^ j < (2 : Rat) ^ (f.maxExponent + 1).toNat) : Rounding.Keeps f.round (-(m * 2 ^ j)) := by
  have hx : (0 : Rat) ≤ m * 2 ^ j := by positivity
  constructor <;> intro q hq <;> rcases lt_or_ge q 0 with hneg | hpos
  · have hle := le_nearest hm hp hj (by rw [abs_of_neg hneg]; linarith)
    exact round_le_rat (by rw [if_pos hneg]; linarith) fun h => absurd hneg h.not_gt
  · -- zero is the only such number
    have hle := nearest_le (q := q) hm hp hj (by rw [abs_of_nonneg hpos]; linarith)
    exact round_le_rat (by rw [if_neg hpos.not_gt]; linarith) fun _ => hle.trans_lt hbig
  · have hle := nearest_le hm hp hj (by rw [abs_of_neg hneg]; linarith)
    exact rat_le_round (by rw [if_pos hneg]; linarith) fun _ => hle.trans_lt hbig
  · exact rat_le_round (by rw [if_neg hpos.not_gt]; linarith [f.nearest_nonneg q]) fun h => absurd h hpos.not_gt

end Values

/-- Rounding errs by a share of the number, and by a share of one where numbers are too small for that. -/
theorem nearest_near (hmin : f.minUnit ≤ 1 - f.precision) (q : Rat) :
    |f.nearest q - (|q|)| ≤ (|q| + 1) / 2 ^ f.precision := by
  by_cases hq : q = 0
  · subst hq
    rw [nearest_zero, abs_zero, sub_self, abs_zero]
    positivity
  have hunit := f.unitOf_cases hq
  have hnear := scaled_near q.den_pos q.num.natAbs (f.unitOf q.num.natAbs q.den)
  rw [natAbs_div_den] at hnear
  refine hnear.trans ?_
  dsimp only at hunit
  generalize f.unitOf q.num.natAbs q.den = u at hunit
  rw [le_div_iff₀ (by positivity)]
  have hpow : (2 : Rat) ^ u / 2 * 2 ^ f.precision = 2 ^ (u + (f.precision - 1)) := by
    rw [add_sub, zpow_sub_one₀ two_ne_zero, zpow_add₀ two_ne_zero, zpow_natCast]
    ring
  rw [hpow]
  have habs := abs_nonneg q
  rcases hunit with hu | ⟨-, hu⟩
  · have hone : (2 : Rat) ^ (u + (f.precision - 1)) ≤ 1 := zpow_le_one_of_nonpos₀ one_le_two (by omega)
    linarith
  · linarith

/-- Formats with at least 24 bits and a wide enough range of exponents. -/
theorem reliable_round (hp : 24 ≤ f.precision) (hmin : f.minUnit ≤ 1 - f.precision)
    (hmax : f.precision ≤ f.maxExponent) : Rounding.Reliable f.round (2 ^ f.precision) := by
  obtain ⟨e, he⟩ : ∃ e : Nat, f.maxExponent = e := ⟨f.maxExponent.toNat, by omega⟩
  have htop : (2 : Rat) ^ f.precision < 2 ^ (f.maxExponent + 1).toNat := by
    rw [he]
    exact pow_lt_pow_right₀ one_lt_two (by omega)
  constructor
  · intro k hk
    have hhalf : (k.natAbs : Rat) * 2 ^ (-1 : Int) < 2 ^ (f.maxExponent + 1).toNat := by
      have hle : (k.natAbs : Rat) ≤ 2 ^ f.precision := by exact_mod_cast hk
      have hnonneg : (0 : Rat) ≤ k.natAbs := by positivity
      rw [zpow_neg_one]
      linarith
    rcases Int.natAbs_eq k with hk' | hk' <;> rw [hk']
    · have hkeeps := keeps_value hk (by omega) (by omega) hhalf
      rwa [zpow_neg_one, ← div_eq_mul_inv] at hkeeps
    · have hkeeps := keeps_neg_value hk (by omega) (by omega) hhalf
      rw [zpow_neg_one, ← div_eq_mul_inv, ← neg_div] at hkeeps
      exact_mod_cast hkeeps
  · intro q hq
    have hle : f.nearest q ≤ (2 ^ f.precision : Nat) * 2 ^ (0 : Int) :=
      nearest_le le_rfl (by omega) (by omega) (by rwa [zpow_zero, mul_one])
    have hfinite : f.nearest q < 2 ^ (f.maxExponent + 1).toNat := by
      rw [zpow_zero, mul_one] at hle
      push_cast at hle
      exact hle.trans_lt htop
    refine ⟨_, value_round hfinite, ?_⟩
    have hshare : (|q| + 1) / 2 ^ f.precision ≤ (|q| + 1) / 2 ^ 24 := by
      gcongr
      exact one_le_two
    refine le_trans ?_ ((nearest_near hmin q).trans hshare)
    split
    · rename_i hneg
      rw [abs_of_neg hneg, ← abs_neg]
      ring_nf
      exact le_rfl
    · rename_i hpos
      rw [abs_of_nonneg (not_lt.1 hpos)]

end BinaryFormat

/-! ## the two places -/

namespace Arithmetic

/-- Axis values are rounded to 24 bits at least, the rendered state to 53. -/
structure Reliable (a : Arithmetic) : Prop where
  axis : a.axis.Reliable (2 ^ 24)
  state : a.state.Reliable (2 ^ 53)

theorem reliable_exact : exact.Reliable := ⟨Rounding.reliable_exact _, Rounding.reliable_exact _⟩

theorem reliable_binary : binary.Reliable :=
  ⟨BinaryFormat.reliable_round (f := .single) (by decide) (by decide) (by decide),
    BinaryFormat.reliable_round (f := .double) (by decide) (by decide) (by decide)⟩

theorem reliable_of {a : Arithmetic} (h : a = .exact ∨ a = .binary) : a.Reliable := by
  rcases h with rfl | rfl
  · exact reliable_exact
  · exact reliable_binary

end Arithmetic
end GamepadPool
