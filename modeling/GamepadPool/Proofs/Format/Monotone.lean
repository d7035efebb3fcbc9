import GamepadPool.Proofs.Format.Axis
import GamepadPool.Proofs.Number.Monotone
/-! # Axes follow their input
The response to a larger value is never smaller, wherever its steps lie: on either side of the centre a value is
pinned, passed on or centred by its distance alone, and the two sides meet in the middle. The range then keeps the
order or turns it round. -/

namespace GamepadPool

/-! ## the distance from the centre -/

section Distance

variable [a : Arithmetic] {v w : Number}

theorem isNaN_sub_half (hm : a.state.Monotone) (h : v.isNaN = false) : (a.state.sub v .half).isNaN = false := by
  cases hv : v.value? with
  | some p =>
    have hsub : a.state.sub v .half = a.state (p - 1 / 2) := Rounding.sub_of_value hv (by norm_num)
    rw [hsub]
    exact (Number.isNaN_of_le (hm _ _ le_rfl)).1
  | none =>
    rcases v with q | _ | s | _
    · cases hv
    · cases hv
    · rw [sub_half_infinite]
      rfl
    · cases h

/-- Rounded or not, a difference grows with what it is taken from. -/
theorem sub_half_mono (hm : a.state.Monotone) (h : v.le w = true) :
    (a.state.sub v .half).le (a.state.sub w .half) = true := by
  rcases Number.cases_of_le h with ⟨p, q, hp, hq, hle⟩ | ⟨rfl, hw⟩ | ⟨rfl, hv⟩
  · have hsub : ∀ {x : Number} {q : Rat}, x.value? = some q → a.state.sub x .half = a.state (q - 1 / 2) :=
      fun hx => Rounding.sub_of_value hx (by norm_num)
    rw [hsub hp, hsub hq]
    exact hm _ _ (sub_le_sub_right hle _)
  · rw [sub_half_infinite]
    exact Number.infinite_le (isNaN_sub_half hm hw)
  · rw [sub_half_infinite]
    exact Number.le_infinite (isNaN_sub_half hm hv)

/-- A larger magnitude stays larger when it is doubled. -/
theorem distance_mono (hm : a.state.Monotone)
    (h : (a.state.sub v .half).abs.le (a.state.sub w .half).abs = true) : (distance v).le (distance w) = true := by
  unfold distance
  obtain ⟨hv, hw⟩ := Number.isNaN_of_le h
  generalize a.state.sub v .half = x at h hv
  generalize a.state.sub w .half = y at h hw
  have hdouble : ∀ p : Rat, a.state.mul (.rat p) (.rat 2) = a.state (p * 2) := fun _ => rfl
  have htop : a.state.mul (.infinite false) (.rat 2) = .infinite false := by simp [Rounding.mul]
  have hnumber : ∀ q, (a.state q).isNaN = false := fun q => (Number.isNaN_of_le (hm q q le_rfl)).1
  have habs : ∀ {z : Number}, z.abs.isNaN = false → (∃ p, z.abs = .rat p) ∨ z.abs = .infinite false := fun {z} hz =>
    Number.abs_cases (by cases z <;> first | rfl | cases hz)
  rcases habs hv with ⟨p, hp⟩ | hp <;> rcases habs hw with ⟨q, hq⟩ | hq <;> rw [hp, hq] at h ⊢
  · rw [hdouble, hdouble]
    have hle : p ≤ q := (Number.le_iff rfl rfl).1 h
    exact hm _ _ (by linarith)
  · rw [hdouble, htop]
    exact Number.le_infinite (hnumber _)
  · cases h
  · rw [htop]
    rfl

/-- Right of the centre, the distance grows with the value. -/
theorem distance_mono_right (ha : a.Reliable) (hm : a.state.Monotone) (h0 : Number.half.le v = true)
    (h : v.le w = true) : (distance v).le (distance w) = true := by
  have hcentre : (Number.rat 0).le (a.state.sub .half .half) = true := by
    unfold Number.half
    rw [Rounding.sub_rat, sub_self]
    exact ha.state.keeps_zero.above 0 le_rfl
  exact distance_mono hm
    (Number.abs_le_abs_of_nonneg (Number.le_trans hcentre (sub_half_mono hm h0)) (sub_half_mono hm h))

/-- Left of the centre, it shrinks. -/
theorem distance_mono_left (ha : a.Reliable) (hm : a.state.Monotone) (h0 : w.le .half = true) (h : v.le w = true) :
    (distance w).le (distance v) = true := by
  have hcentre : (a.state.sub .half .half).le (.rat 0) = true := by
    unfold Number.half
    rw [Rounding.sub_rat, sub_self]
    exact ha.state.keeps_zero.below 0 le_rfl
  exact distance_mono hm
    (Number.abs_le_abs_of_nonpos (Number.le_trans (sub_half_mono hm h0) hcentre) (sub_half_mono hm h))

end Distance

/-! ## the response -/

theorem half_le_half : Number.half.le .half = true := Number.le_refl rfl

section Response

variable [a : Arithmetic] {v w deadzone saturation : Number} {s : Rat}

/-- Right of the centre, a response is never left of it. -/
theorem half_le_respond (hv : Number.half.lt v = true) : Number.half.le (respond v deadzone saturation) = true := by
  rw [respond_eq, if_pos hv]
  split
  · exact (Number.le_iff rfl rfl).2 (by norm_num)
  · split
    · exact half_le_half
    · exact Number.le_of_lt hv

/-- Elsewhere, it is never right of it. -/
theorem respond_le_half (hv : ¬ Number.half.lt v = true) (hle : v.le .half = true) :
    (respond v deadzone saturation).le .half = true := by
  rw [respond_eq, if_neg hv]
  split
  · exact (Number.le_iff rfl rfl).2 (by norm_num)
  · split
    · exact half_le_half
    · exact hle

/-- The response keeps the order of values, wherever the deadzone and the saturation lie. -/
theorem respond_mono (ha : a.Reliable) (hm : a.state.Monotone) (deadzone : Number) (hs : saturation.value? = some s)
    (hs1 : s ≤ 1) (h : v.le w = true) : (respond v deadzone saturation).le (respond w deadzone saturation) = true := by
  obtain ⟨hv, hw⟩ := Number.isNaN_of_le h
  have hhalf : Number.half.isNaN = false := rfl
  by_cases hright : Number.half.lt v = true
  · -- both right of the centre: what is pinned or passed on stays so as the value grows
    have hright' := Number.lt_of_lt_of_le hright h
    have hgrows := distance_mono_right ha hm (Number.le_of_lt hright) h
    by_cases hpin : saturation.le (distance w) = true
    · obtain ⟨x, hx, -, hx1⟩ := respond_within ha hv deadzone hs hs1
      rw [respond_eq w, if_pos hpin, if_pos hright']
      exact (Number.le_iff hx rfl).2 hx1
    rw [respond_eq v, respond_eq w, if_neg hpin, if_neg fun hpin' => hpin (Number.le_trans hpin' hgrows)]
    by_cases hcentred : (distance w).le deadzone = true
    · rw [if_pos hcentred, if_pos (Number.le_trans hgrows hcentred)]
      exact half_le_half
    · rw [if_neg hcentred]
      split
      · exact Number.le_of_lt hright'
      · exact h
  have hleft := Number.le_of_not_lt hhalf hv hright
  by_cases hright' : Number.half.lt w = true
  · exact Number.le_trans (respond_le_half hright hleft) (half_le_respond hright')
  · -- both left of it: the other way round
    have hleft' := Number.le_of_not_lt hhalf hw hright'
    have hshrinks := distance_mono_left ha hm hleft' h
    by_cases hpin : saturation.le (distance v) = true
    · obtain ⟨y, hy, hy0, -⟩ := respond_within ha hw deadzone hs hs1
      rw [respond_eq v, if_pos hpin, if_neg hright]
      exact (Number.le_iff rfl hy).2 hy0
    rw [respond_eq v, respond_eq w, if_neg hpin, if_neg fun hpin' => hpin (Number.le_trans hpin' hshrinks)]
    by_cases hcentred : (distance v).le deadzone = true
    · rw [if_pos hcentred, if_pos (Number.le_trans hshrinks hcentred)]
      exact half_le_half
    · rw [if_neg hcentred]
      split
      · exact hleft
      · exact h

/-- What does not exceed zero is pinned to the low end. -/
theorem respond_of_le_zero (ha : a.Reliable) (hs : saturation.value? = some s) (hs1 : s ≤ 1)
    (h : v.le (.rat 0) = true) : respond v deadzone saturation = .zero := by
  have hout : ∀ q, v.value? = some q → q ≤ 0 ∨ 1 ≤ q := fun q hq => .inl ((Number.le_iff hq rfl).1 h)
  have hfar := one_le_distance ha (Number.isNaN_of_le h).1 hout
  have hleft : ¬ Number.half.lt v = true := by
    intro hright
    have hback := Number.lt_of_lt_of_le hright h
    rw [Number.half, Number.lt_iff rfl rfl] at hback
    norm_num at hback
  rw [respond_eq, if_pos (Number.le_of_le_rat hs hs1 hfar), if_neg hleft]

/-- What is at least one is pinned to the high end. -/
theorem respond_of_one_le (ha : a.Reliable) (hs : saturation.value? = some s) (hs1 : s ≤ 1)
    (h : (Number.rat 1).le v = true) : respond v deadzone saturation = .one := by
  have hout : ∀ q, v.value? = some q → q ≤ 0 ∨ 1 ≤ q := fun q hq => .inr ((Number.le_iff rfl hq).1 h)
  have hfar := one_le_distance ha (Number.isNaN_of_le h).2 hout
  have hright : Number.half.lt v = true :=
    Number.lt_of_lt_of_le ((Number.lt_iff rfl rfl).2 (by norm_num)) h
  rw [respond_eq, if_pos (Number.le_of_le_rat hs hs1 hfar), if_pos hright]

end Response

/-! ## the range -/

section Range

theorem roundAway_mono {p q : Rat} (h : p ≤ q) : roundAway p ≤ roundAway q := by
  rcases h.eq_or_lt with rfl | hlt
  · exact le_rfl
  · obtain ⟨-, hhigh⟩ := abs_le.1 (roundAway_near p)
    exact le_roundAway (by linarith)

theorem saturate_mono {x y : Number} {p q : Rat} (hx : x.value? = some p) (hy : y.value? = some q) (h : p ≤ q) :
    saturate x ≤ saturate y := by
  have hround := roundAway_mono h
  rw [saturate_of_value hx, saturate_of_value hy, Int32.le_iff_toInt_le, Int32.toInt_ofInt_of_le (by omega) (by omega),
    Int32.toInt_ofInt_of_le (by omega) (by omega)]
  omega

theorem saturate_toInt {x : Number} (n : Int32) (hx : x.value? = some (n.toInt : Rat)) : saturate x = n := by
  have hlow := n.le_toInt
  have hhigh := n.toInt_lt
  obtain ⟨hle, hge⟩ := saturate_between hx le_rfl le_rfl (by omega) (by omega)
  exact Int32.toInt_inj.1 (le_antisymm hge hle)

variable [a : Arithmetic] {v w : Number} {p q : Rat}

/-- Over a range that is not inverted, more gives more; over an inverted one, less. -/
theorem spread_mono (ha : a.Reliable) (hm : a.state.Monotone) (hv : v.value? = some p) (hp0 : 0 ≤ p) (hp1 : p ≤ 1)
    (hw : w.value? = some q) (hq0 : 0 ≤ q) (hq1 : q ≤ 1) (h : p ≤ q) (low high : Int32) :
    (low ≤ high → spread v low high ≤ spread w low high) ∧ (high ≤ low → spread w low high ≤ spread v low high) := by
  have hvalue : ∀ {x y r t : Rat}, x ≤ y → (a.state x).value? = some r → (a.state y).value? = some t → r ≤ t :=
    fun hle hr ht => (Number.le_iff hr ht).1 (hm _ _ hle)
  obtain ⟨r, t, hr, ht, -, -, x, hx, hspread⟩ := spread_of_value ha hv hp0 hp1 low high
  obtain ⟨r', t', hr', ht', -, -, y, hy, hspread'⟩ := spread_of_value ha hw hq0 hq1 low high
  rw [hspread, hspread']
  constructor <;> intro hrange <;> rw [Int32.le_iff_toInt_le] at hrange
  · have hwidth : (0 : Rat) ≤ high.toInt - low.toInt := sub_nonneg.2 (by exact_mod_cast hrange)
    have hshare := hvalue (mul_le_mul_of_nonneg_right h hwidth) hr hr'
    exact saturate_mono hx hy (hvalue (by linarith) ht ht')
  · have hwidth : (high.toInt : Rat) - low.toInt ≤ 0 := sub_nonpos.2 (by exact_mod_cast hrange)
    have hshare := hvalue (mul_le_mul_of_nonpos_right h hwidth) hr' hr
    exact saturate_mono hy hx (hvalue (by linarith) ht' ht)

/-- The ends of a range are where zero and one go. -/
theorem spread_ends (ha : a.Reliable) (low high : Int32) :
    spread .zero low high = low ∧ spread .one low high = high := by
  have hkeeps : ∀ n : Int32, a.state.Keeps n.toInt := fun n =>
    ha.state.keeps_int (by have := n.le_toInt; have := n.toInt_lt; omega)
  have hzero : Number.zero.value? = some 0 := rfl
  have hone : Number.one.value? = some 1 := rfl
  constructor
  · obtain ⟨r, t, hr, ht, -, -, x, hx, hspread⟩ := spread_of_value ha hzero le_rfl zero_le_one low high
    rw [zero_mul, ha.state.keeps_zero.value] at hr
    obtain rfl := Option.some.inj hr
    rw [add_zero, (hkeeps low).value] at ht
    obtain rfl := Option.some.inj ht
    rw [hspread, saturate_toInt low hx]
  · obtain ⟨r, t, hr, ht, -, -, x, hx, hspread⟩ := spread_of_value ha hone zero_le_one le_rfl low high
    have hwidth : a.state.Keeps (high.toInt - low.toInt) := by
      have := low.le_toInt
      have := low.toInt_lt
      have := high.le_toInt
      have := high.toInt_lt
      exact_mod_cast ha.state.keeps_int (k := high.toInt - low.toInt) (by omega)
    rw [one_mul, hwidth.value] at hr
    obtain rfl := Option.some.inj hr
    rw [add_sub_cancel, (hkeeps high).value] at ht
    obtain rfl := Option.some.inj ht
    rw [hspread, saturate_toInt high hx]

/-- An axis follows its input, in exact and in binary arithmetic, for every deadzone and every saturation of at most
one: a larger value, however far outside of `[0, 1]`, has no smaller response, and a word no further from the end that
one is spread to. At zero and below, and from one on, the word is that end of the range exactly. -/
theorem axis_follows (h : a = .exact ∨ a = .binary) (deadzone : Number) {saturation : Number} {s : Rat}
    (hs : saturation.value? = some s) (hs1 : s ≤ 1) (low high : Int32) :
    let word := fun v => spread (respond v deadzone saturation) low high
    (∀ v w : Number, v.le w = true →
      (respond v deadzone saturation).le (respond w deadzone saturation) = true ∧
      (low ≤ high → word v ≤ word w) ∧ (high < low → word w ≤ word v)) ∧
    (∀ v : Number, v.le (.rat 0) = true → word v = low) ∧
    (∀ v : Number, (Number.rat 1).le v = true → word v = high) := by
  have ha := Arithmetic.reliable_of h
  have hm := Arithmetic.monotone_of h
  intro word
  refine ⟨fun v w hle => ?_, fun v hle => ?_, fun v hle => ?_⟩
  · have hmono := respond_mono ha hm deadzone hs hs1 hle
    obtain ⟨hv, hw⟩ := Number.isNaN_of_le hle
    obtain ⟨p, hp, hp0, hp1⟩ := respond_within ha hv deadzone hs hs1
    obtain ⟨q, hq, hq0, hq1⟩ := respond_within ha hw deadzone hs hs1
    obtain ⟨hmore, hless⟩ :=
      spread_mono ha hm hp hp0 hp1 hq hq0 hq1 ((Number.le_iff hp hq).1 hmono) low high
    exact ⟨hmono, hmore, fun hlt => hless (Int32.le_of_lt hlt)⟩
  · rw [show word v = spread (respond v deadzone saturation) low high from rfl, respond_of_le_zero ha hs hs1 hle]
    exact (spread_ends ha low high).1
  · rw [show word v = spread (respond v deadzone saturation) low high from rfl, respond_of_one_le ha hs hs1 hle]
    exact (spread_ends ha low high).2

end Range

/-- The deadzone reaches beyond the saturation, and the widest range is inverted: what is left of the centre is pinned
to the largest word, what is next to the centre comes out below it, and an infinite value at the smallest. -/
theorem axis_follows_inverted :
    letI : Arithmetic := .binary
    let word := fun v => spread (respond v (.rat (1 / 2)) (.rat (1 / 4))) 2147483647 (-2147483648)
    (Number.rat (1 / 4)).value? = some (1 / 4) ∧ (1 / 4 : Rat) ≤ 1 ∧
      word (.rat (3 / 5)) ≤ word (.rat (-7)) ∧ word (.rat (-7)) = 2147483647 ∧ word (.rat (3 / 5)) = -1 ∧
      word (.infinite false) = -2147483648 := by
  intro word
  obtain ⟨hmono, hlow, hhigh⟩ := @axis_follows .binary (.inr rfl) (.rat (1 / 2)) (.rat (1 / 4)) (1 / 4) rfl
    (by norm_num) 2147483647 (-2147483648)
  have hle : (Number.rat (-7)).le (.rat (3 / 5)) = true := (Number.le_iff rfl rfl).2 (by norm_num)
  have hneg : (Number.rat (-7)).le (.rat 0) = true := (Number.le_iff rfl rfl).2 (by norm_num)
  exact ⟨rfl, by norm_num, (hmono _ _ hle).2.2 (by decide), hlow _ hneg, by decide +kernel, hhigh _ rfl⟩

end GamepadPool
