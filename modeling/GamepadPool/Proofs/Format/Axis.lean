import GamepadPool.Proofs.Catalog.Properties
/-! # What an axis reports
Every value but the one that is no number is brought into `[0, 1]` before it is spread over the range, and rounding
does not take it out again: the word stays between the ends of the range, whichever is the larger. With the
properties an axis starts with, the word is the position it was read from. -/

namespace GamepadPool

/-! ## words -/

theorem roundAway_near (q : Rat) : |(roundAway q : Rat) - q| ≤ 1 / 2 := by
  unfold roundAway
  rw [abs_le]
  split
  · have hlow := Rat.floor_le (-q + 1 / 2)
    have hhigh := Rat.lt_floor (x := -q + 1 / 2)
    push_cast
    constructor <;> linarith
  · have hlow := Rat.floor_le (q + 1 / 2)
    have hhigh := Rat.lt_floor (x := q + 1 / 2)
    constructor <;> linarith

theorem le_roundAway {q : Rat} {n : Int} (h : n - 1 / 2 < q) : n ≤ roundAway q := by
  obtain ⟨hlow, -⟩ := abs_le.1 (roundAway_near q)
  have hcast : ((n - 1 : Int) : Rat) < roundAway q := by
    push_cast
    linarith
  have := Int.cast_lt.1 hcast
  omega

theorem roundAway_le {q : Rat} {n : Int} (h : q < n + 1 / 2) : roundAway q ≤ n := by
  obtain ⟨-, hhigh⟩ := abs_le.1 (roundAway_near q)
  have hcast : (roundAway q : Rat) < (n + 1 : Int) := by
    push_cast
    linarith
  have := Int.cast_lt.1 hcast
  omega

/-- Rounding to an integer does not leave an interval with integer ends. -/
theorem roundAway_between {q : Rat} {a b : Int} (ha : (a : Rat) ≤ q) (hb : q ≤ b) :
    a ≤ roundAway q ∧ roundAway q ≤ b :=
  ⟨le_roundAway (by linarith), roundAway_le (by linarith)⟩

theorem roundAway_eq {q : Rat} {n : Int} (h : |q - n| < 1 / 2) : roundAway q = n := by
  obtain ⟨hlow, hhigh⟩ := abs_lt.1 h
  exact le_antisymm (roundAway_le (by linarith)) (le_roundAway (by linarith))

theorem share_between {v : Rat} (h0 : 0 ≤ v) (h1 : v ≤ 1) (d : Rat) : min 0 d ≤ v * d ∧ v * d ≤ max 0 d := by
  rcases le_total 0 d with hd | hd
  · rw [min_eq_left hd, max_eq_right hd]
    exact ⟨mul_nonneg h0 hd, mul_le_of_le_one_left hd h1⟩
  · rw [min_eq_right hd, max_eq_left hd]
    exact ⟨by nlinarith, mul_nonpos_of_nonneg_of_nonpos h0 hd⟩

theorem saturate_of_value {x : Number} {q : Rat} (h : x.value? = some q) :
    saturate x = .ofInt (max (-2147483648) (min 2147483647 (roundAway q))) := by
  rcases Number.value_eq_some.1 h with rfl | ⟨rfl, rfl⟩
  · rfl
  · decide +kernel

/-- The nearest word to a number between two words is between them. -/
theorem saturate_between {x : Number} {q : Rat} {a b : Int} (h : x.value? = some q) (ha : (a : Rat) ≤ q) (hb : q ≤ b)
    (hlow : -2147483648 ≤ a) (hhigh : b ≤ 2147483647) : a ≤ (saturate x).toInt ∧ (saturate x).toInt ≤ b := by
  have hround := roundAway_between ha hb
  rw [saturate_of_value h, Int32.toInt_ofInt_of_le (by omega) (by omega)]
  omega

/-! ## the response -/

/-- The distance from the centre, in half-ranges. -/
def distance [Arithmetic] (value : Number) : Number :=
  Arithmetic.state.mul (Arithmetic.state.sub value .half).abs (.rat 2)

section Response

variable [a : Arithmetic] {value saturation deadzone : Number}

theorem respond_eq (value deadzone saturation : Number) :
    respond value deadzone saturation =
      if saturation.le (distance value) then (if Number.half.lt value then .one else .zero)
      else if (distance value).le deadzone then .half else value := rfl

theorem sub_half_infinite (negative : Bool) : a.state.sub (.infinite negative) .half = .infinite negative := by
  simp [Rounding.sub, Rounding.add, Number.half, Number.neg]

/-- What is half a range off the centre before it is rounded is so afterwards. -/
theorem half_le_difference (ha : a.Reliable) (hnumber : value.isNaN = false)
    (hout : ∀ v, value.value? = some v → v ≤ 0 ∨ 1 ≤ v) :
    (Number.rat (1 / 2)).le (a.state.sub value .half) = true ∨
      (a.state.sub value .half).le (.rat (-(1 / 2))) = true := by
  cases hv : value.value? with
  | none =>
    rcases value with q | _ | (_ | _) | _
    · cases hv
    · cases hv
    · exact .inl (by rw [sub_half_infinite]; rfl)
    · exact .inr (by rw [sub_half_infinite]; rfl)
    · cases hnumber
  | some v =>
    have hsub : a.state.sub value .half = a.state (v - 1 / 2) := Rounding.sub_of_value hv (by norm_num)
    rw [hsub]
    rcases hout v hv with hneg | hbig
    · have hkeeps := ha.state.keeps (-1) (by norm_num)
      push_cast at hkeeps
      rw [neg_div] at hkeeps
      exact .inr (hkeeps.below _ (by linarith))
    · have hkeeps := ha.state.keeps 1 (by norm_num)
      push_cast at hkeeps
      exact .inl (hkeeps.above _ (by linarith))

/-- What is not inside of `[0, 1]` is at least a half-range away from the centre. -/
theorem one_le_distance (ha : a.Reliable) (hnumber : value.isNaN = false)
    (hout : ∀ v, value.value? = some v → v ≤ 0 ∨ 1 ≤ v) : (Number.rat 1).le (distance value) = true := by
  have hfar := Number.le_abs (half_le_difference ha hnumber hout)
  unfold distance
  generalize a.state.sub value .half = d at hfar
  cases hd : d.value? with
  | none =>
    -- the magnitude of an infinity, doubled
    rcases d with q | _ | s | _
    · cases hd
    · cases hd
    · rfl
    · cases hfar
  | some p =>
    rw [Number.abs_of_value hd] at hfar ⊢
    have hle := (Number.le_iff rfl rfl).1 hfar
    have hone : a.state.Keeps 1 := ha.state.keeps_one (by norm_num)
    exact hone.above _ (by linarith)

/-- Whatever was read, unless it is no number, the response is in `[0, 1]`. -/
theorem respond_within (ha : a.Reliable) (hnumber : value.isNaN = false) (deadzone : Number) {s : Rat}
    (hs : saturation.value? = some s) (hs1 : s ≤ 1) :
    ∃ w, (respond value deadzone saturation).value? = some w ∧ 0 ≤ w ∧ w ≤ 1 := by
  by_cases hin : ∃ v, value.value? = some v ∧ 0 ≤ v ∧ v ≤ 1
  · rw [respond_eq]
    split
    · split
      · exact ⟨1, rfl, zero_le_one, le_rfl⟩
      · exact ⟨0, rfl, le_rfl, zero_le_one⟩
    · split
      · exact ⟨1 / 2, rfl, by norm_num, by norm_num⟩
      · exact hin
  · have hout : ∀ v, value.value? = some v → v ≤ 0 ∨ 1 ≤ v := by
      intro v hv
      by_contra hno
      push Not at hno
      exact hin ⟨v, hv, hno.1.le, hno.2.le⟩
    rw [respond_eq, if_pos (Number.le_of_le_rat hs hs1 (one_le_distance ha hnumber hout))]
    split
    · exact ⟨1, rfl, zero_le_one, le_rfl⟩
    · exact ⟨0, rfl, le_rfl, zero_le_one⟩

/-- Two roundings take the distance little away from its exact value. -/
theorem distance_near (ha : a.Reliable) {v : Rat} (hv : value.value? = some v) (h0 : 0 ≤ v) (h1 : v ≤ 1) :
    ∃ d, (distance value).value? = some d ∧ |d - 2 * (|v - 1 / 2|)| ≤ 1 / 2 ^ 21 := by
  have hhalf : |v - 1 / 2| ≤ 1 / 2 := abs_le.2 ⟨by linarith, by linarith⟩
  obtain ⟨p, hp, hpnear⟩ := ha.state.near (v - 1 / 2) (hhalf.trans (by norm_num))
  have hpclose : |(|p|) - (|v - 1 / 2|)| ≤ 2 / 2 ^ 24 := (abs_abs_sub_abs_le p (v - 1 / 2)).trans (by linarith)
  obtain ⟨hplow, hphigh⟩ := abs_le.1 hpclose
  have hpos : 0 ≤ |p| * 2 := by positivity
  obtain ⟨d, hd, hdnear⟩ := ha.state.near (|p| * 2) (by rw [abs_of_nonneg hpos]; norm_num at *; linarith)
  rw [abs_of_nonneg hpos] at hdnear
  refine ⟨d, ?_, ?_⟩
  · unfold distance Number.half
    rw [Rounding.sub_of_value hv (by norm_num), Number.abs_of_value hp]
    exact hd
  · obtain ⟨hdlow, hdhigh⟩ := abs_le.1 hdnear
    exact abs_le.2 ⟨by linarith, by linarith⟩

/-- Where nothing is pinned but the very ends, and nothing is centred but the very middle, the response is the value,
or next to it. -/
theorem respond_near (ha : a.Reliable) {v : Rat} (hv : value.value? = some v) (h0 : 0 ≤ v) (h1 : v ≤ 1)
    (hdead : deadzone.value? = some 0) (hfull : saturation.value? = some 1) :
    ∃ w, (respond value deadzone saturation).value? = some w ∧ 0 ≤ w ∧ w ≤ 1 ∧ |w - v| ≤ 1 / 2 ^ 21 := by
  obtain ⟨d, hd, hnear⟩ := distance_near ha hv h0 h1
  obtain ⟨hlow, hhigh⟩ := abs_le.1 hnear
  have hmiddle : Number.half.lt value = true ↔ 1 / 2 < v := Number.lt_iff rfl hv
  rw [respond_eq]
  simp only [Number.le_iff hfull hd, Number.le_iff hd hdead, hmiddle]
  split
  · split
    · rw [abs_of_nonneg (by linarith)] at hhigh
      exact ⟨1, rfl, zero_le_one, le_rfl, abs_le.2 ⟨by linarith, by linarith⟩⟩
    · rw [abs_of_nonpos (by linarith)] at hhigh
      exact ⟨0, rfl, le_rfl, zero_le_one, abs_le.2 ⟨by linarith, by linarith⟩⟩
  · split
    · refine ⟨1 / 2, rfl, by norm_num, by norm_num, ?_⟩
      rw [abs_sub_comm]
      linarith
    · refine ⟨v, hv, h0, h1, ?_⟩
      rw [sub_self, abs_zero]
      positivity

/-! ## the range -/

/-- A share of a range is rounded twice: when it is taken, and when it is counted from the low end. Both results lie
between the ends. -/
theorem spread_of_value (ha : a.Reliable) {v : Rat} (hv : value.value? = some v) (h0 : 0 ≤ v) (h1 : v ≤ 1)
    (low high : Int32) :
    ∃ p t, (a.state (v * (high.toInt - low.toInt))).value? = some p ∧ (a.state (low.toInt + p)).value? = some t ∧
      ((min low.toInt high.toInt : Int) : Rat) ≤ t ∧ t ≤ ((max low.toInt high.toInt : Int) : Rat) ∧
      ∃ x : Number, x.value? = some t ∧ spread value low high = saturate x := by
  have hlow := low.le_toInt
  have hlow' := low.toInt_lt
  have hhigh := high.le_toInt
  have hhigh' := high.toInt_lt
  unfold spread Number.ofInt
  generalize low.toInt = l at hlow hlow' ⊢
  generalize high.toInt = h at hhigh hhigh' ⊢
  have hkeeps : ∀ k : Int, k.natAbs ≤ 2 ^ 32 → a.state.Keeps k := fun k hk => ha.state.keeps_int (by omega)
  have hzero : a.state.Keeps 0 := ha.state.keeps_zero
  -- the width of the range is exact
  have hwidth : (a.state.sub (.rat h) (.rat l)).value? = some ((h : Rat) - l) := by
    rw [Rounding.sub_rat]
    exact_mod_cast (hkeeps (h - l) (by omega)).value
  -- a share of it lies between nothing and all
  obtain ⟨p, hp, hp0, hp1⟩ : ∃ p, (a.state (v * (h - l))).value? = some p
      ∧ ((min 0 (h - l) : Int) : Rat) ≤ p ∧ p ≤ ((max 0 (h - l) : Int) : Rat) := by
    obtain ⟨hshare, hshare'⟩ := share_between h0 h1 (h - l : Rat)
    apply (hkeeps (min 0 (h - l)) (by omega)).between (hkeeps (max 0 (h - l)) (by omega)) <;>
    · push_cast
      assumption
  obtain ⟨t, ht, ht0, ht1⟩ : ∃ t, (a.state (l + p)).value? = some t
      ∧ ((min l h : Int) : Rat) ≤ t ∧ t ≤ ((max l h : Int) : Rat) := by
    apply (hkeeps (min l h) (by omega)).between (hkeeps (max l h) (by omega))
    · have : min l h = l + min 0 (h - l) := by omega
      rw [this]
      push_cast at hp0 ⊢
      linarith
    · have : max l h = l + max 0 (h - l) := by omega
      rw [this]
      push_cast at hp1 ⊢
      linarith
  refine ⟨p, t, hp, ht, ht0, ht1, _, ?_, rfl⟩
  rw [Rounding.value_add hzero rfl ((Rounding.value_mul hzero hv hwidth).trans hp), ht]

/-- A share of a range lies in it. -/
theorem spread_between (ha : a.Reliable) {v : Rat} (hv : value.value? = some v) (h0 : 0 ≤ v) (h1 : v ≤ 1)
    (low high : Int32) :
    min low.toInt high.toInt ≤ (spread value low high).toInt ∧
      (spread value low high).toInt ≤ max low.toInt high.toInt := by
  have hlow := low.le_toInt
  have hlow' := low.toInt_lt
  have hhigh := high.le_toInt
  have hhigh' := high.toInt_lt
  obtain ⟨-, t, -, -, ht0, ht1, x, hx, hspread⟩ := spread_of_value ha hv h0 h1 low high
  rw [hspread]
  exact saturate_between hx ht0 ht1 (by omega) (by omega)

/-- Over the range of sixteen bits, what is near a position gives that position. -/
theorem spread_near (ha : a.Reliable) {v : Rat} (hv : value.value? = some v) (h0 : 0 ≤ v) (h1 : v ≤ 1) {n : Int}
    (hn0 : 0 ≤ n) (hn1 : n ≤ 65535) (hnear : |v - n / 65535| ≤ 1 / 2 ^ 19) : spread value 0 65535 = .ofInt n := by
  obtain ⟨p, t, hp, ht, -, -, x, hx, hspread⟩ := spread_of_value ha hv h0 h1 0 65535
  have hlow : (0 : Int32).toInt = 0 := rfl
  have hhigh : (65535 : Int32).toInt = 65535 := rfl
  rw [hlow, hhigh, Int.cast_zero, sub_zero, Int.cast_ofNat] at hp
  rw [hlow, Int.cast_zero, zero_add] at ht
  have hsize : |v * 65535| ≤ 65535 := abs_le.2 ⟨by linarith, by linarith⟩
  have hpnear : |p - v * 65535| ≤ 1 / 2 ^ 8 := by
    obtain ⟨p', hp', hpnear⟩ := ha.state.near (v * 65535) (hsize.trans (by norm_num))
    obtain rfl := Option.some.inj (hp.symm.trans hp')
    linarith
  obtain ⟨hplow, hphigh⟩ := abs_le.1 hpnear
  have htnear : |t - p| ≤ 1 / 2 ^ 7 := by
    have hsize : |p| ≤ 65536 := abs_le.2 ⟨by linarith, by linarith⟩
    obtain ⟨t', ht', htnear⟩ := ha.state.near p (hsize.trans (by norm_num))
    obtain rfl := Option.some.inj (ht.symm.trans ht')
    linarith
  -- together the errors are less than one half
  have hround : roundAway t = n := by
    apply roundAway_eq
    obtain ⟨hlow, hhigh⟩ := abs_le.1 hnear
    obtain ⟨htlow, hthigh⟩ := abs_le.1 htnear
    exact abs_lt.2 ⟨by linarith, by linarith⟩
  have hends : max (-2147483648) (min 2147483647 n) = n := by omega
  rw [hspread, saturate_of_value hx, hround, hends]

/-! ## words of an axis -/

/-- The word of an axis is between the ends of its range, whatever it reads. -/
theorem axisWord_between (ha : a.Reliable) {o : DeviceObject} (ho : o.saturation ≤ fullScale)
    (hnumber : value.isNaN = false) :
    min o.rangeMin.toInt o.rangeMax.toInt ≤ (axisWord o value).toInt ∧
      (axisWord o value).toInt ≤ max o.rangeMin.toInt o.rangeMax.toInt := by
  obtain ⟨s, hs, -, hs1⟩ := value_fractionOf ha ho
  obtain ⟨w, hw, h0, h1⟩ := respond_within ha hnumber (fractionOf o.deadzone) hs hs1
  exact spread_between ha hw h0 h1 o.rangeMin o.rangeMax

/-- The properties every object starts with. -/
structure DeviceObject.Unadjusted (o : DeviceObject) : Prop where
  rangeMin : o.rangeMin = 0
  rangeMax : o.rangeMax = 65535
  deadzone : o.deadzone = 0
  saturation : o.saturation = fullScale

instance (o : DeviceObject) : Decidable o.Unadjusted :=
  decidable_of_iff (o.rangeMin = 0 ∧ o.rangeMax = 65535 ∧ o.deadzone = 0 ∧ o.saturation = fullScale)
    ⟨fun ⟨h1, h2, h3, h4⟩ => ⟨h1, h2, h3, h4⟩, fun ⟨h1, h2, h3, h4⟩ => ⟨h1, h2, h3, h4⟩⟩

/-- An axis with the properties it started with reports the position that its value is near to. -/
theorem axisWord_near (ha : a.Reliable) {o : DeviceObject} (ho : o.Unadjusted) {v : Rat}
    (hv : value.value? = some v) (h0 : 0 ≤ v) (h1 : v ≤ 1) {n : Int} (hn0 : 0 ≤ n) (hn1 : n ≤ 65535)
    (hnear : |v - n / 65535| ≤ 1 / 2 ^ 20) : axisWord o value = .ofInt n := by
  have hdead : (fractionOf 0).value? = some 0 := by
    simpa [fractionOf] using ha.state.keeps_zero.value
  have hfull : (fractionOf fullScale).value? = some 1 := by
    have hratio : mkRat fullScale fullScale = 1 := by decide +kernel
    rw [fractionOf, hratio]
    exact (ha.state.keeps_one (by norm_num)).value
  obtain ⟨w, hw, hw0, hw1, hwnear⟩ := respond_near ha hv h0 h1 hdead hfull
  unfold axisWord
  rw [ho.rangeMin, ho.rangeMax, ho.deadzone, ho.saturation]
  apply spread_near ha hw hw0 hw1 hn0 hn1
  have htriangle := abs_sub_le w v (n / 65535)
  linarith

end Response
end GamepadPool
