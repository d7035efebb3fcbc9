import GamepadPool.Pad.EventNode
import Mathlib.Algebra.Order.Ring.Int
/-! # From a node's range to the full scale
A value is held inside its range and moved to the same place of the full scale, rounded down. Its distance from the
lower end decides where it goes, so most of this is about quotients of distances. In words of 64 bits no step of it can
go wrong. -/

namespace GamepadPool

/-! ## distances -/

/-- Where a distance from the lower end comes to lie on the full scale, over a range that is `span` long. -/
def onScale (span distance : Int) : Int := distance * 65535 / span

section Distances

variable {span k l : Int}

theorem onScale_zero (span : Int) : onScale span 0 = 0 := by simp [onScale]

theorem onScale_self (hspan : 0 < span) : onScale span span = 65535 := Int.mul_ediv_cancel_left 65535 hspan.ne'

theorem onScale_mono (hspan : 0 < span) (h : k ≤ l) : onScale span k ≤ onScale span l := by
  apply Int.ediv_le_ediv hspan
  omega

theorem onScale_between (hspan : 0 < span) (h0 : 0 ≤ k) (h1 : k ≤ span) :
    0 ≤ onScale span k ∧ onScale span k ≤ 65535 := by
  have hlow := onScale_mono hspan h0
  have hhigh := onScale_mono hspan h1
  rw [onScale_zero] at hlow
  rw [onScale_self hspan] at hhigh
  exact ⟨hlow, hhigh⟩

/-- Over a range with no more steps than the scale, the next distance is at least one place further. -/
theorem onScale_strictMono (hspan : 0 < span) (hnarrow : span ≤ 65535) (h : k < l) :
    onScale span k < onScale span l := by
  apply Int.lt_of_add_one_le
  calc onScale span k + 1 = (k * 65535 + span) / span := by
        rw [Int.add_ediv_of_dvd_right (dvd_refl span), Int.ediv_self hspan.ne', onScale]
    _ ≤ onScale span l := Int.ediv_le_ediv hspan (by omega)

/-- Over a range with no fewer, the least distance that reaches a place stays below the next one. -/
theorem onScale_surjective (hwide : 65535 ≤ span) {place : Int} (h0 : 0 ≤ place) (h1 : place ≤ 65535) :
    ∃ k, 0 ≤ k ∧ k ≤ span ∧ onScale span k = place := by
  have hspan : 0 < span := by omega
  have hnonneg : 0 ≤ place * span := Int.mul_nonneg h0 hspan.le
  have hfull : place * span ≤ 65535 * span := Int.mul_le_mul_of_nonneg_right h1 hspan.le
  refine ⟨(place * span + 65534) / 65535, by omega, by omega, ?_⟩
  generalize hk : (place * span + 65534) / 65535 = k
  have hreaches : place ≤ onScale span k := (Int.le_ediv_iff_mul_le hspan).2 (by omega)
  have hbelow : onScale span k < place + 1 := by
    refine (Int.ediv_lt_iff_lt_mul hspan).2 ?_
    rw [Int.add_mul, Int.one_mul]
    omega
  omega

end Distances

/-! ## values -/

section Values

variable {min max value v w : Int32}

/-- How far a value, held inside its range, is from the lower end. -/
def distanceIn (min max value : Int32) : Int := Max.max min.toInt (Min.min max.toInt value.toInt) - min.toInt

theorem distanceIn_between (h : min.toInt < max.toInt) (value : Int32) :
    0 ≤ distanceIn min max value ∧ distanceIn min max value ≤ max.toInt - min.toInt := by
  unfold distanceIn
  omega

theorem distanceIn_mono (min max : Int32) (h : v.toInt ≤ w.toInt) : distanceIn min max v ≤ distanceIn min max w := by
  unfold distanceIn
  omega

theorem distanceIn_of_mem (hlow : min.toInt ≤ value.toInt) (hhigh : value.toInt ≤ max.toInt) :
    distanceIn min max value = value.toInt - min.toInt := by
  unfold distanceIn
  omega

theorem toInt_normalise_of_empty (h : max.toInt ≤ min.toInt) (value : Int32) :
    (normalise value min max).toInt = 32767 := by
  rw [normalise, if_pos h]
  rfl

theorem toInt_normalise (h : min.toInt < max.toInt) (value : Int32) :
    (normalise value min max).toInt = onScale (max.toInt - min.toInt) (distanceIn min max value) := by
  obtain ⟨h0, h1⟩ := distanceIn_between h value
  obtain ⟨hlow, hhigh⟩ := onScale_between (Int.sub_pos.2 h) h0 h1
  rw [normalise, if_neg h.not_ge]
  exact Int32.toInt_ofInt_of_le (n := onScale (max.toInt - min.toInt) (distanceIn min max value)) (by omega) (by omega)

/-- Whatever its range, a value comes to lie on the full scale. -/
theorem normalise_between (value min max : Int32) :
    0 ≤ (normalise value min max).toInt ∧ (normalise value min max).toInt ≤ 65535 := by
  rcases le_or_gt max.toInt min.toInt with h | h
  · rw [toInt_normalise_of_empty h]
    decide
  · obtain ⟨h0, h1⟩ := distanceIn_between h value
    rw [toInt_normalise h]
    exact onScale_between (Int.sub_pos.2 h) h0 h1

end Values

/-! ## machine words -/

namespace MachineWord

/-- An integer as a word of 64 bits, if it is one. -/
def ofInt? (n : Int) : Option Int64 :=
  if -2 ^ 63 ≤ n ∧ n < 2 ^ 63 then some (.ofInt n) else none

def sub? (a b : Int64) : Option Int64 := ofInt? (a.toInt - b.toInt)

def mul? (a b : Int64) : Option Int64 := ofInt? (a.toInt * b.toInt)

/-- Rounded towards zero. -/
def div? (a b : Int64) : Option Int64 := if b = 0 then none else ofInt? (a.toInt.tdiv b.toInt)

/-- Holding a value asks for bounds in order. -/
def clamp? (value low high : Int32) : Option Int32 :=
  if low ≤ high then some (if value < low then low else if high < value then high else value) else none

/-- The rescaling as a machine computes it, word by word; nothing where a step would go wrong. -/
def normalise? (value min max : Int32) : Option Int32 :=
  if max ≤ min then some (.ofInt (rawMax / 2 : Nat))
  else do
    let span ← sub? max.toInt64 min.toInt64
    let held ← clamp? value min max
    let distance ← sub? held.toInt64 min.toInt64
    let product ← mul? distance (.ofNat rawMax)
    let quotient ← div? product span
    return quotient.toInt32

theorem ofInt?_eq_some {n : Int} (h0 : -2 ^ 63 ≤ n) (h1 : n < 2 ^ 63) : ∃ a, ofInt? n = some a ∧ a.toInt = n :=
  ⟨.ofInt n, if_pos ⟨h0, h1⟩, Int64.toInt_ofInt_of_le h0 h1⟩

theorem clamp?_eq_some {low high : Int32} (h : low ≤ high) (value : Int32) :
    ∃ held, clamp? value low high = some held ∧ held.toInt = Max.max low.toInt (Min.min high.toInt value.toInt) := by
  refine ⟨_, if_pos h, ?_⟩
  rw [Int32.le_iff_toInt_le] at h
  simp only [Int32.lt_iff_toInt_lt]
  split
  · omega
  · split <;> omega

/-- No step goes wrong, and what comes out is the rescaled value. -/
theorem normalise?_eq (value min max : Int32) : normalise? value min max = some (normalise value min max) := by
  unfold normalise?
  split
  · rename_i hempty
    rw [normalise, if_pos (Int32.le_iff_toInt_le.1 hempty)]
  · rename_i hrange
    rw [Int32.le_iff_toInt_le, Int.not_le] at hrange
    have hmin := min.le_toInt
    have hmax := max.toInt_lt
    obtain ⟨h0, h1⟩ := distanceIn_between hrange value
    obtain ⟨hlow, hhigh⟩ := onScale_between (Int.sub_pos.2 hrange) h0 h1
    obtain ⟨span, hspan, hspanInt⟩ : ∃ a, sub? max.toInt64 min.toInt64 = some a ∧ a.toInt = max.toInt - min.toInt := by
      rw [sub?, Int32.toInt_toInt64, Int32.toInt_toInt64]
      exact ofInt?_eq_some (by omega) (by omega)
    obtain ⟨held, hheld, hheldInt⟩ := clamp?_eq_some (Int32.le_iff_toInt_le.2 hrange.le) value
    obtain ⟨distance, hdistance, hdistanceInt⟩ :
        ∃ a, sub? held.toInt64 min.toInt64 = some a ∧ a.toInt = distanceIn min max value := by
      rw [sub?, Int32.toInt_toInt64, Int32.toInt_toInt64, hheldInt]
      exact ofInt?_eq_some (n := distanceIn min max value) (by omega) (by omega)
    obtain ⟨product, hproduct, hproductInt⟩ :
        ∃ a, mul? distance (.ofNat rawMax) = some a ∧ a.toInt = distanceIn min max value * 65535 := by
      rw [mul?, hdistanceInt]
      exact ofInt?_eq_some (n := distanceIn min max value * 65535) (by omega) (by omega)
    obtain ⟨quotient, hquotient, hquotientInt⟩ :
        ∃ a, div? product span = some a ∧ a.toInt = onScale (max.toInt - min.toInt) (distanceIn min max value) := by
      have hzero : span ≠ 0 := by
        rintro rfl
        change (0 : Int) = _ at hspanInt
        omega
      rw [div?, if_neg hzero, hproductInt, hspanInt, Int.tdiv_eq_ediv_of_nonneg (by omega)]
      exact ofInt?_eq_some (n := onScale (max.toInt - min.toInt) (distanceIn min max value)) (by omega) (by omega)
    have hresult : quotient.toInt32 = normalise value min max := by
      rw [← Int32.toInt_inj, Int64.toInt_toInt32, hquotientInt, toInt_normalise hrange]
      exact Int.bmod_eq_of_le (by omega) (by omega)
    simp [hspan, hheld, hdistance, hproduct, hquotient, hresult]

end MachineWord

/-- For every range and every value, the rescaling runs through in machine words and ends on the full scale. Over a
range that is not empty it keeps the order, sends the lower end and what is below it to zero and the upper end and what
is above it to the full scale; it tells all values of a narrow range apart, and reaches every place from a wide one.
Over an empty range it is in the middle. -/
theorem normalise_sound (min max : Int32) :
    (∀ value, MachineWord.normalise? value min max = some (normalise value min max) ∧
      0 ≤ (normalise value min max).toInt ∧ (normalise value min max).toInt ≤ 65535) ∧
    (min < max →
      (∀ v w, v ≤ w → normalise v min max ≤ normalise w min max) ∧
      (∀ value, value ≤ min → normalise value min max = 0) ∧
      (∀ value, max ≤ value → normalise value min max = 65535) ∧
      (max.toInt - min.toInt ≤ 65535 →
        ∀ v w, min ≤ v → v < w → w ≤ max → normalise v min max < normalise w min max) ∧
      (65535 ≤ max.toInt - min.toInt →
        ∀ place : Int32, 0 ≤ place → place ≤ 65535 →
          ∃ value, min ≤ value ∧ value ≤ max ∧ normalise value min max = place)) ∧
    (max ≤ min → ∀ value, normalise value min max = 32767) := by
  refine ⟨fun value => ⟨MachineWord.normalise?_eq value min max, normalise_between value min max⟩, fun hrange => ?_,
    fun hempty value => ?_⟩
  · rw [Int32.lt_iff_toInt_lt] at hrange
    have hspan := Int.sub_pos.2 hrange
    simp only [Int32.lt_iff_toInt_lt, Int32.le_iff_toInt_le, ← Int32.toInt_inj, toInt_normalise hrange]
    refine ⟨fun v w h => ?_, fun value h => ?_, fun value h => ?_, fun hnarrow v w hv h hw => ?_,
      fun hwide place h0 h1 => ?_⟩
    · exact onScale_mono hspan (distanceIn_mono min max h)
    · have hdistance : distanceIn min max value = 0 := by
        unfold distanceIn
        omega
      rw [hdistance, onScale_zero]
      rfl
    · have hdistance : distanceIn min max value = max.toInt - min.toInt := by
        unfold distanceIn
        omega
      rw [hdistance, onScale_self hspan]
      rfl
    · rw [distanceIn_of_mem hv (by omega), distanceIn_of_mem (by omega) hw]
      exact onScale_strictMono hspan hnarrow (by omega)
    · obtain ⟨k, hk0, hk1, hk⟩ := onScale_surjective hwide h0 h1
      have hvalue : (Int32.ofInt (min.toInt + k)).toInt = min.toInt + k := by
        have hmin := min.le_toInt
        have hmax := max.toInt_lt
        exact Int32.toInt_ofInt_of_le (by omega) (by omega)
      refine ⟨.ofInt (min.toInt + k), by omega, by omega, ?_⟩
      rw [distanceIn_of_mem (by omega) (by omega), hvalue, add_sub_cancel_left, hk]
  · rw [← Int32.toInt_inj, toInt_normalise_of_empty (Int32.le_iff_toInt_le.1 hempty)]
    rfl

/-- The range of a stick is narrow and wide at once: its values and the places of the full scale go in pairs. -/
theorem normalise_sound_of_stick :
    (-32768 : Int32) < 32767 ∧ (32767 : Int32).toInt - (-32768 : Int32).toInt = 65535 ∧
      normalise (-1) (-32768) 32767 < normalise 0 (-32768) 32767 ∧
      (∃ value, -32768 ≤ value ∧ value ≤ 32767 ∧ normalise value (-32768) 32767 = 40000) ∧
      normalise (-2147483648) 5 5 = 32767 := by
  obtain ⟨-, hstick, -⟩ := normalise_sound (-32768) 32767
  obtain ⟨-, -, -, hnarrow, hwide⟩ := hstick (by decide)
  obtain ⟨-, -, hempty⟩ := normalise_sound 5 5
  exact ⟨by decide, by decide, hnarrow (by decide) _ _ (by decide) (by decide) (by decide),
    hwide (by decide) 40000 (by decide) (by decide), hempty (by decide) _⟩

end GamepadPool
