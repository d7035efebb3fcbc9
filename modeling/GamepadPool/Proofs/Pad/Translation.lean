import GamepadPool.Pad.RawState
import GamepadPool.Proofs.Number.Rounding
/-! # What a raw state is translated to
Translation sets one control after the other. Each control of the profile ends with what its own slot held, and every
other stays at rest. -/

namespace GamepadPool

/-! ## controls set in turn -/

/-- What no step changes, no run of steps changes. -/
theorem foldl_keeps {α β γ : Type} {f : β → α → β} (g : β → γ) (h : ∀ s a, g (f s a) = g s) (l : List α) (s : β) :
    g (l.foldl f s) = g s := by
  induction l generalizing s with
  | nil => rfl
  | cons a rest ih => rw [List.foldl_cons, ih, h]

namespace Snapshot

/-- What an axis holds once it was set. -/
def held (a : Axis) (x : Number) : Number := if x.isNaN then a.neutral else .clamp .zero .one x

theorem axis_foldl {axes : List Axis} (sets : Axis → Bool) (x : Axis → Number) (s : Snapshot) (a : Axis) :
    (axes.foldl (fun s a => if sets a then s.setAxis a (x a) else s) s).axis a =
      if a ∈ axes ∧ sets a = true then held a (x a) else s.axis a := by
  induction axes generalizing s with
  | nil => simp
  | cons b rest ih =>
    rw [List.foldl_cons, ih]
    by_cases hb : b = a
    · subst hb
      by_cases hset : sets b = true <;> simp [hset, axis_setAxis, held]
    · have hother : (if sets b = true then s.setAxis b (x b) else s).axis a = s.axis a := by
        split
        · rw [axis_setAxis, if_neg hb]
        · rfl
      simp [hother, Ne.symm hb]

variable {pairs : List (UInt8 × Button)} {b : Button}

theorem button_foldl_of_notMem (h : b ∉ pairs.map (·.2)) (s : Snapshot) :
    (pairs.foldl (fun s b => s.setButton b.2 (b.1 != 0)) s).button b = s.button b := by
  induction pairs generalizing s with
  | nil => rfl
  | cons p rest ih =>
    rw [List.map_cons, List.mem_cons, not_or] at h
    rw [List.foldl_cons, ih h.2, button_setButton, if_neg (Ne.symm h.1)]

theorem button_foldl_of_mem (hnodup : (pairs.map (·.2)).Nodup) {x : UInt8} (h : (x, b) ∈ pairs) (s : Snapshot) :
    (pairs.foldl (fun s b => s.setButton b.2 (b.1 != 0)) s).button b = (x != 0) := by
  induction pairs generalizing s with
  | nil => cases h
  | cons p rest ih =>
    rw [List.map_cons, List.nodup_cons] at hnodup
    rw [List.foldl_cons]
    rcases List.mem_cons.1 h with rfl | h
    · -- no later pair sets the same button
      rw [button_foldl_of_notMem hnodup.1, button_setButton, if_pos rfl]
    · exact ih hnodup.2 h _

end Snapshot

/-! ## slots -/

/-- The canonical slot that feeds a logical button. -/
def Button.slot (b : Button) : Fin 32 := ⟨Button.padOrder.idxOf b, by cases b <;> decide⟩

/-- The words of a hat that points somewhere. -/
def Hat.directions : List UInt32 := [0, 4500, 9000, 13500, 18000, 22500, 27000, 31500]

/-- A hat keeps its word where it points somewhere, and reports a centred one where it does not. -/
theorem Hat.toPov_ofPov? (w : UInt32) :
    ((Hat.ofPov? w).getD .neutral).toPov = if w ∈ Hat.directions then w else Hat.centred := by
  by_cases hw : w ∈ Hat.directions
  · rw [if_pos hw]
    simp only [Hat.directions, List.mem_cons, List.not_mem_nil, or_false] at hw
    rcases hw with rfl | rfl | rfl | rfl | rfl | rfl | rfl | rfl <;> rfl
  · rw [if_neg hw]
    unfold Hat.ofPov?
    split
    · rfl
    · have hnone : ((Hat.all.drop 1).find? fun h => h.toPov = w) = none := by
        rw [List.find?_eq_none]
        intro h hh
        have hdir : h.toPov ∈ Hat.directions := by
          revert h
          decide
        simp only [decide_eq_true_eq]
        rintro rfl
        exact hw hdir
      rw [hnone]
      rfl

namespace Profile

variable {p : Profile} {b : Button}

theorem getElem_buttons_slot (h : b ∈ p.buttons) : p.buttons[b.slot.val]? = some b := by
  revert b
  cases p <;> decide

theorem nodup_buttons (p : Profile) : p.buttons.Nodup := by cases p <;> decide

section

variable [Arithmetic] (p) (raw : RawState)

omit [Arithmetic] in
theorem axis_setButtons (s : Snapshot) (a : Axis) : (p.setButtons raw s).axis a = s.axis a := by
  refine foldl_keeps (·.axis a) (fun s b => ?_) _ s
  rfl

theorem button_setAxes (s : Snapshot) (b : Button) : (p.setAxes raw s).button b = s.button b := by
  refine foldl_keeps (·.button b) (fun s a => ?_) _ s
  split <;> rfl

theorem axis_translate (a : Axis) :
    (p.translate raw).axis a =
      if p.readsAxis a then Snapshot.held a (fraction (raw.axes.get (axisSlot a))) else a.neutral := by
  have hall : a ∈ Axis.all := by cases a <;> decide
  have hset : p.setAxes raw .neutral =
      Axis.all.foldl (fun s a => if p.readsAxis a then s.setAxis a (fraction (raw.axes.get (axisSlot a))) else s)
        .neutral := rfl
  rw [translate, Snapshot.axis_setHat, axis_setButtons, hset,
    Snapshot.axis_foldl p.readsAxis fun a => fraction (raw.axes.get (axisSlot a))]
  simp [hall]

theorem button_translate (b : Button) :
    (p.translate raw).button b = (p.buttons.contains b && raw.buttons.get b.slot != 0) := by
  have hsnd : (raw.buttons.toList.zip p.buttons).map (·.2) = p.buttons := by
    have hlen : p.buttons.length ≤ raw.buttons.toList.length := by
      rw [Vector.length_toList]
      cases p <;> decide
    exact List.map_snd_zip hlen
  rw [translate, Snapshot.button_setHat, setButtons]
  by_cases hb : b ∈ p.buttons
  · have hget : raw.buttons.toList[b.slot.val]? = some (raw.buttons.get b.slot) := by
      rw [Vector.getElem?_toList, Vector.getElem?_eq_getElem b.slot.isLt]
      rfl
    have hmem : (raw.buttons.get b.slot, b) ∈ raw.buttons.toList.zip p.buttons :=
      List.mem_iff_getElem?.2 ⟨b.slot, List.getElem?_zip_eq_some.2 ⟨hget, getElem_buttons_slot hb⟩⟩
    rw [Snapshot.button_foldl_of_mem (by rw [hsnd]; exact p.nodup_buttons) hmem]
    simp [hb]
  · rw [Snapshot.button_foldl_of_notMem (by rwa [hsnd]), button_setAxes]
    simp [hb]

theorem hat_translate :
    (p.translate raw).hat.toPov = if raw.povs[0]! ∈ Hat.directions then raw.povs[0]! else Hat.centred :=
  Hat.toPov_ofPov? _

end

end Profile

/-! ## axis values -/

/-- Where a raw axis stands, held within full scale. -/
def RawState.position (raw : Int32) : Nat := min rawMax raw.toInt.toNat

theorem Snapshot.value_held {x : Number} {v : Rat} (a : Axis) (hv : x.value? = some v) :
    (held a x).value? = some (max 0 (min 1 v)) := by
  have hnumber : x.isNaN = false := by rcases Number.value_eq_some.1 hv with rfl | ⟨rfl, -⟩ <;> rfl
  have hlow : x.lt .zero = true ↔ v < 0 := Number.lt_iff hv rfl
  have hhigh : Number.one.lt x = true ↔ 1 < v := Number.lt_iff rfl hv
  unfold held Number.clamp
  simp only [hnumber, hlow, hhigh, Bool.false_eq_true, if_false]
  split
  · rw [max_eq_left (by rw [min_le_iff]; exact .inr (by linarith))]
    rfl
  · split
    · rw [min_eq_left (by linarith), max_eq_right zero_le_one]
      rfl
    · rw [min_eq_right (by linarith), max_eq_right (by linarith), hv]

/-- A value between the bounds is held as it is. -/
theorem Snapshot.held_eq_self {x : Number} {v : Rat} (a : Axis) (hv : x.value? = some v) (h0 : 0 ≤ v) (h1 : v ≤ 1) :
    held a x = x := by
  have hnumber : x.isNaN = false := by rcases Number.value_eq_some.1 hv with rfl | ⟨rfl, -⟩ <;> rfl
  have hlow : ¬ x.lt .zero = true := fun h => absurd ((Number.lt_iff hv rfl).1 h) h0.not_gt
  have hhigh : ¬ Number.one.lt x = true := fun h => absurd ((Number.lt_iff rfl hv).1 h) h1.not_gt
  simp only [held, hnumber, Number.clamp, hlow, hhigh, Bool.false_eq_true, if_false]

/-- A number at or below zero is held at zero. -/
theorem Snapshot.held_of_le_zero {x : Number} (a : Axis) (h : x.le (.rat 0) = true) :
    (held a x).value? = some 0 := by
  rcases Number.le_rat_iff.1 h with rfl | ⟨v, hv, hle⟩
  · rfl
  · rw [value_held a hv, min_eq_right (hle.trans zero_le_one), max_eq_left hle]

/-- A number at or above one is held at one. -/
theorem Snapshot.held_of_one_le {x : Number} (a : Axis) (h : (Number.rat 1).le x = true) :
    (held a x).value? = some 1 := by
  rcases Number.rat_le_iff.1 h with rfl | ⟨v, hv, hle⟩
  · rfl
  · rw [value_held a hv, min_eq_left hle, max_eq_right zero_le_one]

namespace Profile

variable [a : Arithmetic] {raw : Int32}

theorem fraction_of_nonpos (ha : a.Reliable) (h : raw.toInt ≤ 0) : (fraction raw).le (.rat 0) = true := by
  have hzero : a.axis.Keeps 0 := ha.axis.keeps_zero
  have hraw := hzero.below raw.toInt (by exact_mod_cast h)
  unfold fraction Rounding.ratio
  split
  · rename_i p hp
    rw [hp] at hraw
    have hp0 : p ≤ 0 := (Number.le_iff rfl rfl).1 hraw
    exact hzero.below _ (div_nonpos_of_nonpos_of_nonneg hp0 (by positivity))
  · exact hraw

theorem one_le_fraction (ha : a.Reliable) (h : 65535 ≤ raw.toInt) : (Number.rat 1).le (fraction raw) = true := by
  have hone : a.axis.Keeps 1 := ha.axis.keeps_one (by norm_num)
  have hmax : a.axis.Keeps 65535 := by exact_mod_cast ha.axis.keeps_int (k := 65535) (by norm_num)
  have hraw := hmax.above raw.toInt (by exact_mod_cast h)
  unfold fraction Rounding.ratio
  split
  · rename_i p hp
    rw [hp] at hraw
    have hp1 : 65535 ≤ p := (Number.le_iff rfl rfl).1 hraw
    refine hone.above _ ?_
    rw [rawMax, le_div_iff₀ (by positivity)]
    push_cast
    linarith
  · -- a number so large that is no rational is infinite
    rcases Number.rat_le_iff.1 hraw with hinf | ⟨v, hv, hle⟩
    · rw [hinf]
      rfl
    · rcases Number.value_eq_some.1 hv with hrat | ⟨-, rfl⟩
      · rename_i hno
        exact absurd hrat (hno v)
      · norm_num at hle

/-- A raw value on the scale needs no rounding before it is divided. -/
theorem fraction_eq (ha : a.Reliable) (h0 : 0 ≤ raw.toInt) (h1 : raw.toInt ≤ 65535) :
    fraction raw = a.axis (raw.toInt / 65535) := by
  have hkeeps : a.axis.Keeps raw.toInt := ha.axis.keeps_int (by omega)
  unfold fraction Rounding.ratio
  rcases Number.value_eq_some.1 hkeeps.value with hrat | ⟨hneg, hzero⟩
  · rw [hrat]
    rfl
  · rw [hneg, hzero, zero_div, ← hzero, hneg]

theorem fraction_between (ha : a.Reliable) (h0 : 0 < raw.toInt) (h1 : raw.toInt < 65535) :
    ∃ v, (fraction raw).value? = some v ∧ 0 ≤ v ∧ v ≤ 1 ∧ |v - raw.toInt / 65535| ≤ 1 / 2 ^ 20 := by
  have hzero : a.axis.Keeps 0 := ha.axis.keeps_zero
  have hone : a.axis.Keeps 1 := ha.axis.keeps_one (by norm_num)
  have hq0 : (0 : Rat) ≤ raw.toInt / 65535 := by
    have : (0 : Rat) < raw.toInt := by exact_mod_cast h0
    positivity
  have hq1 : (raw.toInt : Rat) / 65535 ≤ 1 := by
    rw [div_le_one (by norm_num)]
    exact_mod_cast h1.le
  rw [fraction_eq ha h0.le h1.le]
  obtain ⟨v, hv, hv0, hv1⟩ := hzero.between hone hq0 hq1
  obtain ⟨w, hw, hnear⟩ := ha.axis.near (raw.toInt / 65535) (by rw [abs_of_nonneg hq0]; norm_num; linarith)
  obtain rfl : v = w := Option.some.inj (hv.symm.trans hw)
  rw [abs_of_nonneg hq0] at hnear
  exact ⟨v, hv, hv0, hv1, hnear.trans (by linarith)⟩

/-- An axis set from a raw value on the scale holds that fraction of it. -/
theorem held_fraction_eq (ha : a.Reliable) (x : Axis) (h0 : 0 ≤ raw.toInt) (h1 : raw.toInt ≤ 65535) :
    Snapshot.held x (fraction raw) = a.axis (raw.toInt / 65535) := by
  have hzero : a.axis.Keeps 0 := ha.axis.keeps_zero
  have hone : a.axis.Keeps 1 := ha.axis.keeps_one (by norm_num)
  have hq0 : (0 : Rat) ≤ raw.toInt / 65535 := div_nonneg (by exact_mod_cast h0) (by norm_num)
  have hq1 : (raw.toInt : Rat) / 65535 ≤ 1 := by
    rw [div_le_one (by norm_num)]
    exact_mod_cast h1
  obtain ⟨v, hv, hv0, hv1⟩ := hzero.between hone hq0 hq1
  rw [fraction_eq ha h0 h1, Snapshot.held_eq_self x hv hv0 hv1]

/-- An axis set from a raw value is near to where the raw value stands. -/
theorem held_fraction_near (ha : a.Reliable) (x : Axis) (raw : Int32) :
    ∃ v, (Snapshot.held x (fraction raw)).value? = some v ∧ 0 ≤ v ∧ v ≤ 1 ∧
      |v - (RawState.position raw : Int) / 65535| ≤ 1 / 2 ^ 20 := by
  rcases le_or_gt raw.toInt 0 with hlow | hlow
  · have hposition : RawState.position raw = 0 := by
      unfold RawState.position
      omega
    refine ⟨0, Snapshot.held_of_le_zero x (fraction_of_nonpos ha hlow), le_rfl, zero_le_one, ?_⟩
    rw [hposition]
    norm_num
  rcases le_or_gt 65535 raw.toInt with hhigh | hhigh
  · have hposition : RawState.position raw = 65535 := by
      unfold RawState.position rawMax
      omega
    refine ⟨1, Snapshot.held_of_one_le x (one_le_fraction ha hhigh), zero_le_one, le_rfl, ?_⟩
    rw [hposition]
    norm_num
  · have hposition : (RawState.position raw : Int) = raw.toInt := by
      unfold RawState.position rawMax
      omega
    obtain ⟨v, hv, h0, h1, hnear⟩ := fraction_between ha hlow hhigh
    refine ⟨v, ?_, h0, h1, by rwa [hposition]⟩
    rw [Snapshot.value_held x hv, min_eq_right h1, max_eq_right h0]

end Profile
end GamepadPool
