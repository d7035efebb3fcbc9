import GamepadPool.Proofs.Pad.Translation
import GamepadPool.StickFilter
/-! # What the input filter does
The filter moves the left stick and nothing else. Each axis of the stick is put where it is left alone from then on, so
filtering twice is filtering once. -/

namespace GamepadPool

/-! ## exact places -/

/-- A number from zero to one; a negative zero is one of them. -/
def Number.IsFraction (x : Number) : Prop := ∃ v, x.value? = some v ∧ 0 ≤ v ∧ v ≤ 1

theorem Rounding.mul_rat (r : Rounding) (p q : Rat) : r.mul (.rat p) (.rat q) = r (p * q) := rfl

theorem Rounding.add_rat (r : Rounding) (p q : Rat) : r.add (.rat p) (.rat q) = r (p + q) := rfl

/-- Halves are exact. -/
theorem Arithmetic.axis_eq {a : Arithmetic} (h : a = .exact ∨ a = .binary) {q : Rat} (k : Int) (hq : q = k / 2)
    (hk : k.natAbs ≤ 2) : a.axis q = .rat q := by
  by_cases hzero : q = 0
  · rw [hzero]
    rcases h with rfl | rfl <;> rfl
  · have hvalue := ((reliable_of h).axis.keeps k (by omega)).value
    rw [← hq] at hvalue
    exact (Number.value_eq_some.1 hvalue).resolve_right fun hneg => hzero hneg.2

/-! ## snapshots -/

/-- The axes a filter may move. -/
def Axis.isLeftStick : Axis → Bool
  | leftStickX | leftStickY => true
  | _ => false

theorem Axis.neutral_of_isLeftStick {x : Axis} (h : x.isLeftStick = true) : x.neutral = .half := by
  cases x with
  | leftStickX | leftStickY => rfl
  | _ => cases h

namespace Snapshot

/-- The left stick is somewhere between its ends. -/
def StickInRange (s : Snapshot) : Prop := ∀ x, x.isLeftStick = true → (s.axis x).IsFraction

theorem eq_of_axes {s t : Snapshot} (haxes : ∀ x, s.axis x = t.axis x) (hbuttons : s.buttons = t.buttons)
    (hhat : s.hat = t.hat) : s = t := by
  obtain ⟨axes, buttons, hat⟩ := s
  obtain ⟨axes', buttons', hat'⟩ := t
  have hindices : ∀ i : Fin 6, ∃ x ∈ Axis.all, x.index = i := by decide
  have hvalues (i : Fin 6) : axes[i] = axes'[i] := by
    obtain ⟨x, -, rfl⟩ := hindices i
    exact haxes x
  obtain rfl : axes = axes' := Vector.ext fun i hi => hvalues ⟨i, hi⟩
  obtain rfl := hbuttons
  obtain rfl := hhat
  rfl

/-- The ends and the centre of an axis are held as they are. -/
theorem held_of_mem (x : Axis) {v : Number} (h : v ∈ [Number.zero, .half, .one]) : held x v = v := by
  simp only [List.mem_cons, List.not_mem_nil, or_false] at h
  rcases h with rfl | rfl | rfl
  · exact held_eq_self x rfl le_rfl zero_le_one
  · exact held_eq_self x rfl (by norm_num) (by norm_num)
  · exact held_eq_self x rfl zero_le_one le_rfl

/-- Both axes of the left stick set, one after the other. -/
theorem axis_setStick (s : Snapshot) (place : Axis → Number) (x : Axis) :
    ((s.setAxis .leftStickX (place .leftStickX)).setAxis .leftStickY (place .leftStickY)).axis x =
      if x.isLeftStick then held x (place x) else s.axis x := by
  rw [axis_setAxis, axis_setAxis]
  cases x <;> rfl

/-- The left stick a quarter of the way along, and the hat held. -/
def tilted : Snapshot :=
  { neutral with axes := #v[.rat (1 / 4), .half, .half, .half, .zero, .zero], hat := .north }

theorem stickInRange_tilted : tilted.StickInRange
  | .leftStickX, _ => ⟨1 / 4, rfl, by norm_num, by norm_num⟩
  | .leftStickY, _ => ⟨1 / 2, rfl, by norm_num, by norm_num⟩

end Snapshot

namespace StickFilter

/-! ## snapping -/

section Snapping

variable [a : Arithmetic] (ha : a = .exact ∨ a = .binary)
include ha

/-- On the way from a side and a magnitude to a place, no step is rounded. -/
theorem place_eq {side magnitude : Rat} (hside : side = 1 ∨ side = -1) (hmagnitude : magnitude = 0 ∨ magnitude = 1) :
    a.axis.add .half (a.axis.mul (a.axis.mul .half (.rat side)) (.rat magnitude)) =
      .rat ((1 + side * magnitude) / 2) := by
  obtain ⟨s, rfl, hs⟩ : ∃ s : Int, side = s ∧ s.natAbs ≤ 1 := by
    rcases hside with rfl | rfl
    · exact ⟨1, by norm_num, by decide⟩
    · exact ⟨-1, by norm_num, by decide⟩
  obtain ⟨m, rfl, hm⟩ : ∃ m : Int, magnitude = m ∧ m.natAbs ≤ 1 := by
    rcases hmagnitude with rfl | rfl
    · exact ⟨0, by norm_num, by decide⟩
    · exact ⟨1, by norm_num, by decide⟩
  have hproduct : (s * m).natAbs ≤ 1 := (Int.natAbs_mul s m).trans_le (Nat.mul_le_mul hs hm)
  have hhalf : a.axis (1 / 2 * s) = .rat (1 / 2 * s) := Arithmetic.axis_eq ha s (by ring) (by omega)
  have hstep : a.axis (1 / 2 * s * m) = .rat (1 / 2 * s * m) :=
    Arithmetic.axis_eq ha (s * m) (by push_cast; ring) (by omega)
  have hplace : a.axis (1 / 2 + 1 / 2 * s * m) = .rat (1 / 2 + 1 / 2 * s * m) :=
    Arithmetic.axis_eq ha (1 + s * m) (by push_cast; ring) (by omega)
  rw [Number.half, Rounding.mul_rat, hhalf, Rounding.mul_rat, hstep, Rounding.add_rat, hplace]
  congr 1
  ring

/-- A value that is far enough from the centre is put to the end on its side, any other to the centre. -/
theorem snap_eq (t v : Number) :
    snap t v = if t.lt (deflection v).2 then (if Number.half.lt v then .one else .zero) else .half := by
  have hside : (deflection v).1 = .rat (if Number.half.lt v then 1 else -1) := by
    unfold deflection
    dsimp only
    split <;> rfl
  have hmagnitude : (if t.lt (deflection v).2 then Number.one else .zero) =
      .rat (if t.lt (deflection v).2 then 1 else 0) := by
    split <;> rfl
  have hsides : (if Number.half.lt v then (1 : Rat) else -1) = 1 ∨
      (if Number.half.lt v then (1 : Rat) else -1) = -1 := by
    split <;> simp
  have hmagnitudes : (if t.lt (deflection v).2 then (1 : Rat) else 0) = 0 ∨
      (if t.lt (deflection v).2 then (1 : Rat) else 0) = 1 := by
    split <;> simp
  have hplace := place_eq ha hsides hmagnitudes
  rw [← hside, ← hmagnitude] at hplace
  refine hplace.trans ?_
  split <;> split <;> norm_num [Number.half, Number.one, Number.zero]

/-- A snapped value is at an end or in the centre. -/
theorem snap_mem (t v : Number) : snap t v ∈ [Number.zero, .half, .one] := by
  rw [snap_eq ha]
  split
  · split <;> simp
  · simp

omit ha in
/-- The distance is rounded once before it is doubled, on either side. -/
theorem distance_eq {v : Number} {q : Rat} (hv : v.value? = some q) :
    (deflection v).2 = a.axis.mul (a.axis |q - 1 / 2|) (.rat 2) := by
  have hside : Number.half.lt v = true ↔ 1 / 2 < q := Number.lt_iff rfl hv
  unfold deflection
  dsimp only
  by_cases h : 1 / 2 < q
  · rw [if_pos (hside.2 h), abs_of_pos (sub_pos.2 h)]
    exact congrArg (a.axis.mul · (.rat 2)) (a.axis.sub_of_value hv (by norm_num))
  · rw [if_neg (mt hside.1 h), abs_of_nonpos (sub_nonpos.2 (not_lt.1 h)), neg_sub]
    rcases Number.value_eq_some.1 hv with rfl | ⟨rfl, rfl⟩
    · exact congrArg (a.axis.mul · (.rat 2)) (a.axis.sub_rat _ _)
    · simp [Number.half, Rounding.sub, Number.neg, Rounding.add]

theorem distance_rat {q : Rat} (k : Int) (hk : k.natAbs ≤ 1) (hq : |q - 1 / 2| = k / 2) :
    (deflection (.rat q)).2 = .rat k := by
  have hhalf : a.axis (k / 2) = .rat (k / 2) := Arithmetic.axis_eq ha k rfl (by omega)
  have hdouble : a.axis (k / 2 * 2) = .rat (k / 2 * 2) := Arithmetic.axis_eq ha (2 * k) (by push_cast; ring) (by omega)
  rw [distance_eq (Number.value_rat q), hq, hhalf, Rounding.mul_rat, hdouble, div_mul_cancel₀ _ two_ne_zero]

/-- No fraction is further from the centre than the ends are. -/
theorem distance_le_one {v : Number} (hv : v.IsFraction) : ∃ d, (deflection v).2.value? = some d ∧ d ≤ 1 := by
  obtain ⟨q, hq, h0, h1⟩ := hv
  have hzero : a.axis.Keeps 0 := (Arithmetic.reliable_of ha).axis.keeps_zero
  have hhalf : a.axis.Keeps (1 / 2) := by
    rw [← Int.cast_one]
    exact (Arithmetic.reliable_of ha).axis.keeps 1 (by decide)
  have hone : a.axis.Keeps 1 := (Arithmetic.reliable_of ha).axis.keeps_one (by norm_num)
  obtain ⟨w, hw, hw0, hw1⟩ := hzero.between hhalf (abs_nonneg (q - 1 / 2)) (by rw [abs_le]; constructor <;> linarith)
  obtain ⟨d, hd, -, hd1⟩ := hzero.between hone (q := w * 2) (by linarith) (by linarith)
  refine ⟨d, ?_, hd1⟩
  rw [distance_eq hq, Rounding.value_mul hzero hw (Number.value_rat 2), hd]

/-- No threshold is below the distance of the centre from itself. -/
theorem snap_half {t : Number} (ht : t.IsFraction) : snap t .half = .half := by
  obtain ⟨p, hp, hp0, -⟩ := ht
  have hcentre : (deflection .half).2 = .rat 0 := by
    exact_mod_cast distance_rat ha 0 (by decide) (by norm_num)
  rw [snap_eq ha, hcentre, if_neg fun h => absurd ((Number.lt_iff hp rfl).1 h) hp0.not_gt]

/-- Snapped once, a value stays where it is: an end is at least as far from the centre as the value that was put
there. -/
theorem snap_snap {t v : Number} (ht : t.IsFraction) (hv : v.IsFraction) : snap t (snap t v) = snap t v := by
  have hfixed := snap_half ha ht
  obtain ⟨p, hp, -, -⟩ := ht
  obtain ⟨d, hd, hd1⟩ := distance_le_one ha hv
  have hright : (deflection .one).2 = .rat 1 := by
    exact_mod_cast distance_rat ha 1 (by decide) (by norm_num)
  have hleft : (deflection .zero).2 = .rat 1 := by
    exact_mod_cast distance_rat ha 1 (by decide) (by norm_num)
  rw [snap_eq ha t v]
  split
  · rename_i hfar
    have hend : t.lt (.rat 1) = true := (Number.lt_iff hp rfl).2 (((Number.lt_iff hp hd).1 hfar).trans_le hd1)
    split
    · rw [snap_eq ha, hright, if_pos hend, if_pos ((Number.lt_iff rfl rfl).2 (by norm_num))]
    · rw [snap_eq ha, hleft, if_pos hend, if_neg fun h => absurd ((Number.lt_iff rfl rfl).1 h) (by norm_num)]
  · exact hfixed

end Snapping

/-! ## filtering -/

/-- An inert filter changes nothing. -/
theorem apply_of_isInert [Arithmetic] {f : StickFilter} (h : f.isInert = true) (s : Snapshot) : f.apply s = s := by
  obtain ⟨overrides, threshold⟩ := f
  simp only [isInert, Bool.and_eq_true, Bool.not_eq_true', Option.isNone_iff_eq_none] at h
  obtain ⟨rfl, rfl⟩ := h
  rfl

section Filtering

variable [a : Arithmetic] (f : StickFilter)

/-- What a filter makes of a stick axis while the hat is held so. -/
def filtered (hat : Hat) (v : Number) : Number :=
  let v := if f.hatOverridesStick && hat != .neutral then .half else v
  match f.threshold with
  | some t => snap t v
  | .none => v

theorem buttons_apply (s : Snapshot) : (f.apply s).buttons = s.buttons := by
  unfold apply
  dsimp only
  split <;> split <;> rfl

theorem hat_apply (s : Snapshot) : (f.apply s).hat = s.hat := by
  unfold apply
  dsimp only
  split <;> split <;> rfl

variable (ha : a = .exact ∨ a = .binary)
include ha

theorem axis_apply (s : Snapshot) (x : Axis) :
    (f.apply s).axis x = if x.isLeftStick then f.filtered s.hat (s.axis x) else s.axis x := by
  have hcentred : ∀ overrides : Bool, (if overrides then centreStick s else s).axis x =
      if x.isLeftStick then (if overrides then .half else s.axis x) else s.axis x := by
    intro overrides
    cases overrides
    · simp
    · refine (s.axis_setStick (fun _ => .half) x).trans ?_
      simp [Snapshot.held_of_mem]
  obtain ⟨overrides, threshold⟩ := f
  cases threshold with
  | none => exact hcentred _
  | some t =>
    refine (Snapshot.axis_setStick _ (fun x => snap t (Snapshot.axis _ x)) x).trans ?_
    rw [Snapshot.held_of_mem x (snap_mem ha t _), hcentred]
    cases x.isLeftStick <;> rfl

theorem filtered_mem (h : f.threshold.isSome = true) (hat : Hat) (v : Number) :
    f.filtered hat v ∈ [Number.zero, .half, .one] := by
  obtain ⟨t, ht⟩ := Option.isSome_iff_exists.1 h
  rw [filtered, ht]
  exact snap_mem ha t _

/-- The centre stays the centre, whether the hat or the threshold has put the axis there. -/
theorem filtered_half (hf : ∀ t, f.threshold = some t → t.IsFraction) (hat : Hat) : f.filtered hat .half = .half := by
  unfold filtered
  rw [ite_self]
  cases ht : f.threshold with
  | none => rfl
  | some t => exact snap_half ha (hf t ht)

theorem filtered_filtered (hf : ∀ t, f.threshold = some t → t.IsFraction) (hat : Hat) {v : Number} (hv : v.IsFraction) :
    f.filtered hat (f.filtered hat v) = f.filtered hat v := by
  by_cases hover : (f.hatOverridesStick && hat != .neutral) = true
  · have hcentred : ∀ v, f.filtered hat v = f.filtered hat .half := by
      intro v
      simp only [filtered, hover, if_true]
    rw [hcentred v, filtered_half f ha hf]
    exact filtered_half f ha hf hat
  · simp only [filtered, hover]
    cases ht : f.threshold with
    | none => rfl
    | some t => exact snap_snap ha (hf t ht) hv

/-- A quarter of the way along, with the hat held, nothing but an inert filter leaves a stick axis. -/
theorem isInert_of_filtered (h : f.filtered .north (.rat (1 / 4)) = .rat (1 / 4)) : f.isInert = true := by
  have hquarter : ¬ Number.rat (1 / 4) ∈ [Number.zero, .half, .one] := by decide +kernel
  obtain ⟨overrides, threshold⟩ := f
  cases threshold with
  | some t =>
    have hmem := filtered_mem ⟨overrides, some t⟩ ha rfl .north (.rat (1 / 4))
    rw [h] at hmem
    exact absurd hmem hquarter
  | none =>
    cases overrides
    · rfl
    · have hhalf : Number.half = .rat (1 / 4) := h
      exact absurd (hhalf ▸ by simp) hquarter

end Filtering

/-- A filter whose threshold, if it has one, is a fraction, is a projection that moves the left stick alone: filtering a
snapshot again changes nothing, with a threshold the stick is at its ends or in its centre, and a neutral snapshot stays
neutral. The filter that says it is inert is the one that leaves every snapshot as it is; a tilted stick with the hat
held is enough to tell. -/
theorem projects_stick [a : Arithmetic] (ha : a = .exact ∨ a = .binary) (f : StickFilter)
    (hf : ∀ t, f.threshold = some t → t.IsFraction) :
    (∀ s : Snapshot, s.StickInRange →
      f.apply (f.apply s) = f.apply s ∧
      (∀ x : Axis, x.isLeftStick = false → (f.apply s).axis x = s.axis x) ∧
      (f.apply s).buttons = s.buttons ∧ (f.apply s).hat = s.hat ∧
      (f.threshold.isSome = true → ∀ x : Axis, x.isLeftStick = true →
        (f.apply s).axis x ∈ [Number.zero, .half, .one])) ∧
    f.apply .neutral = .neutral ∧
    (f.isInert = true ↔ ∀ s : Snapshot, s.StickInRange → f.apply s = s) ∧
    (f.isInert = true ↔ f.apply .tilted = .tilted) := by
  have hinert : f.apply .tilted = .tilted → f.isInert = true := by
    intro h
    have haxis := f.axis_apply ha .tilted .leftStickX
    rw [h] at haxis
    exact f.isInert_of_filtered ha haxis.symm
  refine ⟨fun s hs => ⟨?_, fun x hx => ?_, f.buttons_apply s, f.hat_apply s, fun hsome x hx => ?_⟩, ?_,
    ⟨fun h s _ => apply_of_isInert h s, fun h => hinert (h _ Snapshot.stickInRange_tilted)⟩,
    ⟨fun h => apply_of_isInert h _, hinert⟩⟩
  · refine Snapshot.eq_of_axes (fun x => ?_) (f.buttons_apply _) (f.hat_apply _)
    rw [axis_apply _ ha, axis_apply _ ha, hat_apply]
    split
    · rename_i hx
      exact f.filtered_filtered ha hf s.hat (hs x hx)
    · rfl
  · rw [axis_apply _ ha, hx]
    rfl
  · rw [axis_apply _ ha, if_pos hx]
    exact f.filtered_mem ha hsome _ _
  · refine Snapshot.eq_of_axes (fun x => ?_) (f.buttons_apply _) (f.hat_apply _)
    rw [axis_apply _ ha]
    split
    · rename_i hx
      rw [Snapshot.axis_neutral, Axis.neutral_of_isLeftStick hx]
      exact f.filtered_half ha hf .neutral
    · rfl

/-- A threshold at the very end: nothing is beyond it, so a stick held all the way is put to its centre. -/
theorem projects_stick_at_full_threshold :
    letI : Arithmetic := .binary
    let f : StickFilter := ⟨true, some .one⟩
    let s : Snapshot := { Snapshot.neutral with axes := #v[.one, .negZero, .half, .half, .zero, .zero] }
    s.StickInRange ∧ (∀ t, f.threshold = some t → t.IsFraction) ∧ f.isInert = false ∧
      f.apply s = .neutral ∧ f.apply (f.apply s) = f.apply s ∧ f.apply .neutral = .neutral ∧
      (f.apply s).axis .leftStickY ∈ [Number.zero, .half, .one] ∧ f.apply .tilted ≠ .tilted := by
  intro f s
  have hs : s.StickInRange
    | .leftStickX, _ => ⟨1, rfl, zero_le_one, le_rfl⟩
    | .leftStickY, _ => ⟨0, rfl, le_rfl, zero_le_one⟩
  have hf : ∀ t, f.threshold = some t → t.IsFraction := by
    rintro t ⟨⟩
    exact ⟨1, rfl, zero_le_one, le_rfl⟩
  obtain ⟨hrange, hneutral, -, htilted⟩ := @projects_stick .binary (.inr rfl) f hf
  obtain ⟨htwice, -, -, -, hmem⟩ := hrange s hs
  refine ⟨hs, hf, rfl, by decide +kernel, htwice, hneutral, hmem rfl _ rfl, fun h => ?_⟩
  exact absurd (htilted.2 h) (by decide)

end StickFilter
end GamepadPool
