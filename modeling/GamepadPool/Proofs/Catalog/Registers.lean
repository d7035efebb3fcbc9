import GamepadPool.Proofs.Format.Axis
/-! # Properties of an axis as registers
Reading and writing a property go through their checks in different orders, and still agree on every address: what
cannot be read cannot be written, for the same reason. A property that was written is read back as it was given, also
where fractions are rounded on the way, and no other property of the object changes. -/

namespace GamepadPool

/-! ## fractions -/

/-- A fraction counted in ten-thousandths, to the nearest. -/
def tenThousandths [Arithmetic] (x : Number) : UInt32 :=
  match Arithmetic.state.mul x (.rat fullScale) with
  | .rat q => .ofNat (min 4294967295 (roundAway q).toNat)
  | .infinite false => 4294967295
  | .negZero | .infinite true | .nan => 0

/-- Two roundings, of the quotient and of the product, do not add up to half a ten-thousandth. -/
theorem tenThousandths_fractionOf [a : Arithmetic] (ha : a.Reliable) {raw : Nat} (h : raw ≤ fullScale) :
    tenThousandths (fractionOf raw) = .ofNat raw := by
  have hraw : (raw : Rat) ≤ 10000 := by exact_mod_cast h
  have hraw0 : (0 : Rat) ≤ raw := by positivity
  have hquotient : mkRat raw fullScale = (raw : Rat) / 10000 := by
    rw [Rat.mkRat_eq_div]
    norm_num [fullScale]
  have hsize : |(raw : Rat) / 10000| ≤ 1 := abs_le.2 ⟨by linarith, by linarith⟩
  obtain ⟨s, hs, hsnear⟩ : ∃ s, (fractionOf raw).value? = some s ∧ |s - raw / 10000| ≤ 1 / 2 ^ 23 := by
    obtain ⟨s, hs, hnear⟩ := ha.state.near ((raw : Rat) / 10000) (hsize.trans (by norm_num))
    refine ⟨s, ?_, by linarith⟩
    rw [fractionOf, hquotient]
    exact hs
  obtain ⟨hslow, hshigh⟩ := abs_le.1 hsnear
  obtain ⟨p, hp, hpnear⟩ : ∃ p, (a.state.mul (fractionOf raw) (.rat fullScale)).value? = some p ∧
      |p - s * 10000| ≤ 1 / 2 ^ 10 := by
    have hproduct : |s * 10000| ≤ 10001 := abs_le.2 ⟨by linarith, by linarith⟩
    have hscale : ((fullScale : Nat) : Rat) = 10000 := by norm_num [fullScale]
    rw [Rounding.value_mul ha.state.keeps_zero hs (Number.value_rat _), hscale]
    obtain ⟨p, hp, hnear⟩ := ha.state.near (s * 10000) (hproduct.trans (by norm_num))
    exact ⟨p, hp, by linarith⟩
  obtain ⟨hplow, hphigh⟩ := abs_le.1 hpnear
  have hround : roundAway p = raw := by
    apply roundAway_eq
    push_cast
    exact abs_lt.2 ⟨by linarith, by linarith⟩
  have hword : min 4294967295 raw = raw := by
    unfold fullScale at h
    omega
  unfold tenThousandths
  rcases Number.value_eq_some.1 hp with hrat | ⟨hneg, rfl⟩
  · rw [hrat]
    simp only [hround, Int.toNat_natCast, hword]
  · -- the product is a zero, and so is the number of ten-thousandths
    have hzero : raw = 0 := by
      have : roundAway 0 = 0 := by decide +kernel
      omega
    rw [hneg, hzero]
    rfl

/-! ## what an axis keeps -/

namespace Property

/-- The properties an axis keeps, with the values they start with. -/
def registers : List (Property × PropertyValue) :=
  [(deadzone, .word 0), (saturation, .word 10000), (range, .range 0 65535)]

/-- The values a property can be set to, where it can be set at all. The axis mode takes any, and ignores it. -/
def Takes : Property → PropertyValue → Prop
  | axisMode, _ => True
  | range, .range _ _ => True
  | deadzone, .word raw | saturation, .word raw => raw.toNat ≤ 10000
  | _, _ => False

end Property

/-- The fraction that rendering works with. -/
def DeviceObject.fraction? [Arithmetic] (o : DeviceObject) : Property → Option Number
  | .deadzone => some (fractionOf o.deadzone)
  | .saturation => some (fractionOf o.saturation)
  | _ => none

/-- A property as the fractions that rendering works with tell it. -/
def DeviceObject.measured? [Arithmetic] (o : DeviceObject) : Property → Option PropertyValue
  | .deadzone => some (.word (tenThousandths (fractionOf o.deadzone)))
  | .saturation => some (.word (tenThousandths (fractionOf o.saturation)))
  | .range => some (.range o.rangeMin o.rangeMax)
  | _ => none

namespace Catalog

variable {p q : Property} {v : PropertyValue} {o o' : DeviceObject}

theorem measured?_eq [a : Arithmetic] (ha : a.Reliable) (ho : o.Graded) (p : Property) :
    o.measured? p = propertyOf? o p := by
  obtain ⟨hd, hs⟩ := DeviceObject.graded_iff.1 ho
  cases p <;> simp [DeviceObject.measured?, propertyOf?, tenThousandths_fractionOf ha hd, tenThousandths_fractionOf ha hs]

theorem toNat_word {raw : Nat} (h : raw ≤ fullScale) : (UInt32.ofNat raw).toNat = raw :=
  UInt32.toNat_ofNat_of_lt' (by unfold fullScale at h; simp only [UInt32.size]; omega)

/-- A word that was read is scaled to the very fraction the object keeps. -/
theorem fraction?_of_read [Arithmetic] (ho : o.Graded) {raw : UInt32} (hread : propertyOf? o p = some (.word raw)) :
    o.fraction? p = some (fractionOf raw.toNat) := by
  obtain ⟨hd, hs⟩ := DeviceObject.graded_iff.1 ho
  cases p with
  | deadzone =>
    obtain rfl := PropertyValue.word.inj (Option.some.inj hread)
    rw [DeviceObject.fraction?, toNat_word hd]
  | saturation =>
    obtain rfl := PropertyValue.word.inj (Option.some.inj hread)
    rw [DeviceObject.fraction?, toNat_word hs]
  | _ => cases hread

/-! ### one write -/

/-- A property written is read back as it was given. -/
theorem propertyOf?_withProperty (h : withProperty o p v = .ok o') : propertyOf? o' p = some v := by
  rcases withProperty_cases h with ⟨raw, rfl, rfl, -, rfl⟩ | ⟨raw, rfl, rfl, -, rfl⟩ | ⟨min, max, rfl, rfl, rfl⟩
  · simp [propertyOf?]
  · simp [propertyOf?]
  · rfl

/-- A property written leaves the others as they were. -/
theorem propertyOf?_withProperty_ne (h : withProperty o p v = .ok o') (hq : q ≠ p) :
    propertyOf? o' q = propertyOf? o q := by
  rcases withProperty_cases h with ⟨raw, rfl, -, -, rfl⟩ | ⟨raw, rfl, -, -, rfl⟩ | ⟨min, max, rfl, -, rfl⟩ <;>
    cases q <;> first | rfl | exact absurd rfl hq

/-- What was read can be written back, and changes nothing. -/
theorem withProperty_propertyOf? (ho : o.Graded) (hv : propertyOf? o p = some v) : withProperty o p v = .ok o := by
  obtain ⟨hd, hs⟩ := DeviceObject.graded_iff.1 ho
  cases p with
  | deadzone =>
    obtain rfl := Option.some.inj hv
    simp only [withProperty, toNat_word hd, if_neg (Nat.not_lt.2 hd)]
  | saturation =>
    obtain rfl := Option.some.inj hv
    simp only [withProperty, toNat_word hs, if_neg (Nat.not_lt.2 hs)]
  | range =>
    obtain rfl := Option.some.inj hv
    rfl
  | _ => cases hv

/-- What objects have can be written, in the values the property takes and in no others. -/
theorem withProperty_of_takes (hread : propertyOf? o p = some v) {w : PropertyValue} (hw : p.Takes w) :
    ∃ o', withProperty o p w = .ok o' := by
  cases p with
  | deadzone | saturation =>
    cases w with
    | word raw => exact ⟨_, if_neg (Nat.not_lt.2 hw)⟩
    | range min max => cases hw
  | range =>
    cases w with
    | word raw => cases hw
    | range min max => exact ⟨_, rfl⟩
  | _ => cases hread

theorem withProperty_of_not_takes (hread : propertyOf? o p = some v) {w : PropertyValue} (hw : ¬ p.Takes w) :
    ∃ e detail, withProperty o p w = .error e ∧ e.toDeviceError = .invalidParameter detail := by
  cases p with
  | deadzone | saturation =>
    cases w with
    | word raw => exact ⟨.tooLarge raw, _, if_pos (Nat.not_le.1 hw), rfl⟩
    | range min max => exact ⟨.wrongValue _ _, _, rfl, rfl⟩
  | range =>
    cases w with
    | word raw => exact ⟨.wrongValue _ _, _, rfl, rfl⟩
    | range min max => exact absurd trivial hw
  | _ => cases hread

end Catalog

/-! ## reading and writing at an address -/

/-- The six ways a device call can fail, without the texts. -/
inductive ResultCode where
  | invalidParameter
  | objectNotFound
  | unsupported
  | unimplemented
  | deviceNotRegistered
  | inputLost
deriving DecidableEq

def DeviceError.code : DeviceError → ResultCode
  | invalidParameter _ => .invalidParameter
  | objectNotFound _ => .objectNotFound
  | unsupported _ => .unsupported
  | unimplemented _ => .unimplemented
  | deviceNotRegistered _ => .deviceNotRegistered
  | inputLost => .inputLost

namespace PropertyError

/-- What writing answers where reading fails: the same, but that a property objects do not have cannot be written. -/
def onWriting : PropertyError → PropertyError
  | unreadable p => unwritable p
  | e => e

theorem code_onWriting (e : PropertyError) : e.onWriting.toDeviceError.code = e.toDeviceError.code := by
  cases e <;> rfl

end PropertyError

namespace Catalog

variable {c c' : Catalog} {ms : List Mapping} {t : PropertyAddress} {p : Property} {v w : PropertyValue}
  {o : DeviceObject} {e : PropertyError} {i : Nat}

theorem isWritable_eq (o : DeviceObject) (p : Property) : isWritable p = (propertyOf? o p).isSome := by
  cases p <;> rfl

theorem concernsDevice_of_read (h : propertyOf? o p = some v) : p.concernsDevice = false := by
  cases p with
  | deadzone | saturation | range => rfl
  | _ => cases h

/-- Where no object is found, it does not matter whether it was to be read or written. -/
theorem onWriting_of_resolve (h : t.resolve c ms p = .error e) : e.onWriting = e := by
  unfold PropertyAddress.resolve at h
  split at h
  · cases h
    rfl
  all_goals
    split at h
    · cases h
      rfl
    split at h
    · cases h
      rfl
    · cases h

theorem onWriting_of_deviceWide (h : deviceWide p t = .error e) : e.onWriting = e := by
  unfold deviceWide at h
  split at h
  · cases h
    rfl
  split at h
  · cases h
  · cases h
    rfl

/-- What an axis keeps can be read where the axis is found. -/
theorem getProperty_of_resolve (hresolve : t.resolve c ms p = .ok (i, o)) (hread : propertyOf? o p = some v)
    (haxis : o.kind.isAxis = true) : c.getProperty ms p t = .ok v := by
  simp [getProperty, concernsDevice_of_read hread, hresolve, hread, haxis]

/-- Nothing else can be read, but for the axis mode of the device. -/
theorem getProperty_ok (h : c.getProperty ms p t = .ok v) :
    (p = .axisMode ∧ t = .device) ∨
      ∃ i o, t.resolve c ms p = .ok (i, o) ∧ propertyOf? o p = some v ∧ o.kind.isAxis = true := by
  unfold getProperty at h
  split at h
  · exact .inl (deviceWide_ok h)
  · split at h
    · cases h
    rename_i i o hresolve
    split at h
    · cases h
    rename_i w hread
    split at h
    · rename_i haxis
      obtain rfl := Except.ok.inj h
      exact .inr ⟨i, o, hresolve, hread, haxis⟩
    · cases h

/-- What was read of an object is what the object has. -/
theorem propertyOf?_of_read (h : c.getProperty ms p t = .ok v) (hresolve : t.resolve c ms p = .ok (i, o)) :
    propertyOf? o p = some v := by
  rcases getProperty_ok h with ⟨-, rfl⟩ | ⟨j, o', hresolve', hread, -⟩
  · cases hresolve
  · rw [hresolve] at hresolve'
    obtain ⟨-, rfl⟩ := Prod.mk.inj (Except.ok.inj hresolve')
    exact hread

/-- What an axis keeps is written where the axis is found. -/
theorem setProperty_of_resolve (hresolve : t.resolve c ms p = .ok (i, o)) (hread : propertyOf? o p = some w)
    (haxis : o.kind.isAxis = true) (v : PropertyValue) :
    c.setProperty ms p t v = (withProperty o p v).map fun o' => c.modify i fun _ => o' := by
  have hwritable : isWritable p = true := by rw [isWritable_eq o p, hread, Option.isSome_some]
  simp only [setProperty, concernsDevice_of_read hread, hresolve, hwritable, haxis, Bool.false_eq_true, if_false,
    Bool.not_true]
  cases withProperty o p v <;> rfl

/-- What cannot be read cannot be written either, whatever the value. -/
theorem setProperty_of_unread (h : c.getProperty ms p t = .error e) (v : PropertyValue) :
    c.setProperty ms p t v = .error e.onWriting := by
  unfold getProperty at h
  unfold setProperty
  split at h
  · rename_i hconcerns
    rw [if_pos hconcerns, h, onWriting_of_deviceWide h]
  · rename_i hconcerns
    rw [if_neg hconcerns]
    split at h
    · rename_i e' hresolve
      obtain rfl := Except.error.inj h
      simp only [onWriting_of_resolve hresolve]
    · rename_i i o hresolve
      split at h
      · rename_i hread
        obtain rfl := Except.error.inj h
        simp [isWritable_eq o p, hread, PropertyError.onWriting]
      · rename_i w hread
        split at h
        · cases h
        · rename_i haxis
          obtain rfl := Except.error.inj h
          simp [isWritable_eq o p, hread, haxis, PropertyError.onWriting]

/-- What can be read can be written in the values the property takes. -/
theorem setProperty_of_takes (h : c.getProperty ms p t = .ok v) (hw : p.Takes w) :
    ∃ c', c.setProperty ms p t w = .ok c' := by
  rcases getProperty_ok h with ⟨rfl, rfl⟩ | ⟨i, o, hresolve, hread, haxis⟩
  · exact ⟨c, rfl⟩
  · obtain ⟨o', hwith⟩ := withProperty_of_takes hread hw
    exact ⟨_, by rw [setProperty_of_resolve hresolve hread haxis, hwith, Except.map]⟩

/-- Any other value is a bad parameter. -/
theorem setProperty_of_not_takes (h : c.getProperty ms p t = .ok v) (hw : ¬ p.Takes w) :
    ∃ e, c.setProperty ms p t w = .error e ∧ e.toDeviceError.code = .invalidParameter := by
  rcases getProperty_ok h with ⟨rfl, rfl⟩ | ⟨i, o, hresolve, hread, haxis⟩
  · exact absurd trivial hw
  · obtain ⟨e, detail, hwith, hcode⟩ := withProperty_of_not_takes hread hw
    refine ⟨e, ?_, by rw [hcode]; rfl⟩
    rw [setProperty_of_resolve hresolve hread haxis, hwith, Except.map]

/-- What was read is written back without a trace. -/
theorem setProperty_of_read (hc : ∀ o ∈ c.objects, o.Graded) (h : c.getProperty ms p t = .ok v) :
    c.setProperty ms p t v = .ok c := by
  rcases getProperty_ok h with ⟨rfl, rfl⟩ | ⟨i, o, hresolve, hread, haxis⟩
  · rfl
  · have ho := resolve_ok hresolve
    have hsame : (c.modify i fun _ => o).objects = c.objects := by
      simpa using map_modify (f := id) ho rfl
    rw [setProperty_of_resolve hresolve hread haxis, withProperty_propertyOf? (hc o (List.mem_of_getElem? ho)) hread,
      Except.map]
    exact congrArg (fun objects => Except.ok (Catalog.mk c.layout objects)) hsame

end Catalog
end GamepadPool
