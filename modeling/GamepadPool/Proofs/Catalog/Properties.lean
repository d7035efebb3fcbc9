import GamepadPool.Properties
import GamepadPool.Proofs.Catalog.Identity
import GamepadPool.Proofs.Number.Rounding
/-! # What setting a property does to a catalog
A property set changes at most one object, and of it only the property. A deadzone and a saturation are fractions
of the half-range, at the start and after every change. -/

namespace GamepadPool

/-! ## fractions -/

/-- Deadzone and saturation are at most the whole, and lie in `[0, 1]` in double precision. -/
def DeviceObject.Graded (o : DeviceObject) : Prop :=
  ∀ raw ∈ [o.deadzone, o.saturation], raw ≤ fullScale ∧ (@fractionOf .binary raw).InUnit

/-- A fraction of at most the whole stays one, however it is rounded. -/
theorem value_fractionOf [a : Arithmetic] (ha : a.Reliable) {raw : Nat} (h : raw ≤ fullScale) :
    ∃ s, (fractionOf raw).value? = some s ∧ 0 ≤ s ∧ s ≤ 1 := by
  have hwhole : (0 : Rat) < (fullScale : Nat) := by norm_num [fullScale]
  apply ha.state.keeps_zero.between (ha.state.keeps_one (by norm_num))
  · rw [Rat.mkRat_eq_div]
    positivity
  · rw [Rat.mkRat_eq_div, div_le_one hwhole]
    exact_mod_cast h

theorem fractionOf_inUnit {raw : Nat} (h : raw ≤ fullScale) : (@fractionOf .binary raw).InUnit := by
  obtain ⟨s, hs, h0, h1⟩ := @value_fractionOf .binary Arithmetic.reliable_binary raw h
  rcases Number.value_eq_some.1 hs with hrat | ⟨hneg, -⟩
  · exact ⟨s, hrat, h0, h1⟩
  · have hpos : (0 : Rat) ≤ mkRat raw fullScale := by
      rw [Rat.mkRat_eq_div]
      positivity
    exact absurd hneg (BinaryFormat.round_ne_negZero hpos)

theorem DeviceObject.graded_iff {o : DeviceObject} :
    o.Graded ↔ o.deadzone ≤ fullScale ∧ o.saturation ≤ fullScale := by
  constructor
  · intro h
    exact ⟨(h o.deadzone (by simp)).1, (h o.saturation (by simp)).1⟩
  · rintro ⟨hd, hs⟩ raw hraw
    rcases List.mem_pair.1 hraw with rfl | rfl
    · exact ⟨hd, fractionOf_inUnit hd⟩
    · exact ⟨hs, fractionOf_inUnit hs⟩

/-! ## one property set -/

namespace Catalog

variable {c c' : Catalog} {ms : List Mapping} {p : Property} {t : PropertyAddress} {v : PropertyValue}
  {o o' : DeviceObject}

/-- The writes that succeed. -/
theorem withProperty_cases (h : withProperty o p v = .ok o') :
    (∃ raw, p = .deadzone ∧ v = .word raw ∧ raw.toNat ≤ fullScale ∧ o' = { o with deadzone := raw.toNat }) ∨
    (∃ raw, p = .saturation ∧ v = .word raw ∧ raw.toNat ≤ fullScale ∧ o' = { o with saturation := raw.toNat }) ∨
    (∃ min max, p = .range ∧ v = .range min max ∧ o' = { o with rangeMin := min, rangeMax := max }) := by
  unfold withProperty at h
  split at h
  · rename_i raw
    split at h
    · cases h
    · exact .inl ⟨raw, rfl, rfl, by omega, (Except.ok.inj h).symm⟩
  · rename_i raw
    split at h
    · cases h
    · exact .inr (.inl ⟨raw, rfl, rfl, by omega, (Except.ok.inj h).symm⟩)
  · rename_i min max
    exact .inr (.inr ⟨min, max, rfl, rfl, (Except.ok.inj h).symm⟩)
  · cases h

/-- Only a property changes: neither identity nor mark, and no fraction leaves its bounds. -/
theorem withProperty_keeps (h : withProperty o p v = .ok o') :
    o'.identity = o.identity ∧ o'.isMatched = o.isMatched ∧ (o.Graded → o'.Graded) := by
  simp only [DeviceObject.graded_iff]
  rcases withProperty_cases h with ⟨raw, -, -, hraw, rfl⟩ | ⟨raw, -, -, hraw, rfl⟩ | ⟨min, max, -, -, rfl⟩
  · exact ⟨rfl, rfl, fun ho => ⟨hraw, ho.2⟩⟩
  · exact ⟨rfl, rfl, fun ho => ⟨ho.1, hraw⟩⟩
  · exact ⟨rfl, rfl, fun ho => ho⟩

/-- Of the whole device, only the axis mode is answered. -/
theorem deviceWide_ok (h : deviceWide p t = .ok v) : p = .axisMode ∧ t = .device := by
  unfold deviceWide at h
  split at h
  · cases h
  rename_i hdevice
  split at h
  · rename_i hmode
    exact ⟨hmode, not_not.1 hdevice⟩
  · cases h

theorem resolve_ok {i : Nat} (h : t.resolve c ms p = .ok (i, o)) : c.objects[i]? = some o := by
  unfold PropertyAddress.resolve at h
  split at h
  · cases h
  all_goals
    split at h
    · cases h
    split at h
    · cases h
    · rename_i ho
      cases h
      exact ho

/-- A property is set on the axis that is addressed; setting the axis mode of the device changes nothing. -/
theorem setProperty_ok (h : c.setProperty ms p t v = .ok c') :
    (p = .axisMode ∧ t = .device ∧ c' = c) ∨
      ∃ i o o', t.resolve c ms p = .ok (i, o) ∧ o.kind.isAxis = true ∧ withProperty o p v = .ok o' ∧
        c' = c.modify i fun _ => o' := by
  unfold setProperty at h
  split at h
  · split at h
    · cases h
    rename_i w hwide
    obtain ⟨hmode, hdevice⟩ := deviceWide_ok hwide
    exact .inl ⟨hmode, hdevice, (Except.ok.inj h).symm⟩
  · split at h
    · cases h
    rename_i i o hresolve
    split at h
    · cases h
    split at h
    · cases h
    rename_i haxis
    split at h
    · cases h
    · rename_i o' hwith
      exact .inr ⟨i, o, o', hresolve, by simpa using haxis, hwith, (Except.ok.inj h).symm⟩

/-- A property is set on one object, or nothing changes. -/
theorem setProperty_cases (h : c.setProperty ms p t v = .ok c') :
    c' = c ∨ ∃ i o o', c.objects[i]? = some o ∧ withProperty o p v = .ok o' ∧ c' = c.modify i fun _ => o' := by
  rcases setProperty_ok h with ⟨-, -, hsame⟩ | ⟨i, o, o', hresolve, -, hwith, hc⟩
  · exact .inl hsame
  · exact .inr ⟨i, o, o', resolve_ok hresolve, hwith, hc⟩

/-- What the new object has in common with the old one, the catalogs have in common. -/
theorem map_modify {α : Type} {f : DeviceObject → α} {i : Nat} (ho : c.objects[i]? = some o) (hf : f o' = f o) :
    (c.modify i fun _ => o').objects.map f = c.objects.map f := by
  apply List.ext_getElem?
  intro j
  by_cases hij : i = j
  · subst hij
    simp [modify, ho, hf]
  · simp [modify, hij]

theorem identities_setProperty (h : c.setProperty ms p t v = .ok c') :
    c'.objects.map (·.identity) = c.objects.map (·.identity) := by
  rcases setProperty_cases h with rfl | ⟨i, o, o', ho, hwith, rfl⟩
  · rfl
  · exact map_modify ho (withProperty_keeps hwith).1

theorem isMatched_setProperty (h : c.setProperty ms p t v = .ok c') :
    c'.objects.map (·.isMatched) = c.objects.map (·.isMatched) := by
  rcases setProperty_cases h with rfl | ⟨i, o, o', ho, hwith, rfl⟩
  · rfl
  · exact map_modify ho (withProperty_keeps hwith).2.1

theorem graded_setProperty (h : c.setProperty ms p t v = .ok c') (hc : ∀ o ∈ c.objects, o.Graded) :
    ∀ o ∈ c'.objects, o.Graded := by
  rcases setProperty_cases h with rfl | ⟨i, o, o', ho, hwith, rfl⟩
  · exact hc
  intro x hx
  obtain ⟨j, hj⟩ := List.mem_iff_getElem?.1 hx
  rw [modify, List.getElem?_modify, Option.map_eq_map, Option.map_eq_some_iff] at hj
  obtain ⟨y, hy, rfl⟩ := hj
  split
  · exact (withProperty_keeps hwith).2.2 (hc o (List.mem_of_getElem? ho))
  · exact hc y (List.mem_of_getElem? hy)

end Catalog
end GamepadPool
