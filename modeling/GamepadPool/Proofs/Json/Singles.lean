import GamepadPool.Proofs.Json.Tokens
/-! # Texts of singles
The text of a finite single is a number text: it has digits in every part and no zero in front, since the decimal it
shows is not zero. -/

namespace GamepadPool

namespace Decimal

theorem significand_withDigits? {f : BinaryFormat} {tie : TieRule} {q : Rat} (hq : q ≠ 0) {count : Nat} {d : Decimal}
    (h : withDigits? f tie q count = some d) : d.significand ≠ 0 := by
  have hfits : f.round d.value = .rat q := by
    simp only [withDigits?] at h
    grind
  intro hzero
  have hvalue : d.value = 0 := by rw [value, hzero, Nat.cast_zero, zero_mul]
  rw [hvalue, BinaryFormat.round, if_pos rfl] at hfits
  exact hq (Number.rat.inj hfits).symm

theorem significand_search {f : BinaryFormat} {tie : TieRule} {q : Rat} (hq : q ≠ 0) {fuel count : Nat} {d : Decimal}
    (h : search f tie q fuel count = some d) : d.significand ≠ 0 := by
  fun_induction search f tie q fuel count with
  | case1 => cases h
  | case2 _ _ _ hdigits =>
    cases h
    exact significand_withDigits? hq hdigits
  | case3 _ _ _ ih => exact ih h

theorem significand_expansion {q : Rat} (hq : q ≠ 0) : (expansion q).significand ≠ 0 := by
  have hnum : q.num.natAbs ≠ 0 := by simpa using hq
  exact Nat.mul_ne_zero hnum (pow_ne_zero _ (by decide))

theorem significand_trim {d : Decimal} (h : d.significand ≠ 0) (fuel : Nat) : (trim fuel d).significand ≠ 0 := by
  fun_induction trim fuel d with
  | case1 => exact h
  | case2 fuel d hzero ih => exact ih (by simp only []; omega)
  | case3 => exact h

theorem significand_shortest {q : Rat} (hq : q ≠ 0) (f : BinaryFormat) (tie : TieRule) :
    (shortest f tie q).significand ≠ 0 := by
  refine significand_trim ?_ _
  cases h : search f tie q (f.precision + 1) 1 with
  | none => exact significand_expansion hq
  | some d => exact significand_search hq h

end Decimal

namespace NumberText

theorem Numeral.append {ds es : List Char} (hds : Numeral ds) (hes : ∀ c ∈ es, c.isDigit) : Numeral (ds ++ es) :=
  ⟨List.append_ne_nil_of_left_ne_nil hds.ne_nil es, List.forall_mem_append.2 ⟨hds.isDigit, hes⟩⟩

theorem Numeral.take {ds : List Char} (hds : Numeral ds) {n : Nat} (hn : 0 < n) : Numeral (ds.take n) :=
  ⟨by simp [hds.ne_nil]; omega, fun c hc => hds.isDigit c (List.mem_of_mem_take hc)⟩

theorem Numeral.drop {ds : List Char} (hds : Numeral ds) {n : Nat} (hn : n < ds.length) : Numeral (ds.drop n) :=
  ⟨by simpa using hn, fun c hc => hds.isDigit c (List.mem_of_mem_drop hc)⟩

theorem numeral_zero : Numeral ['0'] := ⟨by decide, List.forall_mem_singleton.2 rfl⟩

theorem wellFormed_zero (negative : Bool) : WellFormed ⟨negative, ['0'], some ['0'], none⟩ where
  whole := numeral_zero
  noLeadingZero _ := le_refl _
  fraction ds h := by
    cases h
    exact numeral_zero
  exponent := nofun

theorem positional_numerals {d : Decimal} (h : d.significand ≠ 0) :
    Numeral (Decimal.positional d).1 ∧
      ((Decimal.positional d).1.head? = some '0' → (Decimal.positional d).1.length ≤ 1) ∧
      ((Decimal.positional d).2 = [] ∨ Numeral (Decimal.positional d).2) := by
  have hds : Numeral (Decimal.digits d.significand) := numeral_toDigits d.significand
  have hhead : (Decimal.digits d.significand).head? ≠ some '0' := head?_toDigits (Nat.pos_of_ne_zero h)
  have hzeros : ∀ n, ∀ c ∈ List.replicate n '0', c.isDigit := fun n c hc => List.eq_of_mem_replicate hc ▸ by decide
  simp only [Decimal.positional]
  generalize Decimal.digits d.significand = ds at hds hhead
  split
  · rw [List.head?_append_of_ne_nil _ hds.ne_nil]
    exact ⟨hds.append (hzeros _), fun hzero => absurd hzero hhead, .inl rfl⟩
  split
  · rename_i hplaces
    rw [List.head?_take, if_neg (by omega)]
    exact ⟨hds.take (by omega), fun hzero => absurd hzero hhead, .inr (hds.drop (by omega))⟩
  · refine ⟨numeral_zero, fun _ => le_refl _, .inr ⟨?_, List.forall_mem_append.2 ⟨hzeros _, hds.isDigit⟩⟩⟩
    exact List.append_ne_nil_of_right_ne_nil _ hds.ne_nil

theorem wellFormed_ofDecimal (negative : Bool) {d : Decimal} (h : d.significand ≠ 0) :
    (ofDecimal negative d).WellFormed := by
  have hds : Numeral (Decimal.digits d.significand) := numeral_toDigits d.significand
  obtain ⟨hwhole, hleading, hfraction⟩ := positional_numerals h
  simp only [ofDecimal]
  generalize Decimal.digits d.significand = ds at hds
  by_cases hpoint : -6 < (ds.length : Int) + d.exponent ∧ (ds.length : Int) + d.exponent ≤ 13
  · rw [if_pos hpoint]
    refine ⟨hwhole, hleading, fun ds hsome => ?_, nofun⟩
    cases hsome
    split
    · exact numeral_zero
    · exact hfraction.resolve_left ‹_›
  · rw [if_neg hpoint]
    refine ⟨hds.take (by decide), fun _ => by simp, fun ds hsome => ?_, fun sign ds hsome => ?_⟩
    · have hlength := List.length_pos_of_ne_nil hds.ne_nil
      dsimp only at hsome
      split at hsome
      · cases hsome
      · cases hsome
        exact hds.drop (by omega)
    · cases hsome
      exact numeral_toDigits _

theorem wellFormed_ofSingle? {x : Number} {n : NumberText} (h : ofSingle? x = some n) : n.WellFormed := by
  unfold ofSingle? at h
  split at h
  · rename_i q
    split at h
    · cases h
      exact wellFormed_zero false
    · rename_i hq
      cases h
      refine wellFormed_ofDecimal _ (Decimal.significand_shortest ?_ _ _)
      split
      · exact neg_ne_zero.2 hq
      · exact hq
  · cases h
    exact wellFormed_zero true
  · cases h

end NumberText
end GamepadPool
