import GamepadPool.Json.Numeral
import GamepadPool.Json.Parser
import GamepadPool.Json.Printer
import Mathlib.Data.List.Forall2
import Mathlib.Tactic.IntervalCases
/-! # Strings and numbers read back
What the printer writes for a string is read up to its own closing quote, whatever follows; what it writes for a
number is read up to the first character that cannot go on with it. -/

namespace GamepadPool

theorem Hex.value?_digit : ∀ {n : Nat}, n < 16 → value? (digit n) = some n := by decide

namespace Json

/-! ## strings -/

theorem codeUnit?_padded {n : Nat} (h : n < 0x10000) :
    ∃ a b c d, Hex.padded 4 n = [a, b, c, d] ∧ codeUnit? a b c d = some (.ofNat n) := by
  refine ⟨_, _, _, _, rfl, ?_⟩
  simp only [codeUnit?, Hex.value?_digit (Nat.mod_lt _ (by decide : 0 < 16))]
  congr 2
  omega

/-- The character a piece stands for: itself, or a control character told by its unit. -/
inductive Piece.Spells : Piece → Char → Prop
  | char (c : Char) : Spells (.char c) c
  | unit {c : Char} (h : c.toNat < 32) : Spells (.unit (.ofNat c.toNat)) c

theorem pieces?_short {e c : Char} (h : shortEscape? e = some c) (hu : e ≠ 'u') (rest : List Char) :
    pieces? ('\\' :: e :: rest) = push (.char c) (pieces? rest) := by
  rw [pieces?, h]
  exact fun _ _ _ _ _ he _ => hu he

theorem pieces?_escape (c : Char) :
    ∃ p : Piece, p.Spells c ∧ ∀ rest, pieces? (escape c ++ rest) = push p (pieces? rest) := by
  have hc : ∀ n, c.toNat = n → Char.ofNat n = c := fun n h => h ▸ Char.ofNat_toNat c
  have hshort : ∀ e, shortEscape? e = some c → e ≠ 'u' →
      ∃ p : Piece, p.Spells c ∧ ∀ rest, pieces? (['\\', e] ++ rest) = push p (pieces? rest) :=
    fun e he hu => ⟨_, .char c, pieces?_short he hu⟩
  unfold escape
  split
  · exact hshort '"' (by simp [shortEscape?, *]) (by decide)
  split
  · exact hshort '\\' (by simp [shortEscape?, *]) (by decide)
  split
  · exact hshort 'b' (congrArg some (hc 8 ‹_›)) (by decide)
  split
  · exact hshort 't' (congrArg some (hc 9 ‹_›)) (by decide)
  split
  · exact hshort 'n' (congrArg some (hc 10 ‹_›)) (by decide)
  split
  · exact hshort 'f' (congrArg some (hc 12 ‹_›)) (by decide)
  split
  · exact hshort 'r' (congrArg some (hc 13 ‹_›)) (by decide)
  split
  · obtain ⟨a, b, d, e, hpadded, hunit⟩ := codeUnit?_padded (show c.toNat < 0x10000 by omega)
    refine ⟨_, .unit ‹_›, fun rest => ?_⟩
    rw [hpadded]
    simp only [List.cons_append, List.nil_append, pieces?, hunit]
  · rename_i hquote hbackslash _ _ _ _ _ hplain
    refine ⟨_, .char c, fun rest => ?_⟩
    have hstop : ¬(c.toNat < 32 ∨ c = '\\') := by simp [hbackslash, hplain]
    rw [List.singleton_append, pieces?, if_neg hstop]
    all_goals grind

theorem pieces?_quote (cs rest : List Char) :
    ∃ ps, pieces? (cs.flatMap escape ++ '"' :: rest) = some (ps, rest) ∧ List.Forall₂ Piece.Spells ps cs := by
  induction cs with
  | nil => exact ⟨[], rfl, .nil⟩
  | cons c cs ih =>
    obtain ⟨ps, hps, hspells⟩ := ih
    obtain ⟨p, hp, hpiece⟩ := pieces?_escape c
    refine ⟨p :: ps, ?_, .cons hp hspells⟩
    rw [List.flatMap_cons, List.append_assoc, hpiece, hps]
    rfl

/-- A unit that is half of no pair is a character of its own, whatever follows. -/
theorem assemble?_unit {u : UInt16} (h : (Utf16.isHigh u || Utf16.isLow u) = false) (ps : List Piece) :
    assemble? (.unit u :: ps) = (assemble? ps).map (Char.ofNat u.toNat :: ·) := by
  obtain ⟨hhigh, hlow⟩ := Bool.or_eq_false_iff.1 h
  rcases ps with _ | ⟨c | v, ps⟩ <;> simp [assemble?, hhigh, hlow]

theorem assemble?_of_spells {ps : List Piece} {cs : List Char} (h : List.Forall₂ Piece.Spells ps cs) :
    assemble? ps = some cs := by
  induction h with
  | nil => rfl
  | @cons p c ps cs hp hps ih =>
    cases hp with
    | char => rw [assemble?, ih, Option.map_some]
    | unit hc =>
      have hword : (UInt16.ofNat c.toNat).toNat = c.toNat := by
        rw [UInt16.toNat_ofNat']
        omega
      have hplain : (Utf16.isHigh (.ofNat c.toNat) || Utf16.isLow (.ofNat c.toNat)) = false := by
        simp [Utf16.isHigh, Utf16.isLow, UInt16.le_iff_toNat_le, hword]
        omega
      rw [assemble?_unit hplain, ih, hword, Char.ofNat_toNat, Option.map_some]

theorem string?_quote (s : String) (rest : List Char) :
    string? (s.toList.flatMap escape ++ '"' :: rest) = some (some s, rest) := by
  obtain ⟨ps, hps, hspells⟩ := pieces?_quote s.toList rest
  simp [string?, hps, assemble?_of_spells hspells]

/-! ## numbers -/

theorem digits_append {ds rest : List Char} (hds : ∀ c ∈ ds, c.isDigit) (hrest : ∀ c ∈ rest.head?, ¬c.isDigit) :
    digits (ds ++ rest) = (ds, rest) := by
  have hstop : digits rest = ([], rest) := by
    cases rest with
    | nil => rfl
    | cons c rest => simp [digits, hrest c rfl]
  obtain ⟨htake, hdrop⟩ := Prod.mk.inj hstop
  rw [digits, List.takeWhile_append_of_pos hds, List.dropWhile_append_of_pos hds, htake, hdrop, List.append_nil]

end Json

namespace NumberText

open Json

/-- A run of digits, at least one. -/
structure Numeral (ds : List Char) : Prop where
  ne_nil : ds ≠ []
  isDigit : ∀ c ∈ ds, c.isDigit

/-- Digits in every part, and no zero in front of them. -/
structure WellFormed (n : NumberText) : Prop where
  whole : Numeral n.whole
  noLeadingZero : n.whole.head? = some '0' → n.whole.length ≤ 1
  fraction : ∀ ds, n.fraction = some ds → Numeral ds
  exponent : ∀ sign ds, n.exponent = some (sign, ds) → Numeral ds

/-- What does not go on with a number. -/
def Ends (rest : List Char) : Prop := ∀ c ∈ rest.head?, ¬c.isDigit ∧ c ≠ '.' ∧ c ≠ 'e' ∧ c ≠ 'E'

theorem fraction?_text {fraction : Option (List Char)} (h : ∀ ds, fraction = some ds → Numeral ds)
    {rest : List Char} (hrest : ∀ c ∈ rest.head?, ¬c.isDigit ∧ c ≠ '.') :
    fraction? (fractionText fraction ++ rest) = some (fraction, rest) := by
  cases fraction with
  | none =>
    cases rest with
    | nil => rfl
    | cons c rest => simp [fractionText, fraction?, (hrest c rfl).2]
  | some ds =>
    have hds := h ds rfl
    have hne := hds.ne_nil
    simp only [fractionText, List.cons_append, fraction?, digits_append hds.isDigit fun c hc => (hrest c hc).1]

theorem exponentSign_text (sign : ExponentSign) {ds : List Char} (h : Numeral ds) (rest : List Char) :
    exponentSign (sign.text ++ (ds ++ rest)) = (sign, ds ++ rest) := by
  cases sign with
  | plus => rfl
  | minus => rfl
  | unmarked =>
    obtain ⟨d, ds, rfl⟩ := List.exists_cons_of_ne_nil h.ne_nil
    have hd := h.isDigit d List.mem_cons_self
    have hplus : d ≠ '+' := by rintro rfl; exact absurd hd (by decide)
    have hminus : d ≠ '-' := by rintro rfl; exact absurd hd (by decide)
    simp [ExponentSign.text, exponentSign, hplus, hminus]

theorem exponent?_text {exponent : Option (ExponentSign × List Char)}
    (h : ∀ sign ds, exponent = some (sign, ds) → Numeral ds) {rest : List Char} (hrest : Ends rest) :
    exponent? (exponentText exponent ++ rest) = some (exponent, rest) := by
  cases exponent with
  | none =>
    cases rest with
    | nil => rfl
    | cons c rest =>
      obtain ⟨-, -, he, hE⟩ := hrest c rfl
      simp [exponentText, exponent?, he, hE]
  | some p =>
    obtain ⟨sign, ds⟩ := p
    have hds := h sign ds rfl
    have hne := hds.ne_nil
    simp only [exponentText, List.cons_append, List.append_assoc, exponent?, exponentDigits?,
      exponentSign_text sign hds, digits_append hds.isDigit fun c hc => (hrest c hc).1]

theorem unsigned?_text {n : NumberText} (h : n.WellFormed) {rest : List Char} (hrest : Ends rest) :
    unsigned? n.negative (n.whole ++ (fractionText n.fraction ++ (exponentText n.exponent ++ rest))) =
      some (n, rest) := by
  -- what follows each part cannot be taken for more of it
  have hmark : ∀ c ∈ (exponentText n.exponent ++ rest).head?, ¬c.isDigit ∧ c ≠ '.' := by
    cases n.exponent with
    | none => exact fun c hc => ⟨(hrest c hc).1, (hrest c hc).2.1⟩
    | some p => simp [exponentText]
  have hpoint : ∀ c ∈ (fractionText n.fraction ++ (exponentText n.exponent ++ rest)).head?, ¬c.isDigit := by
    cases n.fraction with
    | none => exact fun c hc => (hmark c hc).1
    | some ds => simp [fractionText]
  have hstart : ¬(n.whole = [] ∨ (n.whole.head? = some '0' ∧ 1 < n.whole.length)) := by
    rintro (hnil | ⟨hzero, hlong⟩)
    · exact h.whole.ne_nil hnil
    · exact absurd (h.noLeadingZero hzero) (by omega)
  simp only [unsigned?, digits_append h.whole.isDigit hpoint, if_neg hstart, fraction?_text h.fraction hmark,
    exponent?_text h.exponent hrest]

theorem WellFormed.digit_of_head {n : NumberText} (h : n.WellFormed) :
    ∃ d ds, n.whole = d :: ds ∧ d.isDigit := by
  obtain ⟨d, ds, hds⟩ := List.exists_cons_of_ne_nil h.whole.ne_nil
  exact ⟨d, ds, hds, h.whole.isDigit d (hds ▸ List.mem_cons_self)⟩

theorem number?_text {n : NumberText} (h : n.WellFormed) {rest : List Char} (hrest : Ends rest) :
    number? (n.text ++ rest) = some (n, rest) := by
  have hunsigned := unsigned?_text h hrest
  rw [text, List.append_assoc, List.append_assoc, List.append_assoc]
  cases hnegative : n.negative with
  | true =>
    rw [hnegative] at hunsigned
    exact hunsigned
  | false =>
    obtain ⟨d, ds, hwhole, hd⟩ := h.digit_of_head
    have hminus : d ≠ '-' := by rintro rfl; exact absurd hd (by decide)
    rw [hnegative, hwhole] at hunsigned
    simpa [hwhole, number?, hminus] using hunsigned

/-! ## integers -/

theorem natOf_toDigits (n : Nat) : natOf (Nat.toDigits 10 n) = n := by
  have h := Nat.ofDigitChars_toDigits (b := 10) (n := n) (by decide) (by decide)
  rw [Nat.ofDigitChars_eq_foldl] at h
  simpa [natOf, digitValue, Nat.mul_comm] using h

theorem numeral_toDigits (n : Nat) : Numeral (Nat.toDigits 10 n) :=
  ⟨Nat.toDigits_ne_nil, fun _ hc => Nat.isDigit_of_mem_toDigits (by decide) (by decide) hc⟩

theorem head?_toDigits {n : Nat} (h : 0 < n) : (Nat.toDigits 10 n).head? ≠ some '0' := by
  induction n using Nat.strongRecOn with
  | ind n ih =>
    rw [Nat.toDigits_eq_if (by decide)]
    split
    · rename_i hsmall
      revert h
      interval_cases n <;> decide
    · rw [List.head?_append_of_ne_nil _ Nat.toDigits_ne_nil]
      exact ih (n / 10) (by omega) (by omega)

theorem wellFormed_integer (negative : Bool) (n : Nat) :
    WellFormed ⟨negative, Nat.toDigits 10 n, none, none⟩ where
  whole := numeral_toDigits n
  noLeadingZero h := by
    rcases Nat.eq_zero_or_pos n with rfl | hn
    · exact le_refl _
    · exact absurd h (head?_toDigits hn)
  fraction := nofun
  exponent := nofun

theorem int?_natural (n : Nat) : int? ⟨false, Nat.toDigits 10 n, none, none⟩ = some (n : Int) := by
  simp [int?, natOf_toDigits]

theorem int?_integer (n : Int) : int? ⟨decide (n < 0), Nat.toDigits 10 n.natAbs, none, none⟩ = some n := by
  rcases lt_or_ge n 0 with h | h
  · have hne : n ≠ 0 := by omega
    simp [int?, natOf_toDigits, h, hne, abs_of_neg]
  · simp [int?, natOf_toDigits, not_lt.2 h, abs_of_nonneg h]

end NumberText
end GamepadPool
