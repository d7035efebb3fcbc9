import GamepadPool.Proofs.Json.Tokens
import Mathlib.Data.List.TakeWhile
/-! # Values read back
A printed value is read back whole, with the fuel its own text gives. Its text holds no control character, so it
stands on one line. -/

namespace GamepadPool

/-- What a number starts with. -/
def NumberText.Starts (c : Char) : Prop := c = '-' ∨ c.isDigit

theorem NumberText.WellFormed.text_eq_cons {n : NumberText} (h : n.WellFormed) :
    ∃ c cs, n.text = c :: cs ∧ Starts c := by
  obtain ⟨d, ds, hwhole, hd⟩ := h.digit_of_head
  cases hnegative : n.negative with
  | true => exact ⟨'-', _, by rw [text, hnegative]; rfl, .inl rfl⟩
  | false => exact ⟨d, _, by rw [text, hnegative, hwhole]; rfl, .inr hd⟩

namespace Json

open NumberText (Ends Starts)

/-- Every number in it is written the way numbers are written. -/
inductive WellFormed : Json → Prop
  | null : WellFormed null
  | bool (b : Bool) : WellFormed (bool b)
  | number {n : NumberText} (h : n.WellFormed) : WellFormed (number n)
  | string (s : Option String) : WellFormed (string s)
  | array {items : List Json} (h : ∀ x ∈ items, WellFormed x) : WellFormed (array items)
  | object {fields : List (Option String × Json)} (h : ∀ f ∈ fields, WellFormed f.2) : WellFormed (object fields)

/-! ## where a token ends, and where a value starts -/

theorem ends_cons {c : Char} {rest : List Char} (h : c = ',' ∨ c = ']' ∨ c = '\x7d') : Ends (c :: rest) := by
  rintro d ⟨⟩
  rcases h with rfl | rfl | rfl <;> decide

theorem quote_eq (k : Option String) :
    ∃ cs, quote k = '"' :: cs ∧ ∀ rest, string? (cs ++ rest) = some (k, rest) := by
  cases k with
  | none => exact ⟨_, rfl, fun rest => rfl⟩
  | some s =>
    refine ⟨_, rfl, fun rest => ?_⟩
    rw [List.append_assoc]
    exact string?_quote s rest

theorem skipBlanks_cons {c : Char} (h : isBlank c = false) (rest : List Char) :
    skipBlanks (c :: rest) = c :: rest := by
  simp [skipBlanks, h]

theorem ends_printItems (xs : List Json) (rest : List Char) : Ends (printItems xs ++ rest) := by
  cases xs <;> exact ends_cons (by simp)

theorem ends_printFields (fs : List (Option String × Json)) (rest : List Char) : Ends (printFields fs ++ rest) := by
  rcases fs with _ | ⟨⟨k, x⟩, fs⟩ <;> exact ends_cons (by simp)

/-- A number is told from every other value, and from what may stand in its place, by its first character. -/
theorem ne_of_starts {c d : Char} (h : Starts c)
    (hd : d ∈ ['n', 't', 'f', '"', '[', '\x7b', ']', ' ', '\n', '\t', '\r']) : c ≠ d := by
  have hnone : ['n', 't', 'f', '"', '[', '\x7b', ']', ' ', '\n', '\t', '\r'].all
      (fun d => !(d == '-' || d.isDigit)) = true := rfl
  rintro rfl
  obtain ⟨hminus, hdigit⟩ : c ≠ '-' ∧ c.isDigit = false := by simpa using List.all_eq_true.1 hnone c hd
  rcases h with h | h
  · exact hminus h
  · exact Bool.false_ne_true (hdigit.symm.trans h)

theorem isBlank_of_starts {c : Char} (h : Starts c) : isBlank c = false := by
  simp [isBlank, ne_of_starts h]

/-! ## the reader at the start of a value -/

theorem value?_number {c : Char} (h : Starts c) (fuel : Nat) (cs : List Char) :
    value? (fuel + 1) (c :: cs) = (number? (c :: cs)).map fun p => (.number p.1, p.2) := by
  have hne : ∀ d ∈ ['n', 't', 'f', '"', '[', '\x7b'], c ≠ d :=
    fun d hd => ne_of_starts h (List.mem_append_left _ hd)
  simp only [List.forall_mem_cons] at hne
  obtain ⟨hn, ht, hf, hquote, hbracket, hbrace, -⟩ := hne
  rw [value?, skipBlanks_cons (isBlank_of_starts h)]
  split <;> simp_all
  cases number? (c :: cs) <;> rfl

/-- A value starts with a character that is neither blank nor the end of an array. -/
theorem print_eq_cons {j : Json} (h : j.WellFormed) : ∃ c cs, j.print = c :: cs ∧ isBlank c = false ∧ c ≠ ']' := by
  cases h with
  | null => exact ⟨_, _, rfl, by decide, by decide⟩
  | bool b => cases b <;> exact ⟨_, _, rfl, by decide, by decide⟩
  | number hn =>
    obtain ⟨c, cs, htext, hc⟩ := hn.text_eq_cons
    exact ⟨c, cs, htext, isBlank_of_starts hc, ne_of_starts hc (by simp)⟩
  | string s =>
    obtain ⟨cs, hquote, -⟩ := quote_eq s
    exact ⟨_, cs, hquote, by decide, by decide⟩
  | @array items _ => cases items <;> exact ⟨_, _, rfl, by decide, by decide⟩
  | @object fields _ => rcases fields with _ | ⟨⟨k, x⟩, fields⟩ <;> exact ⟨_, _, rfl, by decide, by decide⟩

theorem value?_array (fuel : Nat) {c : Char} (cs : List Char) (hblank : isBlank c = false) (hc : c ≠ ']') :
    value? (fuel + 1) ('[' :: c :: cs) = (items? fuel (c :: cs)).map fun p => (.array p.1, p.2) := by
  simp only [value?, skipBlanks_cons (show isBlank '[' = false by decide), skipBlanks_cons hblank]
  split
  · simp_all
  · cases items? fuel (c :: cs) <;> rfl

theorem value?_object (fuel : Nat) (cs : List Char) :
    value? (fuel + 1) ('\x7b' :: '"' :: cs) = (fields? fuel ('"' :: cs)).map fun p => (.object p.1, p.2) := by
  simp only [value?, skipBlanks_cons (show isBlank '\x7b' = false by decide),
    skipBlanks_cons (show isBlank '"' = false by decide)]
  split
  · simp_all
  · cases fields? fuel ('"' :: cs) <;> rfl

/-! ## reading what was printed
Each level of the reader takes one of the fuel, and each level of a value prints at least one character, so twice the
length of the text is enough. -/

mutual

theorem value?_print {j : Json} (h : j.WellFormed) {fuel : Nat} {rest : List Char}
    (hf : 2 * j.print.length ≤ fuel) (hr : Ends rest) : value? fuel (j.print ++ rest) = some (j, rest) := by
  obtain ⟨fuel, rfl⟩ : ∃ n, fuel = n + 1 := by
    obtain ⟨c, cs, hprint, -⟩ := print_eq_cons h
    exact ⟨fuel - 1, by rw [hprint, List.length_cons] at hf; omega⟩
  cases h with
  | null => rfl
  | bool b => cases b <;> rfl
  | @number n hn =>
    obtain ⟨c, cs, htext, hc⟩ := hn.text_eq_cons
    rw [print, htext, List.cons_append, value?_number hc, ← List.cons_append, ← htext, NumberText.number?_text hn hr]
    rfl
  | string s =>
    obtain ⟨cs, hquote, hstring⟩ := quote_eq s
    simp only [print, hquote, List.cons_append, value?, skipBlanks_cons (show isBlank '"' = false by decide), hstring]
  | @array items hitems =>
    cases items with
    | nil => rfl
    | cons x xs =>
      obtain ⟨hx, hxs⟩ := List.forall_mem_cons.1 hitems
      obtain ⟨c, cs, hprint, hblank, hbracket⟩ := print_eq_cons hx
      rw [print, List.length_cons] at hf
      have hrest := items?_print hx hxs rest (show 2 * (x.print ++ printItems xs).length ≤ fuel by omega)
      rw [hprint] at hrest
      rw [print, hprint]
      simp only [List.cons_append] at hrest ⊢
      rw [value?_array fuel _ hblank hbracket, hrest]
      rfl
  | @object fields hfields =>
    rcases fields with _ | ⟨⟨k, x⟩, fields⟩
    · rfl
    · obtain ⟨hx, hrest⟩ := List.forall_mem_cons.1 hfields
      obtain ⟨cs, hquote, -⟩ := quote_eq k
      rw [print, List.length_cons] at hf
      have hrest := fields?_print (k := k) hx hrest rest
        (show 2 * (quote k ++ ':' :: (x.print ++ printFields fields)).length ≤ fuel by omega)
      rw [hquote] at hrest
      rw [print, hquote]
      simp only [List.cons_append] at hrest ⊢
      rw [value?_object, hrest]
      rfl
termination_by fuel

theorem items?_print {x : Json} {xs : List Json} (hx : x.WellFormed) (hxs : ∀ y ∈ xs, y.WellFormed)
    (rest : List Char) {fuel : Nat} (hf : 2 * (x.print ++ printItems xs).length ≤ fuel) :
    items? fuel (x.print ++ printItems xs ++ rest) = some (x :: xs, rest) := by
  have hpos : 0 < (printItems xs).length := by cases xs <;> simp [printItems]
  rw [List.length_append] at hf
  obtain ⟨fuel, rfl⟩ : ∃ n, fuel = n + 1 := ⟨fuel - 1, by omega⟩
  have hvalue := value?_print hx (show 2 * x.print.length ≤ fuel by omega) (ends_printItems xs rest)
  rw [List.append_assoc, items?, hvalue]
  cases xs with
  | nil => rfl
  | cons y ys =>
    obtain ⟨hy, hys⟩ := List.forall_mem_cons.1 hxs
    rw [printItems, List.length_cons] at hf
    have hrest := items?_print hy hys rest (show 2 * (y.print ++ printItems ys).length ≤ fuel by omega)
    simp only [printItems, List.cons_append, skipBlanks_cons (show isBlank ',' = false by decide), hrest]
termination_by fuel

theorem fields?_print {k : Option String} {x : Json} {fs : List (Option String × Json)} (hx : x.WellFormed)
    (hfs : ∀ f ∈ fs, f.2.WellFormed) (rest : List Char) {fuel : Nat}
    (hf : 2 * (quote k ++ ':' :: (x.print ++ printFields fs)).length ≤ fuel) :
    fields? fuel (quote k ++ ':' :: (x.print ++ printFields fs) ++ rest) = some ((k, x) :: fs, rest) := by
  have hpos : 0 < (printFields fs).length := by rcases fs with _ | ⟨⟨k, x⟩, fs⟩ <;> simp [printFields]
  simp only [List.length_append, List.length_cons] at hf
  obtain ⟨fuel, rfl⟩ : ∃ n, fuel = n + 1 := ⟨fuel - 1, by omega⟩
  have hvalue := value?_print hx (show 2 * x.print.length ≤ fuel by omega) (ends_printFields fs rest)
  obtain ⟨cs, hquote, hstring⟩ := quote_eq k
  simp only [hquote, List.append_assoc, List.cons_append, fields?, skipBlanks_cons (show isBlank '"' = false by decide),
    hstring, skipBlanks_cons (show isBlank ':' = false by decide), hvalue]
  rcases fs with _ | ⟨⟨k, y⟩, fs⟩
  · rfl
  · obtain ⟨hy, hrest⟩ := List.forall_mem_cons.1 hfs
    simp only [printFields, List.length_cons] at hf
    have hrest := fields?_print (k := k) hy hrest rest
        (show 2 * (quote k ++ ':' :: (y.print ++ printFields fs)).length ≤ fuel by omega)
    simp only [printFields, List.cons_append, skipBlanks_cons (show isBlank ',' = false by decide), hrest]
termination_by fuel

end

/-- A printed value is read back, and blanks behind it do not matter. -/
theorem parse?_print {j : Json} (h : j.WellFormed) {blanks : List Char} (hb : ∀ c ∈ blanks, isBlank c) :
    parse? (j.print ++ blanks) = some j := by
  have hskip : skipBlanks blanks = [] := List.dropWhile_eq_nil_iff.2 hb
  have hends : Ends blanks := by
    intro c hc
    have hblank := hb c (List.mem_of_mem_head? hc)
    simp only [isBlank, Bool.or_eq_true, beq_iff_eq] at hblank
    rcases hblank with ((rfl | rfl) | rfl) | rfl <;> decide
  rw [parse?, value?_print h (by rw [List.length_append]; omega) hends]
  simp only [hskip, if_true]

/-! ## no line breaks -/

/-- No control characters, so no line feeds. -/
def Plain (cs : List Char) : Prop := ∀ c ∈ cs, 32 ≤ c.toNat

@[simp] theorem plain_nil : Plain [] := fun _ hc => absurd hc List.not_mem_nil

@[simp] theorem plain_cons {c : Char} {cs : List Char} : Plain (c :: cs) ↔ 32 ≤ c.toNat ∧ Plain cs :=
  List.forall_mem_cons

@[simp] theorem plain_append {cs ds : List Char} : Plain (cs ++ ds) ↔ Plain cs ∧ Plain ds := List.forall_mem_append

theorem plain_padded (width n : Nat) : Plain (Hex.padded width n) := by
  have hdigit : ∀ m < 16, 32 ≤ (Hex.digit m).toNat := by decide
  induction width generalizing n with
  | zero => exact plain_nil
  | succ width ih =>
    rw [Hex.padded, plain_append, plain_cons]
    exact ⟨ih _, hdigit _ (Nat.mod_lt _ (by decide)), plain_nil⟩

theorem plain_escape (c : Char) : Plain (escape c) := by
  unfold escape
  split_ifs <;> simp_all [plain_padded]

theorem plain_quote (k : Option String) : Plain (quote k) := by
  cases k with
  | none => simp [quote]
  | some s =>
    have hescaped : Plain (s.toList.flatMap escape) := List.forall_mem_flatMap.2 fun c _ => plain_escape c
    simp [quote, hescaped]

theorem plain_numeral {ds : List Char} (h : NumberText.Numeral ds) : Plain ds := by
  intro c hc
  have hdigit := h.isDigit c hc
  simp only [Char.isDigit, Bool.and_eq_true, decide_eq_true_eq, UInt32.le_iff_toNat_le] at hdigit
  exact le_trans (by decide) hdigit.1

theorem plain_text {n : NumberText} (h : n.WellFormed) : Plain n.text := by
  have hsign : Plain (if n.negative then ['-'] else []) := by split <;> simp
  have hfraction : Plain (NumberText.fractionText n.fraction) := by
    cases hn : n.fraction with
    | none => exact plain_nil
    | some ds => exact plain_cons.2 ⟨by decide, plain_numeral (h.fraction ds hn)⟩
  have hexponent : Plain (NumberText.exponentText n.exponent) := by
    rcases hn : n.exponent with _ | ⟨sign, ds⟩
    · exact plain_nil
    · have hds := plain_numeral (h.exponent sign ds hn)
      cases sign <;> simp [NumberText.exponentText, ExponentSign.text, hds]
  simp only [NumberText.text, plain_append]
  exact ⟨hsign, plain_numeral h.whole, hfraction, hexponent⟩

mutual

theorem plain_print : ∀ {j : Json}, j.WellFormed → Plain j.print
  | null, _ => by simp [print]
  | bool true, _ => by simp [print]
  | bool false, _ => by simp [print]
  | number _, .number h => plain_text h
  | string s, _ => plain_quote s
  | array [], _ => by simp [print]
  | array (_ :: _), .array h => by
    obtain ⟨hx, hxs⟩ := List.forall_mem_cons.1 h
    simp [print, plain_print hx, plain_printItems hxs]
  | object [], _ => by simp [print]
  | object ((k, _) :: _), .object h => by
    obtain ⟨hx, hxs⟩ := List.forall_mem_cons.1 h
    simp [print, plain_quote k, plain_print hx, plain_printFields hxs]

theorem plain_printItems : ∀ {xs : List Json}, (∀ x ∈ xs, x.WellFormed) → Plain (printItems xs)
  | [], _ => by simp [printItems]
  | _ :: _, h => by
    obtain ⟨hx, hxs⟩ := List.forall_mem_cons.1 h
    simp [printItems, plain_print hx, plain_printItems hxs]

theorem plain_printFields : ∀ {fs : List (Option String × Json)}, (∀ f ∈ fs, f.2.WellFormed) → Plain (printFields fs)
  | [], _ => by simp [printFields]
  | (k, _) :: _, h => by
    obtain ⟨hx, hfs⟩ := List.forall_mem_cons.1 h
    simp [printFields, plain_quote k, plain_print hx, plain_printFields hfs]

end
end Json
end GamepadPool
