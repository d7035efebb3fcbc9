import GamepadPool.NameField
import Mathlib.Data.List.TakeWhile
/-! # Names survive their encoding
A name is cut at its capacity between two characters, never inside one: what comes back is the longest part of the
text that fits, a question mark standing for each character the charset does not have. Only a zero in the text
itself ends it earlier. -/

namespace GamepadPool

/-! ## UTF-16 -/

namespace Utf16

/-- No half of a surrogate pair stands alone. -/
inductive Paired : List UInt16 → Prop where
  | nil : Paired []
  | single {u : UInt16} {rest : List UInt16} (hhigh : isHigh u = false) (hlow : isLow u = false) (h : Paired rest) :
      Paired (u :: rest)
  | pair {u v : UInt16} {rest : List UInt16} (hhigh : isHigh u = true) (hlow : isLow v = true) (h : Paired rest) :
      Paired (u :: v :: rest)

theorem Paired.append {us vs : List UInt16} (hus : Paired us) (hvs : Paired vs) : Paired (us ++ vs) := by
  induction hus with
  | nil => exact hvs
  | single hhigh hlow _ ih => exact .single hhigh hlow ih
  | pair hhigh hlow _ ih => exact .pair hhigh hlow ih

theorem isHigh_iff {u : UInt16} : isHigh u = true ↔ 0xD800 ≤ u.toNat ∧ u.toNat < 0xDC00 := by
  simp [isHigh, UInt16.le_iff_toNat_le, UInt16.lt_iff_toNat_lt]

theorem isLow_iff {u : UInt16} : isLow u = true ↔ 0xDC00 ≤ u.toNat ∧ u.toNat < 0xE000 := by
  simp [isLow, UInt16.le_iff_toNat_le, UInt16.lt_iff_toNat_lt]

/-- A character is written as one unit that is no half of a pair, or as the two halves of one. -/
theorem encodeChar_cases (c : Char) :
    (∃ u, encodeChar c = [u] ∧ isHigh u = false ∧ isLow u = false ∧ single u = c ∧ (u = 0 ↔ c = '\x00')) ∨
      ∃ u v, encodeChar c = [u, v] ∧ isHigh u = true ∧ isLow v = true ∧ pair u v = c ∧ c ≠ '\x00' := by
  have hvalid : c.toNat < 0xD800 ∨ 0xDFFF < c.toNat ∧ c.toNat < 0x110000 := c.valid
  have hzero : c = '\x00' ↔ c.toNat = 0 := by rw [← Char.toNat_inj]; rfl
  by_cases hbasic : c.toNat < 0x10000
  · left
    have hunit : (UInt16.ofNat c.toNat).toNat = c.toNat := UInt16.toNat_ofNat_of_lt' hbasic
    have hhigh : isHigh (.ofNat c.toNat) = false := by
      rw [Bool.eq_false_iff, ne_eq, isHigh_iff, hunit]
      omega
    have hlow : isLow (.ofNat c.toNat) = false := by
      rw [Bool.eq_false_iff, ne_eq, isLow_iff, hunit]
      omega
    refine ⟨.ofNat c.toNat, if_pos hbasic, hhigh, hlow, ?_, ?_⟩
    · rw [single, hhigh, hlow, hunit]
      exact Char.ofNat_toNat c
    · rw [← UInt16.toNat_inj, hunit, hzero]
      rfl
  · right
    have htop : (UInt16.ofNat (0xD800 + (c.toNat - 0x10000) / 0x400)).toNat = 0xD800 + (c.toNat - 0x10000) / 0x400 :=
      UInt16.toNat_ofNat_of_lt' (by rw [UInt16.size]; omega)
    have hrest : (UInt16.ofNat (0xDC00 + (c.toNat - 0x10000) % 0x400)).toNat = 0xDC00 + (c.toNat - 0x10000) % 0x400 :=
      UInt16.toNat_ofNat_of_lt' (by rw [UInt16.size]; omega)
    refine ⟨_, _, if_neg hbasic, isHigh_iff.2 ?_, isLow_iff.2 ?_, ?_, ?_⟩
    · rw [htop]
      omega
    · rw [hrest]
      omega
    · have hsum : 0x10000 + (0xD800 + (c.toNat - 0x10000) / 0x400 - 0xD800) * 0x400
          + (0xDC00 + (c.toNat - 0x10000) % 0x400 - 0xDC00) = c.toNat := by omega
      rw [pair, htop, hrest, hsum, Char.ofNat_toNat]
    · rw [ne_eq, hzero]
      omega

theorem decode_encode (text : List Char) : decode (encode text) = text := by
  induction text with
  | nil => rfl
  | cons c rest ih =>
    have hcons : encode (c :: rest) = encodeChar c ++ encode rest := rfl
    rw [hcons]
    rcases encodeChar_cases c with ⟨u, hu, hhigh, -, hsingle, -⟩ | ⟨u, v, huv, hhigh, hlow, hpair, -⟩
    · rw [hu]
      -- what follows a single unit does not matter to it
      have hdecode : ∀ us, decode (u :: us) = c :: decode us := by
        intro us
        cases us with
        | nil => simp [decode, hsingle]
        | cons v us => simp [decode, hhigh, hsingle]
      rw [List.singleton_append, hdecode, ih]
    · rw [huv]
      simp [decode, hhigh, hlow, hpair, ih]

end Utf16

/-! ## code units -/

namespace Charset

/-- The code units of one character. -/
def unitsOf : Charset → Char → List UInt16
  | ansi, ch => [(ansiByte ch).toUInt16]
  | wide, ch => Utf16.encodeChar ch

def codeUnits (c : Charset) (text : List Char) : List UInt16 := text.flatMap c.unitsOf

/-- What a reader sees in the place of a character. -/
def shown : Charset → Char → Char
  | ansi, ch => if ch.toNat < 128 then ch else '?'
  | wide, ch => ch

/-- The longest start of a text whose code units do not exceed a limit. -/
structure IsLongestFit (c : Charset) (limit : Nat) (text kept : List Char) : Prop where
  starts : kept <+: text
  fits : (c.codeUnits kept).length ≤ limit
  longest : ∀ other, other <+: text → (c.codeUnits other).length ≤ limit → other <+: kept

/-- Characters from the front, as long as there is room for them. -/
def fitting (c : Charset) : Nat → List Char → List Char
  | _, [] => []
  | limit, ch :: rest =>
    if (c.unitsOf ch).length ≤ limit then ch :: c.fitting (limit - (c.unitsOf ch).length) rest else []

variable (c : Charset)

@[simp] theorem codeUnits_nil : c.codeUnits [] = [] := rfl

@[simp] theorem codeUnits_cons (ch : Char) (rest : List Char) :
    c.codeUnits (ch :: rest) = c.unitsOf ch ++ c.codeUnits rest := rfl

theorem unitsOf_cases (ch : Char) :
    (∃ u, c.unitsOf ch = [u] ∧ Utf16.isHigh u = false ∧ Utf16.isLow u = false) ∨
      ∃ u v, c.unitsOf ch = [u, v] ∧ Utf16.isHigh u = true ∧ Utf16.isLow v = true := by
  cases c with
  | ansi =>
    have hbyte : ∀ b : UInt8, b.toUInt16.toNat < 256 := fun b => by
      rw [UInt8.toNat_toUInt16]
      exact b.toNat_lt
    have hlt := hbyte (ansiByte ch)
    refine .inl ⟨_, rfl, ?_, ?_⟩
    · rw [Bool.eq_false_iff, ne_eq, Utf16.isHigh_iff]
      omega
    · rw [Bool.eq_false_iff, ne_eq, Utf16.isLow_iff]
      omega
  | wide =>
    rcases Utf16.encodeChar_cases ch with ⟨u, hu, hhigh, hlow, -⟩ | ⟨u, v, huv, hhigh, hlow, -⟩
    · exact .inl ⟨u, hu, hhigh, hlow⟩
    · exact .inr ⟨u, v, huv, hhigh, hlow⟩

theorem unitsOf_pos (ch : Char) : 0 < (c.unitsOf ch).length := by
  rcases c.unitsOf_cases ch with ⟨u, hu, -⟩ | ⟨u, v, huv, -⟩
  · simp [hu]
  · simp [huv]

theorem paired_codeUnits (text : List Char) : Utf16.Paired (c.codeUnits text) := by
  induction text with
  | nil => exact .nil
  | cons ch rest ih =>
    rw [codeUnits_cons]
    rcases c.unitsOf_cases ch with ⟨u, hu, hhigh, hlow⟩ | ⟨u, v, huv, hhigh, hlow⟩
    · rw [hu]
      exact .single hhigh hlow ih
    · rw [huv]
      exact .pair hhigh hlow ih

/-! ## the cut -/

theorem isLongestFit_fitting (limit : Nat) (text : List Char) : c.IsLongestFit limit text (c.fitting limit text) := by
  induction text generalizing limit with
  | nil => exact ⟨List.prefix_rfl, Nat.zero_le _, fun _ h _ => h⟩
  | cons ch rest ih =>
    unfold fitting
    split
    · rename_i hroom
      obtain ⟨hstarts, hfits, hlongest⟩ := ih (limit - (c.unitsOf ch).length)
      refine ⟨(List.prefix_cons_inj ch).2 hstarts, ?_, fun other hother hle => ?_⟩
      · rw [codeUnits_cons, List.length_append]
        omega
      · cases other with
        | nil => exact List.nil_prefix
        | cons first more =>
          obtain ⟨rfl, hmore⟩ := List.cons_prefix_cons.1 hother
          rw [codeUnits_cons, List.length_append] at hle
          exact (List.prefix_cons_inj first).2 (hlongest more hmore (by omega))
    · rename_i hroom
      refine ⟨List.nil_prefix, Nat.zero_le _, fun other hother hle => ?_⟩
      cases other with
      | nil => exact List.nil_prefix
      | cons first more =>
        -- not even the first character fits
        obtain ⟨rfl, -⟩ := List.cons_prefix_cons.1 hother
        rw [codeUnits_cons, List.length_append] at hle
        omega

theorem fitting_ansi (limit : Nat) (text : List Char) : ansi.fitting limit text = text.take limit := by
  induction text generalizing limit with
  | nil => simp [fitting]
  | cons ch rest ih =>
    cases limit with
    | zero => rfl
    | succ limit =>
      have hroom : (ansi.unitsOf ch).length ≤ limit + 1 := Nat.succ_le_succ (Nat.zero_le _)
      rw [fitting, if_pos hroom, List.take_succ_cons]
      exact congrArg _ (ih limit)

/-- Behind a unit that opens no pair, units are cut as if they stood alone. -/
theorem cutUnits_append {before : List UInt16} {last : UInt16} (hlast : before.getLast? = some last)
    (hhigh : Utf16.isHigh last = false) (limit : Nat) (us : List UInt16) :
    cutUnits (before.length + limit) (before ++ us) = before ++ cutUnits limit us := by
  unfold cutUnits
  dsimp only
  rw [List.take_length_add_append, List.getLast?_append]
  cases hkept : (us.take limit).getLast? with
  | none =>
    rw [List.getLast?_eq_none_iff] at hkept
    simp [hlast, hhigh, hkept]
  | some u =>
    have hne : us.take limit ≠ [] := by
      intro hnil
      rw [hnil] at hkept
      cases hkept
    simp only [Option.some_or]
    split
    · rw [List.dropLast_append_of_ne_nil hne]
    · rfl

/-- Units are cut where a character ends. -/
theorem cutUnits_encode (limit : Nat) (text : List Char) :
    cutUnits limit (Utf16.encode text) = wide.codeUnits (wide.fitting limit text) := by
  induction text generalizing limit with
  | nil => simp [cutUnits, Utf16.encode, fitting]
  | cons ch rest ih =>
    have hcons : Utf16.encode (ch :: rest) = wide.unitsOf ch ++ Utf16.encode rest := rfl
    rw [hcons, fitting]
    split
    · rename_i hroom
      obtain ⟨more, rfl⟩ := Nat.exists_eq_add_of_le hroom
      obtain ⟨last, hlast, hhigh⟩ : ∃ last, (wide.unitsOf ch).getLast? = some last ∧ Utf16.isHigh last = false := by
        rcases wide.unitsOf_cases ch with ⟨u, hu, hhigh, -⟩ | ⟨u, v, huv, -, hlow⟩
        · exact ⟨u, by rw [hu]; rfl, hhigh⟩
        · refine ⟨v, by rw [huv]; rfl, ?_⟩
          rw [Utf16.isLow_iff] at hlow
          rw [Bool.eq_false_iff, ne_eq, Utf16.isHigh_iff]
          omega
      rw [cutUnits_append hlast hhigh, ih, codeUnits_cons, Nat.add_sub_cancel_left]
    · rename_i hroom
      rcases wide.unitsOf_cases ch with ⟨u, hu, -⟩ | ⟨u, v, huv, hhigh, -⟩
      · obtain rfl : limit = 0 := by
          rw [hu, List.length_singleton] at hroom
          omega
        rfl
      · rw [huv] at hroom ⊢
        simp only [List.length_cons, List.length_nil] at hroom
        -- no room, or room for the first half only, which is dropped again
        obtain rfl | rfl : limit = 0 ∨ limit = 1 := by omega
        · rfl
        · simp [cutUnits, hhigh]

end Charset

/-! ## name fields -/

namespace NameField

/-- The code units of a field, its terminator included. -/
def codeUnits (n : NameField) : List UInt16 :=
  match n.charset with
  | .ansi => n.bytes.map (·.toUInt16)
  | .wide => units n.bytes

/-- A unit is put together again from its two bytes. -/
theorem unit_littleEndian (u : UInt16) : u.toUInt8.toUInt16 ||| ((u >>> 8).toUInt8.toUInt16 <<< 8) = u := by
  have hlt := u.toNat_lt
  have hbytes : u.toNat % 2 ^ 8 ||| 2 ^ 8 * (u.toNat / 2 ^ 8) = u.toNat := by
    rw [Nat.or_comm, ← Nat.two_pow_add_eq_or_of_lt (Nat.mod_lt _ (by decide)), Nat.div_add_mod]
  have hshift : (u.toNat >>> 8 % 2 ^ 8) <<< 8 % 2 ^ 16 = 2 ^ 8 * (u.toNat / 2 ^ 8) := by
    rw [Nat.shiftLeft_eq, Nat.shiftRight_eq_div_pow]
    omega
  apply UInt16.toNat_inj.1
  simp only [UInt16.toNat_or, UInt16.toNat_shiftLeft, UInt16.toNat_shiftRight, UInt8.toNat_toUInt16,
    UInt16.toNat_toUInt8]
  exact (congrArg _ hshift).trans hbytes

theorem units_littleEndian (us : List UInt16) : units (us.flatMap Charset.littleEndian) = us := by
  induction us with
  | nil => rfl
  | cons u rest ih =>
    have hcons : (u :: rest).flatMap Charset.littleEndian =
        u.toUInt8 :: (u >>> 8).toUInt8 :: rest.flatMap Charset.littleEndian := rfl
    rw [hcons, units, unit_littleEndian, ih]

theorem length_littleEndian (us : List UInt16) : (us.flatMap Charset.littleEndian).length = us.length * 2 := by
  induction us with
  | nil => rfl
  | cons u rest ih =>
    rw [List.flatMap_cons, List.length_append, ih, List.length_cons]
    have : (Charset.littleEndian u).length = 2 := rfl
    omega

end NameField

/-! ## encoded names -/

namespace Charset

/-- The unit behind the text, if there is room for any. -/
def terminator (capacity : Nat) : List UInt16 := if 0 < capacity then [0] else []

theorem codeUnits_ansi (text : List Char) : ansi.codeUnits text = (text.map ansiByte).map (·.toUInt16) := by
  rw [List.map_map, List.map_eq_flatMap]
  rfl

theorem length_unitsOf_shown (c : Charset) (ch : Char) : (c.unitsOf (c.shown ch)).length = (c.unitsOf ch).length := by
  cases c <;> rfl

theorem length_codeUnits_shown (c : Charset) (text : List Char) :
    (c.codeUnits (text.map c.shown)).length = (c.codeUnits text).length := by
  induction text with
  | nil => rfl
  | cons ch rest ih => simp [length_unitsOf_shown, ih]

/-- Nothing else is shown as a NUL. -/
theorem eq_nul_of_shown (c : Charset) {ch : Char} (h : c.shown ch = '\x00') : ch = '\x00' := by
  cases c with
  | ansi =>
    by_cases hascii : ch.toNat < 128
    · have hshown : ansi.shown ch = ch := if_pos hascii
      rwa [← hshown]
    · have hshown : ansi.shown ch = '?' := if_neg hascii
      rw [hshown] at h
      cases h
  | wide => exact h

/-- The byte of a character is read as what is shown for it, and is zero for no other character than NUL. -/
theorem ofNat_ansiByte (ch : Char) :
    Char.ofNat (ansiByte ch).toNat = ansi.shown ch ∧ (ansiByte ch = 0 ↔ ansi.shown ch = '\x00') := by
  by_cases hascii : ch.toNat < 128
  · have hshown : ansi.shown ch = ch := if_pos hascii
    have hbyte : (UInt8.ofNat ch.toNat).toNat = ch.toNat := UInt8.toNat_ofNat_of_lt' (by rw [UInt8.size]; omega)
    rw [ansiByte, if_pos hascii, hshown, ← UInt8.toNat_inj, hbyte]
    exact ⟨Char.ofNat_toNat ch, Char.toNat_inj (d := '\x00')⟩
  · have hshown : ansi.shown ch = '?' := if_neg hascii
    rw [ansiByte, if_neg hascii, hshown]
    exact ⟨rfl, by decide⟩

/-- Reading up to the first zero, it does not matter whether the terminator is there. -/
theorem takeWhile_terminated {α : Type} [BEq α] [LawfulBEq α] (zero : α) (capacity : Nat) (l : List α) :
    (l ++ if 0 < capacity then [zero] else []).takeWhile (· != zero) = l.takeWhile (· != zero) := by
  induction l with
  | nil => split <;> simp
  | cons a rest ih => rw [List.cons_append, List.takeWhile_cons, List.takeWhile_cons, ih]

theorem takeWhile_encode (text : List Char) :
    (Utf16.encode text).takeWhile (· != 0) = Utf16.encode (text.takeWhile (· != '\x00')) := by
  induction text with
  | nil => rfl
  | cons ch rest ih =>
    have hcons : ∀ rest, Utf16.encode (ch :: rest) = Utf16.encodeChar ch ++ Utf16.encode rest := fun _ => rfl
    rw [hcons, List.takeWhile_cons]
    rcases Utf16.encodeChar_cases ch with ⟨u, hu, -, -, -, hzero⟩ | ⟨u, v, huv, hhigh, hlow, -, hne⟩
    · rw [hu, List.singleton_append, List.takeWhile_cons]
      by_cases hch : ch = '\x00'
      · simp [hch, hzero.2 hch, Utf16.encode]
      · simp [hch, mt hzero.1 hch, hcons, hu, ih]
    · have hu : u ≠ 0 := by
        rintro rfl
        cases hhigh
      have hv : v ≠ 0 := by
        rintro rfl
        cases hlow
      simp [huv, hu, hv, hne, hcons, ih]

section

variable (c : Charset) (text : String) (capacity : Nat)

theorem fitting_zero (text : List Char) : c.fitting 0 text = [] := by
  cases text with
  | nil => rfl
  | cons ch rest => rw [fitting, if_neg (Nat.not_le.2 (c.unitsOf_pos ch))]

/-- A field holds the units of the longest start that leaves room for the terminator. -/
theorem codeUnits_encode :
    (c.encode text capacity).codeUnits = c.codeUnits (c.fitting (capacity - 1) text.toList) ++ terminator capacity := by
  cases c with
  | ansi =>
    rw [fitting_ansi, codeUnits_ansi, terminator]
    simp only [encode, NameField.codeUnits, List.map_append, List.map_take]
    split <;> rfl
  | wide => simp only [encode, NameField.codeUnits, NameField.units_littleEndian, cutUnits_encode, terminator]

theorem length_bytes_encode :
    (c.encode text capacity).bytes.length = (c.encode text capacity).codeUnits.length * c.unitBytes := by
  cases c with
  | ansi => simp [encode, NameField.codeUnits, unitBytes]
  | wide =>
    rw [codeUnits_encode]
    simp only [encode, NameField.length_littleEndian, cutUnits_encode, terminator, unitBytes]

theorem length_codeUnits_encode : (c.encode text capacity).codeUnits.length ≤ capacity := by
  have hfits := (c.isLongestFit_fitting (capacity - 1) text.toList).fits
  rw [codeUnits_encode, List.length_append, terminator]
  split
  · simp only [List.length_singleton]
    omega
  · simp only [List.length_nil]
    omega

theorem paired_encode : Utf16.Paired (c.encode text capacity).codeUnits := by
  rw [codeUnits_encode]
  refine (c.paired_codeUnits _).append ?_
  unfold terminator
  split
  · exact .single rfl rfl .nil
  · exact .nil

/-- The length counts the units before the terminator. -/
theorem length_encode :
    (c.encode text capacity).length = (c.codeUnits (c.fitting (capacity - 1) text.toList)).length := by
  have hcharset : (c.encode text capacity).charset = c := by cases c <;> rfl
  have hwidth : 0 < c.unitBytes := by cases c <;> decide
  have hbytes := c.length_bytes_encode text capacity
  rw [codeUnits_encode, List.length_append] at hbytes
  unfold NameField.length
  simp only [hcharset, List.isEmpty_iff_length_eq_zero, hbytes, Nat.mul_div_cancel _ hwidth]
  by_cases hroom : 0 < capacity
  · have hsome := Nat.mul_pos (Nat.succ_pos (c.codeUnits (c.fitting (capacity - 1) text.toList)).length) hwidth
    simp [terminator, hroom, hsome.ne']
  · obtain rfl : capacity = 0 := by omega
    simp [terminator, fitting_zero]

/-- Reading stops at the first zero unit, the terminator or a NUL of the text. -/
theorem toList_decode_encode :
    (c.encode text capacity).decode.toList =
      ((c.fitting (capacity - 1) text.toList).map c.shown).takeWhile (· != '\x00') := by
  cases c with
  | ansi =>
    have hzero : (fun ch => ansiByte ch != 0) = fun ch => ansi.shown ch != '\x00' := by
      funext ch
      simp [bne, (ofNat_ansiByte ch).2]
    have hread : (fun ch => Char.ofNat (ansiByte ch).toNat) = ansi.shown := funext fun ch => (ofNat_ansiByte ch).1
    rw [fitting_ansi, List.takeWhile_map]
    simp only [encode, NameField.decode, String.toList_ofList, ← List.map_take, takeWhile_terminated,
      List.takeWhile_map, List.map_map, Function.comp_def, hzero, hread]
  | wide =>
    have hshown : wide.shown = id := rfl
    simp only [encode, NameField.decode, String.toList_ofList, NameField.units_littleEndian, cutUnits_encode,
      takeWhile_terminated, hshown, List.map_id]
    exact (congrArg _ (takeWhile_encode _)).trans (Utf16.decode_encode _)

end

/-- For every text and capacity, a name is the longest start of the text that leaves room for the terminator: its bytes
are the units of that start and one zero unit, no more than the capacity, with no half of a pair standing alone. Read
back, they show that start up to the first NUL; without a NUL the length is that of what is read. -/
theorem encode_longest (c : Charset) (text : String) (capacity : Nat) :
    let n := c.encode text capacity
    ∃ kept, c.IsLongestFit (capacity - 1) text.toList kept ∧ (c = .ansi → kept = text.toList.take (capacity - 1)) ∧
      n.decode.toList = (kept.map c.shown).takeWhile (· != '\x00') ∧
      n.codeUnits = c.codeUnits kept ++ (if 0 < capacity then [0] else []) ∧
      n.bytes.length = n.codeUnits.length * c.unitBytes ∧ n.codeUnits.length ≤ capacity ∧
      Utf16.Paired n.codeUnits ∧
      ('\x00' ∉ text.toList → n.length = (c.codeUnits n.decode.toList).length) := by
  intro n
  have hfit := c.isLongestFit_fitting (capacity - 1) text.toList
  have hdecode := c.toList_decode_encode text capacity
  refine ⟨_, hfit, ?_, hdecode, c.codeUnits_encode text capacity, c.length_bytes_encode text capacity,
    c.length_codeUnits_encode text capacity, c.paired_encode text capacity, fun hnul => ?_⟩
  · rintro rfl
    exact fitting_ansi _ _
  · have hwhole : ∀ ch ∈ (c.fitting (capacity - 1) text.toList).map c.shown, (ch != '\x00') = true := by
      intro ch hch
      obtain ⟨shown, hmem, rfl⟩ := List.mem_map.1 hch
      have hne : shown ≠ '\x00' := fun h => hnul (h ▸ hfit.starts.subset hmem)
      simpa using mt c.eq_nul_of_shown hne
    rw [List.takeWhile_eq_self_iff.2 hwhole] at hdecode
    rw [hdecode, length_codeUnits_shown]
    exact c.length_encode text capacity

/-- Room for two units and the terminator: a pair behind one character is left out whole. -/
example : (wide.encode "a😀b" 3).decode = "a" ∧ (wide.encode "a😀b" 4).decode = "a😀" := by decide +kernel

end Charset
end GamepadPool
