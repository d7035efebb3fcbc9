import GamepadPool.Device
import GamepadPool.Proofs.Json.Tokens
/-! # GUIDs tell devices apart
A GUID is read back as the device it was made for, only GUIDs made for a device are read at all, and no two GUIDs have
the same text. -/

namespace GamepadPool

/-! ## hexadecimal text -/

namespace Hex

theorem digit_inj {n m : Nat} (hn : n < 16) (hm : m < 16) (h : digit n = digit m) : n = m := by
  have hvalue := congrArg value? h
  rw [value?_digit hn, value?_digit hm] at hvalue
  exact Option.some.inj hvalue

/-- A number that fits into its digits is known by them. -/
theorem padded_inj {width n m : Nat} (hn : n < 16 ^ width) (hm : m < 16 ^ width)
    (h : padded width n = padded width m) : n = m := by
  induction width generalizing n m with
  | zero =>
    rw [Nat.pow_zero] at hn hm
    omega
  | succ w ih =>
    obtain ⟨hhigh, hlow⟩ := List.append_inj h (by simp)
    have hquot : n / 16 = m / 16 := ih (by omega) (by omega) hhigh
    have hrest : n % 16 = m % 16 :=
      digit_inj (Nat.mod_lt _ (by decide)) (Nat.mod_lt _ (by decide)) (List.cons.inj hlow).1
    omega

theorem bytes_inj {bs cs : List UInt8} (h : bytes bs = bytes cs) : bs = cs := by
  induction bs generalizing cs with
  | nil =>
    cases cs with
    | nil => rfl
    | cons c rest => cases h
  | cons b rest ih =>
    cases cs with
    | nil => cases h
    | cons c rest' =>
      have happend : padded 2 b.toNat ++ bytes rest = padded 2 c.toNat ++ bytes rest' := h
      obtain ⟨hbyte, hrest⟩ := List.append_inj happend rfl
      rw [UInt8.toNat_inj.1 (padded_inj b.toNat_lt c.toNat_lt hbyte), ih hrest]

end Hex

/-- Every group has its own place in the text. -/
theorem Guid.text_injective : Function.Injective text := by
  intro g g' h
  have hchars := String.ofList_injective h
  simp only [List.append_assoc, List.cons_append, List.nil_append, List.cons.injEq, true_and] at hchars
  obtain ⟨h1, hchars⟩ := List.append_inj hchars (by simp)
  obtain ⟨h2, hchars⟩ := List.append_inj (List.cons.inj hchars).2 (by simp)
  obtain ⟨h3, hchars⟩ := List.append_inj (List.cons.inj hchars).2 (by simp)
  obtain ⟨hfront, hchars⟩ := List.append_inj (List.cons.inj hchars).2 (by simp [Hex.bytes])
  obtain ⟨hback, -⟩ := List.append_inj (List.cons.inj hchars).2 (by simp [Hex.bytes])
  have hbytes : g.data4.toList = g'.data4.toList := by
    rw [← List.take_append_drop 2 g.data4.toList, Hex.bytes_inj hfront, Hex.bytes_inj hback, List.take_append_drop]
  obtain ⟨d1, d2, d3, d4⟩ := g
  obtain ⟨d1', d2', d3', d4'⟩ := g'
  rw [Guid.mk.injEq]
  exact ⟨UInt32.toNat_inj.1 (Hex.padded_inj d1.toNat_lt d1'.toNat_lt h1),
    UInt16.toNat_inj.1 (Hex.padded_inj d2.toNat_lt d2'.toNat_lt h2),
    UInt16.toNat_inj.1 (Hex.padded_inj d3.toNat_lt d3'.toNat_lt h3), Vector.toList_inj.1 hbytes⟩

namespace DeviceId

/-! ## the index of a virtual device -/

/-- What lies below a bit is added to what lies above it. -/
theorem toNat_or_of_dvd {high low : UInt64} {i : Nat} (hhigh : 2 ^ i ∣ high.toNat) (hlow : low.toNat < 2 ^ i) :
    (high ||| low).toNat = high.toNat + low.toNat := by
  obtain ⟨a, ha⟩ := hhigh
  rw [UInt64.toNat_or, ha]
  exact (Nat.two_pow_add_eq_or_of_lt hlow a).symm

theorem toNat_shiftLeft_byte (b : UInt8) {k : UInt64} (hk : k.toNat ≤ 24) :
    (b.toUInt64 <<< k).toNat = b.toNat * 2 ^ k.toNat := by
  have hb := b.toNat_lt
  have hpow : 2 ^ k.toNat ≤ 2 ^ 24 := Nat.pow_le_pow_right (by decide) hk
  have hproduct : b.toNat * 2 ^ k.toNat ≤ 2 ^ 8 * 2 ^ 24 := Nat.mul_le_mul hb.le hpow
  have hmod : k.toNat % 64 = k.toNat := Nat.mod_eq_of_lt (by omega)
  rw [UInt64.toNat_shiftLeft, UInt8.toNat_toUInt64, Nat.shiftLeft_eq, hmod]
  exact Nat.mod_eq_of_lt (by omega)

theorem toNat_indexOf (b0 b1 b2 b3 : UInt8) :
    (indexOf b0 b1 b2 b3).toNat = b0.toNat * 2 ^ 24 + b1.toNat * 2 ^ 16 + b2.toNat * 2 ^ 8 + b3.toNat := by
  have h1 := b1.toNat_lt
  have h2 := b2.toNat_lt
  have h3 := b3.toNat_lt
  have hshift0 : (b0.toUInt64 <<< 24).toNat = b0.toNat * 2 ^ 24 := toNat_shiftLeft_byte b0 (by decide)
  have hshift1 : (b1.toUInt64 <<< 16).toNat = b1.toNat * 2 ^ 16 := toNat_shiftLeft_byte b1 (by decide)
  have hshift2 : (b2.toUInt64 <<< 8).toNat = b2.toNat * 2 ^ 8 := toNat_shiftLeft_byte b2 (by decide)
  have hone : (b0.toUInt64 <<< 24 ||| b1.toUInt64 <<< 16).toNat = b0.toNat * 2 ^ 24 + b1.toNat * 2 ^ 16 := by
    rw [toNat_or_of_dvd (i := 24) (by omega) (by omega), hshift0, hshift1]
  have htwo : (b0.toUInt64 <<< 24 ||| b1.toUInt64 <<< 16 ||| b2.toUInt64 <<< 8).toNat =
      b0.toNat * 2 ^ 24 + b1.toNat * 2 ^ 16 + b2.toNat * 2 ^ 8 := by
    rw [toNat_or_of_dvd (i := 16) (by omega) (by omega), hone, hshift2]
  rw [indexOf, toNat_or_of_dvd (i := 8) (by omega) (by rw [UInt8.toNat_toUInt64]; omega), htwo, UInt8.toNat_toUInt64]

theorem toNat_byte (word : UInt64) {k : UInt64} {j : Nat} (hk : k.toNat % 64 = j) :
    (word >>> k).toUInt8.toNat = word.toNat / 2 ^ j % 2 ^ 8 := by
  rw [UInt64.toNat_toUInt8, UInt64.toNat_shiftRight, Nat.shiftRight_eq_div_pow, hk]

/-- Four bytes hold an index up to its low half. -/
theorem indexOf_indexBytes (index : UInt64) :
    (indexOf (index >>> 24).toUInt8 (index >>> 16).toUInt8 (index >>> 8).toUInt8 index.toUInt8).toNat =
      index.toNat % 2 ^ 32 := by
  rw [toNat_indexOf, toNat_byte index (j := 24) rfl, toNat_byte index (j := 16) rfl, toNat_byte index (j := 8) rfl,
    UInt64.toNat_toUInt8]
  omega

theorem indexBytes_indexOf (b0 b1 b2 b3 : UInt8) : indexBytes (indexOf b0 b1 b2 b3) = #v[b0, b1, b2, b3] := by
  have h0 := b0.toNat_lt
  have h1 := b1.toNat_lt
  have h2 := b2.toNat_lt
  have h3 := b3.toNat_lt
  have hindex := toNat_indexOf b0 b1 b2 b3
  unfold indexBytes
  generalize indexOf b0 b1 b2 b3 = index at hindex ⊢
  have hfirst : (index >>> 24).toUInt8 = b0 := by
    rw [← UInt8.toNat_inj, toNat_byte index (j := 24) rfl]
    omega
  have hsecond : (index >>> 16).toUInt8 = b1 := by
    rw [← UInt8.toNat_inj, toNat_byte index (j := 16) rfl]
    omega
  have hthird : (index >>> 8).toUInt8 = b2 := by
    rw [← UInt8.toNat_inj, toNat_byte index (j := 8) rfl]
    omega
  have hfourth : index.toUInt8 = b3 := by
    rw [← UInt8.toNat_inj, UInt64.toNat_toUInt8]
    omega
  congr

/-! ## devices -/

/-- A virtual device whose index fits into its GUID, and any other device. -/
def Fits : DeviceId → Prop
  | keyboard | mouse => True
  | virtual index => index.toNat < 2 ^ 32

theorem ofGuid?_virtual (index : UInt64) :
    ofGuid? (toGuid (virtual index)) = some (virtual (.ofNat (index.toNat % 2 ^ 32))) := by
  have hkeyboard : toGuid (virtual index) ≠ keyboardGuid := by simp [toGuid, keyboardGuid]
  have hmouse : toGuid (virtual index) ≠ mouseGuid := by simp [toGuid, mouseGuid]
  rw [ofGuid?, if_neg hkeyboard, if_neg hmouse, if_pos ⟨rfl, rfl, rfl, rfl⟩, ← indexOf_indexBytes, UInt64.ofNat_toNat]
  rfl

/-- The index that is read back is the one that was written exactly if it fits. -/
theorem ofGuid?_toGuid_iff (d : DeviceId) : ofGuid? d.toGuid = some d ↔ d.Fits := by
  cases d with
  | keyboard => exact ⟨fun _ => trivial, fun _ => rfl⟩
  | mouse => exact ⟨fun _ => trivial, fun _ => rfl⟩
  | virtual index =>
    rw [ofGuid?_virtual, Option.some.injEq, virtual.injEq, ← UInt64.toNat_inj, UInt64.toNat_ofNat', Fits]
    omega

theorem toGuid_inj {d d' : DeviceId} (h : d.Fits) (h' : d'.Fits) (heq : d.toGuid = d'.toGuid) : d = d' := by
  have hread := (ofGuid?_toGuid_iff d).2 h
  rw [heq, (ofGuid?_toGuid_iff d').2 h'] at hread
  exact (Option.some.inj hread).symm

theorem take_append_last : ∀ bytes : Vector UInt8 8,
    bytes.take 4 ++ #v[bytes.get 4, bytes.get 5, bytes.get 6, bytes.get 7] = bytes
  | ⟨⟨[_, _, _, _, _, _, _, _]⟩, _⟩ => rfl

theorem toGuid_of_ofGuid? {g : Guid} {d : DeviceId} (h : ofGuid? g = some d) : d.toGuid = g := by
  unfold ofGuid? at h
  split at h
  · rename_i hg
    obtain rfl := Option.some.inj h
    exact hg.symm
  split at h
  · rename_i hg
    obtain rfl := Option.some.inj h
    exact hg.symm
  split at h
  · rename_i hhead
    obtain rfl := Option.some.inj h
    obtain ⟨d1, d2, d3, d4⟩ := g
    obtain ⟨rfl, rfl, rfl, hd4⟩ := hhead
    rw [toGuid, indexBytes_indexOf]
    rw [← hd4]
    exact congrArg _ (take_append_last d4)
  · cases h

/-- A device is read back from its GUID exactly if its index, should it have one, fits into four bytes; a GUID that is
read as a device is the one that device has; and neither GUIDs nor their texts are shared. -/
theorem guids_identify :
    (∀ d : DeviceId, ofGuid? d.toGuid = some d ↔ d.Fits) ∧
    (∀ (g : Guid) (d : DeviceId), ofGuid? g = some d → d.toGuid = g) ∧
    (∀ g g' : Guid, g ≠ g' → g.text ≠ g'.text) ∧
    ∀ d d' : DeviceId, d.Fits → d'.Fits → d ≠ d' → d.toGuid ≠ d'.toGuid ∧ d.toGuid.text ≠ d'.toGuid.text := by
  refine ⟨ofGuid?_toGuid_iff, fun g d => toGuid_of_ofGuid?, fun g g' hne => Guid.text_injective.ne hne,
    fun d d' h h' hne => ?_⟩
  have hguids : d.toGuid ≠ d'.toGuid := fun heq => hne (toGuid_inj h h' heq)
  exact ⟨hguids, Guid.text_injective.ne hguids⟩

/-- The greatest index that fits, and a GUID that was not made from a device. -/
theorem guids_identify_last :
    let last : DeviceId := .virtual 0xFFFFFFFF
    let g : Guid := ⟨0xdead571c, 0x4efc, 0x9fa7, #v[0x9a, 0x7e, 0x8d, 0x10, 1, 2, 3, 4]⟩
    last.Fits ∧ mouse.Fits ∧ last ≠ mouse ∧ ofGuid? last.toGuid = some last ∧
      last.toGuid.text ≠ mouse.toGuid.text ∧
      ofGuid? g = some (.virtual 0x01020304) ∧ (virtual 0x01020304).toGuid = g ∧
      g ≠ last.toGuid ∧ g.text ≠ last.toGuid.text := by
  intro last g
  obtain ⟨hread, hwritten, htexts, happart⟩ := guids_identify
  have hfits : last.Fits := by
    change (0xFFFFFFFF : Nat) < 2 ^ 32
    decide
  have hg : ofGuid? g = some (.virtual 0x01020304) := by decide
  have hne : g ≠ last.toGuid := by decide
  have hdevices : last ≠ mouse := by decide
  exact ⟨hfits, trivial, hdevices, (hread last).2 hfits, (happart last mouse hfits trivial hdevices).2, hg,
    hwritten g _ hg, hne, htexts g _ hne⟩

end DeviceId
end GamepadPool
