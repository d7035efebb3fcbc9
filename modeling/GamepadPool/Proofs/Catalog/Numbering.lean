import GamepadPool.Proofs.Catalog.Additions
import GamepadPool.Proofs.Catalog.Identifiers
/-! # Numbering of buttons
Buttons are numbered in the order in which they are added, whatever is added between them and whether they come alone or
in rows. As long as there are numbers and offsets for all of them, a number is a name: the first object to answer to it
is the button that was given it. -/

namespace GamepadPool

namespace Addition

variable {a : Addition} {adds : List Addition} {number : UInt16}

theorem kind_toObject_iff : (a.toObject number).kind = .pushButton ↔ a.isButton = true := by
  cases a with
  | object o ho =>
    constructor
    · intro hkind
      rw [show o.kind = .pushButton from hkind] at ho
      cases ho
    · rintro ⟨⟩
  | button offset b => exact ⟨fun _ => rfl, fun _ => rfl⟩

theorem number_toObject (h : a.isButton = true) : (a.toObject number).number = number := by
  cases a with
  | object o ho => cases h
  | button offset b => rfl

/-- A button counts among the buttons up to any later place. -/
theorem buttonsIn_take_lt {i j : Nat} (ha : adds[i]? = some a) (hbutton : a.isButton = true) (hij : i < j) :
    buttonsIn (adds.take i) < buttonsIn (adds.take j) := by
  have hprefix : buttonsIn (adds.take (i + 1)) ≤ buttonsIn (adds.take j) :=
    (List.take_prefix_take_left (by omega)).sublist.countP_le
  have hlast : buttonsIn (adds.take (i + 1)) = buttonsIn (adds.take i) + 1 := by
    simp [buttonsIn, List.take_add_one, ha, hbutton]
  omega

theorem buttonsIn_take_lt_buttonsIn {i : Nat} (ha : adds[i]? = some a) (hbutton : a.isButton = true) :
    buttonsIn (adds.take i) < buttonsIn adds := by
  have hi : i < adds.length := (List.getElem?_eq_some_iff.1 ha).1
  simpa using buttonsIn_take_lt ha hbutton hi

theorem getElem?_toObjects (adds : List Addition) (i : Nat) :
    (toObjects 0 adds)[i]? = adds[i]?.map (·.toObject (.ofNat (buttonsIn (adds.take i)))) := by
  simp [toObjects]

section Numbers

variable {i : Nat} (hcount : buttonsIn adds ≤ 0xFFFF) (ha : adds[i]? = some a) (hbutton : a.isButton = true)

include hcount ha hbutton

theorem toNat_number : (UInt16.ofNat (buttonsIn (adds.take i))).toNat = buttonsIn (adds.take i) := by
  have hlt := buttonsIn_take_lt_buttonsIn ha hbutton
  rw [UInt16.toNat_ofNat']
  omega

/-- As many buttons as there are numbers leave out the last one, which stands for any. -/
theorem number_ne_any : UInt16.ofNat (buttonsIn (adds.take i)) ≠ 0xFFFF := by
  have hlt := buttonsIn_take_lt_buttonsIn ha hbutton
  rw [ne_eq, ← UInt16.toNat_inj, toNat_number hcount ha hbutton]
  exact Nat.ne_of_lt (Nat.lt_of_lt_of_le hlt hcount)

/-- Of all objects, the first with the number of a button is that button. -/
theorem findIdx?_toObjects :
    (toObjects 0 adds).findIdx?
      (·.answersTo (ObjectKind.pushButton.typeBits ||| TypeBits.ofInstance (.ofNat (buttonsIn (adds.take i))))) =
        some i := by
  have hany := number_ne_any hcount ha hbutton
  have hnumber := toNat_number hcount ha hbutton
  obtain ⟨hi, rfl⟩ := List.getElem?_eq_some_iff.1 ha
  refine List.findIdx?_eq_some_iff_getElem.2 ⟨by simpa [toObjects] using hi, ?_, fun j hj hanswers => ?_⟩
  · simp only [toObjects, List.getElem_mapIdx, DeviceObject.answersTo_iff_of_kind hany, UInt16.zero_add]
    exact ⟨kind_toObject_iff.2 hbutton, number_toObject hbutton⟩
  · -- whatever answers earlier is a button, and has an earlier number
    have hget : adds[j]? = some adds[j] := List.getElem?_eq_getElem (by omega)
    simp only [toObjects, List.getElem_mapIdx, DeviceObject.answersTo_iff_of_kind hany, UInt16.zero_add,
      kind_toObject_iff] at hanswers
    obtain ⟨hbutton', hsame⟩ := hanswers
    rw [number_toObject hbutton', ← UInt16.toNat_inj, hnumber, toNat_number hcount hget hbutton'] at hsame
    have hless := buttonsIn_take_lt hget hbutton' hj
    omega

end Numbers

end Addition

namespace CatalogDraft

open Addition (buttonsIn)

variable {steps : List BuildStep}

/-- The offsets of buttons are words. -/
theorem offset_lt {offset : Nat} {button : Button} (hends : ∀ s ∈ steps, s.offsetsEnd < 2 ^ 32)
    (hadd : .button offset button ∈ additions steps) : offset < 2 ^ 32 := by
  obtain ⟨s, hs, hadd⟩ := List.mem_flatMap.1 hadd
  have hend := hends s hs
  cases s with
  | button offset button =>
    obtain ⟨rfl, -⟩ := Addition.button.inj (List.mem_singleton.1 hadd)
    exact offset.toNat_lt
  | buttons first buttons =>
    obtain ⟨i, hi, hsame⟩ := List.mem_mapIdx.1 hadd
    obtain ⟨rfl, -⟩ := Addition.button.inj hsame
    rw [BuildStep.offsetsEnd] at hend
    omega
  | axis | hat | collection => cases List.mem_singleton.1 hadd

/-- With at most 65535 buttons, in rows that end before the offsets do, no counter runs out. Every control becomes one
object, in the order of the steps. One that its step describes in full is as described; a button that `k` buttons were
added before has the number `k`, the name made of it and the offset it was given, and is the first object to answer to
the identifier of push buttons with that number. A row is as good as its buttons one by one, whatever came before. -/
theorem buttons_numbered (hcount : buttonsIn (additions steps) ≤ 65535)
    (hrows : ∀ first buttons, .buttons first buttons ∈ steps → first.toNat + buttons.length + 1 < 2 ^ 32) :
    (∃ objects, build steps = .ok objects ∧ objects.length = (additions steps).length ∧
      (∀ (i : Nat) o ho, (additions steps)[i]? = some (.object o ho) → objects[i]? = some o) ∧
      ∀ (i : Nat) offset button, (additions steps)[i]? = some (.button offset button) →
        let k := buttonsIn ((additions steps).take i)
        ∃ o, objects[i]? = some o ∧ o = buttonObject o.number o.nativeOffset button ∧
          o.number.toNat = k ∧ o.name = s!"Button {k}" ∧ o.nativeOffset.toNat = offset ∧
          objects.findIdx? (·.answersTo (TypeBits.pushButton ||| TypeBits.ofInstance (.ofNat k))) = some i) ∧
    ∀ (b : CatalogDraft) first buttons, .buttons first buttons ∈ steps →
      b.step (.buttons first buttons) = b.run (BuildStep.oneByOne first buttons) := by
  have hends : ∀ s ∈ steps, s.offsetsEnd < 2 ^ 32 := by
    intro s hs
    cases s with
    | buttons first buttons => exact hrows first buttons hs
    | axis | button | hat | collection => exact Nat.two_pow_pos 32
  have hroom : empty.HasRoom steps := ⟨by simpa [empty] using hcount, hends⟩
  refine ⟨⟨Addition.toObjects 0 (additions steps), ?_, ?_, fun i o ho hadd => ?_, fun i offset button hadd => ?_⟩,
    fun b first buttons hrow => addButtons_oneByOne (hrows first buttons hrow) b⟩
  · rw [build_eq, if_pos hroom]
  · exact List.length_mapIdx
  · rw [Addition.getElem?_toObjects, hadd]
    rfl
  · intro k
    have hk : (UInt16.ofNat k).toNat = k := Addition.toNat_number hcount hadd rfl
    have hoffset : (UInt32.ofNat offset).toNat = offset := by
      have hlt := offset_lt hends (List.mem_of_getElem? hadd)
      rw [UInt32.toNat_ofNat']
      omega
    refine ⟨buttonObject (.ofNat k) (.ofNat offset) button, ?_, rfl, hk, ?_, hoffset,
      Addition.findIdx?_toObjects hcount hadd rfl⟩
    · rw [Addition.getElem?_toObjects, hadd]
      rfl
    · change s!"Button {(UInt16.ofNat k).toNat}" = _
      rw [hk]

/-- A button before a hat, and one between a row that takes the last offsets and a collection. -/
theorem buttons_numbered_in_last_row :
    let steps : List BuildStep :=
      [.button 40 .south, .hat "Hat Switch" 7 16, .buttons 0xFFFFFFFC [.east, .north], .button 9 .west,
       .collection "Pad" 1]
    buttonsIn (additions steps) ≤ 65535 ∧
      (∀ first buttons, .buttons first buttons ∈ steps → first.toNat + buttons.length + 1 < 2 ^ 32) ∧
      ∃ objects o, build steps = .ok objects ∧ objects.length = 6 ∧
        objects[1]? = some (.ofControl "Hat Switch" .pov .pov 7 16 (some .hat)) ∧
        objects[3]? = some o ∧ o = buttonObject 2 0xFFFFFFFD .north ∧ o.name = "Button 2" ∧
        objects.findIdx? (·.answersTo 0x00000204) = some 3 ∧
        objects.findIdx? (·.answersTo 0x00000304) = some 4 ∧
        ∀ b : CatalogDraft, b.step (.buttons 0xFFFFFFFC [.east, .north]) =
          b.run [.button 0xFFFFFFFC .east, .button 0xFFFFFFFD .north] := by
  intro steps
  have hcount : buttonsIn (additions steps) ≤ 65535 := by decide
  have hrows : ∀ first buttons, .buttons first buttons ∈ steps → first.toNat + buttons.length + 1 < 2 ^ 32 := by
    intro first buttons hrow
    obtain ⟨rfl, rfl⟩ : first = 0xFFFFFFFC ∧ buttons = [.east, .north] := by simpa [steps] using hrow
    decide
  obtain ⟨⟨objects, hbuild, hlength, hothers, hbuttons⟩, hrow⟩ := buttons_numbered hcount hrows
  obtain ⟨o, ho, hsame, hnumber, hname, hoffset, hfind⟩ := hbuttons 3 0xFFFFFFFD .north rfl
  obtain ⟨-, -, -, -, -, -, hfind'⟩ := hbuttons 4 9 .west rfl
  have hthird : buttonsIn ((additions steps).take 3) = 2 := by decide
  have hfourth : buttonsIn ((additions steps).take 4) = 3 := by decide
  have hbits : TypeBits.pushButton ||| TypeBits.ofInstance (.ofNat 2) = 0x00000204 := by decide
  have hbits' : TypeBits.pushButton ||| TypeBits.ofInstance (.ofNat 3) = 0x00000304 := by decide
  have hnumber : o.number = 2 := UInt16.toNat_inj.1 (hnumber.trans hthird)
  have hoffset : o.nativeOffset = 0xFFFFFFFD := UInt32.toNat_inj.1 hoffset
  rw [hnumber, hoffset] at hsame
  rw [hthird] at hname hfind
  rw [hfourth] at hfind'
  exact ⟨hcount, hrows, objects, o, hbuild, hlength, hothers 1 _ rfl rfl, ho, hsame, hname, hbits ▸ hfind,
    hbits' ▸ hfind', fun b => hrow b _ _ (by simp [steps])⟩

end CatalogDraft
end GamepadPool
