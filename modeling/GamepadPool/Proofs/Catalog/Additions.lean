import GamepadPool.Catalog.Draft
import Mathlib.Algebra.Group.Nat.Defs
import Mathlib.Data.List.Basic
/-! # What a catalog is built of
A catalog is built in one pass. Buttons are numbered as they come, with a counter of 16 bits, and the buttons of a row
get consecutive offsets, with a counter of 32 bits that is moved once past the row. The builder fails exactly if one of
the counters runs out; otherwise every control becomes one object, in order, and the number of a button is how many
buttons were added before it. -/

namespace GamepadPool

/-! ## what is added -/

/-- One control that is added: an object that its step describes in full, or a button, which is numbered and named when
its turn comes. -/
inductive Addition where
  | object (o : DeviceObject) (notButton : o.kind.isButton = false)
  | button (offset : Nat) (b : Button)

namespace Addition

def isButton : Addition → Bool
  | object .. => false
  | button .. => true

/-- What becomes of a control when this is the next number. -/
def toObject (number : UInt16) : Addition → DeviceObject
  | object o _ => o
  | button offset b => CatalogDraft.buttonObject number (.ofNat offset) b

def buttonsIn (adds : List Addition) : Nat := adds.countP isButton

/-- Every control becomes one object; the numbers go up with the buttons. -/
def toObjects (number : UInt16) (adds : List Addition) : List DeviceObject :=
  adds.mapIdx fun i a => a.toObject (number + .ofNat (buttonsIn (adds.take i)))

theorem buttonsIn_append (adds adds' : List Addition) : buttonsIn (adds ++ adds') = buttonsIn adds + buttonsIn adds' :=
  List.countP_append

/-- After a control comes what follows it, with the next number. -/
theorem toObjects_cons (number : UInt16) (a : Addition) (rest : List Addition) :
    toObjects number (a :: rest) = a.toObject number :: toObjects (number + .ofNat (buttonsIn [a])) rest := by
  have hnext (i : Nat) : number + .ofNat (buttonsIn ((a :: rest).take (i + 1))) =
      number + .ofNat (buttonsIn [a]) + .ofNat (buttonsIn (rest.take i)) := by
    rw [List.take_succ_cons, ← List.singleton_append, buttonsIn_append, UInt16.ofNat_add, UInt16.add_assoc]
  have hfirst : number + .ofNat (buttonsIn ((a :: rest).take 0)) = number := UInt16.add_zero number
  simp only [toObjects, List.mapIdx_cons, hnext, hfirst]

end Addition

namespace BuildStep

/-- The buttons of a row get consecutive offsets. -/
def additions : BuildStep → List Addition
  | axis name usage number offset a =>
    [.object (.ofControl name usage .absoluteAxis number offset (some (.axis a))) rfl]
  | button offset b => [.button offset.toNat b]
  | buttons first bs => bs.mapIdx fun i b => .button (first.toNat + i) b
  | hat name number offset => [.object (.ofControl name .pov .pov number offset (some .hat)) rfl]
  | collection name number => [.object (.ofControl name .unknown .collection number 0 none) rfl]

/-- How far the counter of offsets gets: past the buttons of a row, and once more. -/
def offsetsEnd : BuildStep → Nat
  | buttons first bs => first.toNat + bs.length + 1
  | _ => 0

/-- A row of buttons, each in a step of its own. -/
def oneByOne (first : UInt32) (bs : List Button) : List BuildStep := bs.mapIdx fun i b => button (first + .ofNat i) b

theorem oneByOne_cons (first : UInt32) (b : Button) (rest : List Button) :
    oneByOne first (b :: rest) = button first b :: oneByOne (first + 1) rest := by
  have hnext (i : Nat) : first + .ofNat (i + 1) = first + 1 + .ofNat i := by
    rw [Nat.add_comm, UInt32.ofNat_add, UInt32.add_assoc]
    rfl
  have hfirst : first + .ofNat 0 = first := UInt32.add_zero first
  simp only [oneByOne, List.mapIdx_cons, hnext, hfirst]

end BuildStep

def additions (steps : List BuildStep) : List Addition := steps.flatMap (·.additions)

namespace CatalogDraft

open Addition (buttonsIn buttonsIn_append)

variable {b : CatalogDraft} {adds : List Addition} {s : BuildStep} {steps : List BuildStep} {first : UInt32}
  {buttons : List Button}

/-! ## adding controls one by one -/

/-- Adds a control, whether or not there is a number left for the next one. -/
def add (b : CatalogDraft) (a : Addition) : CatalogDraft :=
  ⟨b.objects ++ [a.toObject b.nextButton], b.nextButton + .ofNat (buttonsIn [a])⟩

def extend (b : CatalogDraft) (adds : List Addition) : CatalogDraft := adds.foldl add b

theorem add_object (b : CatalogDraft) (o : DeviceObject) (ho : o.kind.isButton = false) :
    b.add (.object o ho) = b.push o := by
  have hnext : b.nextButton + .ofNat (buttonsIn [.object o ho]) = b.nextButton := UInt16.add_zero _
  rw [add, hnext]
  rfl

theorem add_button (b : CatalogDraft) (offset : UInt32) (button : Button) :
    b.add (.button offset.toNat button) =
      { b.push (buttonObject b.nextButton offset button) with nextButton := b.nextButton + 1 } := by
  rw [add, Addition.toObject, UInt32.ofNat_toNat]
  rfl

theorem extend_append (b : CatalogDraft) (adds adds' : List Addition) :
    b.extend (adds ++ adds') = (b.extend adds).extend adds' := List.foldl_append

theorem nextButton_extend (b : CatalogDraft) (adds : List Addition) :
    (b.extend adds).nextButton = b.nextButton + .ofNat (buttonsIn adds) := by
  induction adds generalizing b with
  | nil => exact (UInt16.add_zero _).symm
  | cons a rest ih =>
    rw [extend, List.foldl_cons, ← extend, ih, add, UInt16.add_assoc, ← UInt16.ofNat_add, ← buttonsIn_append]
    rfl

theorem toNat_nextButton_extend (h : b.nextButton.toNat + buttonsIn adds ≤ 0xFFFF) :
    (b.extend adds).nextButton.toNat = b.nextButton.toNat + buttonsIn adds := by
  rw [nextButton_extend, UInt16.toNat_add, UInt16.toNat_ofNat']
  omega

theorem objects_extend (b : CatalogDraft) (adds : List Addition) :
    (b.extend adds).objects = b.objects ++ Addition.toObjects b.nextButton adds := by
  induction adds generalizing b with
  | nil => exact (List.append_nil _).symm
  | cons a rest ih =>
    rw [extend, List.foldl_cons, ← extend, ih, Addition.toObjects_cons, add, List.append_assoc]
    rfl

/-! ## the builder -/

/-- Neither counter runs out. -/
def HasRoom (b : CatalogDraft) (steps : List BuildStep) : Prop :=
  b.nextButton.toNat + buttonsIn (additions steps) ≤ 0xFFFF ∧ ∀ s ∈ steps, s.offsetsEnd < 2 ^ 32

instance (b : CatalogDraft) (steps : List BuildStep) : Decidable (b.HasRoom steps) :=
  inferInstanceAs (Decidable (_ ∧ _))

theorem hasRoom_single :
    b.HasRoom [s] ↔ b.nextButton.toNat + buttonsIn s.additions ≤ 0xFFFF ∧ s.offsetsEnd < 2 ^ 32 := by
  have hone : additions [s] = s.additions := List.append_nil _
  rw [HasRoom, hone, List.forall_mem_singleton]

/-- The steps that follow find the counter where the first one leaves it. -/
theorem hasRoom_cons : b.HasRoom (s :: steps) ↔ b.HasRoom [s] ∧ (b.extend s.additions).HasRoom steps := by
  have hadds : additions (s :: steps) = s.additions ++ additions steps := rfl
  rw [hasRoom_single, HasRoom, HasRoom, hadds, buttonsIn_append, List.forall_mem_cons]
  constructor
  · rintro ⟨hnumbers, hs, hsteps⟩
    rw [toNat_nextButton_extend (by omega)]
    exact ⟨⟨by omega, hs⟩, by omega, hsteps⟩
  · rintro ⟨⟨hnumber, hs⟩, hnumbers, hsteps⟩
    rw [toNat_nextButton_extend hnumber] at hnumbers
    exact ⟨by omega, hs, hsteps⟩

theorem addButton_eq (b : CatalogDraft) (offset : UInt32) (button : Button) :
    b.addButton offset button =
      if b.nextButton.toNat < 0xFFFF then .ok (b.add (.button offset.toNat button)) else .error .counterOverflow := by
  have hlast : b.nextButton = 0xFFFF ↔ ¬ b.nextButton.toNat < 0xFFFF := by
    rw [← UInt16.toNat_inj]
    have := b.nextButton.toNat_lt
    change b.nextButton.toNat = 65535 ↔ _
    omega
  simp only [addButton, hlast, ite_not, add_button]

/-! ### rows of buttons -/

theorem buttonsIn_row (first : UInt32) (buttons : List Button) :
    buttonsIn (BuildStep.buttons first buttons).additions = buttons.length := by
  have hall : ∀ a ∈ (BuildStep.buttons first buttons).additions, a.isButton = true := by
    intro a ha
    obtain ⟨i, hi, rfl⟩ := List.mem_mapIdx.1 ha
    rfl
  rw [buttonsIn, List.countP_eq_length.2 hall, BuildStep.additions, List.length_mapIdx]

theorem eq_last_iff : first = 0xFFFFFFFF ↔ ¬ first.toNat + 1 < 2 ^ 32 := by
  rw [← UInt32.toNat_inj]
  have := first.toNat_lt
  change first.toNat = 4294967295 ↔ _
  omega

theorem toNat_add_one (h : first.toNat + 1 < 2 ^ 32) : (first + 1).toNat = first.toNat + 1 := by
  rw [UInt32.toNat_add, UInt32.toNat_one]
  omega

theorem additions_row_cons (h : first.toNat + 1 < 2 ^ 32) (button : Button) (rest : List Button) :
    (BuildStep.buttons first (button :: rest)).additions =
      .button first.toNat button :: (BuildStep.buttons (first + 1) rest).additions := by
  simp only [BuildStep.additions, List.mapIdx_cons, toNat_add_one h, Nat.add_zero, Nat.add_assoc, Nat.add_comm 1]

theorem hasRoom_row : b.HasRoom [.buttons first buttons] ↔
    b.nextButton.toNat + buttons.length ≤ 0xFFFF ∧ first.toNat + buttons.length + 1 < 2 ^ 32 := by
  rw [hasRoom_single, buttonsIn_row, BuildStep.offsetsEnd]

/-- There is room for a row if there is for its first button and then for the others. -/
theorem hasRoom_row_cons {button : Button} : b.HasRoom [.buttons first (button :: buttons)] ↔
    first.toNat + 1 < 2 ^ 32 ∧ b.nextButton.toNat < 0xFFFF ∧
      (b.add (.button first.toNat button)).HasRoom [.buttons (first + 1) buttons] := by
  have hnext (h : b.nextButton.toNat < 0xFFFF) :
      (b.add (.button first.toNat button)).nextButton.toNat = b.nextButton.toNat + 1 := by
    have hone : b.nextButton.toNat + buttonsIn [.button first.toNat button] ≤ 0xFFFF := h
    exact toNat_nextButton_extend hone
  rw [hasRoom_row, hasRoom_row, List.length_cons]
  constructor
  · rintro ⟨hnumbers, hoffsets⟩
    rw [hnext (by omega), toNat_add_one (by omega)]
    omega
  · rintro ⟨hoffset, hnumber, hrest⟩
    rw [hnext hnumber, toNat_add_one hoffset] at hrest
    omega

theorem addButtons_eq (b : CatalogDraft) (first : UInt32) (buttons : List Button) :
    b.addButtons first buttons =
      if b.HasRoom [.buttons first buttons] then .ok (b.extend (BuildStep.buttons first buttons).additions)
      else .error .counterOverflow := by
  induction buttons generalizing b first with
  | nil =>
    have hnumber := b.nextButton.toNat_lt
    have hroom : b.HasRoom [.buttons first []] ↔ first.toNat + 1 < 2 ^ 32 := by
      rw [hasRoom_row, List.length_nil]
      omega
    simp only [addButtons, eq_last_iff, hroom, ite_not]
    rfl
  | cons button rest ih =>
    rw [addButtons, addButton_eq]
    by_cases hoffset : first.toNat + 1 < 2 ^ 32
    · by_cases hnumber : b.nextButton.toNat < 0xFFFF
      · simp only [eq_last_iff, hasRoom_row_cons, hoffset, hnumber, not_true, if_true, if_false, true_and, ih,
          additions_row_cons hoffset]
        rfl
      · simp only [eq_last_iff, hasRoom_row_cons, hoffset, hnumber, not_true, if_false, false_and, and_false]
    · simp only [eq_last_iff, hasRoom_row_cons, hoffset, not_false_iff, if_true, if_false, false_and]

/-- Where the offsets suffice, a row is as good as its buttons one by one, also if their numbers do not suffice. -/
theorem addButtons_oneByOne (h : first.toNat + buttons.length + 1 < 2 ^ 32) (b : CatalogDraft) :
    b.addButtons first buttons = b.run (BuildStep.oneByOne first buttons) := by
  induction buttons generalizing b first with
  | nil =>
    rw [addButtons, if_neg (mt eq_last_iff.1 (not_not.2 h))]
    rfl
  | cons button rest ih =>
    rw [List.length_cons] at h
    have hoffset : first.toNat + 1 < 2 ^ 32 := by omega
    have hrest : (first + 1).toNat + rest.length + 1 < 2 ^ 32 := by
      rw [toNat_add_one hoffset]
      omega
    rw [addButtons, if_neg (mt eq_last_iff.1 (not_not.2 hoffset)), BuildStep.oneByOne_cons, run, step]
    cases b.addButton first button with
    | ok b' => exact ih hrest b'
    | error e => rfl

/-! ### steps and runs -/

theorem step_eq (b : CatalogDraft) (s : BuildStep) :
    b.step s = if b.HasRoom [s] then .ok (b.extend s.additions) else .error .counterOverflow := by
  -- there is always room for what is no button
  have hfull {s : BuildStep} (hnumbers : buttonsIn s.additions = 0) (hoffsets : s.offsetsEnd = 0) : b.HasRoom [s] := by
    rw [hasRoom_single, hnumbers, hoffsets]
    exact ⟨Nat.le_of_lt_succ b.nextButton.toNat_lt, Nat.two_pow_pos 32⟩
  cases s with
  | axis | hat | collection =>
    rw [if_pos]
    · exact congrArg Except.ok (add_object b _ _).symm
    · exact hfull rfl rfl
  | button offset button =>
    have hroom : b.HasRoom [.button offset button] ↔ b.nextButton.toNat < 0xFFFF :=
      hasRoom_single.trans (and_iff_left (Nat.two_pow_pos 32))
    simp only [step, addButton_eq, hroom]
    rfl
  | buttons first buttons => exact addButtons_eq b first buttons

theorem run_eq (b : CatalogDraft) (steps : List BuildStep) :
    b.run steps = if b.HasRoom steps then .ok (b.extend (additions steps)) else .error .counterOverflow := by
  induction steps generalizing b with
  | nil =>
    have hroom : b.HasRoom [] := ⟨Nat.le_of_lt_succ b.nextButton.toNat_lt, by simp⟩
    rw [if_pos hroom]
    rfl
  | cons s rest ih =>
    have hadds : additions (s :: rest) = s.additions ++ additions rest := rfl
    rw [run, step_eq, hadds, extend_append]
    by_cases hs : b.HasRoom [s]
    · simp only [hasRoom_cons, hs, true_and, if_true, ih]
    · simp only [hasRoom_cons, hs, false_and, if_false]

/-- What is built, unless a counter runs out. -/
theorem build_eq (steps : List BuildStep) :
    build steps =
      if empty.HasRoom steps then .ok (Addition.toObjects 0 (additions steps)) else .error .counterOverflow := by
  rw [build, run_eq]
  split
  · rw [Except.map, objects_extend]
    rfl
  · rfl

/-- What was built is the controls, one by one. -/
theorem objects_of_build {objects : List DeviceObject} (h : build steps = .ok objects) :
    objects = Addition.toObjects 0 (additions steps) := by
  rw [build_eq] at h
  split at h
  · exact (Except.ok.inj h).symm
  · cases h

end CatalogDraft
end GamepadPool
