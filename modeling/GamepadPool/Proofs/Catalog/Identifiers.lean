import GamepadPool.Proofs.Format.FirstFit
/-! # Packed identifiers
An object is reported under its class bits and its number, in one word. Both are read back from the word, so that to the
identifier of an object answer exactly the objects of its kind with its number, unless that is the number which stands
for any. -/

namespace GamepadPool

namespace TypeBits

theorem or_and (a b mask : UInt32) : (a ||| b) &&& mask = a &&& mask ||| b &&& mask := by
  apply UInt32.eq_of_toBitVec_eq
  simp only [UInt32.toBitVec_and, UInt32.toBitVec_or, BitVec.and_or_distrib_right]

theorem getLsbD_ofInstance (n : UInt16) (i : Nat) :
    (ofInstance n).toBitVec.getLsbD i = (decide (8 ≤ i) && n.toBitVec.getLsbD (i - 8)) := by
  by_cases hi : i < 32
  · by_cases hlow : 8 ≤ i
    · simp [ofInstance, hi, hlow, Nat.not_lt.2 hlow]
    · simp [ofInstance, hlow, Nat.not_le.1 hlow]
  · rw [BitVec.getLsbD_of_ge _ _ (by omega), BitVec.getLsbD_of_ge _ (i - 8) (by omega), Bool.and_false]

theorem instanceOf_ofInstance (n : UInt16) : instanceOf (ofInstance n) = n := by
  apply UInt16.eq_of_toBitVec_eq
  apply BitVec.eq_of_getLsbD_eq
  intro i hi
  rw [getLsbD_instanceOf _ hi, getLsbD_ofInstance]
  simp

/-- An instance number fills instance bits only. -/
theorem ofInstance_and_anyInstance (n : UInt16) : ofInstance n &&& anyInstance = ofInstance n := by
  apply UInt32.eq_of_toBitVec_eq
  apply BitVec.eq_of_getLsbD_eq
  intro i _
  rw [UInt32.toBitVec_and, BitVec.getLsbD_and, getLsbD_anyInstance, getLsbD_ofInstance]
  by_cases hi : i < 24
  · simp [hi, Bool.and_comm]
  · rw [BitVec.getLsbD_of_ge _ (i - 8) (by omega), Bool.and_false, Bool.false_and]

/-- Of an instance number nothing is left outside the instance bits. -/
theorem ofInstance_and {mask : UInt32} (h : anyInstance &&& mask = 0) (n : UInt16) : ofInstance n &&& mask = 0 := by
  rw [← ofInstance_and_anyInstance, UInt32.and_assoc, h, UInt32.and_zero]

end TypeBits

/-- Kinds have a class bit in common with themselves alone. -/
theorem ObjectKind.sharesBits_iff {k k' : ObjectKind} : k.typeBits &&& k'.typeBits ≠ 0 ↔ k' = k := by
  cases k <;> cases k' <;> decide

namespace DeviceObject

/-- The identifier an object is reported under, and the same marked as optional. -/
def identifiers (o : DeviceObject) : List UInt32 := [o.id, o.id ||| TypeBits.optional]

variable {o o' : DeviceObject} {bits : UInt32}

theorem id_and (o : DeviceObject) (mask : UInt32) :
    o.id &&& mask = o.typeBits &&& mask ||| TypeBits.ofInstance o.number &&& mask := TypeBits.or_and ..

/-- A kind fills class bits only. -/
theorem typeBits_and_anyClass (o : DeviceObject) : o.typeBits &&& TypeBits.anyClass = o.typeBits := by
  rw [typeBits]
  cases o.kind <;> decide

/-- Of a kind nothing is left outside the class bits. -/
theorem typeBits_and {mask : UInt32} (h : TypeBits.anyClass &&& mask = 0) (o : DeviceObject) : o.typeBits &&& mask = 0 := by
  rw [← typeBits_and_anyClass, UInt32.and_assoc, h, UInt32.and_zero]

theorem identifiers_of_identity (h : o.identity = o'.identity) : o.identifiers = o'.identifiers := by
  obtain ⟨-, -, hkind, hnumber, -⟩ := ObjectIdentity.mk.inj h
  simp only [identifiers, id, typeBits, hkind, hnumber]

/-- The mark of an optional request is no part of an identifier. -/
theorem and_of_mem_identifiers (h : bits ∈ o.identifiers) : bits &&& ~~~TypeBits.optional = o.id := by
  have hclass : o.typeBits &&& ~~~TypeBits.optional = o.typeBits := by
    rw [← typeBits_and_anyClass, UInt32.and_assoc]
    rfl
  have hnumber : TypeBits.ofInstance o.number &&& ~~~TypeBits.optional = TypeBits.ofInstance o.number := by
    rw [← TypeBits.ofInstance_and_anyInstance, UInt32.and_assoc]
    rfl
  have hid : o.id &&& ~~~TypeBits.optional = o.id := by
    rw [id_and, hclass, hnumber]
    rfl
  rcases List.mem_pair.1 h with rfl | rfl
  · exact hid
  · rw [TypeBits.or_and, hid]
    exact UInt32.or_zero

theorem id_and_anyClass (o : DeviceObject) : o.id &&& TypeBits.anyClass = o.typeBits := by
  rw [id_and, typeBits_and_anyClass, TypeBits.ofInstance_and (by decide), UInt32.or_zero]

theorem id_and_other (o : DeviceObject) : o.id &&& ~~~(TypeBits.anyClass ||| TypeBits.anyInstance) = 0 := by
  rw [id_and, typeBits_and (by decide), TypeBits.ofInstance_and (by decide), UInt32.or_zero]

theorem instanceOf_id (o : DeviceObject) : TypeBits.instanceOf o.id = o.number := by
  have hbits : o.id &&& TypeBits.anyInstance = TypeBits.ofInstance o.number &&& TypeBits.anyInstance := by
    rw [id_and, typeBits_and (by decide), UInt32.zero_or]
  rw [TypeBits.instanceOf_congr hbits, TypeBits.instanceOf_ofInstance]

/-- To the identifier of an object answer the objects of its kind with its number. -/
theorem answersTo_iff_of_mem_identifiers (hbits : bits ∈ o.identifiers) (hnumber : o.number ≠ 0xFFFF) :
    o'.answersTo bits = true ↔ o'.kind = o.kind ∧ o'.number = o.number := by
  simp only [answersTo, and_of_mem_identifiers hbits, id_and_anyClass, id_and_other, TypeBits.anyInstance_iff,
    instanceOf_id, hnumber, typeBits, Bool.and_eq_true, Bool.or_eq_true, bne_iff_ne, beq_iff_eq,
    ObjectKind.sharesBits_iff, false_or, and_true, eq_comm (a := o.number)]

/-- A kind and a number together are such an identifier. -/
theorem answersTo_iff_of_kind {kind : ObjectKind} {number : UInt16} (hnumber : number ≠ 0xFFFF) :
    o.answersTo (kind.typeBits ||| TypeBits.ofInstance number) = true ↔ o.kind = kind ∧ o.number = number := by
  let named : DeviceObject := .ofControl "" .unknown kind number 0 none
  have hid : kind.typeBits ||| TypeBits.ofInstance number ∈ named.identifiers := List.mem_cons_self
  exact answersTo_iff_of_mem_identifiers hid hnumber

end DeviceObject
end GamepadPool
