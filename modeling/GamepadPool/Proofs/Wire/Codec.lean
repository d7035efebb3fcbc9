import GamepadPool.Proofs.Json.Values
import GamepadPool.Wire.Codec
/-! # Values read back
A kind of values is lawful when each of them is read from what it is written as. Records, kinds and lists of lawful
values are lawful. -/

namespace GamepadPool

namespace Json

theorem wellFormed_nat (n : Nat) : (nat n).WellFormed := .number (NumberText.wellFormed_integer false n)

theorem wellFormed_int (n : Int) : (int n).WellFormed := .number (NumberText.wellFormed_integer _ n.natAbs)

theorem wellFormed_record {fields : List (String × Json)} (h : ∀ f ∈ fields, f.2.WellFormed) :
    (record fields).WellFormed :=
  .object (List.forall_mem_map.2 h)

theorem wellFormed_tagged (name : String) {x : Json} (h : x.WellFormed) : (tagged name x).WellFormed :=
  wellFormed_record (List.forall_mem_singleton.2 h)

theorem column?_record {fields : List (String × Json)} (h : (fields.map (·.1)).Nodup) {f : String × Json}
    (hf : f ∈ fields) : column? (fields.map fun f => (some f.1, f.2)) f.1 = some (some f.2) := by
  have hfilter : (fields.filter fun g => g.1 == f.1) = [f] := by
    induction fields with
    | nil => cases hf
    | cons g fields ih =>
      rw [List.map_cons, List.nodup_cons] at h
      rcases List.mem_cons.1 hf with rfl | hf
      · have hnone : (fields.filter fun g => g.1 == f.1) = [] := List.filter_eq_nil_iff.2 fun g hg hname =>
          h.1 (beq_iff_eq.1 hname ▸ List.mem_map_of_mem hg)
        simp [hnone]
      · have hne : ¬g.1 = f.1 := fun hname => h.1 (hname ▸ List.mem_map_of_mem hf)
        simp [hne, ih h.2 hf]
  have hsome : (fields.map fun f => (some f.1, f.2)).filter (·.1 == some f.1) = [(some f.1, f.2)] := by
    simp [List.filter_map, Function.comp_def, hfilter]
  rw [column?, hsome]

/-- A record is read under the names it was written with. -/
theorem columns?_record (fields : List (String × Json)) (h : (fields.map (·.1)).Nodup) :
    (record fields).columns? (fields.map (·.1)) = some (fields.map fun f => some f.2) := by
  have hnamed : (fields.map fun f => (some f.1, f.2)).any (·.1.isNone) = false := by simp
  have hcolumns : ∀ fs ⊆ fields, (fs.map (·.1)).mapM (column? (fields.map fun f => (some f.1, f.2))) =
      some (fs.map fun f => some f.2) := by
    intro fs hfs
    induction fs with
    | nil => rfl
    | cons f fs ih =>
      rw [List.cons_subset] at hfs
      simp [List.mapM_cons, column?_record h hfs.1, ih hfs.2]
  simp only [record, columns?, hnamed, hcolumns fields (List.Subset.refl _)]
  rfl

end Json

namespace Wire

/-- Written as something that is read as the same value. -/
class Lawful (α : Type) [Wire α] : Prop where
  wellFormed (a : α) : (toJson a).WellFormed
  ofJson?_toJson (a : α) : ofJson? (toJson a) = some a

export Lawful (wellFormed ofJson?_toJson)

attribute [simp] Lawful.wellFormed Lawful.ofJson?_toJson

/-! ## plain values -/

instance : Lawful Bool where
  wellFormed := .bool
  ofJson?_toJson _ := rfl

instance : Lawful String where
  wellFormed s := .string (some s)
  ofJson?_toJson _ := rfl

theorem bounded?_int {n low high : Int} (h : low ≤ n ∧ n ≤ high) : bounded? low high (.int n) = some n := by
  simp only [Json.int, bounded?, NumberText.int?_integer, if_pos h]

theorem bounded?_nat {α : Type} {n high : Nat} (h : n ≤ high) (f : Nat → α) :
    ((bounded? 0 high (.nat n)).map fun i => f i.toNat) = some (f n) := by
  have hrange : 0 ≤ (n : Int) ∧ (n : Int) ≤ high := by omega
  simp only [Json.nat, bounded?, NumberText.int?_natural, if_pos hrange]
  rfl

/-- A word of any width is read back from its digits. -/
theorem Lawful.unsigned {ω : Type} {largest : Nat} {toNat : ω → Nat} {ofNat : Nat → ω}
    (hlargest : ∀ n, toNat n ≤ largest) (hback : ∀ n, ofNat (toNat n) = n) :
    @Lawful ω (Wire.unsigned largest toNat ofNat) := by
  let := Wire.unsigned largest toNat ofNat
  exact ⟨fun n => Json.wellFormed_nat (toNat n),
    fun n => (bounded?_nat (hlargest n) ofNat).trans (congrArg some (hback n))⟩

instance : Lawful UInt8 := .unsigned (fun n => Nat.le_of_lt_succ n.toNat_lt) fun _ => UInt8.ofNat_toNat
instance : Lawful UInt32 := .unsigned (fun n => Nat.le_of_lt_succ n.toNat_lt) fun _ => UInt32.ofNat_toNat
instance : Lawful UInt64 := .unsigned (fun n => Nat.le_of_lt_succ n.toNat_lt) fun _ => UInt64.ofNat_toNat

instance : Lawful Int32 where
  wellFormed n := Json.wellFormed_int n.toInt
  ofJson?_toJson n := by
    have hn : bounded? (-0x80000000) 0x7FFFFFFF (toJson n) = some n.toInt :=
      bounded?_int ⟨n.le_toInt, Int.le_of_lt_add_one n.toInt_lt⟩
    simp only [ofJson?, hn, Option.map_some, Int32.ofInt_toInt]

/-! ## kinds that go by a name -/

/-- No two members share a name. -/
class LawfulNamed (α : Type) [Named α] : Prop where
  ofName?_name (a : α) : Named.ofName? (Named.name a) = some a

instance {α : Type} [Named α] [LawfulNamed α] : Lawful α where
  wellFormed a := .string (some (Named.name a))
  ofJson?_toJson a := LawfulNamed.ofName?_name a

/-! ## collections -/

theorem required_toJson {α : Type} [Wire α] [Lawful α] (a : α) : required (some (toJson a)) = some a :=
  ofJson?_toJson a

theorem listOf?_map {α : Type} [Wire α] {l : List α} (h : ∀ a ∈ l, ofJson? (toJson a) = some a) :
    listOf? (l.map toJson) = some l := by
  induction l with
  | nil => rfl
  | cons a l ih =>
    obtain ⟨ha, hl⟩ := List.forall_mem_cons.1 h
    rw [List.map_cons, listOf?, ha, ih hl]

/-- One item that cannot be read is enough. -/
theorem listOf?_map_none {α : Type} [Wire α] {l : List α} {a : α} (ha : a ∈ l)
    (h : (ofJson? (toJson a) : Option α) = none) : (listOf? (l.map toJson) : Option (List α)) = none := by
  induction l with
  | nil => cases ha
  | cons b l ih =>
    rw [List.map_cons, listOf?]
    rcases List.mem_cons.1 ha with rfl | ha
    · rw [h]
    · rw [ih ha]
      cases (ofJson? (toJson b) : Option α) <;> rfl

instance {α : Type} [Wire α] [Lawful α] : Lawful (List α) where
  wellFormed _ := .array (List.forall_mem_map.2 fun a _ => wellFormed a)
  ofJson?_toJson _ := listOf?_map fun a _ => ofJson?_toJson a

theorem ofJson?_vector {α : Type} [Wire α] {n : Nat} {v : Vector α n}
    (h : listOf? (v.toList.map toJson) = some v.toList) : ofJson? (toJson v) = some v := by
  simp only [ofJson?, toJson, h, Vector.length_toList, dif_pos]
  rfl

instance {α : Type} [Wire α] [Lawful α] {n : Nat} : Lawful (Vector α n) where
  wellFormed _ := .array (List.forall_mem_map.2 fun a _ => wellFormed a)
  ofJson?_toJson _ := ofJson?_vector (listOf?_map fun a _ => ofJson?_toJson a)

end Wire
end GamepadPool
