import GamepadPool.Proofs.Session.Consistency
/-! # What an enumeration lists
A filter names all objects, or those of its classes, or a collection, which none belongs to. What is listed is what the
filter names, but for one kind of filter: one without a class or a collection, and with other bits set, names nothing and
is taken for the filter that names all. -/

namespace GamepadPool

/-! ## filters -/

/-- Neither a class nor a collection, and still not the filter for all objects. -/
def TypeBits.IsStray (filter : UInt32) : Prop :=
  filter ≠ 0 ∧ filter &&& TypeBits.anyClass = 0 ∧ TypeBits.collectionOf filter = 0

instance (filter : UInt32) : Decidable (TypeBits.IsStray filter) := inferInstanceAs (Decidable (_ ∧ _ ∧ _))

namespace DeviceObject

/-- Zero names every object; any other filter, unless it names a collection, those it has a class bit in common with. -/
def IsNamedBy (o : DeviceObject) (filter : UInt32) : Prop :=
  TypeBits.collectionOf filter = 0 ∧ (filter = 0 ∨ filter &&& TypeBits.anyClass &&& o.typeBits ≠ 0)

instance (o : DeviceObject) (filter : UInt32) : Decidable (o.IsNamedBy filter) :=
  inferInstanceAs (Decidable (_ ∧ (_ ∨ _)))

variable {o : DeviceObject} {filter : UInt32}

theorem isNamedBy_zero (o : DeviceObject) : o.IsNamedBy 0 := ⟨by decide, .inl rfl⟩

theorem not_isNamedBy_of_stray (h : TypeBits.IsStray filter) : ¬ o.IsNamedBy filter := by
  obtain ⟨hfilter, hclass, -⟩ := h
  rintro ⟨-, hzero | hshared⟩
  · exact hfilter hzero
  · rw [hclass, UInt32.zero_and] at hshared
    exact hshared rfl

theorem passes_of_stray (h : TypeBits.IsStray filter) : o.passes filter = true := by
  simp [passes, h.2.1]

/-- Where a filter names something at all, what passes it is what it names. -/
theorem passes_iff (h : ¬ TypeBits.IsStray filter) (hcollection : TypeBits.collectionOf filter = 0) :
    o.passes filter = true ↔ o.IsNamedBy filter := by
  have hall : filter &&& TypeBits.anyClass = 0 ↔ filter = 0 := by
    constructor
    · intro hclass
      by_contra hfilter
      exact h ⟨hfilter, hclass, hcollection⟩
    · rintro rfl
      rfl
  simp [passes, IsNamedBy, hcollection, hall]

end DeviceObject

/-- What depends on identities alone is selected and told alike for the same identities. -/
theorem map_filter_of_identities {α : Type} {p : DeviceObject → Bool} {f : DeviceObject → α}
    (hp : ∀ o o', o.identity = o'.identity → p o = p o') (hf : ∀ o o', o.identity = o'.identity → f o = f o')
    {objects objects' : List DeviceObject} (hids : objects.map (·.identity) = objects'.map (·.identity)) :
    (objects.filter p).map f = (objects'.filter p).map f := by
  induction objects generalizing objects' with
  | nil =>
    obtain rfl := List.map_eq_nil_iff.1 hids.symm
    rfl
  | cons o rest ih =>
    cases objects' with
    | nil => cases hids
    | cons o' rest' =>
      obtain ⟨ho, hrest⟩ := List.cons.inj hids
      rw [List.filter_cons, List.filter_cons, hp o o' ho]
      split
      · rw [List.map_cons, List.map_cons, hf o o' ho, ih hrest]
      · exact ih hrest

namespace Session

variable {s s' : Session} {filter : UInt32}

/-- The objects that a filter names, in catalog order, as they are reported. -/
def named (s : Session) (filter : UInt32) : List ObjectInfo :=
  (s.catalog.objects.filter fun o => decide (o.IsNamedBy filter)).map fun o =>
    ⟨o.usage, o.nativeOffset, o.id, o.flags, s.charset.encode o.name 260⟩

theorem named_zero (s : Session) : s.named 0 = s.catalog.objects.map (ObjectInfo.ofObject · s.charset) := by
  have hall : (s.catalog.objects.filter fun o => decide (o.IsNamedBy 0)) = s.catalog.objects :=
    List.filter_eq_self.2 fun o _ => decide_eq_true o.isNamedBy_zero
  rw [named, hall]
  rfl

theorem named_of_stray (s : Session) (h : TypeBits.IsStray filter) : s.named filter = [] := by
  have hnone : (s.catalog.objects.filter fun o => decide (o.IsNamedBy filter)) = [] :=
    List.filter_eq_nil_iff.2 fun o _ => by simpa using DeviceObject.not_isNamedBy_of_stray h
  rw [named, hnone, List.map_nil]

theorem named_congr (hcharset : s'.charset = s.charset)
    (hids : s'.catalog.objects.map (·.identity) = s.catalog.objects.map (·.identity)) (filter : UInt32) :
    s'.named filter = s.named filter := by
  unfold named
  rw [hcharset]
  refine map_filter_of_identities (fun o o' h => ?_) (fun o o' h => ?_) hids
  · apply decide_eq_decide.2
    rw [DeviceObject.IsNamedBy, DeviceObject.IsNamedBy, DeviceObject.typeBits, DeviceObject.typeBits,
      DeviceObject.kind_of_identity h]
  · obtain ⟨hname, husage, hkind, hnumber, hflags, hoffset, -⟩ := ObjectIdentity.mk.inj h
    simp only [DeviceObject.id, DeviceObject.typeBits, hname, husage, hkind, hnumber, hflags, hoffset]

theorem objects_of_named (s : Session) (h : ¬ TypeBits.IsStray filter) : s.objects filter = s.named filter := by
  unfold objects named
  split
  · rename_i hcollection
    have hnone : ∀ o ∈ s.catalog.objects, ¬ decide (o.IsNamedBy filter) = true := by
      intro o _ hnamed
      exact (bne_iff_ne.1 hcollection) (of_decide_eq_true hnamed).1
    rw [List.filter_eq_nil_iff.2 hnone, List.map_nil]
  · rename_i hcollection
    have hsame : ∀ o ∈ s.catalog.objects, o.passes filter = decide (o.IsNamedBy filter) := fun o _ => by
      rw [Bool.eq_iff_iff, decide_eq_true_iff]
      exact DeviceObject.passes_iff h (by simpa using hcollection)
    rw [Catalog.enumerate, List.filter_congr hsame]
    rfl

theorem objects_of_stray (s : Session) (h : TypeBits.IsStray filter) : s.objects filter = s.named 0 := by
  have hall : s.catalog.enumerate filter = s.catalog.objects :=
    List.filter_eq_self.2 fun o _ => DeviceObject.passes_of_stray h
  rw [objects, h.2.2, hall, named_zero]
  rfl

variable {σ : Type} [ServedSource σ] [Arithmetic]

/-- An enumeration lists exactly the objects that its filter names, in catalog order, as long as the filter is not a stray
one; a stray filter names none of them, and all are listed. Nothing that is called on a session makes a difference to what
is listed. -/
theorem listed_iff_named (s : Session) (source : σ) (calls : List (SessionCall σ)) (filter : UInt32) :
    let later := (run (s, source) calls).1
    (later.objects filter = later.named filter ↔ (TypeBits.IsStray filter → s.catalog.objects = [])) ∧
      later.objects filter = s.named (if TypeBits.IsStray filter then 0 else filter) := by
  intro later
  have hcharset : later.charset = s.charset :=
    run_keeps (P := fun s' => s'.charset = s.charset) (fun _ _ _ h hc => by cases hc <;> exact h) rfl calls
  have hids := identities_run (s, source) calls
  have hsame : ∀ filter, later.named filter = s.named filter := named_congr hcharset hids
  by_cases hstray : TypeBits.IsStray filter
  · have hlisted : later.objects filter = s.named 0 := (later.objects_of_stray hstray).trans (hsame 0)
    refine ⟨?_, by rw [if_pos hstray, hlisted]⟩
    rw [hlisted, named_zero, named_of_stray later hstray, List.map_eq_nil_iff]
    exact ⟨fun h _ => h, fun h => h hstray⟩
  · have hlisted : later.objects filter = later.named filter := later.objects_of_named hstray
    refine ⟨⟨fun _ h => absurd h hstray, fun _ => hlisted⟩, ?_⟩
    rw [if_neg hstray, hlisted, hsame]

omit [ServedSource σ] [Arithmetic] in
/-- A filter for force feedback alone names nothing, and all 22 objects are listed. -/
theorem listed_for_forceFeedback :
    let s := ofDevice 0 .standard .ansi .none
    s.named 0x01000000 = [] ∧ s.objects 0x01000000 = s.named 0 ∧ (s.objects 0x01000000).length = 22 := by
  decide +kernel

end Session
end GamepadPool
