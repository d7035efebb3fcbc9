import GamepadPool.Proofs.Catalog.Identifiers
import GamepadPool.Proofs.Session.Consistency
/-! # Reported identifiers are addresses
An enumeration reports an object under a packed identifier. Looked up, requested in a format or used to address a
property, the identifier leads back to the object it was reported for, as long as no two objects of a kind share a number
and none has the number that stands for any. -/

namespace GamepadPool

/-! ## three ways to an object -/

namespace Catalog

/-- No two objects of a kind have the same number, and none has the one that stands for any. -/
structure Addressable (c : Catalog) : Prop where
  distinct : (c.objects.map fun o => (o.kind, o.number)).Nodup
  numbered : ∀ o ∈ c.objects, o.number ≠ 0xFFFF

variable {c c' : Catalog} {i j : Nat} {o o' : DeviceObject} {bits : UInt32}

theorem Addressable.of_identities (h : c.Addressable)
    (hids : c'.objects.map (·.identity) = c.objects.map (·.identity)) : c'.Addressable := by
  have hkeys : c'.objects.map (fun o => (o.kind, o.number)) = c.objects.map fun o => (o.kind, o.number) := by
    simpa [Function.comp_def, DeviceObject.identity] using
      congrArg (List.map fun x : ObjectIdentity => (x.kind, x.number)) hids
  refine ⟨hkeys ▸ h.distinct, fun o ho => ?_⟩
  have hmem : (o.kind, o.number) ∈ c.objects.map fun o => (o.kind, o.number) :=
    hkeys ▸ List.mem_map_of_mem ho
  obtain ⟨o', ho', hsame⟩ := List.mem_map.1 hmem
  rw [← (Prod.mk.inj hsame).2]
  exact h.numbered o' ho'

/-- Among the objects of a catalog, an identifier names the one it was reported for. -/
theorem Addressable.answersTo_iff (h : c.Addressable) (ho : c.objects[i]? = some o) (ho' : c.objects[j]? = some o')
    (hbits : bits ∈ o.identifiers) : o'.answersTo bits = true ↔ j = i := by
  rw [DeviceObject.answersTo_iff_of_mem_identifiers hbits (h.numbered o (List.mem_of_getElem? ho))]
  constructor
  · rintro ⟨hkind, hnumber⟩
    have hj : j < c.objects.length := (List.getElem?_eq_some_iff.1 ho').1
    refine (List.getElem?_inj (by simpa using hj) h.distinct).1 ?_
    rw [List.getElem?_map, List.getElem?_map, ho, ho', Option.map_some, Option.map_some, hkind, hnumber]
  · rintro rfl
    obtain rfl := Option.some.inj (ho.symm.trans ho')
    exact ⟨rfl, rfl⟩

/-- An identifier is found where it was reported. -/
theorem Addressable.find?_eq (h : c.Addressable) (ho : c.objects[i]? = some o) (hbits : bits ∈ o.identifiers) :
    c.find? bits = some i := by
  obtain ⟨hi, hget⟩ := List.getElem?_eq_some_iff.1 ho
  refine List.findIdx?_eq_some_iff_getElem.2 ⟨hi, ?_, fun j hj hanswers => ?_⟩
  · exact (h.answersTo_iff ho (List.getElem?_eq_getElem hi) hbits).2 rfl
  · have hsame := (h.answersTo_iff ho (List.getElem?_eq_getElem (by omega)) hbits).1 hanswers
    omega

end Catalog

/-! ### requests -/

/-- A request by an identifier and nothing else. -/
structure ObjectRequest.IsFor (r : ObjectRequest) (o : DeviceObject) : Prop where
  identifier : r.typeBits ∈ o.identifiers
  anyUsage : r.usage = none
  anyAspect : r.flags &&& ObjectFlags.anyAspect = 0

/-- A format of one request, aligned and inside a buffer. -/
structure BufferFormat.IsOnly (f : BufferFormat) (r : ObjectRequest) : Prop where
  objects_eq : f.objects = [r]
  aligned : 4 ∣ r.offset.toNat
  inside : r.offset.toNat < f.dataSize.toNat

section Requests

variable {c : Catalog} {i : Nat} {o : DeviceObject} {r : ObjectRequest} {f : BufferFormat}

theorem ObjectRequest.IsFor.accepts_eq (h : r.IsFor o) (o' : DeviceObject) : r.accepts o' = o'.answersTo r.typeBits := by
  simp [accepts, DeviceObject.hasAspect, h.anyUsage, h.anyAspect]

theorem ObjectRequest.width_le (r : ObjectRequest) : r.width ≤ 4 := by
  unfold width
  split <;> omega

/-- Of words, what begins inside ends inside. -/
theorem BufferFormat.IsOnly.validate (h : f.IsOnly r) (hsize : 4 ∣ f.dataSize.toNat) : f.validate = .ok () := by
  obtain ⟨hobjects, haligned, hinside⟩ := h
  have hend : r.offset.toNat + r.width ≤ f.dataSize.toNat := by
    have hwidth := r.width_le
    omega
  have hcheck : checkRequest f.dataSize r = .ok () := by
    simp [checkRequest, mod_eq_zero_iff.2 haligned, Nat.not_lt.2 hend]
  simp [BufferFormat.validate, hobjects, mod_eq_zero_iff.2 hsize, hcheck]

theorem Catalog.Addressable.pick?_eq (h : c.Addressable) (ho : c.objects[i]? = some o) (hr : r.IsFor o) :
    Agreement.pick? c.objects [] r = some i := by
  obtain ⟨hi, hget⟩ := List.getElem?_eq_some_iff.1 ho
  have hfits : ∀ j (hj : j < c.objects.length), r.accepts c.objects[j] = true ↔ j = i := fun j hj => by
    rw [hr.accepts_eq]
    exact h.answersTo_iff ho (List.getElem?_eq_getElem hj) hr.identifier
  unfold Agreement.pick?
  rw [List.find?_range_eq_some]
  refine ⟨?_, List.mem_range.2 hi, fun j hj => ?_⟩
  · simp [List.getElem?_eq_getElem hi, hfits i hi]
  · have hother : r.accepts c.objects[j] = false := by
      rw [← Bool.not_eq_true, hfits j (by omega)]
      omega
    simp [List.getElem?_eq_getElem (Nat.lt_trans hj hi), hother]

/-- A format that asks for an identifier alone maps the object it was reported for. -/
theorem Catalog.Addressable.negotiate_eq (h : c.Addressable) (ho : c.objects[i]? = some o) (hr : r.IsFor o)
    (hf : f.IsOnly r) (hsize : 4 ∣ f.dataSize.toNat) :
    c.negotiate f = .ok (⟨f.dataSize, [⟨i, r.offset⟩], []⟩, c.mark [i]) := by
  have hserve : Agreement.serveAll c.objects ⟨f.dataSize, [], []⟩ f.objects =
      .ok ⟨f.dataSize, [⟨i, r.offset⟩], []⟩ := by
    have hpick := h.pick?_eq ho hr
    simp [hf.objects_eq, Agreement.serveAll, Agreement.serve, Agreement.taken, hpick, BufferFormat.mod_eq_zero_iff.2 hf.aligned]
  rw [negotiate, hf.validate hsize]
  simp only [hserve]
  rfl

/-- Buffers are made of words. -/
theorem BufferFormat.IsOnly.negotiate_refused (h : f.IsOnly r) (hsize : ¬ 4 ∣ f.dataSize.toNat) (c : Catalog) :
    c.negotiate f = .error (.sizeNotAligned f.dataSize) := by
  have hmod : f.dataSize % 4 ≠ 0 := mt mod_eq_zero_iff.1 hsize
  have hvalidate : f.validate = .error (.sizeNotAligned f.dataSize) := by
    simp [BufferFormat.validate, h.objects_eq, hmod]
  rw [Catalog.negotiate, hvalidate]

end Requests

/-! ### properties -/

namespace Catalog

variable {c : Catalog} {ms : List Mapping} {p : Property} {t t' : PropertyAddress}

/-- Addresses of the same object are as good as each other to read a property. -/
theorem getProperty_congr (ht : t ≠ .device) (ht' : t' ≠ .device) (h : t.resolve c ms p = t'.resolve c ms p) :
    c.getProperty ms p t = c.getProperty ms p t' := by
  simp only [getProperty, deviceWide, h, if_pos ht, if_pos ht']

theorem setProperty_congr (ht : t ≠ .device) (ht' : t' ≠ .device) (h : t.resolve c ms p = t'.resolve c ms p)
    (v : PropertyValue) : c.setProperty ms p t v = c.setProperty ms p t' v := by
  simp only [setProperty, deviceWide, h, if_pos ht, if_pos ht']

end Catalog

/-- Refused although the request fits: the buffer is no whole number of words. -/
theorem Catalog.negotiate_odd_size :
    let c := ofLayout .standard
    let r : ObjectRequest := ⟨none, 0, 0x00000002, 0⟩
    c.Addressable ∧ (c.objects[0]?.map (·.id)) = some r.typeBits ∧ r.usage = none ∧
      r.flags &&& ObjectFlags.anyAspect = 0 ∧ 4 ∣ r.offset.toNat ∧ r.offset.toNat + r.width ≤ (5 : UInt32).toNat ∧
      c.negotiate ⟨0, 5, [r]⟩ = .error (.sizeNotAligned 5) :=
  ⟨⟨by decide +kernel, by decide +kernel⟩, by decide +kernel⟩

namespace Session

variable {σ : Type} [ServedSource σ] [Arithmetic]

/-- The identifier an object is reported under leads back to it. It is found where it was reported. A format that asks for
it alone, at an aligned offset inside of a buffer of words, is accepted and maps the object and no other, whatever was
mapped and marked before; a buffer of another size is refused. From then on, until another format is agreed on, the offset
and the identifier resolve to the object, and no property call can tell them apart. -/
theorem addresses_agree {s : Session} (hs : s.catalog.Addressable) {i : Nat} {o : DeviceObject}
    (ho : s.catalog.objects[i]? = some o) :
    (∀ bits ∈ o.identifiers, s.catalog.find? bits = some i) ∧
    ∀ (f : BufferFormat) (r : ObjectRequest), r.IsFor o → f.IsOnly r →
      (¬ 4 ∣ f.dataSize.toNat → s.setFormat f = .error (.sizeNotAligned f.dataSize)) ∧
      (4 ∣ f.dataSize.toNat → ∃ s', s.setFormat f = .ok s' ∧ s'.format = some ⟨f.dataSize, [⟨i, r.offset⟩], []⟩ ∧
        s'.catalog = s.catalog.mark [i] ∧
        ∀ (source : σ) (calls : List (SessionCall σ)), agreements (s', source) calls = [] →
          let later := (run (s', source) calls).1
          ∀ bits ∈ o.identifiers, ∀ p : Property,
            (∃ o', o'.identity = o.identity ∧
              PropertyAddress.resolve later.catalog later.mappings p (.byOffset r.offset) = .ok (i, o') ∧
              PropertyAddress.resolve later.catalog later.mappings p (.byId bits) = .ok (i, o')) ∧
            later.getProperty p (.byOffset r.offset) = later.getProperty p (.byId bits) ∧
            ∀ v, later.setProperty p (.byOffset r.offset) v = later.setProperty p (.byId bits) v) := by
  refine ⟨fun bits hbits => hs.find?_eq ho hbits, fun f r hr hf => ⟨fun hsize => ?_, fun hsize => ?_⟩⟩
  · simp only [setFormat, hf.negotiate_refused hsize]
  have hneg := hs.negotiate_eq ho hr hf hsize
  refine ⟨{ s with catalog := s.catalog.mark [i], format := some ⟨f.dataSize, [⟨i, r.offset⟩], []⟩ }, ?_, rfl, rfl, ?_⟩
  · simp only [setFormat, hneg]
  intro source calls hagreements later bits hbits p
  have hformat : later.format = some ⟨f.dataSize, [⟨i, r.offset⟩], []⟩ := by
    simp only [later, format_run, hagreements, List.getLast?_nil, Option.none_or]
  have hmappings : later.mappings = [⟨i, r.offset⟩] := by
    rw [mappings, hformat]
    rfl
  -- the object is still in its place, with the same kind and number
  have hids : later.catalog.objects.map (·.identity) = s.catalog.objects.map (·.identity) :=
    (identities_run _ calls).trans (s.catalog.identities_mark [i])
  obtain ⟨o', ho', hid⟩ : ∃ o', later.catalog.objects[i]? = some o' ∧ o'.identity = o.identity := by
    have hi := congrArg (·[i]?) hids
    simpa only [List.getElem?_map, ho, Option.map_some, Option.map_eq_some_iff] using hi
  have hbits' : bits ∈ o'.identifiers := DeviceObject.identifiers_of_identity hid ▸ hbits
  have hfind := (hs.of_identities hids).find?_eq ho' hbits'
  have hoffset : PropertyAddress.resolve later.catalog later.mappings p (.byOffset r.offset) = .ok (i, o') := by
    simp [PropertyAddress.resolve, Agreement.objectAt?, hmappings, ho']
  have hident : PropertyAddress.resolve later.catalog later.mappings p (.byId bits) = .ok (i, o') := by
    simp [PropertyAddress.resolve, hfind, ho']
  have hsame := hoffset.trans hident.symm
  have hone : PropertyAddress.byOffset r.offset ≠ .device := by simp
  have hother : PropertyAddress.byId bits ≠ .device := by simp
  refine ⟨⟨o', hid, hoffset, hident⟩, Catalog.getProperty_congr hone hother hsame, fun v => ?_⟩
  simp only [setProperty, Catalog.setProperty_congr hone hother hsame v]

omit [ServedSource σ] [Arithmetic] in
/-- Six objects of six kinds have the same number and are marked from before. The second of them is asked for by its
identifier, and its deadzone, set at the offset, is read by the identifier marked as optional. -/
theorem addresses_agree_of_one_number :
    letI : Arithmetic := .binary
    let object (kind : ObjectKind) (control : Option Control) : DeviceObject :=
      { DeviceObject.ofControl "Object" .unknown kind 0 0 control with isMatched := true }
    let c : Catalog := ⟨.standard,
      [object .absoluteAxis (some (.axis .leftStickX)), object .relativeAxis (some (.axis .leftStickY)),
       object .pushButton (some (.button .south)), object .toggleButton (some (.button .east)),
       object .pov (some .hat), object .collection none]⟩
    let s : Session := ⟨0, .ansi, .none, c, some ⟨4, [⟨0, 0⟩], []⟩, false⟩
    let s' : Session := { s with catalog := c.mark [1], format := some ⟨8, [⟨1, 4⟩], []⟩ }
    let later := (run (s', Feed.ofCount 1) [.command (.setProperty .deadzone (.byOffset 4) (.word 7))]).1
    s.catalog.find? 0x80000001 = some 1 ∧ s.setFormat ⟨0, 8, [⟨none, 4, 0x00000001, 0⟩]⟩ = .ok s' ∧
      later.getProperty .deadzone (.byId 0x80000001) = .ok (.word 7) := by
  intro object c s s' later
  have hs : s.catalog.Addressable := ⟨by decide +kernel, by decide +kernel⟩
  have ho : s.catalog.objects[1]? = some (object .relativeAxis (some (.axis .leftStickY))) := rfl
  obtain ⟨hfind, hformat⟩ := @addresses_agree Feed _ .binary s hs 1 _ ho
  obtain ⟨-, haccepted⟩ := hformat ⟨0, 8, [⟨none, 4, 0x00000001, 0⟩]⟩ _ ⟨by decide +kernel, rfl, by decide⟩
    ⟨rfl, by decide, by decide⟩
  obtain ⟨s₁, hset, -, -, hlater⟩ := haccepted (by decide)
  obtain rfl : s₁ = s' := Except.ok.inj (hset.symm.trans (by decide +kernel))
  obtain ⟨-, hread, -⟩ := hlater (Feed.ofCount 1) [.command (.setProperty .deadzone (.byOffset 4) (.word 7))] rfl
    0x80000001 (by decide +kernel) .deadzone
  exact ⟨hfind _ (by decide +kernel), hset, hread.symm.trans (by decide +kernel)⟩

end Session
end GamepadPool
