import GamepadPool.Number.Binary
import GamepadPool.Proofs.Format.Rendering
/-! # The last write wins
Whatever mappings and constants a renderer is given, it writes a list of bytes at offsets into a cleared buffer, in
order. It breaks off exactly if an object is missing or a write does not fit; otherwise each byte is the one that was
written last, or zero. -/

namespace GamepadPool

/-! ## bytes covered by writes -/

/-- The write puts a byte at the index. -/
def Covers (w : Nat × List UInt8) (i : Nat) : Prop := w.1 ≤ i ∧ i < w.1 + w.2.length

instance (w : Nat × List UInt8) (i : Nat) : Decidable (Covers w i) := inferInstanceAs (Decidable (_ ∧ _))

section Bytes

variable {buffer : List UInt8} {ws : List (Nat × List UInt8)} {w : Nat × List UInt8} {i : Nat}

theorem getElem?_writeAt_of_covers (hfit : w.1 + w.2.length ≤ buffer.length) (h : Covers w i) :
    (writeAt buffer w.1 w.2)[i]? = w.2[i - w.1]? := by
  obtain ⟨hstart, hend⟩ := h
  unfold writeAt
  rw [List.append_assoc, List.getElem?_append_right (by simp; omega), List.getElem?_append_left (by simp; omega)]
  congr 1
  simp
  omega

theorem getElem?_writeAt_of_not_covers (hfit : w.1 + w.2.length ≤ buffer.length) (h : ¬ Covers w i) :
    (writeAt buffer w.1 w.2)[i]? = buffer[i]? := by
  unfold Covers at h
  unfold writeAt
  by_cases hbefore : i < w.1
  · rw [List.append_assoc, List.getElem?_append_left (by simp; omega), List.getElem?_take_of_lt hbefore]
  · rw [List.getElem?_append_right (by simp; omega), List.getElem?_drop]
    congr 1
    simp
    omega

theorem length_writeAll (hfit : ∀ w ∈ ws, w.1 + w.2.length ≤ buffer.length) :
    (writeAll buffer ws).length = buffer.length := by
  induction ws generalizing buffer with
  | nil => rfl
  | cons w rest ih =>
    have hlen := length_writeAt (hfit w List.mem_cons_self)
    rw [writeAll_cons, ih fun x hx => by rw [hlen]; exact hfit x (List.mem_cons_of_mem _ hx), hlen]

/-- What no write covers stays as it was. -/
theorem getElem?_writeAll_of_not_covers (hfit : ∀ w ∈ ws, w.1 + w.2.length ≤ buffer.length)
    (h : ∀ w ∈ ws, ¬ Covers w i) : (writeAll buffer ws)[i]? = buffer[i]? := by
  induction ws generalizing buffer with
  | nil => rfl
  | cons w rest ih =>
    have hlen := length_writeAt (hfit w List.mem_cons_self)
    rw [writeAll_cons, ih (fun x hx => by rw [hlen]; exact hfit x (List.mem_cons_of_mem _ hx))
      fun x hx => h x (List.mem_cons_of_mem _ hx)]
    exact getElem?_writeAt_of_not_covers (hfit w List.mem_cons_self) (h w List.mem_cons_self)

/-- What a write covers and no later one does comes from that write. -/
theorem getElem?_writeAll_of_last {before after : List (Nat × List UInt8)}
    (hfit : ∀ x ∈ before ++ w :: after, x.1 + x.2.length ≤ buffer.length) (h : Covers w i)
    (hlast : ∀ x ∈ after, ¬ Covers x i) : (writeAll buffer (before ++ w :: after))[i]? = w.2[i - w.1]? := by
  have hbefore : (writeAll buffer before).length = buffer.length :=
    length_writeAll fun x hx => hfit x (List.mem_append_left _ hx)
  have hw : w.1 + w.2.length ≤ (writeAll buffer before).length := by
    rw [hbefore]
    exact hfit w (by simp)
  rw [writeAll_append, writeAll_cons, getElem?_writeAll_of_not_covers _ hlast]
  · exact getElem?_writeAt_of_covers hw h
  · intro x hx
    rw [length_writeAt hw, hbefore]
    exact hfit x (by simp [hx])

end Bytes

/-! ## the writes of a rendering -/

/-- The four bytes of a word, the least significant first. -/
def littleEndian (w : UInt32) : List UInt8 := (List.range 4).map fun k => .ofNat (w.toNat / 256 ^ k)

theorem wordBytes_eq (w : UInt32) : wordBytes w = littleEndian w := by
  have hrange : List.range 4 = [0, 1, 2, 3] := rfl
  simp only [littleEndian, wordBytes, hrange, List.map_cons, List.map_nil, List.cons.injEq, ← UInt8.toNat_inj,
    UInt32.toNat_toUInt8, UInt32.toNat_shiftRight, UInt8.toNat_ofNat', Nat.shiftRight_eq_div_pow, UInt32.reduceToNat]
  simp

theorem littleEndian_ne_nil (w : UInt32) : littleEndian w ≠ [] := by
  rw [← wordBytes_eq]
  exact List.cons_ne_nil _ _

/-- A write of bytes that are there succeeds exactly if they fit. -/
theorem write_eq_ok_iff {buffer bytes out : List UInt8} {offset : Nat} (hbytes : bytes ≠ []) :
    write buffer offset bytes = .ok out ↔
      offset + bytes.length ≤ buffer.length ∧ out = writeAt buffer offset bytes := by
  unfold write
  rw [if_neg (by simpa using hbytes)]
  split
  · constructor
    · intro h
      cases h
    · rintro ⟨hfit, -⟩
      omega
  · rw [Except.ok.injEq]
    constructor
    · rintro rfl
      exact ⟨by omega, rfl⟩
    · rintro ⟨-, rfl⟩
      rfl

theorem not_fits_of_error {buffer bytes : List UInt8} {offset : Nat} {e : RenderError} (hbytes : bytes ≠ [])
    (h : write buffer offset bytes = .error e) : ¬ offset + bytes.length ≤ buffer.length := by
  intro hfit
  rw [(write_eq_ok_iff hbytes).2 ⟨hfit, rfl⟩] at h
  cases h

/-- The builder makes an object of this identity. -/
def DeviceObject.Buildable (o : DeviceObject) : Prop :=
  ∃ steps objects, CatalogDraft.build steps = .ok objects ∧ o.identity ∈ objects.map (·.identity)

theorem DeviceObject.Buildable.readsOwnKind {o : DeviceObject} (h : o.Buildable) : o.ReadsOwnKind := by
  obtain ⟨steps, objects, hbuild, hid⟩ := h
  obtain ⟨o', ho', hid⟩ := List.mem_map.1 hid
  exact readsOwnKind_of_identity hid (CatalogDraft.readsOwnKind_of_build hbuild o' ho')

theorem Catalog.Built.buildable {c : Catalog} (h : c.Built) : ∀ o ∈ c.objects, o.Buildable := by
  obtain ⟨steps, objects, hbuild, hids⟩ := h
  intro o ho
  exact ⟨steps, objects, hbuild, hids ▸ List.mem_map_of_mem ho⟩

section Rendering

variable [Arithmetic] {c : Catalog} {objects : List DeviceObject} {buffer out : List UInt8} {s : Snapshot}
  {ms : List Mapping} {xs : List Fixup}

/-- The bytes of an object for a snapshot. A collection has none; what reads an axis has its value, shaped and scaled to
the range of the object; a button has one byte, and the hat has a word. -/
def DeviceObject.bytes? (o : DeviceObject) (s : Snapshot) : Option (List UInt8) :=
  match o.kind, o.control with
  | .collection, _ => none
  | _, some (.axis a) =>
    let shaped := respond (s.axis a) (fractionOf o.deadzone) (fractionOf o.saturation)
    some (littleEndian (spread shaped o.rangeMin o.rangeMax).toUInt32)
  | _, some (.button b) => some [if s.button b then 0x80 else 0]
  | _, some .hat => some (littleEndian s.hat.toPov)
  | _, none => none

theorem DeviceObject.bytes?_cases {o : DeviceObject} (ho : o.ReadsOwnKind) (s : Snapshot) :
    (o.bytes? s = none ∧ objectBytes o s = []) ∨ (o.bytes? s = some (objectBytes o s) ∧ objectBytes o s ≠ []) := by
  unfold ReadsOwnKind at ho
  unfold bytes? objectBytes
  cases hk : o.kind <;> rw [hk] at ho
  case absoluteAxis | relativeAxis =>
    obtain ⟨a, ha⟩ := ho
    simp [ha, wordBytes_eq, axisWord, littleEndian_ne_nil]
  case pushButton | toggleButton =>
    obtain ⟨b, hb⟩ := ho
    simp [hb, pressed]
  case pov => simp [ho, wordBytes_eq, littleEndian_ne_nil]
  case collection => simp

/-- The write of a mapped object, if it has bytes. -/
def Mapping.write? (objects : List DeviceObject) (s : Snapshot) (m : Mapping) : Option (Nat × List UInt8) :=
  ((objects[m.object]?).bind (·.bytes? s)).map fun bytes => (m.offset.toNat, bytes)

/-- The writes of the mappings, in their order, then those of the constants. -/
def writeList (objects : List DeviceObject) (s : Snapshot) (ms : List Mapping) (xs : List Fixup) :
    List (Nat × List UInt8) :=
  ms.filterMap (·.write? objects s) ++ xs.map fun x => (x.offset.toNat, littleEndian x.value)

theorem writeMappings_eq_ok_iff (hread : ∀ o ∈ objects, o.ReadsOwnKind) :
    writeMappings objects s buffer ms = .ok out ↔
      (∀ m ∈ ms, objects[m.object]? ≠ none) ∧
      (∀ w ∈ ms.filterMap (·.write? objects s), w.1 + w.2.length ≤ buffer.length) ∧
      out = writeAll buffer (ms.filterMap (·.write? objects s)) := by
  -- a write keeps the length, so what fits the buffer at first is what fits it in its turn
  induction ms generalizing buffer with
  | nil => simp [writeMappings, writeAll, eq_comm]
  | cons m rest ih =>
    unfold writeMappings
    cases ho : objects[m.object]? with
    | none =>
      constructor
      · intro h
        cases h
      · rintro ⟨hall, -⟩
        exact absurd ho (hall m List.mem_cons_self)
    | some o =>
      have hthere : (∀ x ∈ m :: rest, objects[x.object]? ≠ none) ↔ ∀ x ∈ rest, objects[x.object]? ≠ none := by
        simp only [List.forall_mem_cons, ho, ne_eq, reduceCtorEq, not_false_eq_true, true_and]
      rw [hthere]
      rcases DeviceObject.bytes?_cases (hread o (List.mem_of_getElem? ho)) s with
        ⟨hnone, hnil⟩ | ⟨hsome, hbytes⟩
      · have hskip : m.write? objects s = none := by simp [Mapping.write?, ho, hnone]
        have hone : write buffer m.offset.toNat [] = .ok buffer := rfl
        simp only [hnil, hone, ih, List.filterMap_cons, hskip]
      · have hwrite : m.write? objects s = some (m.offset.toNat, objectBytes o s) := by
          simp [Mapping.write?, ho, hsome]
        simp only [List.filterMap_cons, hwrite, List.forall_mem_cons, writeAll_cons]
        cases hone : write buffer m.offset.toNat (objectBytes o s) with
        | error e => simp [not_fits_of_error hbytes hone]
        | ok next =>
          obtain ⟨hfit, rfl⟩ := (write_eq_ok_iff hbytes).1 hone
          simp only [ih, length_writeAt hfit, hfit, true_and]

omit [Arithmetic] in
theorem writeFixups_eq_ok_iff :
    writeFixups buffer xs = .ok out ↔
      (∀ w ∈ xs.map fun x => (x.offset.toNat, littleEndian x.value), w.1 + w.2.length ≤ buffer.length) ∧
      out = writeAll buffer (xs.map fun x => (x.offset.toNat, littleEndian x.value)) := by
  induction xs generalizing buffer with
  | nil => simp [writeFixups, writeAll, eq_comm]
  | cons x rest ih =>
    rw [writeFixups, wordBytes_eq]
    simp only [List.map_cons, List.forall_mem_cons, writeAll_cons]
    cases hone : write buffer x.offset.toNat (littleEndian x.value) with
    | error e => simp [not_fits_of_error (littleEndian_ne_nil _) hone]
    | ok next =>
      obtain ⟨hfit, rfl⟩ := (write_eq_ok_iff (littleEndian_ne_nil _)).1 hone
      simp only [ih, length_writeAt hfit, hfit, true_and]

theorem render_eq_ok_iff (hread : ∀ o ∈ c.objects, o.ReadsOwnKind) :
    render c ms xs s buffer = .ok out ↔
      (∀ m ∈ ms, c.objects[m.object]? ≠ none) ∧
      (∀ w ∈ writeList c.objects s ms xs, w.1 + w.2.length ≤ buffer.length) ∧
      out = writeAll (List.replicate buffer.length 0) (writeList c.objects s ms xs) := by
  have hmaps := @writeMappings_eq_ok_iff _ c.objects (List.replicate buffer.length 0)
  simp only [List.length_replicate] at hmaps
  unfold render writeList
  rw [List.forall_mem_append, writeAll_append]
  constructor
  · intro h
    split at h
    · rename_i next hnext
      obtain ⟨hthere, hfit, rfl⟩ := (hmaps hread).1 hnext
      obtain ⟨hfixed, rfl⟩ := writeFixups_eq_ok_iff.1 h
      rw [length_writeAll (by simpa using hfit), List.length_replicate] at hfixed
      exact ⟨hthere, ⟨hfit, hfixed⟩, rfl⟩
    · cases h
  · rintro ⟨hthere, ⟨hfit, hfixed⟩, rfl⟩
    rw [(hmaps hread).2 ⟨hthere, hfit, rfl⟩]
    refine writeFixups_eq_ok_iff.2 ⟨?_, rfl⟩
    rwa [length_writeAll (by simpa using hfit), List.length_replicate]

/-- On a catalog of objects that the builder makes, for all mappings, constants, snapshots and buffers: rendering
breaks off exactly if a mapping names an object that is not there or a write ends behind the buffer. Otherwise every
byte is the one that the last write covering it put there, and zero where no write does. -/
theorem render_lastWrite (hbuilt : ∀ o ∈ c.objects, o.Buildable) (ms : List Mapping) (xs : List Fixup) (s : Snapshot)
    (buffer : List UInt8) :
    let ws := writeList c.objects s ms xs
    ((∃ e, render c ms xs s buffer = .error e) ↔
      (∃ m ∈ ms, c.objects[m.object]? = none) ∨ ∃ w ∈ ws, buffer.length < w.1 + w.2.length) ∧
    ∀ out, render c ms xs s buffer = .ok out → out.length = buffer.length ∧ ∀ i < buffer.length,
      (∀ before w after, ws = before ++ w :: after → Covers w i → (∀ x ∈ after, ¬ Covers x i) →
        out[i]? = w.2[i - w.1]?) ∧
      ((∀ w ∈ ws, ¬ Covers w i) → out[i]? = some 0) := by
  intro ws
  have hok := fun out => @render_eq_ok_iff _ c buffer out s ms xs fun o ho => (hbuilt o ho).readsOwnKind
  refine ⟨?_, fun out hout => ?_⟩
  · constructor
    · rintro ⟨e, he⟩
      by_contra hnone
      obtain ⟨hthere, hfit⟩ := not_or.1 hnone
      have hfit' : ∀ w ∈ ws, w.1 + w.2.length ≤ buffer.length :=
        fun w hw => Nat.le_of_not_lt fun hover => hfit ⟨w, hw, hover⟩
      rw [(hok _).2 ⟨fun m hm hm' => hthere ⟨m, hm, hm'⟩, hfit', rfl⟩] at he
      cases he
    · intro hbad
      cases hrender : render c ms xs s buffer with
      | error e => exact ⟨e, rfl⟩
      | ok out =>
        obtain ⟨hthere, hfit, -⟩ := (hok out).1 hrender
        rcases hbad with ⟨m, hm, hnone⟩ | ⟨w, hw, hover⟩
        · exact absurd hnone (hthere m hm)
        · exact absurd (hfit w hw) (by omega)
  · obtain ⟨-, hfit, rfl⟩ := (hok out).1 hout
    have hclear : ∀ w ∈ ws, w.1 + w.2.length ≤ (List.replicate buffer.length (0 : UInt8)).length := by
      simpa using hfit
    refine ⟨by rw [length_writeAll hclear, List.length_replicate], fun i hi => ⟨?_, ?_⟩⟩
    · intro before w after hsplit hcovers hlast
      change (writeAll _ ws)[i]? = _
      rw [hsplit] at hclear ⊢
      exact getElem?_writeAll_of_last hclear hcovers hlast
    · intro hnone
      rw [getElem?_writeAll_of_not_covers hclear hnone, List.getElem?_replicate, if_pos hi]

end Rendering

/-- A hat east at offset 1, a collection far outside, a pressed button in the middle of the hat's word and a constant
over its last byte: eight bytes are filled with what came last, seven are too few. -/
theorem render_overlapping :
    letI : Arithmetic := .binary
    let c := Catalog.ofLayout .standard
    let ms : List Mapping := [⟨20, 1⟩, ⟨21, 1000⟩, ⟨6, 3⟩]
    let xs : List Fixup := [⟨4, 0xFFFFFFFF⟩]
    let s := (Snapshot.neutral.setHat .east).setButton .west true
    (∀ o ∈ c.objects, o.Buildable) ∧ (∃ e, render c ms xs s (List.replicate 7 0xAA) = .error e) ∧
      ∃ out, render c ms xs s (List.replicate 8 0xAA) = .ok out ∧ out[0]? = some 0 ∧ out[2]? = some 0x23 ∧
        out[3]? = some 0x80 ∧ out[4]? = some 0xFF := by
  let : Arithmetic := .binary
  intro c ms xs s
  have hbuilt : ∀ o ∈ c.objects, o.Buildable := (Catalog.built_ofLayout .standard).buildable
  have hws : writeList c.objects s ms xs = [(1, [0x28, 0x23, 0, 0]), (3, [0x80]), (4, [0xFF, 0xFF, 0xFF, 0xFF])] := by
    decide +kernel
  refine ⟨hbuilt, ?_, ?_⟩
  · refine (render_lastWrite hbuilt ms xs s _).1.2 (.inr ?_)
    rw [hws]
    exact ⟨(4, [0xFF, 0xFF, 0xFF, 0xFF]), by simp, by decide⟩
  · obtain ⟨hfails, hbytes⟩ := render_lastWrite hbuilt ms xs s (List.replicate 8 0xAA)
    rw [hws] at hfails hbytes
    cases hrender : render c ms xs s (List.replicate 8 0xAA) with
    | error e =>
      exact absurd (hfails.1 ⟨e, hrender⟩) (by decide +kernel)
    | ok out =>
      obtain ⟨-, hbytes⟩ := hbytes out hrender
      refine ⟨out, rfl, (hbytes 0 (by decide)).2 (by decide), ?_, ?_, ?_⟩
      · exact (hbytes 2 (by decide)).1 [] _ _ rfl (by decide) (by decide)
      · exact (hbytes 3 (by decide)).1 [(1, [0x28, 0x23, 0, 0])] _ _ rfl (by decide) (by decide)
      · exact (hbytes 4 (by decide)).1 [(1, [0x28, 0x23, 0, 0]), (3, [0x80])] _ [] rfl (by decide) (by decide)

end GamepadPool
