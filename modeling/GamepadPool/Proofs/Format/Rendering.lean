import GamepadPool.Proofs.Format.Negotiation
/-! # Rendering never overruns
Into a buffer of the agreed size, an agreement that fits writes every value and every constant it has. -/

namespace GamepadPool

/-! ## one write -/

section Writes

variable {buffer bytes : List UInt8} {offset : Nat}

theorem length_writeAt (h : offset + bytes.length ≤ buffer.length) :
    (writeAt buffer offset bytes).length = buffer.length := by
  simp only [writeAt, List.length_append, List.length_take, List.length_drop]
  omega

/-- What fits, or is nothing at all, is written, and the buffer keeps its size. -/
theorem write_ok (h : bytes.length = 0 ∨ offset + bytes.length ≤ buffer.length) :
    write buffer offset bytes = .ok (writeAt buffer offset bytes) ∧
      (writeAt buffer offset bytes).length = buffer.length := by
  unfold write
  by_cases hnone : bytes.length = 0
  · obtain rfl := List.length_eq_zero_iff.1 hnone
    have hsame : writeAt buffer offset [] = buffer := by simp [writeAt]
    rw [hsame]
    exact ⟨rfl, rfl⟩
  · have hfit : offset + bytes.length ≤ buffer.length := h.resolve_left hnone
    rw [if_neg (mt List.isEmpty_iff_length_eq_zero.1 hnone), if_neg (by omega)]
    exact ⟨rfl, length_writeAt hfit⟩

end Writes

theorem ObjectKind.FitsAt.inside {k : ObjectKind} {size offset : UInt32} (h : k.FitsAt size offset) :
    k.width = 0 ∨ offset.toNat + k.width ≤ size.toNat := by
  cases k
  case absoluteAxis | relativeAxis | pov => exact .inr h.2
  case pushButton | toggleButton => exact .inr h
  case collection => exact .inl rfl

/-! ## all writes -/

/-- Puts bytes at their offsets, one after the other. -/
def writeAll (buffer : List UInt8) (ws : List (Nat × List UInt8)) : List UInt8 :=
  ws.foldl (fun b w => writeAt b w.1 w.2) buffer

theorem writeAll_cons (buffer : List UInt8) (w : Nat × List UInt8) (ws : List (Nat × List UInt8)) :
    writeAll buffer (w :: ws) = writeAll (writeAt buffer w.1 w.2) ws := rfl

theorem writeAll_append (buffer : List UInt8) (ws ws' : List (Nat × List UInt8)) :
    writeAll buffer (ws ++ ws') = writeAll (writeAll buffer ws) ws' := List.foldl_append

/-- Writes that follow one another without a gap. -/
def consecutive (offset : Nat) : List (List UInt8) → List (Nat × List UInt8)
  | [] => []
  | bytes :: rest => (offset, bytes) :: consecutive (offset + bytes.length) rest

/-- Such writes replace as many bytes as they have. -/
theorem writeAll_consecutive {before gap after : List UInt8} {offset : Nat} {segments : List (List UInt8)}
    (hoffset : before.length = offset) (hgap : gap.length = segments.flatten.length) :
    writeAll (before ++ gap ++ after) (consecutive offset segments) = before ++ segments.flatten ++ after := by
  induction segments generalizing before gap offset with
  | nil =>
    obtain rfl := List.length_eq_zero_iff.1 hgap
    rfl
  | cons bytes rest ih =>
    subst hoffset
    rw [List.flatten_cons, List.length_append] at hgap
    have hone : writeAt (before ++ gap ++ after) before.length bytes =
        (before ++ bytes) ++ gap.drop bytes.length ++ after := by
      have hdrop : (gap ++ after).drop bytes.length = gap.drop bytes.length ++ after :=
        List.drop_append_of_le_length (by omega)
      simp [writeAt, List.append_assoc, List.drop_append, hdrop]
    rw [consecutive, writeAll_cons, hone, ih List.length_append (by rw [List.length_drop]; omega)]
    simp

section Rendering

variable [Arithmetic] {c : Catalog} {n : Agreement} {objects : List DeviceObject} {buffer : List UInt8}
  {size : UInt32}

/-- The offset and the bytes of a mapped object. -/
def Mapping.write (objects : List DeviceObject) (inputs : Snapshot) (m : Mapping) : Nat × List UInt8 :=
  (m.offset.toNat, ((objects[m.object]?).map (objectBytes · inputs)).getD [])

omit [Arithmetic] in
def Fixup.write (x : Fixup) : Nat × List UInt8 := (x.offset.toNat, wordBytes x.value)

/-- What rendering writes, in order. -/
def Agreement.writes (n : Agreement) (objects : List DeviceObject) (inputs : Snapshot) : List (Nat × List UInt8) :=
  n.mappings.map (·.write objects inputs) ++ n.fixups.map (·.write)

theorem writeMappings_eq (inputs : Snapshot) {ms : List Mapping} (hread : ∀ o ∈ objects, o.ReadsOwnKind)
    (hfit : ∀ m ∈ ms, ∃ o, objects[m.object]? = some o ∧ o.kind.FitsAt size m.offset)
    (hsize : buffer.length = size.toNat) :
    writeMappings objects inputs buffer ms = .ok (writeAll buffer (ms.map (·.write objects inputs))) ∧
      (writeAll buffer (ms.map (·.write objects inputs))).length = size.toNat := by
  induction ms generalizing buffer with
  | nil => exact ⟨rfl, hsize⟩
  | cons m rest ih =>
    obtain ⟨o, ho, hm⟩ := hfit m List.mem_cons_self
    have hbytes := DeviceObject.length_objectBytes (hread o (List.mem_of_getElem? ho)) inputs
    obtain ⟨hnext, hlen⟩ := @write_ok buffer (objectBytes o inputs) m.offset.toNat (by
      rw [hbytes, hsize]
      exact hm.inside)
    have hrest := ih (fun m hm => hfit m (List.mem_cons_of_mem _ hm)) (hlen.trans hsize)
    have hone : m.write objects inputs = (m.offset.toNat, objectBytes o inputs) := by simp [Mapping.write, ho]
    simpa only [writeMappings, ho, hnext, List.map_cons, writeAll_cons, hone] using hrest

omit [Arithmetic] in
theorem writeFixups_eq {xs : List Fixup} (hfit : ∀ x ∈ xs, WordFits size x.offset)
    (hsize : buffer.length = size.toNat) :
    writeFixups buffer xs = .ok (writeAll buffer (xs.map (·.write))) ∧
      (writeAll buffer (xs.map (·.write))).length = size.toNat := by
  induction xs generalizing buffer with
  | nil => exact ⟨rfl, hsize⟩
  | cons x rest ih =>
    obtain ⟨-, hend⟩ := hfit x List.mem_cons_self
    obtain ⟨hnext, hlen⟩ := @write_ok buffer (wordBytes x.value) x.offset.toNat (by
      rw [hsize]
      exact .inr hend)
    have hrest := ih (fun x hx => hfit x (List.mem_cons_of_mem _ hx)) (hlen.trans hsize)
    simpa only [writeFixups, hnext, List.map_cons, writeAll_cons, Fixup.write] using hrest

/-- A buffer of the agreed size is cleared and then takes all writes, for every snapshot. -/
theorem Agreement.Fits.render_eq (hn : n.Fits c.objects) (hread : ∀ o ∈ c.objects, o.ReadsOwnKind)
    (inputs : Snapshot) (hsize : buffer.length = n.dataSize.toNat) :
    GamepadPool.render c n.mappings n.fixups inputs buffer =
        .ok (writeAll (List.replicate buffer.length 0) (n.writes c.objects inputs)) ∧
      (writeAll (List.replicate buffer.length 0) (n.writes c.objects inputs)).length = buffer.length := by
  have hclear : (List.replicate buffer.length (0 : UInt8)).length = n.dataSize.toNat := by
    rw [List.length_replicate, hsize]
  obtain ⟨hmaps, hlen⟩ := writeMappings_eq inputs hread hn.mapped hclear
  obtain ⟨hfixes, hend⟩ := writeFixups_eq hn.fixed hlen
  have hall : writeAll (List.replicate buffer.length 0) (n.writes c.objects inputs) =
      writeAll (writeAll (List.replicate buffer.length 0) (n.mappings.map (·.write c.objects inputs)))
        (n.fixups.map (·.write)) := writeAll_append ..
  rw [hall]
  refine ⟨?_, hend.trans hsize.symm⟩
  simp only [GamepadPool.render, hmaps, hfixes]

/-- A buffer of the agreed size is rendered in full, for every snapshot. -/
theorem Agreement.Fits.render (hn : n.Fits c.objects) (hread : ∀ o ∈ c.objects, o.ReadsOwnKind)
    (inputs : Snapshot) (hsize : buffer.length = n.dataSize.toNat) :
    ∃ out, GamepadPool.render c n.mappings n.fixups inputs buffer = .ok out ∧ out.length = buffer.length :=
  ⟨_, hn.render_eq hread inputs hsize⟩

end Rendering
end GamepadPool
