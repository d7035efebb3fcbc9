import GamepadPool.BufferFormat.Agreement
import GamepadPool.Proofs.Catalog.Identity
/-! # What negotiation agrees to
Bytes are reserved for a request before any object is looked for; how many are filled is decided later, by the
object found. A request reserves what any object it accepts fills, so every agreement fits its buffer. -/

namespace GamepadPool

/-! ## requests -/

namespace ObjectRequest

variable {r : ObjectRequest} {o : DeviceObject}

/-- An object that answers has a class in common with the request. -/
theorem classBits_of_accepts (h : r.accepts o = true) : r.classBits &&& o.typeBits ≠ 0 := by
  simp only [accepts, DeviceObject.answersTo, Bool.and_eq_true, bne_iff_ne, ne_eq] at h
  obtain ⟨⟨⟨⟨hclass, -⟩, -⟩, -⟩, -⟩ := h
  intro hzero
  apply hclass
  have hswap : r.typeBits &&& ~~~TypeBits.optional &&& TypeBits.anyClass &&& o.typeBits
      = r.classBits &&& o.typeBits &&& ~~~TypeBits.optional := by
    unfold classBits
    ac_rfl
  rw [hswap, hzero, UInt32.zero_and]

theorem width_pos (r : ObjectRequest) : 0 < r.width := by
  unfold width
  split <;> omega

/-- Where the bits of a kind lie outside the button bits, an accepting request reserves a word. -/
theorem width_of_outside (h : r.accepts o = true) (ho : ~~~TypeBits.button &&& o.typeBits = o.typeBits) :
    r.width = 4 := by
  unfold width
  rw [if_neg]
  simp only [Bool.and_eq_true, beq_iff_eq, not_and]
  intro _ hzero
  apply classBits_of_accepts h
  rw [← ho, ← UInt32.and_assoc, hzero, UInt32.zero_and]

/-- A request reserves what an object it accepts fills. -/
theorem width_of_accepts (h : r.accepts o = true) : o.kind.width ≤ r.width := by
  have hpos := r.width_pos
  cases hk : o.kind
  case pushButton | toggleButton => exact hpos
  case collection => exact Nat.zero_le _
  -- what is left fills a word, and has no bit in common with a button
  case absoluteAxis | relativeAxis | pov =>
    have hbits : ~~~TypeBits.button &&& o.typeBits = o.typeBits := by
      rw [DeviceObject.typeBits, hk]
      decide
    exact Nat.le_of_eq (width_of_outside h hbits).symm

end ObjectRequest

/-! ## validation -/

namespace BufferFormat

variable {f : BufferFormat} {r : ObjectRequest} {size : UInt32}

/-- Whole words, as it is checked and as a number. -/
theorem mod_eq_zero_iff {n : UInt32} : n % 4 = 0 ↔ 4 ∣ n.toNat := by
  rw [← UInt32.toNat_inj, UInt32.toNat_mod, Nat.dvd_iff_mod_eq_zero]
  rfl

/-- A request that passes reserves bytes inside the buffer, aligned where a hat may need it. -/
theorem reserved_of_check (h : checkRequest size r = .ok ()) :
    (r.isHat = true → 4 ∣ r.offset.toNat) ∧ r.offset.toNat + r.width ≤ size.toNat := by
  unfold checkRequest at h
  split at h
  · cases h
  rename_i hhat
  split at h
  · cases h
  rename_i hend
  simp only [Bool.and_eq_true, bne_iff_ne, not_and, not_not] at hhat
  exact ⟨fun hr => mod_eq_zero_iff.1 (hhat hr), by omega⟩

theorem check_of_forM {rs : List ObjectRequest} (h : rs.forM (checkRequest size) = .ok ()) :
    ∀ r ∈ rs, checkRequest size r = .ok () := by
  induction rs with
  | nil => simp
  | cons r rest ih =>
    cases hr : checkRequest size r with
    | error e =>
      simp only [List.forM_eq_forM, List.forM_cons, hr] at h
      cases h
    | ok u =>
      simp only [List.forM_eq_forM, List.forM_cons, hr] at h
      intro x hx
      rcases List.mem_cons.1 hx with rfl | hx
      · exact hr
      · exact ih h x hx

theorem check_of_validate (h : f.validate = .ok ()) : ∀ r ∈ f.objects, checkRequest f.dataSize r = .ok () := by
  unfold validate at h
  split at h
  · cases h
  split at h
  · cases h
  exact check_of_forM h

end BufferFormat

/-! ## agreements that fit -/

/-- A word there is aligned and ends inside a buffer of `size` bytes. -/
def WordFits (size offset : UInt32) : Prop := 4 ∣ offset.toNat ∧ offset.toNat + 4 ≤ size.toNat

/-- The value of an object of the kind fits there; a collection has none. -/
def ObjectKind.FitsAt (k : ObjectKind) (size offset : UInt32) : Prop :=
  match k with
  | .absoluteAxis | .relativeAxis | .pov => WordFits size offset
  | .pushButton | .toggleButton => offset.toNat + 1 ≤ size.toNat
  | .collection => True

namespace Agreement

variable {objects objects' : List DeviceObject} {n n' : Agreement} {r : ObjectRequest}

/-- What is mapped exists and fits, and so does every constant. -/
structure Fits (objects : List DeviceObject) (n : Agreement) : Prop where
  mapped : ∀ m ∈ n.mappings, ∃ o, objects[m.object]? = some o ∧ o.kind.FitsAt n.dataSize m.offset
  fixed : ∀ x ∈ n.fixups, WordFits n.dataSize x.offset

theorem Fits.of_identities (h : n.Fits objects)
    (hids : objects.map (·.identity) = objects'.map (·.identity)) : n.Fits objects' := by
  refine ⟨fun m hm => ?_, h.fixed⟩
  obtain ⟨o, ho, hfit⟩ := h.mapped m hm
  have hget : (objects'.map (·.identity))[m.object]? = some o.identity := by
    rw [← hids, List.getElem?_map, ho]
    rfl
  rw [List.getElem?_map, Option.map_eq_some_iff] at hget
  obtain ⟨o', ho', hid⟩ := hget
  refine ⟨o', ho', ?_⟩
  rwa [DeviceObject.kind_of_identity hid]

/-! ## one request -/

theorem pick_some {taken : List Nat} {i : Nat} (h : pick? objects taken r = some i) :
    i ∉ taken ∧ ∃ o, objects[i]? = some o ∧ r.accepts o = true := by
  have hp := List.find?_some h
  simp only [Bool.and_eq_true, Bool.not_eq_true', List.contains_eq_mem, decide_eq_false_iff_not] at hp
  obtain ⟨hfree, haccepts⟩ := hp
  refine ⟨hfree, ?_⟩
  cases ho : objects[i]? with
  | none =>
    rw [ho] at haccepts
    cases haccepts
  | some o =>
    rw [ho] at haccepts
    exact ⟨o, rfl, haccepts⟩

/-- A request is mapped to a free object that accepts it, or is a hat and set to a constant, or is passed over. -/
theorem serve_cases (h : serve objects n r = .ok n') :
    (∃ i o, objects[i]? = some o ∧ i ∉ n.taken ∧ r.accepts o = true
      ∧ (needsAlignment o = true → 4 ∣ r.offset.toNat)
      ∧ n' = { n with mappings := n.mappings ++ [⟨i, r.offset⟩] })
    ∨ (r.isHat = true ∧ n' = { n with fixups := n.fixups ++ [⟨r.offset, Hat.centred⟩] })
    ∨ n' = n := by
  unfold serve at h
  split at h
  · rename_i i hpick
    obtain ⟨hfree, o, ho, haccepts⟩ := pick_some hpick
    split at h
    · cases h
    rename_i halign
    cases h
    refine .inl ⟨i, o, ho, hfree, haccepts, fun hneeds => ?_, rfl⟩
    rw [ho] at halign
    simp only [Option.map_some, Option.getD_some, hneeds, Bool.true_and, bne_iff_ne, not_not] at halign
    exact BufferFormat.mod_eq_zero_iff.1 halign
  · split at h
    · cases h
      by_cases hhat : r.isHat = true
      · exact .inr (.inl ⟨hhat, by rw [if_pos hhat]⟩)
      · exact .inr (.inr (by rw [if_neg hhat]))
    · cases h

theorem dataSize_serve (h : serve objects n r = .ok n') : n'.dataSize = n.dataSize := by
  rcases serve_cases h with ⟨i, o, -, -, -, -, rfl⟩ | ⟨-, rfl⟩ | rfl <;> rfl

/-- The reserved bytes are enough for the object found. -/
theorem fitsAt_of_accepts {size : UInt32} {o : DeviceObject} (hr : r.accepts o = true)
    (halign : needsAlignment o = true → 4 ∣ r.offset.toNat) (hend : r.offset.toNat + r.width ≤ size.toNat) :
    o.kind.FitsAt size r.offset := by
  have hwidth := ObjectRequest.width_of_accepts hr
  unfold needsAlignment at halign
  unfold ObjectKind.FitsAt
  cases hk : o.kind <;> rw [hk] at hwidth halign
  case absoluteAxis | relativeAxis | pov =>
    have hw : 4 ≤ r.width := hwidth
    exact ⟨halign rfl, by omega⟩
  case pushButton | toggleButton =>
    have hw : 1 ≤ r.width := hwidth
    exact (by omega : r.offset.toNat + 1 ≤ size.toNat)
  case collection => trivial

theorem Fits.serve (hn : n.Fits objects) (hr : BufferFormat.checkRequest n.dataSize r = .ok ())
    (h : Agreement.serve objects n r = .ok n') : n'.Fits objects := by
  obtain ⟨hhat, hend⟩ := BufferFormat.reserved_of_check hr
  rcases serve_cases h with ⟨i, o, ho, -, haccepts, halign, rfl⟩ | ⟨his, rfl⟩ | rfl
  · refine ⟨fun m hm => ?_, hn.fixed⟩
    rcases List.mem_append.1 hm with hm | hm
    · exact hn.mapped m hm
    · rw [List.mem_singleton.1 hm]
      exact ⟨o, ho, fitsAt_of_accepts haccepts halign hend⟩
  · refine ⟨hn.mapped, fun x hx => ?_⟩
    rcases List.mem_append.1 hx with hx | hx
    · exact hn.fixed x hx
    · rw [List.mem_singleton.1 hx]
      -- a hat reserves a word, whatever classes it names
      have hw : r.width = 4 := by simp [ObjectRequest.width, his]
      exact ⟨hhat his, by rw [← hw]; exact hend⟩
  · exact hn

theorem nodup_serve (hn : n.taken.Nodup) (h : serve objects n r = .ok n') : n'.taken.Nodup := by
  rcases serve_cases h with ⟨i, o, -, hfree, -, -, rfl⟩ | ⟨-, rfl⟩ | rfl
  · unfold taken at hfree ⊢
    rw [List.map_append]
    refine List.nodup_append.2 ⟨hn, List.pairwise_singleton .., ?_⟩
    intro j hj k hk
    rw [List.mem_singleton.1 hk]
    rintro rfl
    exact hfree hj
  · exact hn
  · exact hn

/-! ## all requests -/

variable {rs : List ObjectRequest}

/-- What the service of one request keeps, the service of all keeps. -/
theorem serveAll_keeps {P : Agreement → Prop} (hstep : ∀ r ∈ rs, ∀ n n', P n → serve objects n r = .ok n' → P n')
    (hn : P n) (h : serveAll objects n rs = .ok n') : P n' := by
  induction rs generalizing n with
  | nil =>
    cases h
    exact hn
  | cons r rest ih =>
    unfold serveAll at h
    split at h
    · rename_i m hone
      have hm : P m := hstep r List.mem_cons_self n m hn hone
      exact ih (fun r hr => hstep r (List.mem_cons_of_mem _ hr)) hm h
    · cases h

theorem dataSize_serveAll (h : serveAll objects n rs = .ok n') : n'.dataSize = n.dataSize :=
  serveAll_keeps (P := fun m => m.dataSize = n.dataSize)
    (fun _ _ _ _ hm hone => (dataSize_serve hone).trans hm) rfl h

theorem nodup_serveAll (hn : n.taken.Nodup) (h : serveAll objects n rs = .ok n') : n'.taken.Nodup :=
  serveAll_keeps (P := fun m => m.taken.Nodup) (fun _ _ _ _ hm hone => nodup_serve hm hone) hn h

theorem Fits.serveAll (hn : n.Fits objects)
    (hrs : ∀ r ∈ rs, BufferFormat.checkRequest n.dataSize r = .ok ())
    (h : Agreement.serveAll objects n rs = .ok n') : n'.Fits objects := by
  -- the size is kept along the way, since every request was checked against it
  have hkeep : n'.Fits objects ∧ n'.dataSize = n.dataSize := by
    refine serveAll_keeps (P := fun m => m.Fits objects ∧ m.dataSize = n.dataSize) ?_ ⟨hn, rfl⟩ h
    rintro r hr m m' ⟨hfits, hsize⟩ hone
    refine ⟨hfits.serve ?_ hone, (dataSize_serve hone).trans hsize⟩
    rw [hsize]
    exact hrs r hr
  exact hkeep.1

end Agreement

/-! ## identities decide -/

section Identities

variable {objects objects' : List DeviceObject}

/-- What depends on identities alone is the same for the objects of two lists with the same identities. -/
theorem map_getElem?_of_identities {α : Type} {f : DeviceObject → α} (hf : ∀ o o', o.identity = o'.identity → f o = f o')
    (hids : objects.map (·.identity) = objects'.map (·.identity)) (i : Nat) :
    (objects[i]?).map f = (objects'[i]?).map f := by
  have hi := congrArg (·[i]?) hids
  simp only [List.getElem?_map] at hi
  generalize objects[i]? = x, objects'[i]? = x' at hi ⊢
  cases x <;> cases x'
  · rfl
  · cases hi
  · cases hi
  · exact congrArg some (hf _ _ (Option.some.inj hi))

theorem ObjectRequest.accepts_of_identity (r : ObjectRequest) {o o' : DeviceObject} (h : o.identity = o'.identity) :
    r.accepts o = r.accepts o' := by
  obtain ⟨-, husage, hkind, hnumber, hflags, -, -⟩ := ObjectIdentity.mk.inj h
  simp only [accepts, DeviceObject.answersTo, DeviceObject.hasAspect, DeviceObject.typeBits, DeviceObject.aspect,
    husage, hkind, hnumber, hflags]

namespace Agreement

variable (hids : objects.map (·.identity) = objects'.map (·.identity))

include hids

theorem serve_congr (n : Agreement) (r : ObjectRequest) : serve objects n r = serve objects' n r := by
  have hlen : objects.length = objects'.length := by simpa using congrArg List.length hids
  have hpick : pick? objects n.taken r = pick? objects' n.taken r := by
    unfold pick?
    simp only [hlen, map_getElem?_of_identities (fun _ _ => r.accepts_of_identity) hids]
  have halign : ∀ o o' : DeviceObject, o.identity = o'.identity → needsAlignment o = needsAlignment o' := by
    intro o o' h
    unfold needsAlignment
    rw [DeviceObject.kind_of_identity h]
  unfold serve
  simp only [hpick, map_getElem?_of_identities halign hids]

theorem serveAll_congr (n : Agreement) (rs : List ObjectRequest) : serveAll objects n rs = serveAll objects' n rs := by
  induction rs generalizing n with
  | nil => rfl
  | cons r rest ih =>
    unfold serveAll
    rw [serve_congr hids]
    split
    · exact ih _
    · rfl

end Agreement

end Identities

/-! ## the whole negotiation -/

namespace Catalog

variable {c c' : Catalog} {f : BufferFormat} {n : Agreement}

/-- What does not depend on marks stays as it was. -/
theorem map_mark {α : Type} {g : DeviceObject → α} (hg : ∀ o b, g { o with isMatched := b } = g o) (c : Catalog)
    (taken : List Nat) : (c.mark taken).objects.map g = c.objects.map g := by
  apply List.ext_getElem?
  intro i
  simp only [mark, List.getElem?_map, List.getElem?_mapIdx, Option.map_map]
  congr 1
  funext o
  exact hg o _

theorem identities_mark (c : Catalog) (taken : List Nat) :
    (c.mark taken).objects.map (·.identity) = c.objects.map (·.identity) :=
  map_mark (fun _ _ => rfl) c taken

/-- An accepted format is valid, all its requests are served, and what they took is marked. -/
theorem negotiate_cases (h : c.negotiate f = .ok (n, c')) :
    f.validate = .ok () ∧ Agreement.serveAll c.objects ⟨f.dataSize, [], []⟩ f.objects = .ok n
      ∧ c' = c.mark n.taken := by
  unfold negotiate at h
  split at h
  · cases h
  rename_i hvalid
  split at h
  · rename_i m hserve
    cases h
    exact ⟨hvalid, hserve, rfl⟩
  · cases h

/-- Catalogs of the same identities refuse a format for the same reason, or agree on the same, each marking its own
objects. -/
theorem negotiate_congr {d : Catalog} (hids : c.objects.map (·.identity) = d.objects.map (·.identity))
    (f : BufferFormat) : c.negotiate f = (d.negotiate f).map fun nd => (nd.1, c.mark nd.1.taken) := by
  unfold negotiate
  split
  · rfl
  · rw [Agreement.serveAll_congr hids]
    split <;> rfl

/-- What is agreed on, if anything is, depends on the identities of the objects alone. -/
theorem agreement_congr {d : Catalog} (hids : c.objects.map (·.identity) = d.objects.map (·.identity))
    (f : BufferFormat) : (c.negotiate f).map (·.1) = (d.negotiate f).map (·.1) := by
  rw [negotiate_congr hids f]
  cases d.negotiate f <;> rfl

theorem dataSize_negotiate (h : c.negotiate f = .ok (n, c')) : n.dataSize = f.dataSize := by
  obtain ⟨-, hserve, -⟩ := negotiate_cases h
  exact Agreement.dataSize_serveAll hserve

theorem identities_negotiate (h : c.negotiate f = .ok (n, c')) :
    c'.objects.map (·.identity) = c.objects.map (·.identity) := by
  obtain ⟨-, -, rfl⟩ := negotiate_cases h
  exact c.identities_mark n.taken

theorem nodup_negotiate (h : c.negotiate f = .ok (n, c')) : n.taken.Nodup := by
  obtain ⟨-, hserve, -⟩ := negotiate_cases h
  exact Agreement.nodup_serveAll (n := ⟨f.dataSize, [], []⟩) List.nodup_nil hserve

theorem fits_negotiate (h : c.negotiate f = .ok (n, c')) : n.Fits c'.objects := by
  obtain ⟨hvalid, hserve, -⟩ := negotiate_cases h
  have hempty : (⟨f.dataSize, [], []⟩ : Agreement).Fits c.objects := ⟨by simp, by simp⟩
  have hfits : n.Fits c.objects := hempty.serveAll (BufferFormat.check_of_validate hvalid) hserve
  exact hfits.of_identities (identities_negotiate h).symm

end Catalog
end GamepadPool
