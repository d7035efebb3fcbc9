import GamepadPool.Proofs.Format.Negotiation
import Mathlib.Order.Bounds.Defs
/-! # Negotiation takes the first object that fits
Requests are looked at in order, and each takes the least object that suits it and that no earlier request took, whether
or not a later request needs it. What an object is suited to is a matter of five rules on bits; what is agreed on, and
which request breaks the negotiation off, follows from what was taken. -/

namespace GamepadPool

/-! ## the rules of matching -/

namespace TypeBits

theorem getLsbD_instanceOf (bits : UInt32) {i : Nat} (hi : i < 16) :
    (instanceOf bits).toBitVec.getLsbD i = bits.toBitVec.getLsbD (8 + i) := by
  simp [instanceOf, hi]

theorem getLsbD_anyInstance {i : Nat} : anyInstance.toBitVec.getLsbD i = decide (8 ≤ i ∧ i < 24) := by
  by_cases hi : i < 32
  · revert i
    decide
  · rw [BitVec.getLsbD_of_ge _ _ (by omega)]
    simp
    omega

/-- The instance number is what the instance bits say. -/
theorem instanceOf_congr {bits bits' : UInt32} (h : bits &&& anyInstance = bits' &&& anyInstance) :
    instanceOf bits = instanceOf bits' := by
  apply UInt16.eq_of_toBitVec_eq
  apply BitVec.eq_of_getLsbD_eq
  intro i hi
  rw [getLsbD_instanceOf bits hi, getLsbD_instanceOf bits' hi]
  have hbit := congrArg (fun b => b.toBitVec.getLsbD (8 + i)) h
  have hin : 8 ≤ 8 + i ∧ 8 + i < 24 := by omega
  simpa [getLsbD_anyInstance, hin] using hbit

theorem anyInstance_iff (bits : UInt32) : bits &&& anyInstance = anyInstance ↔ instanceOf bits = 0xFFFF := by
  constructor
  · intro h
    have hsame : bits &&& anyInstance = anyInstance &&& anyInstance := by rw [h, UInt32.and_self]
    exact instanceOf_congr hsame
  · intro h
    apply UInt32.eq_of_toBitVec_eq
    apply BitVec.eq_of_getLsbD_eq
    intro i hi
    rw [UInt32.toBitVec_and, BitVec.getLsbD_and, getLsbD_anyInstance]
    by_cases hin : 8 ≤ i ∧ i < 24
    · obtain ⟨j, rfl⟩ := Nat.exists_eq_add_of_le hin.1
      have hj : j < 16 := by omega
      have hones : ∀ j < 16, (0xFFFF : UInt16).toBitVec.getLsbD j = true := by decide
      have hbit := getLsbD_instanceOf bits hj
      rw [h, hones j hj] at hbit
      rw [← hbit, Bool.true_and]
    · simp [hin]

end TypeBits

/-- Whether an object may serve a request, rule by rule. -/
structure ObjectRequest.Suits (r : ObjectRequest) (o : DeviceObject) : Prop where
  /-- A class bit in common. -/
  sharedClass : r.classBits &&& o.typeBits ≠ 0
  /-- Any instance, or the object's own. -/
  instance_eq : TypeBits.instanceOf r.typeBits = 0xFFFF ∨ TypeBits.instanceOf r.typeBits = o.number
  /-- No bit but those of class and instance, and the mark of an optional request. -/
  noOtherBit : r.typeBits &&& ~~~(TypeBits.anyClass ||| TypeBits.anyInstance ||| TypeBits.optional) = 0
  /-- The object's aspect, if an aspect is named. -/
  aspect_eq : r.flags &&& ObjectFlags.anyAspect ≠ 0 → r.flags &&& ObjectFlags.anyAspect = o.aspect
  /-- The object's usage, if a usage is given. -/
  usage_eq : ∀ u, r.usage = some u → u = o.usage

theorem DeviceObject.answersTo_iff {o : DeviceObject} {r : ObjectRequest} :
    o.answersTo r.typeBits = true ↔ r.classBits &&& o.typeBits ≠ 0 ∧
      (TypeBits.instanceOf r.typeBits = 0xFFFF ∨ TypeBits.instanceOf r.typeBits = o.number) ∧
      r.typeBits &&& ~~~(TypeBits.anyClass ||| TypeBits.anyInstance ||| TypeBits.optional) = 0 := by
  -- the mark of an optional request is none of the bits that are looked at
  have hclass : r.typeBits &&& ~~~TypeBits.optional &&& TypeBits.anyClass = r.classBits := by
    rw [UInt32.and_assoc]
    rfl
  have hnumber : r.typeBits &&& ~~~TypeBits.optional &&& TypeBits.anyInstance =
      r.typeBits &&& TypeBits.anyInstance := by
    rw [UInt32.and_assoc]
    rfl
  have hother : r.typeBits &&& ~~~TypeBits.optional &&& ~~~(TypeBits.anyClass ||| TypeBits.anyInstance) =
      r.typeBits &&& ~~~(TypeBits.anyClass ||| TypeBits.anyInstance ||| TypeBits.optional) := by
    rw [UInt32.and_assoc]
    rfl
  simp only [answersTo, hclass, hother, TypeBits.instanceOf_congr hnumber, Bool.and_eq_true, Bool.or_eq_true,
    bne_iff_ne, beq_iff_eq, hnumber, TypeBits.anyInstance_iff, and_assoc]

theorem ObjectRequest.accepts_iff {r : ObjectRequest} {o : DeviceObject} : r.accepts o = true ↔ r.Suits o := by
  have haspect : o.hasAspect r.flags = true ↔
      (r.flags &&& ObjectFlags.anyAspect ≠ 0 → r.flags &&& ObjectFlags.anyAspect = o.aspect) := by
    simp only [DeviceObject.hasAspect, Bool.or_eq_true, beq_iff_eq, ne_eq, or_iff_not_imp_left]
  simp only [accepts, Bool.and_eq_true, DeviceObject.answersTo_iff, haspect]
  constructor
  · rintro ⟨⟨⟨hclass, hnumber, hother⟩, ha⟩, hu⟩
    refine ⟨hclass, hnumber, hother, ha, fun u hr => ?_⟩
    simpa [hr] using hu
  · rintro ⟨hclass, hnumber, hother, ha, hu⟩
    refine ⟨⟨⟨hclass, hnumber, hother⟩, ha⟩, ?_⟩
    cases hr : r.usage with
    | none => rfl
    | some u => simpa using hu u hr

/-! ## what is taken -/

/-- The object suits request number `k`, and no earlier request took it. -/
def ObjectRequest.Finds (r : ObjectRequest) (objects : List DeviceObject) (picks : List (Option Nat)) (k i : Nat) :
    Prop :=
  (∀ j < k, picks[j]? ≠ some (some i)) ∧ ∃ o, objects[i]? = some o ∧ r.Suits o

/-- Each request takes the least of the objects it finds, and nothing if it finds none. -/
structure FirstFit (objects : List DeviceObject) (rs : List ObjectRequest) (picks : List (Option Nat)) : Prop where
  length : picks.length = rs.length
  least : ∀ (k : Nat) (r : ObjectRequest), rs[k]? = some r →
    ∀ i, picks[k]? = some (some i) ↔ IsLeast {i | r.Finds objects picks k i} i

section Picks

variable {objects : List DeviceObject} {rs : List ObjectRequest} {picks picks' : List (Option Nat)} {taken : List Nat}
  {r : ObjectRequest}

/-- What a request takes follows from what the requests before it took. -/
theorem FirstFit.unique (h : FirstFit objects rs picks) (h' : FirstFit objects rs picks') : picks' = picks := by
  apply List.ext_getElem?
  intro k
  -- by strong induction: where the earlier requests took the same, this one finds the same
  induction k using Nat.strongRecOn with
  | ind k ih =>
    by_cases hk : k < rs.length
    · have hr := List.getElem?_eq_getElem hk
      have hfinds : ∀ i, rs[k].Finds objects picks' k i ↔ rs[k].Finds objects picks k i := fun i =>
        and_congr_left' (forall₂_congr fun j hj => by rw [ih j hj])
      have hsame : ∀ i, picks'[k]? = some (some i) ↔ picks[k]? = some (some i) := fun i => by
        simp only [h.least k _ hr, h'.least k _ hr, hfinds]
      have hpick : k < picks.length := h.length.symm ▸ hk
      have hpick' : k < picks'.length := h'.length.symm ▸ hk
      rw [List.getElem?_eq_getElem hpick, List.getElem?_eq_getElem hpick'] at hsame ⊢
      simp only [Option.some.injEq] at hsame ⊢
      exact Option.ext hsame
    · rw [List.getElem?_eq_none (by rw [h'.length]; omega), List.getElem?_eq_none (by rw [h.length]; omega)]

namespace Agreement

theorem pick?_eq_some_iff {i : Nat} :
    pick? objects taken r = some i ↔ IsLeast {i | i ∉ taken ∧ ∃ o, objects[i]? = some o ∧ r.Suits o} i := by
  have htest : ∀ j, ((!taken.contains j && (objects[j]?.map r.accepts).getD false) = true ↔
      j ∉ taken ∧ ∃ o, objects[j]? = some o ∧ r.Suits o) := by
    intro j
    cases objects[j]? <;> simp [ObjectRequest.accepts_iff]
  unfold pick?
  rw [List.find?_range_eq_some, htest]
  constructor
  · rintro ⟨hi, -, hless⟩
    refine ⟨hi, fun j hj => ?_⟩
    by_contra hlt
    have hno := hless j (by omega)
    rw [Bool.not_eq_true', ← Bool.not_eq_true, htest] at hno
    exact hno hj
  · rintro ⟨hi, hless⟩
    obtain ⟨-, o, ho, -⟩ := id hi
    refine ⟨hi, List.mem_range.2 (List.getElem?_eq_some_iff.1 ho).1, fun j hj => ?_⟩
    rw [Bool.not_eq_true', ← Bool.not_eq_true, htest]
    exact fun h => absurd (hless h) (by omega)

/-- What the requests take in turn, when some objects are taken before. -/
def picksOf (objects : List DeviceObject) (taken : List Nat) : List ObjectRequest → List (Option Nat)
  | [] => []
  | r :: rest => pick? objects taken r :: picksOf objects (taken ++ (pick? objects taken r).toList) rest

theorem length_picksOf (objects : List DeviceObject) (taken : List Nat) (rs : List ObjectRequest) :
    (picksOf objects taken rs).length = rs.length := by
  induction rs generalizing taken with
  | nil => rfl
  | cons r rest ih => rw [picksOf, List.length_cons, List.length_cons, ih]

/-- A request looks at the objects that neither were taken before nor went to an earlier request. -/
theorem getElem?_picksOf {k : Nat} (hr : rs[k]? = some r) :
    (picksOf objects taken rs)[k]? =
      some (pick? objects (taken ++ ((picksOf objects taken rs).take k).filterMap id) r) := by
  induction rs generalizing taken k with
  | nil => cases hr
  | cons first rest ih =>
    cases k with
    | zero =>
      obtain rfl : first = r := Option.some.inj hr
      simp [picksOf]
    | succ k =>
      rw [picksOf, List.getElem?_cons_succ, ih hr, List.take_succ_cons]
      cases pick? objects taken first <;> simp

theorem mem_filterMap_take {picks : List (Option Nat)} {k i : Nat} :
    i ∈ (picks.take k).filterMap id ↔ ∃ j < k, picks[j]? = some (some i) := by
  simp only [List.mem_filterMap, id_eq, exists_eq_right]
  rw [List.mem_iff_getElem?]
  simp only [List.getElem?_take, Option.ite_none_right_eq_some]

theorem firstFit_picksOf (objects : List DeviceObject) (rs : List ObjectRequest) :
    FirstFit objects rs (picksOf objects [] rs) := by
  refine ⟨length_picksOf .., fun k r hr i => ?_⟩
  simp only [getElem?_picksOf hr, Option.some.injEq, pick?_eq_some_iff, List.nil_append, mem_filterMap_take, not_exists,
    not_and]
  rfl

end Agreement

/-! ## what follows from it -/

/-- A request with the object it took. -/
structure Service where
  request : ObjectRequest
  object : Option Nat

namespace Service

/-- A required request took nothing. -/
def Missing (x : Service) : Prop := x.object = none ∧ x.request.isOptional = false

/-- A request took an axis or a hat for an offset where no word may stand. -/
def Misaligned (objects : List DeviceObject) (x : Service) : Prop :=
  ∃ o ∈ x.object.bind (objects[·]?), (o.kind.isAxis = true ∨ o.kind = .pov) ∧ ¬ 4 ∣ x.request.offset.toNat

/-- Nothing is wrong with it. -/
def Granted (objects : List DeviceObject) (x : Service) : Prop := ¬ x.Missing ∧ ¬ x.Misaligned objects

instance (x : Service) : Decidable x.Missing := inferInstanceAs (Decidable (_ ∧ _))

instance (objects : List DeviceObject) (x : Service) : Decidable (x.Granted objects) :=
  inferInstanceAs (Decidable (¬ _ ∧ ¬ ∃ _ ∈ _, _))

def mapping? (x : Service) : Option Mapping := x.object.map (⟨·, x.request.offset⟩)

/-- An optional hat that took nothing is held centred. -/
def fixup? (x : Service) : Option Fixup :=
  if x.object = none ∧ x.request.isOptional = true ∧ x.request.isHat = true then some ⟨x.request.offset, 0xFFFFFFFF⟩
  else none

end Service

namespace Agreement

variable {n : Agreement} {x : Service}

/-- What is agreed on once a request is granted. -/
def grant (n : Agreement) (x : Service) : Agreement :=
  { n with mappings := n.mappings ++ x.mapping?.toList, fixups := n.fixups ++ x.fixup?.toList }

theorem taken_grant (n : Agreement) (x : Service) : (n.grant x).taken = n.taken ++ x.object.toList := by
  rcases x with ⟨r, _ | i⟩ <;> simp [grant, taken, Service.mapping?]

theorem misaligned_iff {i : Nat} (hpick : pick? objects n.taken r = some i) :
    Service.Misaligned objects ⟨r, some i⟩ ↔
      ((objects[i]?.map needsAlignment).getD false && r.offset % 4 != 0) = true := by
  obtain ⟨-, o, ho, -⟩ := pick_some hpick
  simp [Service.Misaligned, ho, needsAlignment, ← BufferFormat.mod_eq_zero_iff]

theorem serve_of_missing (h : Service.Missing ⟨r, pick? objects n.taken r⟩) :
    serve objects n r = .error (.requiredMissing r.typeBits r.offset) := by
  obtain ⟨hnone, hrequired⟩ := h
  dsimp only at hnone hrequired
  simp only [serve, hnone, hrequired, Bool.false_eq_true, if_false]

theorem serve_of_misaligned (h : Service.Misaligned objects ⟨r, pick? objects n.taken r⟩) :
    serve objects n r = .error (.objectNotAligned r.usage r.offset) := by
  cases hpick : pick? objects n.taken r with
  | none =>
    obtain ⟨o, ho, -⟩ := h
    rw [hpick] at ho
    cases ho
  | some i =>
    rw [hpick, misaligned_iff hpick] at h
    simp only [serve, hpick, h, if_true]

theorem serve_of_granted (h : Service.Granted objects ⟨r, pick? objects n.taken r⟩) :
    serve objects n r = .ok (n.grant ⟨r, pick? objects n.taken r⟩) := by
  obtain ⟨hmissing, hmisaligned⟩ := h
  cases hpick : pick? objects n.taken r with
  | none =>
    have hoptional : r.isOptional = true := by
      rw [hpick] at hmissing
      simpa [Service.Missing] using hmissing
    cases hhat : r.isHat <;>
      simp [serve, hpick, hoptional, hhat, grant, Service.mapping?, Service.fixup?, Hat.centred]
  | some i =>
    rw [hpick, misaligned_iff hpick] at hmisaligned
    simp [serve, hpick, hmisaligned, grant, Service.mapping?, Service.fixup?]

/-- The requests with what they take, when some objects are taken before. -/
def services (objects : List DeviceObject) (taken : List Nat) (rs : List ObjectRequest) : List Service :=
  rs.zipWith .mk (picksOf objects taken rs)

theorem services_cons (objects : List DeviceObject) (taken : List Nat) (r : ObjectRequest) (rs : List ObjectRequest) :
    services objects taken (r :: rs) =
      ⟨r, pick? objects taken r⟩ :: services objects (taken ++ (pick? objects taken r).toList) rs := rfl

theorem serveAll_of_granted (h : ∀ x ∈ services objects n.taken rs, x.Granted objects) :
    serveAll objects n rs = .ok ((services objects n.taken rs).foldl grant n) := by
  induction rs generalizing n with
  | nil => rfl
  | cons r rest ih =>
    rw [services_cons, ← taken_grant n ⟨r, pick? objects n.taken r⟩] at h ⊢
    rw [serveAll, serve_of_granted (h _ List.mem_cons_self), List.foldl_cons]
    exact ih fun x hx => h x (List.mem_cons_of_mem _ hx)

theorem foldl_grant (n : Agreement) (xs : List Service) :
    xs.foldl grant n =
      { n with
        mappings := n.mappings ++ xs.filterMap Service.mapping?
        fixups := n.fixups ++ xs.filterMap Service.fixup? } := by
  induction xs generalizing n with
  | nil => simp
  | cons x rest ih =>
    rw [List.foldl_cons, ih, grant, List.filterMap_cons, List.filterMap_cons]
    cases x.mapping? <;> cases x.fixup? <;> simp

/-- The first request that is not granted is answered for all. -/
theorem serveAll_of_first {before after : List Service} (hsplit : services objects n.taken rs = before ++ x :: after)
    (hbefore : ∀ y ∈ before, y.Granted objects) :
    (x.Missing →
      serveAll objects n rs = .error (.requiredMissing x.request.typeBits x.request.offset)) ∧
    (x.Misaligned objects →
      serveAll objects n rs = .error (.objectNotAligned x.request.usage x.request.offset)) := by
  -- along the requests that are granted; what they take is in the agreement when the next one is served
  induction rs generalizing n before with
  | nil => cases before <;> cases hsplit
  | cons r rest ih =>
    rw [services_cons] at hsplit
    cases before with
    | nil =>
      obtain ⟨rfl, -⟩ := List.cons.inj hsplit
      refine ⟨fun h => ?_, fun h => ?_⟩
      · rw [serveAll, serve_of_missing h]
      · rw [serveAll, serve_of_misaligned h]
    | cons y before =>
      obtain ⟨rfl, hrest⟩ := List.cons.inj hsplit
      rw [serveAll, serve_of_granted (hbefore _ List.mem_cons_self)]
      rw [← taken_grant n ⟨r, pick? objects n.taken r⟩] at hrest
      exact ih hrest fun y hy => hbefore y (List.mem_cons_of_mem _ hy)

theorem objects_services {picks : List (Option Nat)} (h : picks.length = rs.length) :
    ((rs.zipWith Service.mk picks).filterMap Service.mapping?).map (·.object) = picks.filterMap id := by
  induction rs generalizing picks with
  | nil =>
    obtain rfl := List.length_eq_zero_iff.1 h
    rfl
  | cons r rest ih =>
    cases picks with
    | nil => cases h
    | cons p ps =>
      have hrest := ih (Nat.succ.inj h)
      cases p <;> simpa [List.filterMap_cons, Service.mapping?] using hrest

end Agreement

/-- Negotiation of a valid format is greedy. In one way only can each request take the least index of an object that
suits it and that no earlier request took. If the first request that is not granted is a required one that took nothing,
there is no such object; if it took an axis or a hat at an offset that is no multiple of four, the parameter is
invalid. If all are granted, what they took is mapped in their order, none twice, optional hats that took nothing are
centred, and exactly the objects taken are marked. -/
theorem Catalog.negotiate_firstFit (c : Catalog) (f : BufferFormat) (hvalid : f.validate = .ok ()) :
    (∃! picks, FirstFit c.objects f.objects picks) ∧
    ∀ picks, FirstFit c.objects f.objects picks →
      let services : List Service := f.objects.zipWith .mk picks
      (∀ before x after, services = before ++ x :: after → (∀ y ∈ before, y.Granted c.objects) →
        (x.Missing → (c.negotiate f).mapError FormatError.toDeviceError = .error (.objectNotFound
            s!"required object {Hex.word x.request.typeBits} at offset {x.request.offset.toNat}")) ∧
        (x.Misaligned c.objects → (c.negotiate f).mapError FormatError.toDeviceError = .error (.invalidParameter
            s!"{Usage.describe x.request.usage} object at offset {x.request.offset.toNat} is not 4-byte aligned"))) ∧
      ((∀ x ∈ services, x.Granted c.objects) → ∃ n c', c.negotiate f = .ok (n, c') ∧
        n.dataSize = f.dataSize ∧
        n.mappings = services.filterMap (·.mapping?) ∧
        n.fixups = services.filterMap (·.fixup?) ∧
        (n.mappings.map (·.object)).Nodup ∧
        c' = { c with objects := c.objects.mapIdx fun i o => { o with isMatched := decide (some i ∈ picks) } }) := by
  refine ⟨⟨_, Agreement.firstFit_picksOf c.objects f.objects, fun _ h => (Agreement.firstFit_picksOf ..).unique h⟩, ?_⟩
  intro picks hpicks services
  obtain rfl : picks = Agreement.picksOf c.objects [] f.objects := (Agreement.firstFit_picksOf ..).unique hpicks
  refine ⟨fun before x after hsplit hbefore => ?_, fun hall => ?_⟩
  · obtain ⟨hmissing, hmisaligned⟩ := Agreement.serveAll_of_first (n := ⟨f.dataSize, [], []⟩) hsplit hbefore
    refine ⟨fun h => ?_, fun h => ?_⟩
    · rw [negotiate, hvalid]
      simp only [hmissing h]
      rfl
    · rw [negotiate, hvalid]
      simp only [hmisaligned h]
      rfl
  · have hserve := Agreement.serveAll_of_granted (n := ⟨f.dataSize, [], []⟩) hall
    rw [Agreement.foldl_grant] at hserve
    let n : Agreement := ⟨f.dataSize, services.filterMap (·.mapping?), services.filterMap (·.fixup?)⟩
    have hneg : c.negotiate f = .ok (n, c.mark n.taken) := by
      rw [negotiate, hvalid]
      simp only [hserve]
      rfl
    have htaken : ∀ i, n.taken.contains i = decide (some i ∈ Agreement.picksOf c.objects [] f.objects) := by
      intro i
      rw [Bool.eq_iff_iff, List.contains_iff_mem, decide_eq_true_iff, Agreement.taken,
        Agreement.objects_services hpicks.length]
      simp
    refine ⟨n, _, hneg, rfl, rfl, rfl, nodup_negotiate hneg, ?_⟩
    simp only [mark, htaken]

end Picks

/-- A request for any axis takes the one that a later request needs. If that one is required the format is refused,
else it is passed over; of two hats the second is held centred. -/
theorem Catalog.negotiate_wildcard :
    let c := ofLayout .standard
    let any : ObjectRequest := ⟨none, 0, TypeBits.axis ||| TypeBits.anyInstance, 0⟩
    let exact : ObjectRequest := ⟨none, 4, TypeBits.axis ||| TypeBits.ofInstance 0, 0⟩
    let passed : ObjectRequest := { exact with typeBits := exact.typeBits ||| TypeBits.optional }
    let hat (offset : UInt32) : ObjectRequest :=
      ⟨some .pov, offset, TypeBits.pov ||| TypeBits.anyInstance ||| TypeBits.optional, 0⟩
    (FirstFit c.objects [any, exact] [some 0, none] ∧
      (c.negotiate ⟨0, 16, [any, exact]⟩).mapError FormatError.toDeviceError =
        .error (.objectNotFound "required object 0x00000003 at offset 4")) ∧
    FirstFit c.objects [any, passed, hat 8, hat 12] [some 0, none, some 20, none] ∧
      ∃ n c', c.negotiate ⟨0, 16, [any, passed, hat 8, hat 12]⟩ = .ok (n, c') ∧ n.mappings = [⟨0, 0⟩, ⟨20, 8⟩] ∧
        n.fixups = [⟨12, 0xFFFFFFFF⟩] := by
  intro c any exact passed hat
  have hfirst : ∀ rs picks, Agreement.picksOf c.objects [] rs = picks → FirstFit c.objects rs picks := by
    rintro rs _ rfl
    exact Agreement.firstFit_picksOf ..
  have hrefused : FirstFit c.objects [any, exact] [some 0, none] := hfirst _ _ (by decide +kernel)
  have hserved : FirstFit c.objects [any, passed, hat 8, hat 12] [some 0, none, some 20, none] :=
    hfirst _ _ (by decide +kernel)
  obtain ⟨-, hrefuses⟩ := negotiate_firstFit c ⟨0, 16, [any, exact]⟩ (by decide +kernel)
  obtain ⟨-, hserves⟩ := negotiate_firstFit c ⟨0, 16, [any, passed, hat 8, hat 12]⟩ (by decide +kernel)
  have hmissing := (hrefuses _ hrefused).1 [⟨any, some 0⟩] ⟨exact, none⟩ [] rfl (by decide +kernel)
  have hnotFound := hmissing.1 (by decide +kernel)
  obtain ⟨n, c', hneg, -, hmappings, hfixups, -⟩ := (hserves _ hserved).2 (by decide +kernel)
  refine ⟨⟨hrefused, hnotFound.trans (by decide +kernel)⟩, hserved, n, c', hneg, ?_, ?_⟩
  · exact hmappings.trans (by decide +kernel)
  · exact hfixups.trans (by decide +kernel)

end GamepadPool
