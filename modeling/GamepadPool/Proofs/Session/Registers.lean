import GamepadPool.Proofs.Catalog.Registers
import GamepadPool.Proofs.Session.Consistency
/-! # Properties set and read over a session
An object goes by many addresses, and what an offset means changes with every format. Still each property of an axis is
a register of its own: it holds what was last written to it at any address, and nothing else a session does reaches
it. -/

namespace GamepadPool
namespace Session

variable {σ : Type} [ServedSource σ] [a : Arithmetic]

/-! ## what is written -/

/-- What a property of the object at an index holds, where there is one. -/
def register (s : Session) (i : Nat) (p : Property) : Option PropertyValue :=
  (s.catalog.objects[i]?.map (Catalog.propertyOf? · p)).join

/-- The value a call gives a property of the object at an index: the call succeeds, and its address is the object's at
that time. -/
def written? (s : Session) (i : Nat) (p : Property) : SessionCall σ → Option PropertyValue
  | .command (.setProperty q t v) =>
    match s.setProperty q t v, t.resolve s.catalog s.mappings q with
    | .ok _, .ok (j, _) => if q = p ∧ j = i then some v else none
    | _, _ => none
  | _ => none

/-- The values a run gives a property of the object at an index, in order. -/
def written (x : Session × σ) (i : Nat) (p : Property) : List (SessionCall σ) → List PropertyValue
  | [] => []
  | c :: rest => (x.1.written? i p c).toList ++ written (perform x c) i p rest

/-! ## what a call does to a register -/

omit [ServedSource σ] [Arithmetic] in
theorem register_congr {s s' : Session} {p : Property}
    (h : s'.catalog.objects.map (Catalog.propertyOf? · p) = s.catalog.objects.map (Catalog.propertyOf? · p)) (i : Nat) :
    s'.register i p = s.register i p := by
  have hi := congrArg (fun values => values[i]?.join) h
  simpa only [register, List.getElem?_map] using hi

/-- A format leaves every register as it is. -/
theorem register_setFormat (s : Session) (source : σ) (f : BufferFormat) (i : Nat) (p : Property) :
    (s.serve source (.setFormat f)).2.1.register i p = s.register i p := by
  simp only [serve, setFormat]
  cases hneg : s.catalog.negotiate f with
  | error e => rfl
  | ok nc =>
    obtain ⟨n, c⟩ := nc
    obtain ⟨-, -, rfl⟩ := Catalog.negotiate_cases hneg
    exact register_congr (Catalog.map_mark (fun o b => by cases p <;> rfl) ..) i

/-- A property set changes the register it is set in, and no other. -/
theorem register_setProperty (s : Session) (source : σ) (q : Property) (t : PropertyAddress) (v : PropertyValue)
    (i : Nat) (p : Property) :
    (s.serve source (.setProperty q t v)).2.1.register i p =
      (s.written? i p (.command (.setProperty q t v) : SessionCall σ)).or (s.register i p) := by
  simp only [serve, written?, setProperty]
  cases hset : s.catalog.setProperty s.mappings q t v with
  | error e => rfl
  | ok c =>
    rcases Catalog.setProperty_ok hset with ⟨rfl, rfl, rfl⟩ | ⟨j, o, o', hresolve, -, hwith, rfl⟩
    · rfl
    have ho := Catalog.resolve_ok hresolve
    simp only [Served.update, hresolve, register, Catalog.modify, List.getElem?_modify]
    by_cases hj : j = i
    · subst hj
      by_cases hq : q = p
      · subst hq
        simp [ho, Catalog.propertyOf?_withProperty hwith]
      · simp [ho, hq, Catalog.propertyOf?_withProperty_ne hwith (Ne.symm hq)]
    · simp [hj]

theorem register_perform (x : Session × σ) (c : SessionCall σ) (i : Nat) (p : Property) :
    (perform x c).1.register i p = (x.1.written? i p c).or (x.1.register i p) := by
  obtain ⟨s, source⟩ := x
  rcases c with c | buffer | next
  · cases c with
    | setFormat f => exact s.register_setFormat source f i p
    | setProperty q t v => exact s.register_setProperty source q t v i p
    | getProperty | poll | readState =>
      simp only [perform, serve]
      split <;> rfl
    | capabilities | info | listObjects | setCooperation | acquire | unacquire => rfl
  · rfl
  · rfl

/-- A register holds what was last written to it, or what it held before. -/
theorem register_run (x : Session × σ) (calls : List (SessionCall σ)) (i : Nat) (p : Property) :
    (run x calls).1.register i p = (written x i p calls).getLast?.or (x.1.register i p) := by
  induction calls generalizing x with
  | nil => rfl
  | cons c rest ih =>
    have hrun : run x (c :: rest) = run (perform x c) rest := rfl
    -- a value written by the rest, if there is one, comes after the one written here
    rw [hrun, ih, register_perform, written, List.getLast?_append, Option.or_assoc]
    cases x.1.written? i p c <;> rfl

omit [ServedSource σ] [Arithmetic] in
/-- Every object of a layout starts with the same properties. -/
theorem register_ofDevice (index : Nat) (l : Layout) (charset : Charset) (filter : StickFilter) {i : Nat}
    (hi : i < l.objects.length) {p : Property} {start : PropertyValue} (hp : (p, start) ∈ Property.registers) :
    (ofDevice index l charset filter).register i p = some start := by
  have hfresh : ∀ o ∈ l.objects, ∀ x ∈ Property.registers, Catalog.propertyOf? o x.1 = some x.2 := by
    cases l
    decide
  have hobject : (ofDevice index l charset filter).catalog.objects[i]? = some l.objects[i] :=
    List.getElem?_eq_getElem hi
  simp [register, hobject, hfresh _ (List.getElem_mem hi) _ hp]

/-! ## runs -/

/-- Whatever is called on a session of a device, an axis that is found at an address answers for each property the value
last given to it, at any address that was the axis's own at that time, or else the value it starts with. Rounding has no
part in it: the fractions that rendering works with tell the same. -/
theorem getProperty_of_run (ha : a = .exact ∨ a = .binary) (index : Nat) (l : Layout)
    (charset : Charset) (filter : StickFilter) (source : σ) (calls : List (SessionCall σ)) {p : Property}
    {start : PropertyValue} (hp : (p, start) ∈ Property.registers) {t : PropertyAddress} {i : Nat} {o : DeviceObject} :
    let x := (ofDevice index l charset filter, source)
    let s := (run x calls).1
    t.resolve s.catalog s.mappings p = .ok (i, o) → o.kind.isAxis = true →
      s.getProperty p t = .ok ((written x i p calls).getLast?.getD start) ∧
        o.measured? p = some ((written x i p calls).getLast?.getD start) := by
  intro x s hresolve haxis
  have hs : s.Consistent l := (consistent_of_run index l charset filter source calls).1
  have ho := Catalog.resolve_ok hresolve
  have hi : i < l.objects.length := by
    have hlength : s.catalog.objects.length = l.objects.length := by
      simpa using congrArg List.length hs.identities
    exact hlength ▸ (List.getElem?_eq_some_iff.1 ho).1
  have hread : Catalog.propertyOf? o p = some ((written x i p calls).getLast?.getD start) := by
    have hrun : s.register i p = (written x i p calls).getLast?.or (some start) := by
      rw [register_run, register_ofDevice index l charset filter hi hp]
    rw [register, ho] at hrun
    rw [show Catalog.propertyOf? o p = _ from hrun]
    cases (written x i p calls).getLast? <;> rfl
  refine ⟨Catalog.getProperty_of_resolve hresolve hread haxis, ?_⟩
  rw [Catalog.measured?_eq (Arithmetic.reliable_of ha) (hs.graded o (List.mem_of_getElem? ho)), hread]

omit a in
/-- The same offset is one axis first and another later. Each keeps the deadzone it was given there, through a value that
is refused, another property and two more formats, one of them refused as well. -/
theorem getProperty_of_moved_offset :
    letI : Arithmetic := .binary
    let axis (n : UInt16) : UInt32 := TypeBits.axis ||| TypeBits.ofInstance n
    let format (n : UInt16) : BufferFormat := ⟨0, 4, [⟨none, 0, axis n, 0⟩]⟩
    let x : Session × Feed := (ofDevice 0 .standard .ansi .none, Feed.ofCount 1)
    let calls : List (SessionCall Feed) :=
      [.command (.setFormat (format 0)),
       .command (.setProperty .deadzone (.byOffset 0) (.word 2000)),
       .command (.setProperty .deadzone (.byOffset 0) (.word 10001)),
       .command (.setProperty .saturation (.byId (axis 0)) (.word 9999)),
       .command (.setFormat (format 1)),
       .command (.setProperty .deadzone (.byOffset 0) (.word 7)),
       .command (.setFormat ⟨0, 5, []⟩)]
    let s := (run x calls).1
    s.getProperty .deadzone (.byId (axis 0)) = .ok (.word 2000) ∧
      s.getProperty .deadzone (.byOffset 0) = .ok (.word 7) ∧
      s.getProperty .range (.byOffset 0) = .ok (.range 0 65535) := by
  intro axis format x calls s
  let first : DeviceObject :=
    { DeviceObject.ofControl "X Axis" .xAxis .absoluteAxis 0 12 (some (.axis .leftStickX)) with
      deadzone := 2000, saturation := 9999 }
  let second : DeviceObject :=
    { DeviceObject.ofControl "Y Axis" .yAxis .absoluteAxis 1 8 (some (.axis .leftStickY)) with
      deadzone := 7, isMatched := true }
  have hread := @getProperty_of_run Feed _ .binary (.inr rfl) 0 .standard .ansi .none (Feed.ofCount 1) calls
  have hfirst := @hread .deadzone (.word 0) (by decide) (.byId (axis 0)) 0 first (by decide +kernel) rfl
  have hsecond := @hread .deadzone (.word 0) (by decide) (.byOffset 0) 1 second (by decide +kernel) rfl
  have hrange := @hread .range (.range 0 65535) (by decide) (.byOffset 0) 1 second (by decide +kernel) rfl
  exact ⟨hfirst.1.trans (by decide +kernel), hsecond.1.trans (by decide +kernel), hrange.1.trans (by decide +kernel)⟩

/-! ## reading and writing agree -/

/-- Reading and writing a property reach the same verdict on an address. What cannot be read cannot be written, and the
result code is the same for every value; what can be read is written exactly in the values that the property takes, and
any other value is a bad parameter. After any run on a session of a device, what was just read is written back without a
trace. Rounding leaves none either: what was read is what the fraction that rendering works with tells, to the nearest
ten-thousandth, and what is written is that very fraction. -/
theorem setProperty_agrees :
    (∀ (c : Catalog) (mappings : List Mapping) (p : Property) (t : PropertyAddress),
      match c.getProperty mappings p t with
      | .error e => ∀ v, ∃ e', c.setProperty mappings p t v = .error e' ∧ e'.toDeviceError.code = e.toDeviceError.code
      | .ok _ => ∀ v, (p.Takes v → ∃ c', c.setProperty mappings p t v = .ok c') ∧
          (¬ p.Takes v → ∃ e, c.setProperty mappings p t v = .error e ∧ e.toDeviceError.code = .invalidParameter)) ∧
    ∀ (index : Nat) (l : Layout) (charset : Charset) (filter : StickFilter) (source : σ) (calls : List (SessionCall σ)),
      let s := (run (ofDevice index l charset filter, source) calls).1
      ∀ p t v, s.getProperty p t = .ok v → s.setProperty p t v = .ok s ∧
        ∀ i o, t.resolve s.catalog s.mappings p = .ok (i, o) →
          (∀ raw, v = .word raw → o.fraction? p = some (fractionOf raw.toNat)) ∧
          (a = .exact ∨ a = .binary → o.measured? p = some v) := by
  constructor
  · intro c mappings p t
    cases hread : c.getProperty mappings p t with
    | error e =>
      intro v
      exact ⟨_, Catalog.setProperty_of_unread hread v, e.code_onWriting⟩
    | ok w =>
      intro v
      exact ⟨Catalog.setProperty_of_takes hread, Catalog.setProperty_of_not_takes hread⟩
  · intro index l charset filter source calls s p t v hread
    have hs : s.Consistent l := (consistent_of_run index l charset filter source calls).1
    refine ⟨by simp only [setProperty, Catalog.setProperty_of_read hs.graded hread], fun i o hresolve => ?_⟩
    have ho : o.Graded := hs.graded o (List.mem_of_getElem? (Catalog.resolve_ok hresolve))
    have hkept : Catalog.propertyOf? o p = some v := Catalog.propertyOf?_of_read hread hresolve
    refine ⟨fun raw hv => Catalog.fraction?_of_read ho (hv ▸ hkept), fun ha => ?_⟩
    rw [Catalog.measured?_eq (Arithmetic.reliable_of ha) ho, hkept]

omit a in
/-- An inverted range and a deadzone of all there is are read and written back, the deadzone as the fraction one. A
deadzone one larger is refused, and so is calibration data, which a hat does not have to be read either. -/
theorem setProperty_of_inverted_range :
    letI : Arithmetic := .binary
    let any : PropertyAddress := .byId (TypeBits.axis ||| TypeBits.anyInstance)
    let hat : PropertyAddress := .byId TypeBits.pov
    let s := (run (ofDevice 0 .standard .wide .none, Feed.ofCount 1)
      [.command (.setProperty .range any (.range 2147483647 (-2147483648))),
       .command (.setProperty .deadzone any (.word 10000))]).1
    s.getProperty .range any = .ok (.range 2147483647 (-2147483648)) ∧
      s.setProperty .range any (.range 2147483647 (-2147483648)) = .ok s ∧
      s.setProperty .deadzone any (.word 10000) = .ok s ∧
      (∃ o, any.resolve s.catalog s.mappings .deadzone = .ok (0, o) ∧ o.fraction? .deadzone = some .one ∧
        o.measured? .deadzone = some (.word 10000)) ∧
      (∃ e, s.catalog.setProperty s.mappings .deadzone any (.word 10001) = .error e ∧
        e.toDeviceError.code = .invalidParameter) ∧
      ∃ e, s.catalog.setProperty s.mappings .calibration hat (.word 0) = .error e ∧
        e.toDeviceError.code = .unimplemented := by
  intro any hat s
  obtain ⟨hverdict, hback⟩ := @setProperty_agrees Feed _ .binary
  have hrange : s.getProperty .range any = .ok (.range 2147483647 (-2147483648)) := by decide +kernel
  have hdeadzone : s.catalog.getProperty s.mappings .deadzone any = .ok (.word 10000) := by decide +kernel
  have hcalibration : s.catalog.getProperty s.mappings .calibration hat = .error (.unreadable .calibration) := by
    decide +kernel
  have hlarger := hverdict s.catalog s.mappings .deadzone any
  have hmissing := hverdict s.catalog s.mappings .calibration hat
  rw [hdeadzone] at hlarger
  rw [hcalibration] at hmissing
  let o : DeviceObject :=
    { DeviceObject.ofControl "X Axis" .xAxis .absoluteAxis 0 12 (some (.axis .leftStickX)) with
      rangeMin := 2147483647, rangeMax := -2147483648, deadzone := 10000 }
  have hresolve : any.resolve s.catalog s.mappings .deadzone = .ok (0, o) := by decide +kernel
  obtain ⟨hsame, hfractions⟩ := hback _ _ _ _ _ _ _ _ _ hdeadzone
  obtain ⟨hfraction, hmeasured⟩ := hfractions 0 o hresolve
  have hone : @fractionOf .binary (10000 : UInt32).toNat = .one := by decide +kernel
  refine ⟨hrange, (hback _ _ _ _ _ _ _ _ _ hrange).1, hsame, ⟨o, hresolve, ?_, hmeasured (.inr rfl)⟩, ?_,
    hmissing (.word 0)⟩
  · exact (hfraction 10000 rfl).trans (congrArg some hone)
  · exact (hlarger (.word 10001)).2 (Nat.not_le.2 (by decide))

end Session
end GamepadPool
