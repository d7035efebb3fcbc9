import GamepadPool.Proofs.Format.Negotiation
import GamepadPool.Proofs.Session.Calls
/-! # What a session and its catalog agree on
Marks live in the catalog, mappings in the format, and properties are set through mappings. After every run the
marks tell exactly what the format in effect maps, and nothing but properties and marks has changed. -/

namespace GamepadPool

/-! ## marking -/

namespace Catalog

variable {c : Catalog} {taken : List Nat} {o : DeviceObject}

theorem mem_mark {i : Nat} (h : (c.mark taken).objects[i]? = some o) :
    ∃ o', c.objects[i]? = some o' ∧ o = { o' with isMatched := taken.contains i } := by
  simp only [mark, List.getElem?_mapIdx, Option.map_eq_some_iff] at h
  obtain ⟨o', ho', rfl⟩ := h
  exact ⟨o', ho', rfl⟩

theorem graded_mark (h : ∀ o ∈ c.objects, o.Graded) : ∀ o ∈ (c.mark taken).objects, o.Graded := by
  intro o ho
  obtain ⟨i, hi⟩ := List.mem_iff_getElem?.1 ho
  obtain ⟨o', ho', rfl⟩ := mem_mark hi
  exact h o' (List.mem_of_getElem? ho')

end Catalog

/-- What a format agrees on with the objects of a layout. -/
def Layout.agreement? (l : Layout) (f : BufferFormat) : Option Agreement :=
  (((Catalog.ofLayout l).negotiate f).map (·.1)).toOption

/-! ## runs -/

namespace Session

/-- What every call keeps of a session on a device of a layout. -/
structure Consistent (l : Layout) (s : Session) : Prop where
  /-- Marked is exactly what the format in effect maps. -/
  matched : ∀ i o, s.catalog.objects[i]? = some o → (o.isMatched = true ↔ i ∈ s.mappings.map (·.object))
  distinct : (s.mappings.map (·.object)).Nodup
  graded : ∀ o ∈ s.catalog.objects, o.Graded
  identities : s.catalog.objects.map (·.identity) = l.objects.map (·.identity)

variable {l : Layout} {s s' : Session} {n? : Option Agreement}

theorem Consistent.agreed (h : s.Consistent l) {f : BufferFormat} {n : Agreement} {c : Catalog}
    (hneg : s.catalog.negotiate f = .ok (n, c)) : Consistent l { s with catalog := c, format := some n } := by
  have hids := Catalog.identities_negotiate hneg
  have hnodup := Catalog.nodup_negotiate hneg
  obtain ⟨-, -, rfl⟩ := Catalog.negotiate_cases hneg
  refine ⟨fun i o ho => ?_, hnodup, Catalog.graded_mark h.graded, hids.trans h.identities⟩
  obtain ⟨o', -, rfl⟩ := Catalog.mem_mark ho
  exact List.contains_iff_mem

theorem Consistent.property (h : s.Consistent l) {p : Property} {t : PropertyAddress} {v : PropertyValue}
    {c : Catalog} (hset : s.catalog.setProperty s.mappings p t v = .ok c) :
    Consistent l { s with catalog := c } := by
  have hids := Catalog.identities_setProperty hset
  have hmarks := Catalog.isMatched_setProperty hset
  refine ⟨fun i o ho => ?_, h.distinct, Catalog.graded_setProperty hset h.graded, hids.trans h.identities⟩
  -- the object in its place before is marked like it
  have hmark : (s.catalog.objects.map (·.isMatched))[i]? = some o.isMatched := by
    rw [← hmarks, List.getElem?_map, ho]
    rfl
  rw [List.getElem?_map, Option.map_eq_some_iff] at hmark
  obtain ⟨o', ho', heq⟩ := hmark
  rw [← heq]
  exact h.matched i o' ho'

theorem Consistent.change (h : s.Consistent l) (hc : Change s n? s') : s'.Consistent l := by
  cases hc with
  | stay => exact h
  | acquired b => exact ⟨h.matched, h.distinct, h.graded, h.identities⟩
  | agreed hneg => exact h.agreed hneg
  | property hset => exact h.property hset

theorem consistent_ofDevice (index : Nat) (l : Layout) (charset : Charset) (filter : StickFilter) :
    (ofDevice index l charset filter).Consistent l := by
  have hfresh : ∀ o ∈ l.objects, o.isMatched = false ∧ o.deadzone ≤ fullScale ∧ o.saturation ≤ fullScale := by
    cases l
    decide
  refine ⟨fun i o ho => ?_, List.nodup_nil, fun o ho => ?_, rfl⟩
  · have hfree := (hfresh o (List.mem_of_getElem? ho)).1
    simp [mappings, ofDevice, hfree]
  · exact DeviceObject.graded_iff.2 (hfresh o ho).2

theorem Change.identities (h : Change s n? s') :
    s'.catalog.objects.map (·.identity) = s.catalog.objects.map (·.identity) := by
  cases h with
  | stay => rfl
  | acquired b => rfl
  | agreed hneg => exact Catalog.identities_negotiate hneg
  | property hset => exact Catalog.identities_setProperty hset

variable {σ : Type} [ServedSource σ] [Arithmetic]

/-- No call makes another object of an object. -/
theorem identities_run (x : Session × σ) (calls : List (SessionCall σ)) :
    (run x calls).1.catalog.objects.map (·.identity) = x.1.catalog.objects.map (·.identity) :=
  run_keeps (P := fun s => s.catalog.objects.map (·.identity) = x.1.catalog.objects.map (·.identity))
    (fun _ _ _ h hc => hc.identities.trans h) rfl calls

/-- Whatever is called on a session of a device, and whether or not it succeeds, the session stays consistent; the
format in effect is the last one accepted, and there is none before the first. -/
theorem consistent_of_run (index : Nat) (l : Layout) (charset : Charset) (filter : StickFilter) (source : σ)
    (calls : List (SessionCall σ)) :
    (run (ofDevice index l charset filter, source) calls).1.Consistent l
      ∧ (run (ofDevice index l charset filter, source) calls).1.format
        = (agreements (ofDevice index l charset filter, source) calls).getLast? := by
  constructor
  · exact run_keeps (fun _ _ _ h hc => h.change hc) (consistent_ofDevice index l charset filter) calls
  · rw [format_run]
    exact Option.or_none

omit [ServedSource σ] [Arithmetic] in
/-- Sessions on devices of one layout agree on the same for the same format. -/
theorem agreement?_of_consistent (h : s.Consistent l) (c : SessionCall σ) :
    s.agreement? c = (s.accepted? c).bind l.agreement? := by
  rcases c with c | buffer | next
  · cases c with
    | setFormat f =>
      have hagree : s.catalog.objects.map (·.identity) = (Catalog.ofLayout l).objects.map (·.identity) := h.identities
      have hlayout : l.agreement? f = ((s.catalog.negotiate f).map (·.1)).toOption := by
        rw [Layout.agreement?, Catalog.agreement_congr hagree f]
      simp only [agreement?, accepted?]
      cases hneg : s.catalog.negotiate f with
      | error e => rfl
      | ok nc =>
        rw [hneg] at hlayout
        exact hlayout.symm
    | _ => rfl
  · rfl
  · rfl

theorem agreements_of_consistent {x : Session × σ} (h : x.1.Consistent l) (calls : List (SessionCall σ)) :
    agreements x calls = (formats x calls).filterMap l.agreement? := by
  induction calls generalizing x with
  | nil => rfl
  | cons c rest ih =>
    rw [agreements, formats, List.filterMap_append, ih (h.change (perform_change x c)), agreement?_of_consistent h c]
    rcases x.1.accepted? c with _ | f
    · rfl
    · cases hf : l.agreement? f <;> simp [hf]

/-- The last format accepted is in effect, as a fresh session would have agreed on it. -/
theorem format_of_formats (index : Nat) (charset : Charset) (filter : StickFilter) (source : σ)
    {calls : List (SessionCall σ)} {f : BufferFormat} {n : Agreement} (hagree : l.agreement? f = some n)
    (hlast : (formats (ofDevice index l charset filter, source) calls).getLast? = some f) :
    (run (ofDevice index l charset filter, source) calls).1.format = some n := by
  obtain ⟨before, hformats⟩ := List.getLast?_eq_some_iff.1 hlast
  have hagreements := agreements_of_consistent (x := (ofDevice index l charset filter, source))
    (consistent_ofDevice index l charset filter) calls
  rw [format_run, hagreements, hformats, List.filterMap_append]
  simp [hagree]

end Session
end GamepadPool
