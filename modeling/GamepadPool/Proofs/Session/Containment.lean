import GamepadPool.Proofs.Format.Axis
import GamepadPool.Proofs.Session.Consistency
import GamepadPool.Proofs.Session.Reading
/-! # Axes stay within their ranges
A client's snapshot is taken over as it is, so its axis values may be anything. What is written for an axis
nevertheless lies within the range set for it, because no property a session accepts lets the response leave
`[0, 1]`. -/

namespace GamepadPool

/-! ## filters -/

namespace Snapshot

/-- No axis holds what is not a number. -/
def IsNumeric (s : Snapshot) : Prop := ∀ a, (s.axis a).isNaN = false

variable {s : Snapshot}

/-- An axis set to anything is set to a number. -/
theorem IsNumeric.setAxis (h : s.IsNumeric) (a : Axis) (x : Number) : (s.setAxis a x).IsNumeric := by
  intro b
  rw [axis_setAxis]
  split
  · split
    · cases a <;> rfl
    · rename_i hx
      unfold Number.clamp
      split
      · rfl
      · split
        · rfl
        · exact Bool.not_eq_true _ ▸ hx
  · exact h b

/-- No filter makes a value that is not a number. -/
theorem IsNumeric.apply [Arithmetic] (h : s.IsNumeric) (f : StickFilter) : (f.apply s).IsNumeric := by
  have hcentred : ∀ b : Bool, (if b then StickFilter.centreStick s else s).IsNumeric := by
    intro b
    cases b
    · exact h
    · exact (h.setAxis _ _).setAxis _ _
  unfold StickFilter.apply
  dsimp only
  split
  · exact ((hcentred _).setAxis _ _).setAxis _ _
  · exact hcentred _

end Snapshot

/-! ## sessions -/

namespace Session

/-- What is written for an axis lies between the ends of its range. -/
def Contains [Arithmetic] (s : Session) (inputs : Snapshot) (m : Mapping) : Prop :=
  ∃ o, s.catalog.objects[m.object]? = some o ∧ (o.kind.isAxis = true → ∃ w : Int32,
    m.write s.catalog.objects inputs = (m.offset.toNat, wordBytes w.toUInt32) ∧
      min o.rangeMin.toInt o.rangeMax.toInt ≤ w.toInt ∧ w.toInt ≤ max o.rangeMin.toInt o.rangeMax.toInt)

theorem contains_of_consistent [a : Arithmetic] (ha : a.Reliable) {l : Layout} {s : Session} (hs : s.Consistent l)
    (hready : s.Ready) {inputs : Snapshot} (hin : inputs.IsNumeric) {n : Agreement} (hn : s.format = some n)
    {m : Mapping} (hm : m ∈ n.mappings) : s.Contains inputs m := by
  obtain ⟨o, ho, -⟩ := (hready.fits n hn).mapped m hm
  have hmem := List.mem_of_getElem? ho
  refine ⟨o, ho, fun haxis => ?_⟩
  obtain ⟨x, -, hbytes⟩ := DeviceObject.objectBytes_of_isAxis (hready.built.readsOwnKind o hmem) haxis
  have hgraded := (DeviceObject.graded_iff.1 (hs.graded o hmem)).2
  refine ⟨axisWord o (inputs.axis x), ?_, axisWord_between ha hgraded (hin x)⟩
  simp [Mapping.write, ho, hbytes]

variable {σ : Type} [ServedSource σ]

/-- After any run of calls on a session, whatever its filter, every snapshot of numbers, infinities and what lies
outside `[0, 1]` included, is rendered by writing for each axis in use a word between the ends of its range. -/
theorem axes_of_run [a : Arithmetic] (ha : a = .exact ∨ a = .binary) (index : Nat) (l : Layout) (charset : Charset)
    (filter : StickFilter) (source : σ) (calls : List (SessionCall σ)) {inputs : Snapshot} (hin : inputs.IsNumeric) :
    let s := (run (ofDevice index l charset filter, source) calls).1
    ∀ n, s.format = some n →
      (∀ buffer : List UInt8, buffer.length = n.dataSize.toNat → s.renderInto inputs buffer =
        .ok (writeAll (List.replicate buffer.length 0) (n.writes s.catalog.objects (s.filter.apply inputs)))) ∧
      ∀ m ∈ n.mappings, s.Contains (s.filter.apply inputs) m := by
  intro s n hn
  have hready : s.Ready := run_keeps (fun _ _ _ h hc => h.change hc) ⟨Catalog.built_ofLayout l, by simp [ofDevice]⟩ calls
  have hs : s.Consistent l :=
    run_keeps (fun _ _ _ h hc => h.change hc) (consistent_ofDevice index l charset filter) calls
  constructor
  · intro buffer hsize
    have hrender := ((hready.fits n hn).render_eq hready.built.readsOwnKind (s.filter.apply inputs) hsize).1
    simp [renderInto, agreementFor, hn, hsize, hrender]
  · exact fun m hm => contains_of_consistent (Arithmetic.reliable_of ha) hs hready (hin.apply s.filter) hn hm

/-- On an inverted range, with the first two axes infinite and the others beyond both ends. -/
theorem axes_of_inverted_range :
    letI : Arithmetic := .binary
    let inputs : Snapshot :=
      { Snapshot.neutral with axes := #v[.infinite false, .infinite true, .rat 2, .rat (-1), .negZero, .rat 7] }
    let s := (run (ofDevice 0 .standard .ansi .none, Feed.ofCount 1)
      [.command (.setFormat .joystick), .command (.setProperty .range (.byOffset 0) (.range 100 (-100)))]).1
    inputs.IsNumeric ∧ ∃ n, s.format = some n ∧ ⟨0, 0⟩ ∈ n.mappings ∧
      (s.catalog.objects[0]?.map fun o => (o.kind.isAxis, o.rangeMin.toInt, o.rangeMax.toInt)) = some (true, 100, -100) ∧
      s.Contains (s.filter.apply inputs) ⟨0, 0⟩ := by
  intro inputs s
  have hin : inputs.IsNumeric := fun a => by cases a <;> rfl
  have hfirst : (s.format.map (·.mappings.contains (⟨0, 0⟩ : Mapping))) = some true := by decide +kernel
  obtain ⟨n, hn, hm⟩ := Option.map_eq_some_iff.1 hfirst
  rw [List.contains_iff_mem] at hm
  refine ⟨hin, n, hn, hm, by decide +kernel, ?_⟩
  exact (@axes_of_run Feed _ .binary (.inr rfl) 0 .standard .ansi .none (Feed.ofCount 1) _ _ hin n hn).2 _ hm

end Session
end GamepadPool
