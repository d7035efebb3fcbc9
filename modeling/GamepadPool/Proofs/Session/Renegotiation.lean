import GamepadPool.Proofs.Session.Consistency
/-! # Setting a format again
A session that has had formats and properties before agrees to a format exactly as a fresh one does. The marks of
earlier formats are gone without a trace, and what was set of the objects' properties stays. -/

namespace GamepadPool

/-- The object with its mark taken off: what it is, and its properties. -/
def DeviceObject.unmarked (o : DeviceObject) : DeviceObject := { o with isMatched := false }

namespace Catalog

/-- The marks depend on the number of objects alone. -/
theorem marks_mark (c : Catalog) (taken : List Nat) :
    (c.mark taken).objects.map (·.isMatched) = (List.range c.objects.length).map taken.contains := by
  apply List.ext_getElem?
  intro i
  simp only [mark, List.getElem?_map, List.getElem?_mapIdx, Option.map_map]
  by_cases hi : i < c.objects.length
  · rw [List.getElem?_eq_getElem hi, List.getElem?_range hi]
    rfl
  · rw [List.getElem?_eq_none (Nat.le_of_not_lt hi), List.getElem?_eq_none (by simpa using hi)]
    rfl

end Catalog

namespace Session

variable {σ : Type} [ServedSource σ] [Arithmetic]

/-- Whatever was called on a session before, a format is refused for the reason for which a fresh session refuses it,
or accepted with the agreement and the marks that it makes there. But for its mark, every object then is what it was
before the call. -/
theorem setFormat_forgets (index : Nat) (l : Layout) (charset : Charset) (filter : StickFilter) (source : σ)
    (calls : List (SessionCall σ)) (f : BufferFormat) :
    let fresh := ofDevice index l charset filter
    let s := (run (fresh, source) calls).1
    match fresh.setFormat f with
    | .error e => s.setFormat f = .error e
    | .ok fresh' =>
      ∃ s' n, s.setFormat f = .ok s' ∧ fresh'.format = some n ∧ s'.format = some n ∧
        s'.catalog.objects.map (·.isMatched) = fresh'.catalog.objects.map (·.isMatched) ∧
        s'.catalog.objects.map (·.unmarked) = s.catalog.objects.map (·.unmarked) := by
  intro fresh s
  have hconsistent : s.Consistent l :=
    run_keeps (fun _ _ _ h hc => h.change hc) (consistent_ofDevice index l charset filter) calls
  have hids : s.catalog.objects.map (·.identity) = fresh.catalog.objects.map (·.identity) := hconsistent.identities
  have hlength : s.catalog.objects.length = fresh.catalog.objects.length := by
    simpa using congrArg List.length hids
  simp only [setFormat, Catalog.negotiate_congr hids f]
  cases hfresh : fresh.catalog.negotiate f with
  | error e => rfl
  | ok nc =>
    obtain ⟨n, c⟩ := nc
    obtain ⟨-, -, rfl⟩ := Catalog.negotiate_cases hfresh
    refine ⟨_, n, rfl, rfl, rfl, ?_, Catalog.map_mark (fun _ _ => rfl) ..⟩
    dsimp only
    rw [Catalog.marks_mark, Catalog.marks_mark, hlength]

end Session
end GamepadPool
