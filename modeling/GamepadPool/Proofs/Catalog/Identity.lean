import GamepadPool.Proofs.Catalog.Additions
import GamepadPool.StateBuffer
/-! # What an object is, apart from its properties
Ranges, deadzones, saturations and matched flags come and go; all else about an object is its identity. Whether an
object may serve a request, and how many bytes it fills, depends on the identity alone. -/

namespace GamepadPool

/-- What never changes about an object. -/
structure ObjectIdentity where
  name : String
  usage : Usage
  kind : ObjectKind
  number : UInt16
  flags : UInt32
  nativeOffset : UInt32
  control : Option Control
deriving DecidableEq

namespace DeviceObject

def identity (o : DeviceObject) : ObjectIdentity :=
  ⟨o.name, o.usage, o.kind, o.number, o.flags, o.nativeOffset, o.control⟩

/-- An axis reads an axis, a button a button, a hat the hat, and a collection nothing. -/
def ReadsOwnKind (o : DeviceObject) : Prop :=
  match o.kind with
  | .absoluteAxis | .relativeAxis => ∃ a, o.control = some (.axis a)
  | .pushButton | .toggleButton => ∃ b, o.control = some (.button b)
  | .pov => o.control = some .hat
  | .collection => o.control = none

variable {o o' : DeviceObject}

theorem kind_of_identity (h : o.identity = o'.identity) : o.kind = o'.kind := congrArg ObjectIdentity.kind h

theorem control_of_identity (h : o.identity = o'.identity) : o.control = o'.control :=
  congrArg ObjectIdentity.control h

theorem readsOwnKind_of_identity (h : o.identity = o'.identity) (ho : o.ReadsOwnKind) : o'.ReadsOwnKind := by
  unfold ReadsOwnKind at ho ⊢
  rwa [← kind_of_identity h, ← control_of_identity h]

/-- An object fills as many bytes as its kind is wide. -/
theorem length_objectBytes [Arithmetic] (ho : o.ReadsOwnKind) (s : Snapshot) :
    (objectBytes o s).length = o.kind.width := by
  unfold ReadsOwnKind at ho
  unfold objectBytes
  cases hk : o.kind <;> rw [hk] at ho
  case absoluteAxis | relativeAxis | pushButton | toggleButton =>
    obtain ⟨a, ha⟩ := ho
    rw [ha]
    rfl
  case pov | collection =>
    rw [ho]
    rfl

/-- An axis writes the word of the axis it reads. -/
theorem objectBytes_of_isAxis (ho : o.ReadsOwnKind) (hk : o.kind.isAxis = true) :
    ∃ x, o.control = some (.axis x) ∧
      ∀ [Arithmetic] (s : Snapshot), objectBytes o s = wordBytes (axisWord o (s.axis x)).toUInt32 := by
  unfold ReadsOwnKind at ho
  cases hkind : o.kind <;> rw [hkind] at ho hk
  case absoluteAxis | relativeAxis =>
    obtain ⟨x, hx⟩ := ho
    refine ⟨x, hx, fun s => ?_⟩
    rw [objectBytes, hkind, hx]
  case pushButton | toggleButton | pov | collection => cases hk

end DeviceObject

/-! ## what the builder makes -/

namespace CatalogDraft

theorem readsOwnKind_toObject {s : BuildStep} {a : Addition} (h : a ∈ s.additions) (number : UInt16) :
    (a.toObject number).ReadsOwnKind := by
  cases s with
  | axis name usage number offset axis =>
    obtain rfl := List.mem_singleton.1 h
    exact ⟨axis, rfl⟩
  | button offset button =>
    obtain rfl := List.mem_singleton.1 h
    exact ⟨button, rfl⟩
  | buttons first buttons =>
    obtain ⟨i, hi, rfl⟩ := List.mem_mapIdx.1 h
    exact ⟨buttons[i], rfl⟩
  | hat | collection =>
    obtain rfl := List.mem_singleton.1 h
    rfl

theorem readsOwnKind_of_build {steps : List BuildStep} {objects : List DeviceObject}
    (h : build steps = .ok objects) : ∀ o ∈ objects, o.ReadsOwnKind := by
  obtain rfl := objects_of_build h
  intro o ho
  obtain ⟨i, hi, rfl⟩ := List.mem_mapIdx.1 ho
  obtain ⟨s, -, hadd⟩ := List.mem_flatMap.1 (List.getElem_mem hi)
  exact readsOwnKind_toObject hadd _

end CatalogDraft

namespace Catalog

/-- The builder makes such objects, whatever became of their properties and matched flags. -/
def Built (c : Catalog) : Prop :=
  ∃ steps objects, CatalogDraft.build steps = .ok objects ∧ c.objects.map (·.identity) = objects.map (·.identity)

theorem Built.readsOwnKind {c : Catalog} (h : c.Built) : ∀ o ∈ c.objects, o.ReadsOwnKind := by
  obtain ⟨steps, objects, hbuild, hids⟩ := h
  intro o ho
  have hmem : o.identity ∈ objects.map (·.identity) := hids ▸ List.mem_map_of_mem ho
  obtain ⟨o', ho', hid⟩ := List.mem_map.1 hmem
  exact DeviceObject.readsOwnKind_of_identity hid (CatalogDraft.readsOwnKind_of_build hbuild o' ho')

/-- Catalogs of the same identities are both built, or neither is. -/
theorem Built.of_identities {c c' : Catalog} (h : c.Built)
    (hids : c'.objects.map (·.identity) = c.objects.map (·.identity)) : c'.Built := by
  obtain ⟨steps, objects, hbuild, hc⟩ := h
  exact ⟨steps, objects, hbuild, hids.trans hc⟩

theorem built_ofLayout (l : Layout) : (ofLayout l).Built := by
  cases l
  exact ⟨Layout.standard.steps, Layout.standard.objects, by decide, rfl⟩

end Catalog
end GamepadPool
