import GamepadPool.Pad.InputDirectory
import GamepadPool.Proofs.Entries
/-! # Handles in the input directory
A handle keeps what was learnt when it was opened, whatever happens to the directory afterwards: nodes are told apart
by their serials, a node keeps its keys and the ranges of its axes, and only a capture changes the ranges that a handle
keeps. -/

namespace GamepadPool

/-! ## nodes -/

namespace EventNode

/-- What a node says of itself: its keys, and its axes with their ranges. -/
def description (n : EventNode) : Option (List Nat) × List (Nat × Int32 × Int32) :=
  (n.keys, n.axes.map fun a => (a.code, a.min, a.max))

/-- The same node, at two times. -/
structure Alike (n m : EventNode) : Prop where
  serial : m.serial = n.serial
  description : m.description = n.description

theorem Alike.refl (n : EventNode) : Alike n n := ⟨rfl, rfl⟩

theorem alike_move (n : EventNode) (values : List (Nat × Int32)) : n.Alike (n.move values) := by
  refine ⟨rfl, ?_⟩
  unfold description move
  rw [List.map_map]
  refine congrArg _ (List.map_congr_left fun a _ => ?_)
  dsimp only [Function.comp]
  split <;> rfl

theorem isEmpty_of_description {n m : EventNode} (h : m.description = n.description) :
    m.axes.isEmpty = n.axes.isEmpty := by
  have hempty : ∀ k : EventNode, k.axes.isEmpty = k.description.2.isEmpty := fun k => by simp [description]
  rw [hempty, hempty, h]

theorem rangeOf_of_description {n m : EventNode} (h : m.description = n.description) :
    InputDirectory.rangeOf m.axes = InputDirectory.rangeOf n.axes := by
  have hrange : ∀ (k : EventNode) (code : Nat),
      InputDirectory.rangeOf k.axes code = (k.description.2.find? (·.1 == code)).map (·.2) := fun k code => by
    simp [InputDirectory.rangeOf, description, List.find?_map, Function.comp_def]
  funext code
  rw [hrange, hrange, h]

end EventNode

/-- The ranges of the axes that a node has. -/
def EventNode.ranges (n : EventNode) : Vector (Option (Int32 × Int32)) 6 :=
  EventCode.slotRanges n.hasAxis (InputDirectory.rangeOf n.axes)

/-- A handle that was just opened. -/
def NodeHandle.fresh (path : PadId) (name : String) (n : EventNode) : NodeHandle :=
  ⟨path, name, n, Vector.replicate 6 none, EventCode.slotKeys (n.keys.getD []), false⟩

namespace InputDirectory

/-! ## steps -/

/-- What happens to the directory: by hand, or through a handle. -/
inductive Event where
  | plug (name : String) (title : Option String) (keys : Option (List Nat)) (axes : List NodeAxis)
  | unplug (name : String)
  | press (name : String) (keys : List Nat)
  | move (name : String) (values : List (Nat × Int32))
  | breakNode (name : String) (f : NodeFault)
  | mend (name : String) (f : NodeFault)
  | openPad (path : PadId)
  | objectCounts (h : Nat)
  | capture (h : Nat)
  | claim (h : Nat)
  | poll (h : Nat)
  | read (h : Nat)
  | release (h : Nat)
  | discard (h : Nat)

def Event.apply (d : InputDirectory) : Event → InputDirectory
  | plug name title keys axes => d.plug name title keys axes
  | unplug name => d.unplug name
  | press name keys => d.press name keys
  | move name values => d.move name values
  | breakNode name f => d.breakNode name f
  | mend name f => d.mend name f
  | openPad path => (PadBackend.openPad d path).2
  | objectCounts h => (PadBackend.objectCounts d h).2
  | capture h => (PadBackend.capture d h).2
  | claim h => (PadBackend.claim d h).2
  | poll h => (PadBackend.poll d h).2
  | read h => (PadBackend.read d h).2
  | release h => (PadBackend.release d h).2
  | discard h => PadBackend.discard d h

def after (d : InputDirectory) (events : List Event) : InputDirectory := events.foldl Event.apply d

/-- Every node was there before. -/
def AlikeNodes (old new : List (String × EventNode)) : Prop := ∀ p ∈ new, ∃ q ∈ old, q.2.Alike p.2

/-- All that an event can do. -/
inductive Step (d : InputDirectory) : InputDirectory → Prop
  | nodes {nodes : List (String × EventNode)} (hnodes : AlikeNodes d.nodes nodes) : Step d { d with nodes := nodes }
  | plug (name : String) (title : Option String) (keys : Option (List Nat)) (axes : List NodeAxis) :
    Step d (d.plug name title keys axes)
  | opens {x : NodeHandle} (hx : (x.name, x.node) ∈ d.nodes) :
    Step d { d with handles := (d.nextHandle, x) :: d.handles, nextHandle := d.nextHandle + 1 }
  | captures {h : Nat} {x : NodeHandle} {axes : List NodeAxis} (hx : d.handle? h = some x)
    (haxes : d.readAxes x = .ok axes) :
    Step d (d.setHandle h { x with ranges := EventCode.slotRanges x.node.hasAxis (rangeOf axes) })
  | grabs {nodes : List (String × EventNode)} (hnodes : AlikeNodes d.nodes nodes) {h : Nat} {x : NodeHandle}
    (hx : d.handle? h = some x) (isGrabbed : Bool) :
    Step d ({ d with nodes := nodes }.setHandle h { x with isGrabbed := isGrabbed })
  | closes {nodes : List (String × EventNode)} (hnodes : AlikeNodes d.nodes nodes) (h : Nat) :
    Step d { d with nodes := nodes, handles := d.handles.filter (·.1 != h) }

variable {d d' : InputDirectory}

theorem AlikeNodes.refl (nodes : List (String × EventNode)) : AlikeNodes nodes nodes :=
  fun p hp => ⟨p, hp, .refl p.2⟩

theorem Step.refl (d : InputDirectory) : Step d d := .nodes (.refl d.nodes)

theorem alikeNodes_modify (d : InputDirectory) (name : String) {f : EventNode → EventNode}
    (hf : ∀ n : EventNode, n.Alike (f n)) :
    AlikeNodes d.nodes (d.modify name f).nodes := by
  intro p hp
  obtain ⟨q, hq, rfl⟩ := List.mem_map.1 hp
  refine ⟨q, hq, ?_⟩
  split
  · exact hf q.2
  · exact .refl q.2

theorem step_modify (d : InputDirectory) (name : String) {f : EventNode → EventNode}
    (hf : ∀ n : EventNode, n.Alike (f n)) :
    Step d (d.modify name f) := .nodes (alikeNodes_modify d name hf)

theorem mem_of_find? {path : PadId} {name : String} {n : EventNode} (h : d.find? path = some (name, n)) :
    (name, n) ∈ d.nodes := by
  unfold find? at h
  split at h
  · cases h
  · unfold nodeAt? at h
    split at h
    · obtain ⟨m, hm, heq⟩ := Option.map_eq_some_iff.1 h
      cases heq
      exact List.mem_of_lookup hm
    · cases h

theorem openPath_cases (d : InputDirectory) (path : PadId) :
    (∃ e, d.openPath path = (.error e, d)) ∨
      ∃ name n, d.find? path = some (name, n) ∧ d.openPath path =
        (.ok d.nextHandle, { d with
          handles := (d.nextHandle, .fresh path name n) :: d.handles
          nextHandle := d.nextHandle + 1 }) := by
  unfold openPath
  cases hfind : d.find? path with
  | none => exact .inl ⟨_, rfl⟩
  | some found =>
    obtain ⟨name, n⟩ := found
    dsimp only
    cases n.openError? with
    | some e => exact .inl ⟨_, rfl⟩
    | none => exact .inr ⟨name, n, rfl, rfl⟩

theorem step_withHandle {α : Type} (h : Nat) {f : NodeHandle → Except PadError α × InputDirectory}
    (hf : ∀ x, d.handle? h = some x → Step d (f x).2) : Step d (d.withHandle h f).2 := by
  unfold withHandle
  cases hx : d.handle? h with
  | none => exact .refl d
  | some x => exact hf x hx

theorem step_apply (d : InputDirectory) (e : Event) : Step d (e.apply d) := by
  cases e with
  | plug name title keys axes => exact .plug name title keys axes
  | unplug name => exact .nodes fun p hp => ⟨p, (List.mem_filter.1 hp).1, .refl p.2⟩
  | press name keys =>
    exact step_modify (f := ({ · with pressed := keys })) d name fun n => ⟨rfl, rfl⟩
  | move name values => exact step_modify d name fun n => n.alike_move values
  | breakNode name f =>
    exact step_modify (f := fun n => { n with broken := f :: n.broken }) d name fun n => ⟨rfl, rfl⟩
  | mend name f =>
    exact step_modify (f := fun n => { n with broken := n.broken.filter (· != f) }) d name fun n => ⟨rfl, rfl⟩
  | openPad path =>
    change Step d (d.openPath path).2
    rcases d.openPath_cases path with ⟨e, hopen⟩ | ⟨name, n, hfind, hopen⟩ <;> rw [hopen]
    · exact .refl d
    · exact .opens (mem_of_find? hfind)
  | objectCounts h => exact step_withHandle h fun x hx => .refl d
  | capture h =>
    refine step_withHandle h fun x hx => ?_
    unfold captureHandle
    cases haxes : d.readAxes x with
    | error e => exact .refl d
    | ok axes => exact .captures hx haxes
  | claim h =>
    refine step_withHandle h fun x hx => ?_
    unfold claimHandle
    split
    · exact .refl d
    split
    · exact .refl d
    split
    · exact .refl d
    · exact .grabs (alikeNodes_modify (f := ({ · with grabbedBy := some h })) d x.name fun n => ⟨rfl, rfl⟩) hx true
  | poll h =>
    refine step_withHandle h fun x hx => ?_
    unfold pollHandle
    split <;> exact .refl d
  | read h =>
    refine step_withHandle h fun x hx => ?_
    unfold readHandle
    split
    · exact .refl d
    · split <;> exact .refl d
  | release h =>
    refine step_withHandle h fun x hx => ?_
    unfold releaseHandle
    split
    · exact .refl d
    split
    · exact .refl d
    split
    · exact .refl d
    · exact .grabs (alikeNodes_modify (f := ({ · with grabbedBy := none })) d x.name fun n => ⟨rfl, rfl⟩) hx false
  | discard h =>
    refine .closes (fun p hp => ?_) h
    obtain ⟨q, hq, rfl⟩ := List.mem_map.1 hp
    refine ⟨q, hq, ?_⟩
    dsimp only
    split
    · exact ⟨rfl, rfl⟩
    · exact .refl q.2

/-! ## what is known of nodes -/

/-- The nodes in the directory, and those that handles were opened on. -/
def known (d : InputDirectory) : List EventNode := d.nodes.map (·.2) ++ d.handles.map (·.2.node)

/-- Nodes with the same serial are the same node. -/
structure Consistent (d : InputDirectory) : Prop where
  serials : ∀ n ∈ d.known, n.serial < d.nextSerial
  descriptions : ∀ n ∈ d.known, ∀ m ∈ d.known, n.serial = m.serial → n.description = m.description

theorem consistent_empty : empty.Consistent where
  serials := List.forall_mem_nil _
  descriptions := List.forall_mem_nil _

theorem mem_known {n : EventNode} : n ∈ d.known ↔ (∃ p ∈ d.nodes, p.2 = n) ∨ ∃ p ∈ d.handles, p.2.node = n := by
  simp only [known, List.mem_append, List.mem_map]

theorem mem_handles_of_handle? {h : Nat} {x : NodeHandle} (hx : d.handle? h = some x) : (h, x) ∈ d.handles :=
  List.mem_of_lookup hx

theorem Consistent.of_known (hd : d.Consistent) (hserial : d'.nextSerial = d.nextSerial)
    (hknown : ∀ n ∈ d'.known, ∃ m ∈ d.known, m.Alike n) : d'.Consistent where
  serials n hn := by
    obtain ⟨m, hm, hsame⟩ := hknown n hn
    rw [hserial, hsame.serial]
    exact hd.serials m hm
  descriptions n hn n' hn' heq := by
    obtain ⟨m, hm, hsame⟩ := hknown n hn
    obtain ⟨m', hm', hsame'⟩ := hknown n' hn'
    rw [hsame.description, hsame'.description]
    exact hd.descriptions m hm m' hm' (hsame.serial.symm.trans (heq.trans hsame'.serial))

theorem known_of_nodes (hnodes : AlikeNodes d.nodes d'.nodes)
    (hhandles : ∀ p ∈ d'.handles, p.2.node ∈ d.known) : ∀ n ∈ d'.known, ∃ m ∈ d.known, m.Alike n := by
  intro n hn
  rcases mem_known.1 hn with ⟨p, hp, rfl⟩ | ⟨p, hp, rfl⟩
  · obtain ⟨q, hq, hsame⟩ := hnodes p hp
    exact ⟨q.2, mem_known.2 (.inl ⟨q, hq, rfl⟩), hsame⟩
  · exact ⟨p.2.node, hhandles p hp, .refl _⟩

theorem node_mem_known {p : Nat × NodeHandle} (hp : p ∈ d.handles) : p.2.node ∈ d.known :=
  mem_known.2 (.inr ⟨p, hp, rfl⟩)

theorem node_mem_known_setHandle {h : Nat} {x y : NodeHandle} (hx : d.handle? h = some x) (hy : y.node = x.node) :
    ∀ p ∈ (d.setHandle h y).handles, p.2.node ∈ d.known := by
  intro p hp
  obtain ⟨q, hq, rfl⟩ := List.mem_map.1 hp
  split
  · rw [hy]
    exact node_mem_known (mem_handles_of_handle? hx)
  · exact node_mem_known hq

theorem mem_insert {name : String} {node : EventNode} {nodes : List (String × EventNode)} {p : String × EventNode}
    (h : p ∈ insert name node nodes) : p = (name, node) ∨ p ∈ nodes := by
  induction nodes with
  | nil => exact .inl (List.mem_singleton.1 h)
  | cons q rest ih =>
    unfold insert at h
    split at h
    · exact List.mem_cons.1 h
    split at h
    · exact (List.mem_cons.1 h).imp_right (List.mem_cons_of_mem q)
    · rcases List.mem_cons.1 h with rfl | h
      · exact .inr List.mem_cons_self
      · exact (ih h).imp_right (List.mem_cons_of_mem q)

/-- A new node has a serial of its own. -/
theorem Consistent.plug (hd : d.Consistent) (name : String) (title : Option String) (keys : Option (List Nat))
    (axes : List NodeAxis) : (d.plug name title keys axes).Consistent := by
  have hknown : ∀ n ∈ (d.plug name title keys axes).known,
      n = ⟨d.nextSerial, title, keys, axes, [], [], none⟩ ∨ n ∈ d.known := by
    intro n hn
    rcases mem_known.1 hn with ⟨p, hp, rfl⟩ | ⟨p, hp, rfl⟩
    · rcases mem_insert hp with rfl | hp
      · exact .inl rfl
      · exact .inr (mem_known.2 (.inl ⟨p, hp, rfl⟩))
    · exact .inr (node_mem_known hp)
  constructor
  · intro n hn
    rcases hknown n hn with rfl | hn
    · exact Nat.lt_succ_self _
    · exact Nat.lt_succ_of_lt (hd.serials n hn)
  · intro n hn m hm heq
    rcases hknown n hn with rfl | hn <;> rcases hknown m hm with rfl | hm
    · rfl
    · exact absurd heq (Nat.ne_of_gt (hd.serials m hm))
    · exact absurd heq (Nat.ne_of_lt (hd.serials n hn))
    · exact hd.descriptions n hn m hm heq

theorem Consistent.step (hd : d.Consistent) (hstep : Step d d') : d'.Consistent := by
  cases hstep with
  | nodes hnodes => exact hd.of_known rfl (known_of_nodes hnodes fun p hp => node_mem_known hp)
  | plug name title keys axes => exact hd.plug name title keys axes
  | opens hx =>
    refine hd.of_known rfl (known_of_nodes (.refl _) ?_)
    exact List.forall_mem_cons.2 ⟨mem_known.2 (.inl ⟨_, hx, rfl⟩), fun p => node_mem_known⟩
  | captures hx haxes => exact hd.of_known rfl (known_of_nodes (.refl _) (node_mem_known_setHandle hx rfl))
  | grabs hnodes hx isGrabbed => exact hd.of_known rfl (known_of_nodes hnodes (node_mem_known_setHandle hx rfl))
  | closes hnodes h =>
    exact hd.of_known rfl (known_of_nodes hnodes fun p hp => node_mem_known (List.mem_filter.1 hp).1)

/-! ## what a handle keeps -/

/-- The node that a handle finds is the one it was opened on. -/
theorem Consistent.alike_of_live? (hd : d.Consistent) {h : Nat} {x : NodeHandle} (hx : d.handle? h = some x)
    {m : EventNode} (hm : d.live? x = some m) : d.nodes.lookup x.name = some m ∧ x.node.Alike m := by
  obtain ⟨hlookup, hserial⟩ := Option.filter_eq_some_iff.1 hm
  have hsame : m.serial = x.node.serial := by simpa using hserial
  have hmem : m ∈ d.known := mem_known.2 (.inl ⟨(x.name, m), List.mem_of_lookup hlookup, rfl⟩)
  exact ⟨hlookup, hsame, hd.descriptions m hmem x.node (node_mem_known (mem_handles_of_handle? hx)) hsame⟩

/-- Axes are those of the live node, unless the node never had any. -/
theorem readAxes_eq_ok {x : NodeHandle} {axes : List NodeAxis} (haxes : d.readAxes x = .ok axes) :
    (x.node.axes.isEmpty ∧ axes = []) ∨ ∃ m, d.live? x = some m ∧ axes = m.axes := by
  unfold readAxes at haxes
  split at haxes
  · rename_i hempty
    cases haxes
    exact .inl ⟨hempty, rfl⟩
  · cases hm : d.live? x with
    | none => simp [hm] at haxes
    | some m =>
      simp only [hm] at haxes
      split at haxes <;> cases haxes
      exact .inr ⟨m, rfl, rfl⟩

theorem readKeys_eq_ok {x : NodeHandle} {down : List Nat} (hdown : d.readKeys x = .ok down) :
    ∃ m, d.live? x = some m ∧ down = m.pressed := by
  unfold readKeys at hdown
  cases hm : d.live? x with
  | none => simp [hm] at hdown
  | some m =>
    simp only [hm] at hdown
    split at hdown <;> cases hdown
    exact ⟨m, rfl, rfl⟩

/-- The axes that are read have the ranges that the node had when it was opened. -/
theorem Consistent.rangeOf_of_readAxes (hd : d.Consistent) {h : Nat} {x : NodeHandle} (hx : d.handle? h = some x)
    {axes : List NodeAxis} (haxes : d.readAxes x = .ok axes) : rangeOf axes = rangeOf x.node.axes := by
  rcases readAxes_eq_ok haxes with ⟨hempty, rfl⟩ | ⟨m, hm, rfl⟩
  · rw [List.isEmpty_iff.1 hempty]
  · exact EventNode.rangeOf_of_description (hd.alike_of_live? hx hm).2.description

theorem readHandle_eq_ok {x : NodeHandle} {raw : RawState} (hread : d.readHandle x = (.ok raw, d')) :
    ∃ axes down, d.readAxes x = .ok axes ∧ d.readKeys x = .ok down ∧ raw = rawState x axes down := by
  unfold readHandle at hread
  split at hread
  · cases hread
  split at hread
  · cases hread
  · rename_i axes haxes _ down hdown
    cases hread
    exact ⟨axes, down, haxes, hdown, rfl⟩

/-- What is read is the state of the node that the handle was opened on. -/
theorem Consistent.raw_eq (hd : d.Consistent) {h : Nat} {x : NodeHandle} (hx : d.handle? h = some x)
    {raw : RawState} (hread : d.readHandle x = (.ok raw, d')) :
    ∃ m, d.nodes.lookup x.name = some m ∧ x.node.Alike m ∧ raw = rawState x m.axes m.pressed := by
  obtain ⟨axes, down, haxes, hdown, hraw⟩ := readHandle_eq_ok hread
  obtain ⟨m, hm, hpressed⟩ := readKeys_eq_ok hdown
  obtain ⟨hlookup, halike⟩ := hd.alike_of_live? hx hm
  have hvalues : axes = m.axes := by
    rcases readAxes_eq_ok haxes with ⟨hempty, rfl⟩ | ⟨m', hm', hvalues⟩
    · -- a node that had no axes has none now
      rw [← EventNode.isEmpty_of_description halike.description, List.isEmpty_iff] at hempty
      exact hempty.symm
    · rw [hm] at hm'
      rw [hvalues, Option.some.inj hm']
  exact ⟨m, hlookup, halike, by rw [hraw, hpressed, hvalues]⟩

/-- The same handle, at two times. -/
structure Kept (x y : NodeHandle) : Prop where
  name : y.name = x.name
  node : y.node = x.node
  buttons : y.buttons = x.buttons
  /-- Nothing was captured, or what the node had from the start. -/
  ranges : y.ranges = x.ranges ∨ y.ranges = x.node.ranges

theorem Kept.refl (x : NodeHandle) : Kept x x := ⟨rfl, rfl, rfl, .inl rfl⟩

theorem Kept.trans {x y z : NodeHandle} (hxy : Kept x y) (hyz : Kept y z) : Kept x z where
  name := hyz.name.trans hxy.name
  node := hyz.node.trans hxy.node
  buttons := hyz.buttons.trans hxy.buttons
  ranges := by
    rcases hyz.ranges with h | h
    · exact hxy.ranges.imp h.trans h.trans
    · exact .inr (h.trans (congrArg EventNode.ranges hxy.node))

theorem handle?_setHandle (d : InputDirectory) (h : Nat) (y : NodeHandle) (k : Nat) :
    (d.setHandle h y).handle? k = if k = h then (d.handle? h).map fun _ => y else d.handle? k :=
  List.lookup_replace ..

theorem handle?_of_closed {h k : Nat} {y : NodeHandle} (hy : (d.handles.filter (·.1 != h)).lookup k = some y) :
    d.handle? k = some y := by
  by_cases hkey : k = h
  · rw [hkey, List.lookup_filter_self] at hy
    cases hy
  · rwa [List.lookup_filter_ne hkey] at hy

/-- What is found under a handle after an event was there before, unless the handle is new. -/
theorem Step.kept (hd : d.Consistent) (hstep : Step d d') {k : Nat} (hk : k < d.nextHandle) {y : NodeHandle}
    (hy : d'.handle? k = some y) : ∃ x, d.handle? k = some x ∧ Kept x y := by
  cases hstep with
  | nodes | plug => exact ⟨y, hy, .refl y⟩
  | opens hx =>
    rw [handle?, List.lookup_cons, beq_false_of_ne (Nat.ne_of_lt hk)] at hy
    exact ⟨y, hy, .refl y⟩
  | captures hx haxes =>
    rw [handle?_setHandle] at hy
    split at hy
    · rename_i hkey
      subst hkey
      rw [hx] at hy
      cases hy
      refine ⟨_, hx, rfl, rfl, rfl, .inr ?_⟩
      rw [hd.rangeOf_of_readAxes hx haxes]
      rfl
    · exact ⟨y, hy, .refl y⟩
  | grabs hnodes hx isGrabbed =>
    rw [handle?_setHandle] at hy
    split at hy
    · rename_i hkey
      subst hkey
      obtain ⟨x, hx', rfl⟩ := Option.map_eq_some_iff.1 hy
      obtain rfl := Option.some.inj (hx.symm.trans hx')
      exact ⟨_, hx, rfl, rfl, rfl, .inl rfl⟩
    · exact ⟨y, hy, .refl y⟩
  | closes hnodes h => exact ⟨y, handle?_of_closed hy, .refl y⟩

theorem Step.nextHandle_le (hstep : Step d d') : d.nextHandle ≤ d'.nextHandle := by
  cases hstep with
  | opens => exact Nat.le_succ _
  | _ => exact Nat.le_refl _

/-! ## runs -/

theorem Consistent.after (hd : d.Consistent) (events : List Event) : (d.after events).Consistent := by
  induction events generalizing d with
  | nil => exact hd
  | cons e events ih => exact ih (hd.step (d.step_apply e))

theorem kept_after (hd : d.Consistent) (events : List Event) {k : Nat} (hk : k < d.nextHandle) {y : NodeHandle}
    (hy : (d.after events).handle? k = some y) : ∃ x, d.handle? k = some x ∧ Kept x y := by
  induction events generalizing d with
  | nil => exact ⟨y, hy, .refl y⟩
  | cons e events ih =>
    have hstep := d.step_apply e
    obtain ⟨x', hx', hlater⟩ := ih (hd.step hstep) (Nat.lt_of_lt_of_le hk hstep.nextHandle_le) hy
    obtain ⟨x, hx, hfirst⟩ := hstep.kept hd hk hx'
    exact ⟨x, hx, hfirst.trans hlater⟩

theorem nextHandle_le_after (d : InputDirectory) (events : List Event) :
    d.nextHandle ≤ (d.after events).nextHandle := by
  induction events generalizing d with
  | nil => exact Nat.le_refl _
  | cons e events ih => exact Nat.le_trans (d.step_apply e).nextHandle_le (ih (e.apply d))

theorem withHandle_eq_ok {α : Type} {h : Nat} {f : NodeHandle → Except PadError α × InputDirectory} {v : α}
    (hf : d.withHandle h f = (.ok v, d')) : ∃ x, d.handle? h = some x ∧ f x = (.ok v, d') := by
  unfold withHandle at hf
  cases hx : d.handle? h with
  | none => simp [hx] at hf
  | some x =>
    rw [hx] at hf
    exact ⟨x, rfl, hf⟩

/-- A handle that captured its node keeps the ranges of that node. -/
theorem Consistent.captured (hd : d.Consistent) {h : Nat} (hcapture : PadBackend.capture d h = (.ok (), d')) :
    ∃ x y, d.handle? h = some x ∧ d'.handle? h = some y ∧ Kept x y ∧ y.ranges = y.node.ranges := by
  obtain ⟨x, hx, hcaptured⟩ := withHandle_eq_ok hcapture
  unfold captureHandle at hcaptured
  cases haxes : d.readAxes x with
  | error e => simp [haxes] at hcaptured
  | ok axes =>
    simp only [haxes] at hcaptured
    cases hcaptured
    have hranges : EventCode.slotRanges x.node.hasAxis (rangeOf axes) = x.node.ranges := by
      rw [hd.rangeOf_of_readAxes hx haxes]
      rfl
    refine ⟨x, { x with ranges := EventCode.slotRanges x.node.hasAxis (rangeOf axes) }, hx, ?_,
      ⟨rfl, rfl, rfl, .inr hranges⟩, hranges⟩
    rw [handle?_setHandle, if_pos rfl, hx]
    rfl

/-- A handle is opened on the node that is found, and is new. -/
theorem openPath_eq_ok {path : PadId} {h : Nat} (hopen : d.openPath path = (.ok h, d')) :
    ∃ name n, d.find? path = some (name, n) ∧ d'.handle? h = some (.fresh path name n) ∧ h < d'.nextHandle := by
  rcases d.openPath_cases path with ⟨e, herror⟩ | ⟨name, n, hfind, hok⟩
  · rw [herror] at hopen
    cases hopen
  · rw [hok] at hopen
    cases hopen
    exact ⟨name, n, hfind, List.lookup_cons_self, Nat.lt_succ_self _⟩

/-- What a captured handle reads is the state of the node it was opened on, by the keys and the ranges that the node had
then. -/
theorem raw_of_read (before between later : List Event) {path : PadId} {h : Nat} {opened captured read : InputDirectory}
    {raw : RawState} (hopen : PadBackend.openPad (empty.after before) path = (.ok h, opened))
    (hcapture : PadBackend.capture (opened.after between) h = (.ok (), captured))
    (hread : PadBackend.read (captured.after later) h = (.ok raw, read)) :
    ∃ name n m, (empty.after before).find? path = some (name, n) ∧ (captured.after later).nodes.lookup name = some m ∧
      n.Alike m ∧ ∃ y : NodeHandle, y.node = n ∧ y.ranges = n.ranges ∧
        y.buttons = EventCode.slotKeys (n.keys.getD []) ∧ raw = rawState y m.axes m.pressed := by
  have hbefore := consistent_empty.after before
  have hopenStep : Step (empty.after before) opened := by
    simpa only [Event.apply, hopen] using (empty.after before).step_apply (.openPad path)
  have hcaptureStep : Step (opened.after between) captured := by
    simpa only [Event.apply, hcapture] using (opened.after between).step_apply (.capture h)
  have hopened := hbefore.step hopenStep
  have hbetween := hopened.after between
  have hcaptured := hbetween.step hcaptureStep
  -- the handle is known from the opening on, so whatever is found under it later is that handle
  obtain ⟨name, n, hfind, hfresh, hnew⟩ := openPath_eq_ok hopen
  obtain ⟨x, y, hx, hy, hxy, hranges⟩ := hbetween.captured hcapture
  obtain ⟨x₀, hx₀, hkeptx⟩ := kept_after hopened between hnew hx
  obtain rfl := Option.some.inj (hfresh.symm.trans hx₀)
  have hold : h < captured.nextHandle :=
    Nat.lt_of_lt_of_le hnew (Nat.le_trans (opened.nextHandle_le_after between) hcaptureStep.nextHandle_le)
  obtain ⟨z, hz, hzread⟩ := withHandle_eq_ok hread
  obtain ⟨y', hy', hyz⟩ := kept_after hcaptured later hold hz
  obtain rfl := Option.some.inj (hy.symm.trans hy')
  obtain ⟨m, hlookup, halike, hraw⟩ := (hcaptured.after later).raw_eq hz hzread
  have hkept := (hkeptx.trans hxy).trans hyz
  have hnode : z.node = n := hkept.node
  have hname : z.name = name := hkept.name
  rw [hname] at hlookup
  rw [hnode] at halike
  refine ⟨name, n, m, hfind, hlookup, halike, z, hnode, ?_, hkept.buttons, hraw⟩
  rcases hyz.ranges with h | h
  · rw [h, hranges, ← hyz.node, hnode]
  · rw [h, ← hyz.node, hnode]

end InputDirectory
end GamepadPool
