import GamepadPool.Proofs.Pad.Claims
/-! # Pads that answer the same when they are used again
A view of a backend is steady if its use changes nothing of the view and every answer is settled by it. Of the pads
without hardware, all that hands have set is steady: claims and counted openings decide no answer. -/

namespace GamepadPool

/-- The step answers from the view alone, and leaves the view as it was. -/
structure Steady {α β γ : Type} (view : β → γ) (step : β → α × β) : Prop where
  keeps (b : β) : view (step b).2 = view b
  answers {b c : β} (h : view b = view c) : (step b).1 = (step c).1

/-- From two states that look the same, the step goes the same way. -/
theorem Steady.both {α β γ : Type} {view : β → γ} {step : β → α × β} (hstep : Steady view step) {b c : β}
    (h : view b = view c) : ∃ a b' c', step b = (a, b') ∧ step c = (a, c') ∧ view b' = view c' := by
  refine ⟨(step b).1, (step b).2, (step c).2, rfl, ?_, ?_⟩
  · rw [hstep.answers h]
  · rw [hstep.keeps, hstep.keeps, h]

/-- Every call on the backend is steady. -/
structure PadBackend.IsSteady {β γ η : Type} [PadBackend β η] (view : β → γ) : Prop where
  enumerate : Steady view fun b : β => PadBackend.enumerate b
  openPad (id : PadId) : Steady view fun b : β => PadBackend.openPad b id
  objectCounts (h : η) : Steady view fun b : β => PadBackend.objectCounts b h
  capture (h : η) : Steady view fun b : β => PadBackend.capture b h
  claim (h : η) : Steady view fun b : β => PadBackend.claim b h
  poll (h : η) : Steady view fun b : β => PadBackend.poll b h
  read (h : η) : Steady view fun b : β => PadBackend.read b h
  release (h : η) : Steady view fun b : β => PadBackend.release b h
  discard (b : β) (h : η) : view (PadBackend.discard b h) = view b

section
variable {β γ η : Type} [PadBackend β η] {view : β → γ}

variable (view) in
/-- What no call in an opening changes stays, wherever the opening breaks off. -/
theorem prepare_keeps {b : β} {info : PadInfo} (hopen : view (PadBackend.openPad b info.id).2 = view b)
    (huse : ∀ h, (PadBackend.openPad b info.id).1 = .ok h → ∀ c : β,
      view (PadBackend.objectCounts c h).2 = view c ∧ view (PadBackend.capture c h).2 = view c ∧
        view (PadBackend.claim c h).2 = view c ∧ view (PadBackend.discard c h) = view c) :
    view (prepare b info).2 = view b := by
  unfold prepare giveUp
  generalize PadBackend.openPad b info.id = opened at hopen huse ⊢
  obtain ⟨_ | h, b₁⟩ := opened
  · exact hopen
  have hcounted := (huse h rfl b₁).1.trans hopen
  dsimp only
  generalize PadBackend.objectCounts b₁ h = counted at hcounted ⊢
  obtain ⟨_ | counts, b₂⟩ := counted
  · exact (huse h rfl b₂).2.2.2.trans hcounted
  dsimp only
  cases Profile.classify counts with
  | none => exact (huse h rfl b₂).2.2.2.trans hcounted
  | some profile =>
    have hcaptured := (huse h rfl b₂).2.1.trans hcounted
    dsimp only
    generalize PadBackend.capture b₂ h = captured at hcaptured ⊢
    obtain ⟨_ | _, b₃⟩ := captured
    · exact (huse h rfl b₃).2.2.2.trans hcaptured
    have hclaimed := (huse h rfl b₃).2.2.1.trans hcaptured
    dsimp only
    generalize PadBackend.claim b₃ h = claimed at hclaimed ⊢
    obtain ⟨_ | _, b₄⟩ := claimed
    · exact (huse h rfl b₄).2.2.2.trans hclaimed
    · exact hclaimed

theorem prepare_steady (hv : PadBackend.IsSteady view) (info : PadInfo) :
    Steady view fun b => prepare b info where
  keeps b := prepare_keeps view ((hv.openPad info.id).keeps b) fun h _ c =>
    ⟨(hv.objectCounts h).keeps c, (hv.capture h).keeps c, (hv.claim h).keeps c, hv.discard c h⟩
  answers {b c} hview := by
    obtain ⟨a, b, c, hb, hc, hview⟩ := (hv.openPad info.id).both hview
    simp only [prepare, giveUp, hb, hc]
    cases a with
    | error e => rfl
    | ok h =>
      obtain ⟨a, b, c, hb, hc, hview⟩ := (hv.objectCounts h).both hview
      simp only [hb, hc]
      cases a with
      | error e => rfl
      | ok counts =>
        dsimp only
        cases Profile.classify counts with
        | none => rfl
        | some profile =>
          obtain ⟨a, b, c, hb, hc, hview⟩ := (hv.capture h).both hview
          simp only [hb, hc]
          cases a with
          | error e => rfl
          | ok _ =>
            obtain ⟨a, b, c, hb, hc, -⟩ := (hv.claim h).both hview
            simp only [hb, hc]
            cases a <;> rfl

theorem readPad_steady (hv : PadBackend.IsSteady view) (pad : OpenPad η) :
    Steady view fun b => readPad b pad where
  keeps b := by
    have hpolled := (hv.poll pad.handle).keeps b
    unfold readPad
    generalize PadBackend.poll b pad.handle = polled at hpolled ⊢
    obtain ⟨_ | _, b₁⟩ := polled
    · exact hpolled
    · exact ((hv.read pad.handle).keeps b₁).trans hpolled
  answers {b c} hview := by
    obtain ⟨a, b, c, hb, hc, hview⟩ := (hv.poll pad.handle).both hview
    simp only [readPad, hb, hc]
    cases a with
    | error e => rfl
    | ok _ => exact (hv.read pad.handle).answers hview

theorem view_releasePad (hv : PadBackend.IsSteady view) (b : β) (pad : OpenPad η) :
    view (releasePad b pad) = view b :=
  (hv.discard _ _).trans ((hv.release pad.handle).keeps b)

end

/-! ## what hands have set -/

/-- The pad as if nobody had used it. -/
def ScriptedPad.unused (p : ScriptedPad) : ScriptedPad := { p with isClaimed := false, opens := 0 }

namespace ScriptedPads

/-- All that hands have set. -/
def unused (s : ScriptedPads) : ScriptedPads := ⟨s.pads.map fun p => (p.1, p.2.unused)⟩

theorem find?_unused (s : ScriptedPads) (id : PadId) : s.unused.find? id = (s.find? id).map ScriptedPad.unused := by
  obtain ⟨pads⟩ := s
  induction pads with
  | nil => rfl
  | cons p rest ih =>
    obtain ⟨key, pad⟩ := p
    rw [find?_cons]
    refine (find?_cons key pad.unused _ id).trans ?_
    split
    · rfl
    · exact ih

theorem reach_unused (s : ScriptedPads) (id : PadId) (op : PadOperation) :
    s.unused.reach id op = (s.reach id op).map ScriptedPad.unused := by
  unfold reach
  rw [find?_unused]
  cases s.find? id with
  | none => rfl
  | some p =>
    simp only [Option.map_some, ScriptedPad.unused]
    split
    · rfl
    split <;> rfl

/-- A change that leaves alone what hands have set. -/
theorem unused_modify {f : ScriptedPad → ScriptedPad} (hf : ∀ p, (f p).unused = p.unused) (s : ScriptedPads)
    (id : PadId) : (s.modify id f).unused = s.unused := by
  simp only [unused, modify, List.map_map]
  congr 2
  funext p
  simp only [Function.comp]
  split <;> simp [hf]

/-- Operations answer from what hands have set. -/
theorem perform_steady {α : Type} (id : PadId) (op : PadOperation) {answer : ScriptedPad → α}
    {change : ScriptedPad → ScriptedPad} (hanswer : ∀ p, answer p.unused = answer p)
    (hchange : ∀ p, (change p).unused = p.unused) : Steady unused fun s => s.perform id op answer change := by
  have hsettled : ∀ s : ScriptedPads, (s.perform id op answer change).1 = (s.unused.reach id op).map answer := by
    intro s
    rw [reach_unused, perform]
    cases s.reach id op with
    | ok p => exact congrArg _ (hanswer p).symm
    | error e => rfl
  refine ⟨fun s => ?_, fun h => ?_⟩
  · rcases perform_cases s id op answer change with ⟨p, -, h⟩ | ⟨e, -, h⟩ <;> rw [h]
    exact unused_modify hchange s id
  · rw [hsettled, hsettled, h]

theorem attached_unused (s : ScriptedPads) : s.unused.attached = s.attached := by
  simp only [attached, unused, List.filter_map, List.map_map]
  rfl

theorem isSteady : PadBackend.IsSteady unused where
  enumerate := ⟨fun _ => rfl, fun {s t} h => by
    have hattached : s.attached = t.attached := by rw [← attached_unused, h, attached_unused]
    exact congrArg Except.ok hattached⟩
  openPad id := perform_steady id .openPad (fun _ => rfl) fun _ => rfl
  objectCounts id := perform_steady id .objectCounts (fun _ => rfl) fun _ => rfl
  capture id := perform_steady id .capture (fun _ => rfl) fun _ => rfl
  claim id := perform_steady id .claim (fun _ => rfl) fun _ => rfl
  poll id := perform_steady id .poll (fun _ => rfl) fun _ => rfl
  read id := perform_steady id .read (fun _ => rfl) fun _ => rfl
  release id := perform_steady id .release (fun _ => rfl) fun _ => rfl
  discard _ _ := rfl

/-! ## reading and releasing -/

theorem modify_self (s : ScriptedPads) (id : PadId) : s.modify id (fun p => p) = s := by
  simp [modify]

/-- Reading a pad leaves no trace. -/
theorem backend_readPad (s : ScriptedPads) (pad : OpenPad PadId) : (readPad s pad).2 = s := by
  have hself : ∀ {α : Type} (op : PadOperation) (answer : ScriptedPad → α),
      (s.perform pad.handle op answer fun p => p).2 = s := by
    intro α op answer
    rcases perform_cases s pad.handle op answer fun p => p with ⟨p, -, h⟩ | ⟨e, -, h⟩ <;> rw [h]
    exact modify_self s pad.handle
  have hpolled := hself .poll fun _ => ()
  have hread : (PadBackend.read s pad.handle).2 = s := hself .read (·.raw)
  unfold readPad
  rcases hpoll : PadBackend.poll s pad.handle with ⟨_ | _, s₁⟩ <;>
    obtain rfl : s₁ = s := (congrArg Prod.snd hpoll).symm.trans hpolled
  · rfl
  · exact hread

theorem modify_comm (s : ScriptedPads) (id other : PadId) (f : ScriptedPad → ScriptedPad) :
    (s.modify id f).modify other f = (s.modify other f).modify id f := by
  simp only [modify, List.map_map]
  congr 2
  funext p
  simp only [Function.comp]
  grind

/-- Releases give claims back in any order. -/
theorem releasePad_comm (s : ScriptedPads) (pad other : OpenPad PadId) :
    releasePad (releasePad s pad) other = releasePad (releasePad s other) pad := by
  have hrelease : ∀ (s : ScriptedPads) (pad : OpenPad PadId), releasePad s pad =
      if (s.unused.reach pad.handle .release).isOk then s.modify pad.handle ({ · with isClaimed := false }) else s := by
    intro s pad
    have hperform : releasePad s pad =
        (s.perform pad.handle .release (fun _ => ()) ({ · with isClaimed := false })).2 := rfl
    rw [hperform, perform, reach_unused]
    cases s.reach pad.handle .release <;> rfl
  have hkept := view_releasePad isSteady
  rw [hrelease (releasePad s pad), hrelease (releasePad s other), hkept, hkept, hrelease s, hrelease s]
  split <;> split <;> first | rfl | exact modify_comm ..

/-! ## what one pad's use leaves alone -/

theorem find?_perform {α : Type} (s : ScriptedPads) {id other : PadId} (hne : other ≠ id) (op : PadOperation)
    (answer : ScriptedPad → α) (change : ScriptedPad → ScriptedPad) :
    (s.perform id op answer change).2.find? other = s.find? other := by
  rcases perform_cases s id op answer change with ⟨p, -, h⟩ | ⟨e, -, h⟩ <;> rw [h]
  rw [find?_modify, if_neg hne]

/-- Opening a pad leaves every other pad as it was. -/
theorem find?_prepare (s : ScriptedPads) (info : PadInfo) {other : PadId} (hne : other ≠ info.id) :
    (prepare s info).2.find? other = s.find? other := by
  refine prepare_keeps (find? · other) (find?_perform s hne _ _ _) fun h hopen c => ?_
  obtain rfl : h = info.id := handle_of_openPad (Prod.ext hopen rfl)
  exact ⟨find?_perform c hne _ _ _, find?_perform c hne _ _ _, find?_perform c hne _ _ _, rfl⟩

end ScriptedPads
end GamepadPool
