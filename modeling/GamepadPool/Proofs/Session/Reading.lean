import GamepadPool.Proofs.Format.Rendering
import GamepadPool.Proofs.Session.Calls
/-! # Reading the state of a session
Whatever was set and refused before, the format in effect fits the catalog beside it. So a buffer of the agreed
size is always filled, and rendering never has a reason to fail. -/

namespace GamepadPool
namespace Session

/-- The catalog has objects the builder makes, and the format in effect fits them. -/
structure Ready (s : Session) : Prop where
  built : s.catalog.Built
  fits : ∀ n, s.format = some n → n.Fits s.catalog.objects

theorem Ready.change {s s' : Session} {n? : Option Agreement} (h : s.Ready) (hc : Change s n? s') : s'.Ready := by
  obtain ⟨hbuilt, hfits⟩ := h
  cases hc with
  | stay => exact ⟨hbuilt, hfits⟩
  | acquired b => exact ⟨hbuilt, hfits⟩
  | agreed hneg =>
    refine ⟨hbuilt.of_identities (Catalog.identities_negotiate hneg), ?_⟩
    intro n hn
    cases hn
    exact Catalog.fits_negotiate hneg
  | property hset =>
    have hids := Catalog.identities_setProperty hset
    exact ⟨hbuilt.of_identities hids, fun n hn => (hfits n hn).of_identities hids.symm⟩

variable {σ : Type} [ServedSource σ] [Arithmetic]

/-- A bad parameter: the buffer keeps its bytes, and nothing was rendered. -/
def Refuses (s : Session) (source : σ) (buffer : List UInt8) : Prop :=
  ∃ e detail, s.fill source buffer = (.error e, buffer) ∧ e.toDeviceError = .invalidParameter detail
    ∧ ∀ r, e ≠ .render r

/-- Of the size agreed on, a buffer is filled; of any other size, or with nothing agreed on, it is refused. -/
def FillsAgreedSize (s : Session) (source : σ) (buffer : List UInt8) : Prop :=
  (∀ n, s.format = some n → buffer.length = n.dataSize.toNat →
    ∃ bytes, s.fill source buffer = (.ok (), bytes) ∧ bytes.length = buffer.length)
  ∧ ((∀ n, s.format = some n → buffer.length ≠ n.dataSize.toNat) → s.Refuses source buffer)

theorem Ready.fillsAgreedSize {s : Session} (h : s.Ready) (source : σ) (buffer : List UInt8) :
    s.FillsAgreedSize source buffer := by
  constructor
  · intro n hn hsize
    obtain ⟨bytes, hbytes, hlen⟩ := (h.fits n hn).render h.built.readsOwnKind
      (s.filter.apply (SnapshotSource.snapshot source s.index)) hsize
    refine ⟨bytes, ?_, hlen⟩
    simp [fill, renderInto, agreementFor, hn, hsize, hbytes]
  · intro hother
    cases hn : s.format with
    | none =>
      refine ⟨.noFormat, _, ?_, rfl, by simp⟩
      simp [fill, renderInto, agreementFor, hn]
    | some n =>
      have hne : buffer.length ≠ n.dataSize.toNat := hother n hn
      refine ⟨.wrongSize buffer.length n.dataSize, _, ?_, rfl, by simp⟩
      simp [fill, renderInto, agreementFor, hn, hne]

/-- Every accepted format fits the catalog and is rendered in full, for every snapshot. After any run of calls a
session fills buffers of the agreed size, and refuses all others. -/
theorem fill_of_run :
    (∀ (c c' : Catalog) (f : BufferFormat) (n : Agreement), c.Built → c.negotiate f = .ok (n, c') →
      n.dataSize = f.dataSize ∧ n.Fits c'.objects
        ∧ ∀ (inputs : Snapshot) (buffer : List UInt8), buffer.length = f.dataSize.toNat →
          ∃ bytes, render c' n.mappings n.fixups inputs buffer = .ok bytes ∧ bytes.length = buffer.length)
    ∧ ∀ (s : Session) (source : σ) (calls : List (SessionCall σ)), s.catalog.Built → s.format = none →
      ∀ (later : σ) (buffer : List UInt8), (run (s, source) calls).1.FillsAgreedSize later buffer := by
  constructor
  · intro c c' f n hbuilt hneg
    have hfits := Catalog.fits_negotiate hneg
    have hsize := Catalog.dataSize_negotiate hneg
    have hread := (hbuilt.of_identities (Catalog.identities_negotiate hneg)).readsOwnKind
    refine ⟨hsize, hfits, fun inputs buffer hlen => ?_⟩
    rw [← hsize] at hlen
    exact hfits.render hread inputs hlen
  · intro s source calls hbuilt hnone later buffer
    have hstart : s.Ready := ⟨hbuilt, by simp [hnone]⟩
    have hready : (run (s, source) calls).1.Ready :=
      run_keeps (fun _ _ _ h hc => h.change hc) hstart calls
    exact hready.fillsAgreedSize later buffer

omit [Arithmetic] in
/-- On the standard layout the joystick format maps 21 objects, and three hats get a constant. -/
theorem fill_of_joystick :
    letI : Arithmetic := .binary
    ∃ n c', (Catalog.ofLayout .standard).negotiate .joystick = .ok (n, c')
      ∧ n.mappings.length = 21 ∧ n.fixups.length = 3 ∧ n.dataSize = 80 ∧ n.Fits c'.objects
      ∧ (run (ofDevice 0 .standard .ansi .none, Feed.ofCount 1)
          [.command (.setFormat .joystick)]).1.FillsAgreedSize (Feed.ofCount 1) (List.replicate 80 0) := by
  obtain ⟨hfits, hfill⟩ := @fill_of_run Feed _ .binary
  have hbuilt := Catalog.built_ofLayout .standard
  have hcounts : ((Catalog.ofLayout .standard).negotiate .joystick).toOption.map
      (fun x => (x.1.mappings.length, x.1.fixups.length)) = some (21, 3) := by decide +kernel
  rcases hneg : (Catalog.ofLayout .standard).negotiate .joystick with e | ⟨n, c'⟩
  · rw [hneg] at hcounts
    cases hcounts
  · rw [hneg] at hcounts
    obtain ⟨hmaps, hfixes⟩ := Prod.mk.inj (Option.some.inj hcounts)
    obtain ⟨hsize, hfit, -⟩ := hfits _ _ _ _ hbuilt hneg
    exact ⟨n, c', rfl, hmaps, hfixes, hsize, hfit, hfill _ _ _ hbuilt rfl _ _⟩

end Session
end GamepadPool
