import GamepadPool.Server
import GamepadPool.Proofs.Catalog.Properties
/-! # Runs of calls on a session
A run is any sequence of calls on one session, whether they succeed or fail, while its source of inputs goes on as
it likes. Four things can happen to a session; what all four keep, every run keeps. -/

namespace GamepadPool

/-- A call on a session, or a turn of its source. -/
inductive SessionCall (σ : Type) where
  | command (c : SessionCommand)
  /-- Reads the state into a buffer of the caller's. -/
  | fill (buffer : List UInt8)
  /-- Other sessions poll, clients submit, pads come and go. -/
  | source (next : σ)

/-- Only a virtual device below the count can be opened, and its session is a new one. -/
theorem Interface.create_ok {i : Interface} {count : Nat} {id : DeviceId} {s : Session}
    (h : i.create count id = .ok s) :
    ∃ index, id = .virtual index ∧ index.toNat < count ∧ s = .ofDevice index.toNat i.layout i.charset i.filter := by
  cases id with
  | keyboard | mouse => cases h
  | virtual index =>
    simp only [Interface.create] at h
    split at h
    · rename_i hindex
      exact ⟨index, rfl, hindex, (Except.ok.inj h).symm⟩
    · cases h

theorem Interface.id_of_create {i : Interface} {count : Nat} {id : DeviceId} {s : Session}
    (h : i.create count id = .ok s) : s.id = id := by
  obtain ⟨index, rfl, -, rfl⟩ := Interface.create_ok h
  simp [Session.id, Session.ofDevice]

namespace Session

variable {σ : Type} [ServedSource σ] [Arithmetic]

/-- The session and its source after a call. Reading the state changes neither. -/
def perform (x : Session × σ) : SessionCall σ → Session × σ
  | .command c => (x.1.serve x.2 c).2
  | .fill _ => x
  | .source next => (x.1, next)

def run (x : Session × σ) (calls : List (SessionCall σ)) : Session × σ := calls.foldl perform x

/-- What a call agrees on, if it sets a format that is accepted. -/
def agreement? (s : Session) : SessionCall σ → Option Agreement
  | .command (.setFormat f) =>
    match s.catalog.negotiate f with
    | .ok (n, _) => some n
    | .error _ => none
  | _ => none

/-- What the accepted formats of a run agreed on, in order. -/
def agreements (x : Session × σ) : List (SessionCall σ) → List Agreement
  | [] => []
  | c :: rest => (x.1.agreement? c).toList ++ agreements (perform x c) rest

/-- The format a call sets, if it is accepted. -/
def accepted? (s : Session) : SessionCall σ → Option BufferFormat
  | .command (.setFormat f) =>
    match s.catalog.negotiate f with
    | .ok _ => some f
    | .error _ => none
  | _ => none

/-- The accepted formats of a run, in order. -/
def formats (x : Session × σ) : List (SessionCall σ) → List BufferFormat
  | [] => []
  | c :: rest => (x.1.accepted? c).toList ++ formats (perform x c) rest

/-! ## what a call does -/

/-- What can happen to a session, with the agreement where one is reached. -/
inductive Change (s : Session) : Option Agreement → Session → Prop
  | stay : Change s none s
  | acquired (b : Bool) : Change s none { s with isAcquired := b }
  | agreed {f : BufferFormat} {n : Agreement} {c : Catalog} (h : s.catalog.negotiate f = .ok (n, c)) :
    Change s (some n) { s with catalog := c, format := some n }
  | property {p : Property} {t : PropertyAddress} {v : PropertyValue} {c : Catalog}
    (h : s.catalog.setProperty s.mappings p t v = .ok c) : Change s none { s with catalog := c }

theorem setFormat_change (s : Session) (source : σ) (f : BufferFormat) :
    Change s (s.agreement? (.command (.setFormat f) : SessionCall σ)) (s.serve source (.setFormat f)).2.1 := by
  simp only [serve, setFormat, agreement?]
  cases h : s.catalog.negotiate f with
  | error e => exact .stay
  | ok nc => exact .agreed h

theorem setProperty_change (s : Session) (source : σ) (p : Property) (t : PropertyAddress) (v : PropertyValue) :
    Change s none (s.serve source (.setProperty p t v)).2.1 := by
  simp only [serve, setProperty]
  cases h : s.catalog.setProperty s.mappings p t v with
  | error e => exact .stay
  | ok c => exact .property h

theorem perform_change (x : Session × σ) (c : SessionCall σ) : Change x.1 (x.1.agreement? c) (perform x c).1 := by
  obtain ⟨s, source⟩ := x
  rcases c with c | buffer | next
  · cases c with
    | setFormat f => exact s.setFormat_change source f
    | setProperty p t v => exact s.setProperty_change source p t v
    | acquire => exact .acquired true
    | unacquire => exact .acquired false
    | capabilities | info | listObjects | setCooperation => exact .stay
    -- a question: the session stays, whatever the answer
    | getProperty | poll | readState =>
      have hstay : ∀ s', s' = s → Change s none s' := fun _ h => h ▸ .stay
      apply hstay
      simp only [perform, serve]
      split <;> rfl
  · exact .stay
  · exact .stay

/-- Only a poll reaches for the source. -/
theorem serve_source {s s' : Session} {source source' : σ} {c : SessionCommand} {a : Answer}
    (h : s.serve source c = (a, s', source')) (hc : c ≠ .poll) : source' = source := by
  have hsource : (s.serve source c).2.2 = source := by
    cases c with
    | poll => exact absurd rfl hc
    | setFormat f => simp only [serve]; cases s.setFormat f <;> rfl
    | setProperty p t v => simp only [serve]; cases s.setProperty p t v <;> rfl
    | getProperty p t => simp only [serve]; cases s.getProperty p t <;> rfl
    | readState size => simp only [serve]; cases s.read source size.toNat <;> rfl
    | capabilities | info | listObjects | setCooperation | acquire | unacquire => rfl
  rw [← hsource, h]

/-- What becomes of a session does not depend on the inputs. -/
theorem session_serve_congr (s : Session) (source source' : σ) (c : SessionCommand) :
    (s.serve source c).2.1 = (s.serve source' c).2.1 := by
  cases c with
  | setFormat f => simp only [serve]; cases s.setFormat f <;> rfl
  | setProperty p t v => simp only [serve]; cases s.setProperty p t v <;> rfl
  | getProperty p t => simp only [serve]; cases s.getProperty p t <;> rfl
  | poll => simp only [serve]; split <;> split <;> rfl
  | readState size => simp only [serve]; split <;> split <;> rfl
  | capabilities | info | listObjects | setCooperation | acquire | unacquire => rfl

omit [Arithmetic] in
theorem Change.index {s s' : Session} {n? : Option Agreement} (h : Change s n? s') : s'.index = s.index := by
  cases h <;> rfl

theorem index_serve (s : Session) (source : σ) (c : SessionCommand) : (s.serve source c).2.1.index = s.index :=
  (perform_change (s, source) (.command c)).index

/-! ## what a run does -/

/-- What every change keeps, every run keeps. -/
theorem run_keeps {P : Session → Prop} (hstep : ∀ s n? s', P s → Change s n? s' → P s') {x : Session × σ}
    (hx : P x.1) (calls : List (SessionCall σ)) : P (run x calls).1 := by
  induction calls generalizing x with
  | nil => exact hx
  | cons c rest ih => exact ih (hstep x.1 _ _ hx (perform_change x c))

/-- The format in effect is the last one agreed on, or the one in effect before. -/
theorem format_run (x : Session × σ) (calls : List (SessionCall σ)) :
    (run x calls).1.format = (agreements x calls).getLast?.or x.1.format := by
  induction calls generalizing x with
  | nil => rfl
  | cons c rest ih =>
    have hnext : (perform x c).1.format = (x.1.agreement? c).or x.1.format := by
      have hc := perform_change x c
      generalize x.1.agreement? c = n?, (perform x c).1 = s' at hc ⊢
      cases hc <;> rfl
    have hrun : run x (c :: rest) = run (perform x c) rest := rfl
    -- an agreement of the rest, if there is one, comes after the one made here
    rw [hrun, ih, hnext, agreements, List.getLast?_append, Option.or_assoc]
    cases x.1.agreement? c <;> rfl

end Session
end GamepadPool
