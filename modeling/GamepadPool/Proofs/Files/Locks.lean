import GamepadPool.CommandLine
import GamepadPool.LockedFiles
import GamepadPool.Proofs.Files.Lookup
import Mathlib.Data.List.Perm.Basic
/-! # One server for each directory and stem
A lock file stands in the directory of its socket and is called after the socket's stem. Whatever servers come and
go, those alive hold the locks of their sockets and nobody else holds any, so a server finds its lock taken exactly if
one alive has a socket of the same stem in the same directory. -/

namespace GamepadPool

namespace LockedFiles

/-- What the lock file beside a socket is called. -/
def lockName (stem : List Char) : List Char := stem ++ ['.', 'l', 'o', 'c', 'k']

theorem isName_lockName {stem : List Char} (h : '/' ∉ stem) : Path.IsName (lockName stem) := by
  refine ⟨by simp [lockName], by simp [lockName, h], fun heq => ?_, fun heq => ?_⟩
  all_goals simpa [lockName] using congrArg List.getLast? heq

theorem lockPath_cases (socket : String) :
    Path.fileName? (lockPath socket).toList = none ∨
      ∃ before name, Path.fileName? socket.toList = some (before, name) ∧ Path.IsLead before ∧
        Path.IsName (lockName (Path.stem name)) ∧
        lockPath socket = String.ofList (before ++ lockName (Path.stem name)) := by
  cases h : Path.fileName? socket.toList with
  | none =>
    rw [lockPath, Path.withExtension_of_no_name h]
    exact .inl h
  | some r =>
    obtain ⟨before, name⟩ := r
    obtain ⟨-, hlead, hname⟩ := Path.trim_of_fileName? h
    rw [lockPath, Path.withExtension_of_name h]
    split
    · rw [String.toList_ofList]
      exact .inl (Path.fileName?_dots hlead)
    · have hstem : '/' ∉ Path.stem name := fun hmem => hname.noSlash ((Path.stem_prefix name).subset hmem)
      refine .inr ⟨before, name, rfl, hlead, isName_lockName hstem, ?_⟩
      apply String.toList_inj.1
      simp [lockName]

/-- Where the lock file of a socket stands: the directory, and the stem it shares with the socket. -/
def seat? (t : FileTree) (socket : String) : Option (Place × List Char) :=
  match Path.fileName? socket.toList with
  | none => none
  | some (before, name) => (t.follow before).toOption.map (·, Path.stem name)

/-- A lock file stands in the directory of its socket and is called after the socket's stem. -/
theorem seat_of_openForWriting {t : FileTree} {socket : String} {place : Place}
    (h : t.openForWriting (lockPath socket) = .ok place) :
    ∃ d stem, seat? t socket = some (d, stem) ∧ place = d ++ [String.ofList (lockName stem)] := by
  rcases lockPath_cases socket with hnone | ⟨before, name, hfile, hlead, hname, hpath⟩
  · exact absurd h (t.openForWriting_of_no_name hnone place)
  · rw [hpath, t.openForWriting_name hlead hname] at h
    obtain ⟨-, -, -, d, hd, -, rfl⟩ := h
    refine ⟨d, Path.stem name, ?_, rfl⟩
    simp [seat?, hfile, hd, Except.toOption]

theorem openForWriting_lockPath_of_extends {t u : FileTree} (hext : t.Extends u) {socket : String} {place : Place}
    (h : t.openForWriting (lockPath socket) = .ok place) (hfile : u.kind? place = some .file) :
    u.openForWriting (lockPath socket) = .ok place := by
  rcases lockPath_cases socket with hnone | ⟨before, name, -, hlead, hname, hpath⟩
  · exact absurd h (t.openForWriting_of_no_name hnone place)
  · rw [hpath] at h ⊢
    exact hext.openForWriting hlead hname h hfile

/-- Two lock files are one exactly if their sockets have the same seat. -/
theorem place_eq_iff_seat {t : FileTree} {p q : String} {place place' : Place}
    (hp : t.openForWriting (lockPath p) = .ok place) (hq : t.openForWriting (lockPath q) = .ok place') :
    place' = place ↔ seat? t q = seat? t p := by
  obtain ⟨d, stem, hseat, rfl⟩ := seat_of_openForWriting hp
  obtain ⟨d', stem', hseat', rfl⟩ := seat_of_openForWriting hq
  rw [hseat, hseat']
  simp [lockName, String.ofList_inj]

/-- The socket of a numbered instance has no dot in its name, so the whole name is its stem. -/
theorem seat_instanceSocket (t : FileTree) (user : String) (n : Nat) :
    seat? t (instanceSocket user n) =
      (t.follow ("/run/user/" ++ user ++ "/").toList).toOption.map (·, "vpad-".toList ++ Nat.toDigits 10 n) := by
  have hdigits : ∀ c ∈ Nat.toDigits 10 n, c.isDigit :=
    fun c hc => Nat.isDigit_of_mem_toDigits (by decide) (by decide) hc
  have hslash : '/' ∉ Nat.toDigits 10 n := fun h => absurd (hdigits _ h) (by decide)
  have hdot : '.' ∉ Nat.toDigits 10 n := fun h => absurd (hdigits _ h) (by decide)
  have hname : Path.IsName ("vpad-".toList ++ Nat.toDigits 10 n) := by
    refine ⟨by simp, by simp [hslash], fun h => ?_, fun h => ?_⟩ <;> simp at h
  have hfile : Path.fileName? (instanceSocket user n).toList =
      some (("/run/user/" ++ user ++ "/").toList, "vpad-".toList ++ Nat.toDigits 10 n) := by
    have hsocket : (instanceSocket user n).toList =
        ("/run/user/" ++ user ++ "/").toList ++ ("vpad-".toList ++ Nat.toDigits 10 n) := by
      simp [instanceSocket]
    have hlead : Path.IsLead ("/run/user/" ++ user ++ "/").toList := by
      rw [Path.IsLead, String.toList_append, List.getLast?_append]
      simp
    rw [hsocket, Path.fileName?_append hlead hname]
  have hstem : Path.stem ("vpad-".toList ++ Nat.toDigits 10 n) = "vpad-".toList ++ Nat.toDigits 10 n := by
    rcases Path.stem_cases ("vpad-".toList ++ Nat.toDigits 10 n) with ⟨hstem, -⟩ | ⟨s, ext, -, -, hsplit⟩
    · exact hstem
    · have hmem : '.' ∈ "vpad-".toList ++ Nat.toDigits 10 n := by
        rw [hsplit]
        simp
      simp [hdot] at hmem
  simp only [seat?, hfile, hstem]

/-- Instances of different numbers have different seats. -/
theorem instanceSocket_of_seat {t : FileTree} {user : String} {n m : Nat} {seat : Place × List Char}
    (hn : seat? t (instanceSocket user n) = some seat) (hm : seat? t (instanceSocket user m) = some seat) :
    m = n := by
  rw [seat_instanceSocket, Option.map_eq_some_iff] at hn hm
  obtain ⟨d, -, rfl⟩ := hn
  obtain ⟨d', -, hsame⟩ := hm
  have hdigits : Nat.toDigits 10 m = Nat.toDigits 10 n := by simpa using (Prod.mk.inj hsame).2
  have hvalue := congrArg (Nat.ofDigitChars 10 · 0) hdigits
  simpa [Nat.ofDigitChars_toDigits] using hvalue

theorem start_cases (l : LockedFiles) (socket holder : String) :
    (∃ e tree, l.tree.makeAll ((Path.parent? socket).getD "") = (.error e, tree) ∧
      l.start socket holder = (.error (.directories e), { l with tree := tree })) ∨
    ∃ tree, l.tree.makeAll ((Path.parent? socket).getD "") = (.ok (), tree) ∧
      ((∃ e, tree.openForWriting (lockPath socket) = .error e ∧
          l.start socket holder = (.error (.unopened (lockPath socket)), { l with tree := tree })) ∨
        ∃ place, tree.openForWriting (lockPath socket) = .ok place ∧
          ((place ∈ l.held ∧ l.start socket holder = (.error (.held (lockPath socket)), { l with tree := tree })) ∨
            (place ∉ l.held ∧
              l.start socket holder = (.ok place, ⟨tree.put place (holder ++ "\n"), place :: l.held⟩)))) := by
  unfold start
  rcases l.tree.makeAll ((Path.parent? socket).getD "") with ⟨e | _, tree⟩
  · exact .inl ⟨e, tree, rfl, rfl⟩
  refine .inr ⟨tree, rfl, ?_⟩
  dsimp only [acquire]
  rcases tree.openForWriting (lockPath socket) with e | place
  · exact .inl ⟨e, rfl, rfl⟩
  refine .inr ⟨place, rfl, ?_⟩
  by_cases hheld : place ∈ l.held <;> simp [hheld]

end LockedFiles

/-! ## servers -/

/-- Files, and the servers that share them. -/
structure Servers where
  files : LockedFiles
  /-- Sockets of the servers alive, and where their lock files stand. -/
  living : List (String × Place)

/-- A server is prepared, or one of those alive ends. -/
inductive ServersCall where
  | start (socket holder : String)
  | drop (server : Nat)

namespace Servers

open LockedFiles

def ofTree (t : FileTree) : Servers := ⟨.ofTree t, []⟩

def start (s : Servers) (socket holder : String) : Servers :=
  match s.files.start socket holder with
  | (.ok place, files) => ⟨files, s.living ++ [(socket, place)]⟩
  | (.error _, files) => { s with files := files }

def drop (s : Servers) (i : Nat) : Servers :=
  match s.living[i]? with
  | none => s
  | some (_, place) => ⟨s.files.release place, s.living.eraseIdx i⟩

def perform (s : Servers) : ServersCall → Servers
  | .start socket holder => s.start socket holder
  | .drop i => s.drop i

def run (s : Servers) (calls : List ServersCall) : Servers := calls.foldl perform s

/-- Each server alive holds the lock of its own socket, and nobody else holds a lock. -/
structure Sound (s : Servers) : Prop where
  held : s.files.held.Perm (s.living.map (·.2))
  distinct : s.files.held.Nodup
  opened : ∀ q ∈ s.living, s.files.tree.openForWriting (lockPath q.1) = .ok q.2
  there : ∀ q ∈ s.living, s.files.tree.kind? q.2 = some .file

theorem sound_ofTree (t : FileTree) : (ofTree t).Sound where
  held := .nil
  distinct := .nil
  opened := by simp [ofTree]
  there := by simp [ofTree]

/-- Changes of the tree that leave it bigger. -/
theorem Sound.grow {s : Servers} (h : s.Sound) {tree : FileTree} (hext : s.files.tree.Extends tree) :
    Sound { s with files := { s.files with tree := tree } } where
  held := h.held
  distinct := h.distinct
  opened q hq := openForWriting_lockPath_of_extends hext (h.opened q hq) (hext.kind _ _ (h.there q hq))
  there q hq := hext.kind _ _ (h.there q hq)

/-- A server takes a lock that nobody holds. -/
theorem Sound.enter {s : Servers} (h : s.Sound) {socket : String} {place : Place}
    (hopen : s.files.tree.openForWriting (lockPath socket) = .ok place) (hfree : place ∉ s.files.held)
    (text : String) :
    Sound ⟨⟨s.files.tree.put place text, place :: s.files.held⟩, s.living ++ [(socket, place)]⟩ := by
  have hput := s.files.tree.extends_put place text
  have hthere : (s.files.tree.put place text).kind? place = some .file :=
    s.files.tree.kind_put (FileTree.kind_of_openForWriting hopen) text
  have hgrown := h.grow hput
  refine ⟨?_, List.nodup_cons.2 ⟨hfree, h.distinct⟩, fun q hq => ?_, fun q hq => ?_⟩
  · simpa using (h.held.cons place).trans (List.perm_append_singleton ..).symm
  · rcases List.mem_append.1 hq with hq | hq
    · exact hgrown.opened q hq
    · obtain rfl := List.mem_singleton.1 hq
      exact openForWriting_lockPath_of_extends hput hopen hthere
  · rcases List.mem_append.1 hq with hq | hq
    · exact hgrown.there q hq
    · obtain rfl := List.mem_singleton.1 hq
      exact hthere

theorem Sound.start {s : Servers} (h : s.Sound) (socket holder : String) : (s.start socket holder).Sound := by
  -- even where the start fails, directories may have been made on the way
  have hmade := s.files.tree.extends_makeAll ((Path.parent? socket).getD "")
  unfold Servers.start
  rcases s.files.start_cases socket holder with
    ⟨e, tree, hmake, hs⟩ | ⟨tree, hmake, ⟨e, -, hs⟩ | ⟨place, hopen, ⟨-, hs⟩ | ⟨hfree, hs⟩⟩⟩ <;>
    rw [hmake] at hmade <;> rw [hs]
  · exact h.grow hmade
  · exact h.grow hmade
  · exact h.grow hmade
  · exact (h.grow hmade).enter hopen hfree _

/-- A server gives its lock up. -/
theorem Sound.drop {s : Servers} (h : s.Sound) (i : Nat) : (s.drop i).Sound := by
  unfold Servers.drop
  split
  · exact h
  rename_i socket place hi
  obtain ⟨hlt, hget⟩ := List.getElem?_eq_some_iff.1 hi
  have hperm : (s.living.map (·.2)).Perm (place :: (s.living.eraseIdx i).map (·.2)) := by
    have := (List.getElem_cons_eraseIdx_perm hlt).symm.map (·.2)
    rwa [hget] at this
  have hheld : place ∈ s.files.held := (h.held.trans hperm).mem_iff.2 List.mem_cons_self
  -- the lock file stays behind, cleared
  have hput := s.files.tree.extends_put place ""
  have hgrown := h.grow hput
  rw [release, if_pos (by simpa using hheld)]
  refine ⟨?_, h.distinct.erase _, fun q hq => ?_, fun q hq => ?_⟩
  · simpa using (h.held.trans hperm).erase place
  · exact hgrown.opened q (List.mem_of_mem_eraseIdx hq)
  · exact hgrown.there q (List.mem_of_mem_eraseIdx hq)

theorem Sound.run {s : Servers} (h : s.Sound) (calls : List ServersCall) : (s.run calls).Sound := by
  induction calls generalizing s with
  | nil => exact h
  | cons c rest ih =>
    cases c with
    | start socket holder => exact ih (h.start socket holder)
    | drop i => exact ih (h.drop i)

/-- A lock is held exactly by the servers whose sockets have its seat. -/
theorem Sound.held_iff {s : Servers} (h : s.Sound) {socket : String} {place : Place}
    (hopen : s.files.tree.openForWriting (lockPath socket) = .ok place) :
    place ∈ s.files.held ↔ ∃ q ∈ s.living, seat? s.files.tree q.1 = seat? s.files.tree socket := by
  rw [h.held.mem_iff, List.mem_map]
  constructor
  · rintro ⟨q, hq, rfl⟩
    exact ⟨q, hq, (place_eq_iff_seat hopen (h.opened q hq)).1 rfl⟩
  · rintro ⟨q, hq, hseat⟩
    exact ⟨q, hq, (place_eq_iff_seat hopen (h.opened q hq)).2 hseat⟩

/-- A server starts exactly if its directories can be made, its lock file can be opened, and its seat is free. -/
theorem Sound.start_iff {s : Servers} (h : s.Sound) (socket holder : String) :
    (∃ place, (s.files.start socket holder).1 = .ok place) ↔
      ∃ tree, s.files.tree.makeAll ((Path.parent? socket).getD "") = (.ok (), tree) ∧
        (∃ place, tree.openForWriting (lockPath socket) = .ok place) ∧
        ∀ q ∈ s.living, seat? tree q.1 ≠ seat? tree socket := by
  have hmade := s.files.tree.extends_makeAll ((Path.parent? socket).getD "")
  rcases s.files.start_cases socket holder with ⟨e, tree, hmake, hs⟩ | ⟨tree, hmake, hcases⟩
  · simp [hmake, hs]
  rw [hmake] at hmade
  simp only [hmake, Prod.mk.injEq, true_and, exists_eq_left']
  rcases hcases with ⟨e, hopen, hs⟩ | ⟨place, hopen, hcases⟩
  · simp [hs, hopen]
  have hheld := (h.grow hmade).held_iff hopen
  rcases hcases with ⟨hin, hs⟩ | ⟨hout, hs⟩
  · obtain ⟨q, hq, hseat⟩ := hheld.1 hin
    simp only [hs, reduceCtorEq, exists_false, false_iff, not_and]
    exact fun _ hfree => hfree q hq hseat
  · simp only [hs, hopen, Except.ok.injEq, exists_eq', true_and, true_iff]
    exact fun q hq hseat => hout (hheld.2 ⟨q, hq, hseat⟩)

/-- Among the sockets of numbered instances, a server alive stands in the way of its own socket and of no other. -/
theorem Sound.start_iff_of_instances {s : Servers} (h : s.Sound) {user : String}
    (hinstances : ∀ q ∈ s.living, ∃ m, q.1 = instanceSocket user m) (n : Nat) (holder : String) :
    (∃ place, (s.files.start (instanceSocket user n) holder).1 = .ok place) ↔
      ∃ tree, s.files.tree.makeAll ((Path.parent? (instanceSocket user n)).getD "") = (.ok (), tree) ∧
        (∃ place, tree.openForWriting (lockPath (instanceSocket user n)) = .ok place) ∧
        instanceSocket user n ∉ s.living.map (·.1) := by
  rw [h.start_iff]
  refine exists_congr fun tree => and_congr_right fun _ => and_congr_right fun ⟨place, hopen⟩ => ?_
  obtain ⟨d, stem, hseat, -⟩ := seat_of_openForWriting hopen
  constructor
  · intro hfree hmem
    obtain ⟨q, hq, hsocket⟩ := List.mem_map.1 hmem
    exact hfree q hq (by rw [hsocket])
  · intro hnot q hq hsame
    obtain ⟨m, hm⟩ := hinstances q hq
    rw [hm, hseat] at hsame
    obtain rfl := instanceSocket_of_seat hseat hsame
    exact hnot (List.mem_map.2 ⟨q, hq, hm⟩)

/-- From any tree on which no server is alive, after any servers were started and dropped: a server starts on a socket
exactly if the directories of the socket can be made, its lock file can be opened, and no server alive has a socket in
the same directory with the same stem. So none starts on the socket of a server alive, and a lock file left behind
does not count; but sockets that differ only after their last dots exclude each other too. -/
theorem start_iff_of_run (t : FileTree) (calls : List ServersCall) (socket holder : String) :
    let s := (ofTree t).run calls
    ((∃ place, (s.files.start socket holder).1 = .ok place) ↔
      ∃ tree, s.files.tree.makeAll ((Path.parent? socket).getD "") = (.ok (), tree) ∧
        (∃ place, tree.openForWriting (lockPath socket) = .ok place) ∧
        ∀ q ∈ s.living, seat? tree q.1 ≠ seat? tree socket) ∧
    (socket ∈ s.living.map (·.1) → ∀ place, (s.files.start socket holder).1 ≠ .ok place) := by
  intro s
  have hsound : s.Sound := (sound_ofTree t).run calls
  refine ⟨hsound.start_iff socket holder, fun hmem place hstart => ?_⟩
  obtain ⟨q, hq, rfl⟩ := List.mem_map.1 hmem
  obtain ⟨tree, -, -, hfree⟩ := (hsound.start_iff q.1 holder).1 ⟨place, hstart⟩
  exact hfree q hq rfl

/-- Two sockets of one directory that differ after the dot only exclude each other. -/
theorem other_socket_refused :
    let s := (ofTree .empty).run [.start "a.sock" "1"]
    s.living.map (·.1) = ["a.sock"] ∧ (s.files.start "a.other" "2").1 = .error (.held "a.lock") ∧
      ¬ ((∃ place, (s.files.start "a.other" "2").1 = .ok place) ↔ "a.other" ∉ s.living.map (·.1)) := by
  have hliving : ((ofTree .empty).run [.start "a.sock" "1"]).living.map (·.1) = ["a.sock"] := by decide +kernel
  have hheld : (((ofTree .empty).run [.start "a.sock" "1"]).files.start "a.other" "2").1 =
      .error (.held "a.lock") := by decide +kernel
  refine ⟨hliving, hheld, fun h => ?_⟩
  obtain ⟨place, hplace⟩ := h.2 (by rw [hliving]; decide)
  rw [hheld] at hplace
  cases hplace

end Servers
end GamepadPool
