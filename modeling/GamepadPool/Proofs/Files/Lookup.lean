import GamepadPool.FileTree
import GamepadPool.Proofs.Files.Paths
/-! # Lookups in a growing tree
Making directories and writing files leaves what is there as it is, so whatever could be found is found again. -/

namespace GamepadPool

namespace PathLookup

theorem walk_mono {kind? kind'? : Place → Option EntryKind} (h : ∀ p k, kind? p = some k → kind'? p = some k)
    {place d : Place} {names : List String} (hd : walk kind? place names = .ok d) :
    walk kind'? place names = .ok d := by
  fun_induction walk kind? place names with
  | case1 => exact hd
  | case2 place rest ih => exact ih hd
  | case3 place rest ih => exact ih hd
  | case4 => cases hd
  | case5 place name rest hdot hdots hshort hthere ih =>
    rw [walk, if_neg hshort, h _ _ hthere]
    · exact ih hd
    · exact hdot
    · exact hdots
  | case6 => cases hd
  | case7 => cases hd

end PathLookup

namespace FileTree

/-- The directory that the parts before a name lead to. -/
def follow (t : FileTree) (before : List Char) : Except FileError Place :=
  PathLookup.walk t.kind? (if Path.isAbsolute (String.ofList before) then [] else t.current)
    (Path.parts (String.ofList before))

theorem isAbsolute_append {before name : List Char} (hn : '/' ∉ name) :
    Path.isAbsolute (String.ofList (before ++ name)) = Path.isAbsolute (String.ofList before) := by
  unfold Path.isAbsolute
  rw [String.toList_ofList, String.toList_ofList]
  cases before with
  | nil =>
    cases name with
    | nil => rfl
    | cons c name =>
      have hc : c ≠ '/' := fun heq => hn (heq ▸ List.mem_cons_self)
      simp [hc]
  | cons c before => by_cases hc : c = '/' <;> simp [hc]

theorem endsInSlash_append {before name : List Char} (hne : name ≠ []) (hn : '/' ∉ name) :
    Path.endsInSlash (String.ofList (before ++ name)) = false := by
  unfold Path.endsInSlash
  obtain ⟨front, c, rfl⟩ := List.eq_nil_or_concat' name |>.resolve_left hne
  have hc : c ≠ '/' := fun heq => hn (by simp [heq])
  rw [String.toList_ofList]
  simp [hc]

theorem find_name (t : FileTree) {before name : List Char} (hb : Path.IsLead before) (hn : Path.IsName name) :
    t.find (String.ofList (before ++ name)) =
      if '\x00' ∈ before ++ name then .error .endMark
      else if PathLookup.pathLimit ≤ (String.ofList (before ++ name)).utf8ByteSize then .error .nameTooLong
      else
        match t.follow before with
        | .error e => .error e
        | .ok d =>
          if PathLookup.nameLimit < (String.ofList name).utf8ByteSize then .error .nameTooLong
          else .ok ⟨d ++ [String.ofList name], true, false⟩ := by
  have hempty : (String.ofList (before ++ name)).isEmpty = false := by
    simpa [String.isEmpty_iff, ← Bool.not_eq_true] using fun _ => hn.nonempty
  have hdots : ¬ (String.ofList name = "." ∨ String.ofList name = "..") := by
    rintro (h | h)
    · exact hn.notDot (by simpa using congrArg String.toList h)
    · exact hn.notDots (by simpa using congrArg String.toList h)
  unfold find PathLookup.find
  rw [Path.parts_append hb hn.nonempty hn.noSlash, List.reverse_append, isAbsolute_append hn.noSlash,
    endsInSlash_append hn.nonempty hn.noSlash, hempty]
  simp only [String.toList_ofList, List.contains_iff_mem, Bool.false_eq_true, if_false]
  split
  · rfl
  split
  · rfl
  rw [List.reverse_singleton, List.singleton_append, PathLookup.finish, if_neg hdots, List.reverse_reverse]
  rfl

/-- A file can be opened where the path ends in a name, its directory is there, the texts are not too long and no
directory stands in its place. -/
theorem openForWriting_name (t : FileTree) {before name : List Char} (hb : Path.IsLead before) (hn : Path.IsName name)
    (place : Place) :
    t.openForWriting (String.ofList (before ++ name)) = .ok place ↔
      '\x00' ∉ before ++ name ∧ (String.ofList (before ++ name)).utf8ByteSize < PathLookup.pathLimit ∧
      (String.ofList name).utf8ByteSize ≤ PathLookup.nameLimit ∧
      ∃ d, t.follow before = .ok d ∧ t.kind? (d ++ [String.ofList name]) ≠ some .directory ∧
        place = d ++ [String.ofList name] := by
  have hfind := find_name t hb hn
  by_cases hend : '\x00' ∈ before ++ name
  · rw [if_pos hend] at hfind
    rw [openForWriting, hfind]
    exact ⟨nofun, fun h => absurd hend h.1⟩
  rw [if_neg hend] at hfind
  by_cases hlong : PathLookup.pathLimit ≤ (String.ofList (before ++ name)).utf8ByteSize
  · rw [if_pos hlong] at hfind
    rw [openForWriting, hfind]
    exact ⟨nofun, fun h => absurd hlong (Nat.not_le.2 h.2.1)⟩
  rw [if_neg hlong] at hfind
  rcases hfollow : t.follow before with e | d
  · rw [hfollow] at hfind
    rw [openForWriting, hfind]
    exact ⟨nofun, fun ⟨_, _, _, _, h, _⟩ => nomatch h⟩
  rw [hfollow] at hfind
  dsimp only at hfind
  by_cases hname : PathLookup.nameLimit < (String.ofList name).utf8ByteSize
  · rw [if_pos hname] at hfind
    rw [openForWriting, hfind]
    exact ⟨nofun, fun h => absurd hname (Nat.not_lt.2 h.2.2.1)⟩
  rw [if_neg hname] at hfind
  rw [openForWriting, hfind]
  simp only [hend, Nat.not_le.1 hlong, Nat.not_lt.1 hname, not_false_eq_true, true_and, Except.ok.injEq,
    exists_eq_left']
  rcases t.kind? (d ++ [String.ofList name]) with _ | _ | _ <;> simp [eq_comm]

/-- A path that does not end in a name leads to no file. -/
theorem openForWriting_of_no_name (t : FileTree) {path : String} (h : Path.fileName? path.toList = none)
    (place : Place) : t.openForWriting path ≠ .ok place := by
  have hparts : ∀ last ∈ (Path.parts path).getLast?, last = "." ∨ last = ".." := by
    intro last hlast
    by_contra hnot
    rw [not_or] at hnot
    rw [← String.ofList_toList (s := path)] at hlast
    exact Path.fileName?_of_parts hlast hnot.1 hnot.2 h
  -- dots and the empty path lead to directories, which are not opened for writing
  have hfind : ∀ x, t.find path = .ok x → x.isNamed = false ∧ x.wantsDirectory = true := by
    intro x hx
    unfold find PathLookup.find at hx
    split at hx
    · cases hx
    split at hx
    · cases hx
    split at hx
    · cases hx
    rcases List.eq_nil_or_concat' (Path.parts path) with hnil | ⟨front, last, hpath⟩
    · rw [hnil] at hx
      cases hx
      exact ⟨rfl, rfl⟩
    · have hlast : last = "." ∨ last = ".." := hparts last (by simp [hpath])
      rw [hpath, List.reverse_append, List.reverse_singleton, List.singleton_append, PathLookup.finish,
        if_pos hlast] at hx
      unfold Except.map at hx
      split at hx
      · cases hx
      · cases hx
        exact ⟨rfl, rfl⟩
  intro hopen
  unfold openForWriting at hopen
  split at hopen
  · cases hopen
  · rename_i x hx
    obtain ⟨hnamed, hwants⟩ := hfind x hx
    rw [hnamed, hwants] at hopen
    split at hopen <;> simp at hopen

theorem kind_of_openForWriting {t : FileTree} {path : String} {place : Place}
    (h : t.openForWriting path = .ok place) : t.kind? place ≠ some .directory := by
  unfold openForWriting at h
  split at h
  · cases h
  split at h
  · cases h
  · split at h
    · cases h
    · cases h
      simp [*]
  · split at h
    · cases h
      simp [*]
    · cases h

/-! ## a tree that grows -/

/-- What is there stays what it is. -/
structure Extends (t u : FileTree) : Prop where
  current : u.current = t.current
  kind : ∀ p k, t.kind? p = some k → u.kind? p = some k

theorem Extends.refl (t : FileTree) : t.Extends t := ⟨rfl, fun _ _ h => h⟩

theorem Extends.trans {t u v : FileTree} (h₁ : t.Extends u) (h₂ : u.Extends v) : t.Extends v :=
  ⟨h₂.current.trans h₁.current, fun p k h => h₂.kind p k (h₁.kind p k h)⟩

theorem Extends.follow {t u : FileTree} (h : t.Extends u) {before : List Char} {d : Place}
    (hd : t.follow before = .ok d) : u.follow before = .ok d := by
  unfold FileTree.follow at hd ⊢
  rw [h.current]
  exact PathLookup.walk_mono h.kind hd

theorem kind_eq_directory {t : FileTree} {p : Place} : t.kind? p = some .directory ↔ t.isDirectory p := by
  unfold kind?
  split
  · simp [*]
  · split <;> simp [*]

theorem kind_eq_file {t : FileTree} {p : Place} :
    t.kind? p = some .file ↔ ¬ t.isDirectory p ∧ (t.file? p).isSome := by
  unfold kind?
  split
  · simp [*]
  · split <;> simp [*]

theorem isSome_file_put (t : FileTree) (place : Place) (text : String) (p : Place) :
    ((t.put place text).file? p).isSome ↔ (t.file? p).isSome ∨ p = place := by
  unfold put
  split
  · rename_i hthere
    have hkey : ∀ f : Place × String, (if f.1 = place then (place, text) else f).1 = f.1 := by
      intro f
      split <;> simp [*]
    simp only [file?, List.lookup_isSome_iff, List.mem_map, exists_exists_and_eq_and, hkey] at hthere ⊢
    exact ⟨Or.inl, fun h => h.elim id fun hp => hp ▸ hthere⟩
  · simp [file?, List.lookup_append]

theorem extends_put (t : FileTree) (place : Place) (text : String) : t.Extends (t.put place text) := by
  refine ⟨rfl, fun p k h => ?_⟩
  cases k with
  | directory =>
    have hdirectory : t.isDirectory p := kind_eq_directory.1 h
    exact kind_eq_directory.2 hdirectory
  | file =>
    obtain ⟨hnot, hfile⟩ := kind_eq_file.1 h
    exact kind_eq_file.2 ⟨hnot, (isSome_file_put ..).2 (.inl hfile)⟩

theorem kind_put (t : FileTree) {place : Place} (h : t.kind? place ≠ some .directory) (text : String) :
    (t.put place text).kind? place = some .file := by
  have hnot : ¬ t.isDirectory place := fun hdirectory => h (kind_eq_directory.2 hdirectory)
  exact kind_eq_file.2 ⟨hnot, (isSome_file_put ..).2 (.inr rfl)⟩

theorem extends_makeDirectory {t u : FileTree} {path : String} (h : t.makeDirectory path = .ok u) :
    t.Extends u := by
  unfold makeDirectory at h
  split at h
  · cases h
  split at h
  · rename_i x _ hfresh
    cases h
    simp only [Bool.and_eq_true, Option.isNone_iff_eq_none] at hfresh
    refine ⟨rfl, fun p k hp => ?_⟩
    have hne : p ≠ x.place := by
      rintro rfl
      rw [hfresh.2] at hp
      cases hp
    have hdirectory : isDirectory { t with directories := t.directories ++ [x.place] } p = t.isDirectory p := by
      simp [isDirectory, hne]
    unfold kind? at hp ⊢
    rw [hdirectory]
    exact hp
  · cases h

theorem extends_ensureDirectory (t : FileTree) (path : String) : t.Extends (t.ensureDirectory path).2 := by
  unfold ensureDirectory
  split
  · rename_i h
    exact extends_makeDirectory h
  · exact .refl t

theorem extends_makeDirectories (fuel : Nat) (t : FileTree) (path : String) :
    t.Extends (makeDirectories fuel t path).2 := by
  induction fuel generalizing t path with
  | zero => exact .refl t
  | succ fuel ih =>
    unfold makeDirectories
    split
    · exact .refl t
    split
    · rename_i h
      exact extends_makeDirectory h
    · rcases Path.parent? path with _ | parent
      · exact .refl t
      have hparent := ih t parent
      rw [Option.map_some]
      rcases hmade : makeDirectories fuel t parent with ⟨_ | _, u⟩ <;> rw [hmade] at hparent
      · exact hparent
      · exact hparent.trans (extends_ensureDirectory u path)
    · exact .refl t

theorem extends_makeAll (t : FileTree) (path : String) : t.Extends (t.makeAll path).2 :=
  extends_makeDirectories _ t path

/-- A file that could be opened, and is there now, can be opened again. -/
theorem Extends.openForWriting {t u : FileTree} (h : t.Extends u) {before name : List Char}
    (hb : Path.IsLead before) (hn : Path.IsName name) {place : Place}
    (hopen : t.openForWriting (String.ofList (before ++ name)) = .ok place) (hfile : u.kind? place = some .file) :
    u.openForWriting (String.ofList (before ++ name)) = .ok place := by
  obtain ⟨hend, hshort, hname, d, hd, -, rfl⟩ := (openForWriting_name t hb hn place).1 hopen
  exact (openForWriting_name u hb hn _).2 ⟨hend, hshort, hname, d, h.follow hd, by simp [hfile], rfl⟩

end FileTree
end GamepadPool
