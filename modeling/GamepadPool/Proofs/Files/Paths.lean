import GamepadPool.Path
import Mathlib.Data.List.Basic
/-! # File names within paths
A path names a file by its last part, once what does not count is trimmed. Another extension comes after the stem of
that name, and the parts before the name lead to its directory. -/

namespace GamepadPool.Path

/-! ## what does not count at the end -/

/-- The text ends in what counts. -/
theorem trimReversed_of_not {s : List Char} (hslash : ∀ rest, s = '/' :: rest → rest = [])
    (hdot : ∀ rest, s ≠ '.' :: '/' :: rest) : trimReversed s = s := by
  fun_cases trimReversed s with
  | case1 => rfl
  | case2 rest hrest => exact absurd (hslash rest rfl) hrest
  | case3 rest => exact absurd rfl (hdot rest)
  | case4 => rfl

theorem trimReversed_suffix (s : List Char) : trimReversed s <:+ s := by
  fun_induction trimReversed s with
  | case1 => exact List.suffix_refl _
  | case2 rest hrest ih => exact ih.trans (List.suffix_cons ..)
  | case3 rest ih => exact ih.trans (List.suffix_cons ..)
  | case4 => exact List.suffix_refl _

/-- Less of what does not count leaves the same. -/
theorem trimReversed_drop (s : List Char) (n : Nat) (h : n ≤ s.length - (trimReversed s).length) :
    trimReversed (s.drop n) = trimReversed s := by
  induction n generalizing s with
  | zero => rw [List.drop_zero]
  | succ n ih =>
    fun_cases trimReversed s with
    | case1 => simp [trimReversed] at h
    | case2 rest hrest =>
      rw [trimReversed.eq_2 _ hrest] at h
      rw [List.drop_succ_cons]
      exact ih rest (by simp only [List.length_cons] at h; omega)
    | case3 rest =>
      rw [trimReversed.eq_3] at h
      rw [List.drop_succ_cons]
      exact ih ('/' :: rest) (by simp only [List.length_cons] at h ⊢; omega)
    | case4 s h₁ h₂ h₃ =>
      rw [trimReversed.eq_4 s h₁ h₂ h₃] at h
      omega

theorem trim_prefix (p : List Char) : trim p <+: p := by
  have h := List.reverse_prefix.2 (trimReversed_suffix p.reverse)
  rwa [List.reverse_reverse] at h

theorem trim_take {p : List Char} {n : Nat} (h : (trim p).length ≤ n) : trim (p.take n) = trim p := by
  rw [trim, List.length_reverse] at h
  rw [trim, trim, List.reverse_take]
  congr 1
  apply trimReversed_drop
  rw [List.length_reverse]
  omega

/-! ## the last part -/

/-- What can stand before a part: nothing, or a text that ends in a slash. -/
def IsLead (before : List Char) : Prop := ∀ c ∈ before.getLast?, c = '/'

/-- What a file can be called. -/
structure IsName (name : List Char) : Prop where
  nonempty : name ≠ []
  noSlash : '/' ∉ name
  notDot : name ≠ ['.']
  notDots : name ≠ ['.', '.']

theorem splitLast_append {before name : List Char} (hb : IsLead before) (hn : '/' ∉ name) :
    splitLast (before ++ name) = (before, name) := by
  have hall : ∀ c ∈ name.reverse, (c != '/') = true := by
    intro c hc
    rw [bne_iff_ne]
    rintro rfl
    exact hn (List.mem_reverse.1 hc)
  have hlead : before.reverse.dropWhile (· != '/') = before.reverse ∧ before.reverse.takeWhile (· != '/') = [] := by
    rw [IsLead, ← List.head?_reverse] at hb
    cases hr : before.reverse with
    | nil => exact ⟨rfl, rfl⟩
    | cons c rest =>
      obtain rfl : c = '/' := hb c (by rw [hr]; rfl)
      simp
  simp [splitLast, List.dropWhile_append_of_pos hall, List.takeWhile_append_of_pos hall, hlead]

theorem splitLast_spec (p : List Char) :
    (splitLast p).1 ++ (splitLast p).2 = p ∧ IsLead (splitLast p).1 ∧ '/' ∉ (splitLast p).2 := by
  refine ⟨?_, fun c hc => ?_, fun hmem => ?_⟩
  · rw [splitLast, ← List.reverse_append, List.takeWhile_append_dropWhile, List.reverse_reverse]
  · rw [splitLast, List.getLast?_reverse] at hc
    have hnot := List.head?_dropWhile_not (· != '/') p.reverse
    rw [Option.mem_def.1 hc] at hnot
    simpa using hnot
  · have hkept := List.all_takeWhile (p := (· != '/')) (l := p.reverse)
    rw [List.all_eq_true] at hkept
    simpa using hkept '/' (List.mem_reverse.1 hmem)

/-- A text that ends in a part other than a dot has nothing to trim. -/
theorem trim_append {before name : List Char} (hne : name ≠ []) (hslash : '/' ∉ name) (hdot : name ≠ ['.']) :
    trim (before ++ name) = before ++ name := by
  obtain ⟨c, r, hr⟩ := List.exists_cons_of_ne_nil (mt List.reverse_eq_nil_iff.1 hne)
  have hmem : '/' ∉ c :: r := by
    rw [← hr, List.mem_reverse]
    exact hslash
  have hsame : trimReversed (before ++ name).reverse = (before ++ name).reverse := by
    rw [List.reverse_append, hr]
    refine trimReversed_of_not (fun rest h => ?_) fun rest h => ?_
    · rw [List.cons_append, List.cons.injEq] at h
      exact absurd (h.1 ▸ List.mem_cons_self) hmem
    · rw [List.cons_append, List.cons.injEq] at h
      obtain ⟨rfl, h⟩ := h
      cases r with
      | nil => exact hdot (List.reverse_eq_iff.1 hr)
      | cons d r =>
        rw [List.cons_append, List.cons.injEq] at h
        exact hmem (h.1 ▸ List.mem_cons_of_mem _ List.mem_cons_self)
  rw [trim, hsame, List.reverse_reverse]

theorem fileName?_append {before name : List Char} (hb : IsLead before) (hn : IsName name) :
    fileName? (before ++ name) = some (before, name) := by
  unfold fileName?
  rw [trim_append hn.nonempty hn.noSlash hn.notDot, splitLast_append hb hn.noSlash]
  split
  · rename_i h
    exact absurd (Prod.mk.inj h).2 hn.nonempty
  · rename_i h
    exact absurd (Prod.mk.inj h).2 hn.notDot
  · rename_i h
    exact absurd (Prod.mk.inj h).2 hn.notDots
  · rfl

/-- Two dots name no file. -/
theorem fileName?_dots {before : List Char} (hb : IsLead before) : fileName? (before ++ ['.', '.']) = none := by
  unfold fileName?
  rw [trim_append (by simp) (by simp) (by simp), splitLast_append hb (by simp)]
  rfl

theorem trim_of_fileName? {p before name : List Char} (h : fileName? p = some (before, name)) :
    trim p = before ++ name ∧ IsLead before ∧ IsName name := by
  obtain ⟨happend, hlead, hslash⟩ := splitLast_spec (trim p)
  unfold fileName? at h
  split at h
  · cases h
  · cases h
  · cases h
  · rename_i hne hdot hdots
    rw [Option.some.inj h] at happend hlead hslash hne hdot hdots
    refine ⟨happend.symm, hlead, ?_, hslash, ?_, ?_⟩
    · rintro rfl
      exact hne _ rfl
    · rintro rfl
      exact hdot _ rfl
    · rintro rfl
      exact hdots _ rfl

/-! ## stems -/

theorem stem_append {s ext : List Char} (hs : s ≠ []) (hext : '.' ∉ ext) : stem (s ++ '.' :: ext) = s := by
  have hall : ∀ c ∈ ext.reverse, (c != '.') = true := by
    intro c hc
    rw [bne_iff_ne]
    rintro rfl
    exact hext (List.mem_reverse.1 hc)
  obtain ⟨c, r, hr⟩ := List.exists_cons_of_ne_nil (mt List.reverse_eq_nil_iff.1 hs)
  have hdrop : (s ++ '.' :: ext).reverse.dropWhile (· != '.') = '.' :: c :: r := by
    simp [hr, List.dropWhile_append_of_pos hall]
  unfold stem
  rw [hdrop]
  exact (congrArg List.reverse hr).symm.trans (List.reverse_reverse s)

theorem extension?_append {s ext : List Char} (hs : s ≠ []) (hext : '.' ∉ ext) :
    extension? (s ++ '.' :: ext) = some ext := by
  have hlength : s.length < (s ++ '.' :: ext).length := by simp
  rw [extension?, stem_append hs hext, if_pos hlength, List.drop_append]
  simp

/-- A name is its own stem, or a stem, a dot and an extension without dots. -/
theorem stem_cases (name : List Char) :
    (stem name = name ∧ extension? name = none) ∨ ∃ s ext, s ≠ [] ∧ '.' ∉ ext ∧ name = s ++ '.' :: ext := by
  have hsplit := List.takeWhile_append_dropWhile (p := (· != '.')) (l := name.reverse)
  have hhead := List.head?_dropWhile_not (· != '.') name.reverse
  have hkept := List.all_takeWhile (p := (· != '.')) (l := name.reverse)
  have hself : stem name = name → stem name = name ∧ extension? name = none :=
    fun hstem => ⟨hstem, by simp [extension?, hstem]⟩
  match hdrop : name.reverse.dropWhile (· != '.') with
  | [] => exact .inl (hself (by simp [stem, hdrop]))
  | [c] =>
    rw [hdrop] at hhead
    obtain rfl : c = '.' := by simpa using hhead
    exact .inl (hself (by simp [stem, hdrop]))
  | c :: d :: r =>
    rw [hdrop] at hhead hsplit
    obtain rfl : c = '.' := by simpa using hhead
    refine .inr ⟨(d :: r).reverse, (name.reverse.takeWhile (· != '.')).reverse, by simp, fun hmem => ?_, ?_⟩
    · rw [List.all_eq_true] at hkept
      simpa using hkept '.' (List.mem_reverse.1 hmem)
    · simpa using (congrArg List.reverse hsplit).symm

theorem stem_prefix (name : List Char) : stem name <+: name := by
  rcases stem_cases name with ⟨hstem, -⟩ | ⟨s, ext, hs, hext, rfl⟩
  · exact hstem.symm ▸ List.prefix_refl name
  · rw [stem_append hs hext]
    exact List.prefix_append ..

/-! ## another extension -/

theorem fileName?_take {p : List Char} {n : Nat} (h : (trim p).length ≤ n) : fileName? (p.take n) = fileName? p := by
  rw [fileName?, fileName?, trim_take h]

/-- A name with less of an extension, as long as more than two dots is left of it. -/
theorem IsName.shorten {s old ext : List Char} (h : IsName (s ++ '.' :: old)) (hs : s ≠ []) (hext : ext ⊆ old)
    (hdots : ¬ (ext = [] ∧ s = ['.'])) : IsName (s ++ '.' :: ext) := by
  refine ⟨by simp, fun hmem => h.noSlash ?_, fun heq => ?_, fun heq => ?_⟩
  · simp only [List.mem_append, List.mem_cons] at hmem ⊢
    exact hmem.imp_right (Or.imp_right (hext ·))
  · cases s with
    | nil => exact hs rfl
    | cons c s => simp at heq
  · match s, hs with
    | [c], _ => simp_all
    | c :: d :: s, _ => simp at heq

theorem withExtension_of_no_name {p ext : String} (h : fileName? p.toList = none) : withExtension p ext = p := by
  simp [withExtension, putExtension, h]

theorem putExtension_of_name {p before name : List Char} (h : fileName? p = some (before, name)) (ext : String) :
    putExtension p ext = String.ofList (before ++ stem name ++ ['.']) ++ ext := by
  simp only [putExtension, h]

/-- The extension of the file name is replaced, or one is added. Only if the text ends in two dots and an extension,
the two dots are left, which name no file. -/
theorem withExtension_of_name {p ext : String} {before name : List Char}
    (h : fileName? p.toList = some (before, name)) :
    withExtension p ext =
      if p.toList = before ++ name ∧ stem name = ['.'] then String.ofList (before ++ ['.', '.'])
      else String.ofList (before ++ stem name ++ ['.']) ++ ext := by
  obtain ⟨htrim, hlead, hname⟩ := trim_of_fileName? h
  unfold withExtension
  rw [h]
  dsimp only [Option.bind_some]
  rcases stem_cases name with ⟨hstem, hnone⟩ | ⟨s, old, hs, hold, rfl⟩
  · have hdot : ¬ (p.toList = before ++ name ∧ stem name = ['.']) :=
      fun hdot => hname.notDot (hstem.symm.trans hdot.2)
    rw [if_neg hdot, hnone]
    dsimp only
    rw [Nat.sub_zero, List.take_length, putExtension_of_name h]
  rw [extension?_append hs hold, stem_append hs hold]
  dsimp only
  obtain ⟨junk, hjunk⟩ : before ++ (s ++ '.' :: old) <+: p.toList := htrim ▸ trim_prefix p.toList
  rw [← hjunk] at h htrim ⊢
  by_cases hlong : old.length ≤ junk.length
  · -- what is cut off does not count
    have hcut : fileName? ((before ++ (s ++ '.' :: old) ++ junk).take
        ((before ++ (s ++ '.' :: old) ++ junk).length - old.length)) = some (before, s ++ '.' :: old) := by
      rw [fileName?_take, h]
      have hlength : (before ++ (s ++ '.' :: old) ++ junk).length =
          (before ++ (s ++ '.' :: old)).length + junk.length := List.length_append
      rw [htrim]
      omega
    rw [putExtension_of_name hcut, stem_append hs hold, if_neg]
    rintro ⟨heq, hdot⟩
    have hnil : junk = [] := by simpa using heq
    have hempty : old = [] := by simpa [hnil] using hlong
    exact hname.notDots (by rw [hdot, hempty]; rfl)
  · -- the cut goes into the old extension
    have hcut : (before ++ (s ++ '.' :: old) ++ junk).take
        ((before ++ (s ++ '.' :: old) ++ junk).length - old.length) =
          before ++ (s ++ '.' :: old.take junk.length) := by
      have hlength : (before ++ (s ++ '.' :: old) ++ junk).length - old.length =
          (before ++ s ++ ['.']).length + junk.length := by
        simp only [List.length_append, List.length_cons, List.length_nil]
        omega
      have htext : before ++ (s ++ '.' :: old) ++ junk = (before ++ s ++ ['.']) ++ (old ++ junk) := by simp
      rw [hlength, htext, List.take_length_add_append, List.take_append_of_le_length (by omega)]
      simp
    have hrest : old.take junk.length ⊆ old := List.take_subset ..
    have hempty : old.take junk.length = [] ↔ junk = [] := by
      rw [List.take_eq_nil_iff, List.length_eq_zero_iff, or_iff_left]
      rintro rfl
      exact hlong (Nat.zero_le _)
    rw [hcut]
    by_cases hdots : junk = [] ∧ s = ['.']
    · simp [hdots.1, hdots.2, putExtension, fileName?_dots hlead]
    · have hname' := hname.shorten hs hrest fun h => hdots ⟨hempty.1 h.1, h.2⟩
      rw [putExtension_of_name (fileName?_append hlead hname'), stem_append hs fun h => hold (hrest h), if_neg]
      simpa using hdots

/-! ## parts -/

/-- The parts of a text with one more character in front. -/
def splitStep (c : Char) : List (List Char) → List (List Char)
  | [] => if c = '/' then [[], []] else [[c]]
  | part :: rest => if c = '/' then [] :: part :: rest else (c :: part) :: rest

theorem parts_ofList (p : List Char) :
    parts (String.ofList p) = ((p.foldr splitStep [[]]).filter (· ≠ [])).map String.ofList := by
  unfold parts
  rw [String.toList_ofList]
  rfl

theorem foldr_splitStep_of_noSlash {name part : List Char} {rest : List (List Char)} (h : '/' ∉ name) :
    name.foldr splitStep (part :: rest) = (name ++ part) :: rest := by
  induction name with
  | nil => rfl
  | cons c name ih =>
    simp only [List.mem_cons, not_or] at h
    rw [List.foldr_cons, ih h.2, splitStep, if_neg (Ne.symm h.1)]
    rfl

theorem splitStep_append (c : Char) {front : List (List Char)} (h : front ≠ []) (back : List (List Char)) :
    splitStep c (front ++ back) = splitStep c front ++ back := by
  obtain ⟨part, rest, rfl⟩ := List.exists_cons_of_ne_nil h
  by_cases hc : c = '/' <;> simp [splitStep, hc]

theorem foldr_splitStep_ne_nil (p : List Char) {front : List (List Char)} (h : front ≠ []) :
    p.foldr splitStep front ≠ [] := by
  induction p with
  | nil => exact h
  | cons c p ih =>
    obtain ⟨part, rest, hp⟩ := List.exists_cons_of_ne_nil ih
    by_cases hc : c = '/' <;> simp [hp, splitStep, hc]

theorem foldr_splitStep_append (p : List Char) {front : List (List Char)} (h : front ≠ [])
    (back : List (List Char)) : p.foldr splitStep (front ++ back) = p.foldr splitStep front ++ back := by
  induction p with
  | nil => rfl
  | cons c p ih => rw [List.foldr_cons, List.foldr_cons, ih, splitStep_append c (foldr_splitStep_ne_nil p h)]

/-- A slash ends a part. -/
theorem foldr_splitStep_slash (p part : List Char) :
    (p ++ ['/']).foldr splitStep [part] = p.foldr splitStep [[]] ++ [part] := by
  rw [List.foldr_append, ← foldr_splitStep_append p (by simp) [part]]
  rfl

theorem parts_slash (p : List Char) : parts (String.ofList (p ++ ['/'])) = parts (String.ofList p) := by
  rw [parts_ofList, parts_ofList, foldr_splitStep_slash]
  simp

theorem parts_nil : parts (String.ofList []) = [] := by
  rw [parts_ofList]
  rfl

/-- A part at the end is the last of the parts. -/
theorem parts_append {before name : List Char} (hb : IsLead before) (hne : name ≠ []) (hslash : '/' ∉ name) :
    parts (String.ofList (before ++ name)) = parts (String.ofList before) ++ [String.ofList name] := by
  have hname : (before ++ name).foldr splitStep [[]] = before.foldr splitStep [name] := by
    rw [List.foldr_append, foldr_splitStep_of_noSlash hslash, List.append_nil]
  rcases List.eq_nil_or_concat before with rfl | ⟨p, c, rfl⟩
  · rw [parts_nil, parts_ofList, hname]
    simp [hne]
  · obtain rfl : c = '/' := hb c (by simp)
    rw [List.concat_eq_append] at hname ⊢
    rw [parts_slash, parts_ofList, hname, foldr_splitStep_slash, parts_ofList]
    simp [hne]

/-- Where the last part is no dots, it is what the path names. -/
theorem fileName?_of_parts {p : List Char} {last : String} (hlast : (parts (String.ofList p)).getLast? = some last)
    (hdot : last ≠ ".") (hdots : last ≠ "..") : fileName? p ≠ none := by
  obtain ⟨s, rfl⟩ : ∃ s : List Char, p = s.reverse := ⟨p.reverse, (List.reverse_reverse p).symm⟩
  -- along the trimming: what it takes away is no such part
  fun_induction trimReversed s with
  | case1 =>
    rw [List.reverse_cons, parts_slash, List.reverse_nil, parts_nil] at hlast
    cases hlast
  | case2 rest hrest ih =>
    rw [List.reverse_cons, parts_slash] at hlast
    have htrim : trim ('/' :: rest).reverse = trim rest.reverse := by
      rw [trim, trim, List.reverse_reverse, List.reverse_reverse, trimReversed.eq_2 rest hrest]
    rw [fileName?, htrim]
    exact ih hlast
  | case3 rest ih =>
    rw [List.reverse_cons, List.reverse_cons, parts_append (by simp [IsLead]) (by simp) (by simp)] at hlast
    simp only [List.getLast?_append, List.getLast?_singleton, Option.some_or, Option.some.injEq] at hlast
    exact absurd hlast.symm hdot
  | case4 s h₁ h₂ h₃ =>
    obtain ⟨happend, hlead, hslash⟩ := splitLast_spec s.reverse
    have hne : (splitLast s.reverse).2 ≠ [] := by
      intro hnil
      rw [hnil, List.append_nil] at happend
      rcases List.eq_nil_or_concat (splitLast s.reverse).1 with hempty | ⟨p, c, hp⟩
      · rw [← happend, hempty, parts_nil] at hlast
        cases hlast
      · obtain rfl : c = '/' := hlead c (by simp [hp])
        refine h₂ p.reverse ?_
        rw [← List.reverse_reverse s, ← happend, hp]
        simp
    rw [← happend, parts_append hlead hne hslash] at hlast
    simp only [List.getLast?_append, List.getLast?_singleton, Option.some_or, Option.some.injEq] at hlast
    have hname : IsName (splitLast s.reverse).2 := by
      refine ⟨hne, hslash, fun h => hdot ?_, fun h => hdots ?_⟩
      · rw [← hlast, h]
      · rw [← hlast, h]
    rw [← happend, fileName?_append hlead hname]
    simp

end GamepadPool.Path
