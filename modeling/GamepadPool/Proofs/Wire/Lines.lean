import GamepadPool.Proofs.Wire.Records
import GamepadPool.Server
/-! # Texts as lines of bytes
A text travels as its UTF-8 bytes. No byte of another character looks like a line feed, so cutting the bytes at line
feeds cuts the text into texts. What is written has no line feed in it; so a stream of answers is cut into those
answers. -/

namespace GamepadPool

/-! ## bytes of a text -/

/-- The bytes a text travels as. -/
def utf8 (s : String) : List UInt8 := s.toUTF8.data.toList

theorem utf8_eq (s : String) : utf8 s = s.toList.flatMap String.utf8EncodeChar := by
  have hbytes := String.toByteArray_ofList (l := s.toList)
  rw [String.ofList_toList] at hbytes
  rw [utf8, String.toUTF8_eq_toByteArray, hbytes, List.utf8Encode, List.data_toByteArray]

@[simp] theorem utf8_append (s t : String) : utf8 (s ++ t) = utf8 s ++ utf8 t := by
  simp [utf8_eq]

@[simp] theorem utf8_join (l : List String) : utf8 (String.join l) = l.flatMap utf8 := by
  rw [utf8_eq, String.toList_join, List.flatMap_assoc]
  simp only [← utf8_eq]

theorem decodeLine?_utf8 (s : String) : decodeLine? (utf8 s) = some s := by
  have hbytes : (⟨(utf8 s).toArray⟩ : ByteArray) = s.toUTF8 := rfl
  simp only [decodeLine?, hbytes, String.fromUTF8?, String.toUTF8_eq_toByteArray, dif_pos s.isValidUTF8]
  rfl

@[simp] theorem utf8_eq_nil {s : String} : utf8 s = [] ↔ s = "" := by
  refine ⟨fun h => ?_, fun h => h ▸ rfl⟩
  have hs := decodeLine?_utf8 s
  rw [h, show ([] : List UInt8) = utf8 "" from rfl, decodeLine?_utf8] at hs
  exact (Option.some.inj hs).symm

/-- The bytes of a longer character are all above the range of single bytes. -/
theorem lineFeed_notMem_utf8EncodeChar {c : Char} (h : c ≠ '\n') : 10 ∉ String.utf8EncodeChar c := by
  have hc : c.val.toNat ≠ 10 := fun hval => h (Char.ext (UInt32.toNat_inj.1 hval))
  intro hmem
  unfold String.utf8EncodeChar at hmem
  dsimp only at hmem
  split_ifs at hmem <;>
    simp only [List.mem_cons, List.not_mem_nil, or_false, ← UInt8.toNat_inj, UInt8.toNat_ofNat',
      UInt8.reduceToNat] at hmem <;> omega

theorem lineFeed_notMem_utf8 {s : String} (h : '\n' ∉ s.toList) : 10 ∉ utf8 s := by
  rw [utf8_eq, List.mem_flatMap]
  rintro ⟨c, hc, hmem⟩
  refine lineFeed_notMem_utf8EncodeChar ?_ hmem
  rintro rfl
  exact h hc

/-! ## lines -/

theorem splitLines_single {bs : List UInt8} (h : 10 ∉ bs) : splitLines bs = if bs = [] then [] else [bs] := by
  induction bs with
  | nil => rfl
  | cons b bs ih =>
    rw [List.mem_cons, not_or] at h
    rw [splitLines, if_neg (Ne.symm h.1), ih h.2]
    cases bs <;> simp

theorem splitLines_append {bs : List UInt8} (h : 10 ∉ bs) (rest : List UInt8) :
    splitLines (bs ++ 10 :: rest) = (bs ++ [10]) :: splitLines rest := by
  induction bs with
  | nil => simp [splitLines]
  | cons b bs ih =>
    rw [List.mem_cons, not_or] at h
    simp [splitLines, Ne.symm h.1, ih h.2]

/-- Lines that each end in a line feed, and one more that does not, are cut where they were joined. -/
theorem splitLines_frames {lines : List (List UInt8)} {last : List UInt8} (hlines : ∀ line ∈ lines, 10 ∉ line)
    (hlast : 10 ∉ last) :
    splitLines (lines.flatMap (· ++ [10]) ++ last) = lines.map (· ++ [10]) ++ if last = [] then [] else [last] := by
  induction lines with
  | nil => exact splitLines_single hlast
  | cons line lines ih =>
    obtain ⟨hline, hlines⟩ := List.forall_mem_cons.1 hlines
    rw [List.flatMap_cons, List.append_assoc, List.append_assoc, List.singleton_append, splitLines_append hline,
      ih hlines]
    rfl

/-- Everything is made of such lines. -/
theorem exists_frames {α : Type} [DecidableEq α] (a : α) (l : List α) :
    ∃ (lines : List (List α)) (last : List α),
      l = lines.flatMap (· ++ [a]) ++ last ∧ (∀ line ∈ lines, a ∉ line) ∧ a ∉ last := by
  induction l with
  | nil => exact ⟨[], [], rfl, by simp, by simp⟩
  | cons x l ih =>
    obtain ⟨lines, last, rfl, hlines, hlast⟩ := ih
    by_cases hx : x = a
    · exact ⟨[] :: lines, last, by simp [hx], List.forall_mem_cons.2 ⟨List.not_mem_nil, hlines⟩, hlast⟩
    · cases lines with
      | nil => exact ⟨[], x :: last, rfl, by simp, by simp [Ne.symm hx, hlast]⟩
      | cons line lines =>
        obtain ⟨hline, hlines⟩ := List.forall_mem_cons.1 hlines
        exact ⟨(x :: line) :: lines, last, by simp, List.forall_mem_cons.2 ⟨by simp [Ne.symm hx, hline], hlines⟩, hlast⟩

/-- The same for lines of text. -/
theorem splitLines_join {lines : List String} {last : String} (hlines : ∀ line ∈ lines, '\n' ∉ line.toList)
    (hlast : '\n' ∉ last.toList) :
    splitLines (utf8 (String.join (lines.map (· ++ "\n")) ++ last)) =
      lines.map (fun line => utf8 (line ++ "\n")) ++ if last = "" then [] else [utf8 last] := by
  have hend : ∀ s : String, utf8 (s ++ "\n") = utf8 s ++ [10] := fun s => utf8_append s "\n"
  have hframes := splitLines_frames
    (List.forall_mem_map.2 fun line h => lineFeed_notMem_utf8 (hlines line h)) (lineFeed_notMem_utf8 hlast)
  simpa [List.flatMap_map, Function.comp_def, hend] using hframes

theorem splitLines_line {s : String} (h : '\n' ∉ s.toList) : splitLines (utf8 (s ++ "\n")) = [utf8 (s ++ "\n")] := by
  simpa using splitLines_join (List.forall_mem_singleton.2 h) (show '\n' ∉ "".toList by simp)

theorem exists_lines (s : String) :
    ∃ (lines : List String) (last : String), s = String.join (lines.map (· ++ "\n")) ++ last ∧
      (∀ line ∈ lines, '\n' ∉ line.toList) ∧ '\n' ∉ last.toList := by
  obtain ⟨lines, last, hs, hlines, hlast⟩ := exists_frames '\n' s.toList
  refine ⟨lines.map String.ofList, String.ofList last, String.toList_inj.1 ?_, ?_, by simpa using hlast⟩
  · simp [hs, List.flatMap_map]
  · simpa using hlines

/-- The lines of a text are texts. -/
theorem decodeLine?_of_mem_splitLines {s : String} {line : List UInt8} (h : line ∈ splitLines (utf8 s)) :
    ∃ text, decodeLine? line = some text := by
  obtain ⟨lines, last, rfl, hlines, hlast⟩ := exists_lines s
  rw [splitLines_join hlines hlast, List.mem_append] at h
  rcases h with h | h
  · obtain ⟨text, -, rfl⟩ := List.mem_map.1 h
    exact ⟨_, decodeLine?_utf8 _⟩
  · split at h
    · exact absurd h List.not_mem_nil
    · rw [List.mem_singleton.1 h]
      exact ⟨_, decodeLine?_utf8 _⟩

/-- Lines can be left out: the others are cut as before. -/
theorem splitLines_filter (p : List UInt8 → Bool) (bs : List UInt8) :
    splitLines ((splitLines bs).filter p).flatten = (splitLines bs).filter p := by
  obtain ⟨lines, last, rfl, hlines, hlast⟩ := exists_frames 10 bs
  rw [splitLines_frames hlines hlast, List.filter_append, List.filter_map]
  generalize hkept : lines.filter (p ∘ (· ++ [10])) = kept
  have hkeptLines : ∀ line ∈ kept, 10 ∉ line := fun line h => hlines line (List.mem_of_mem_filter (hkept ▸ h))
  -- what is left behind the last line feed is kept whole or not at all
  obtain ⟨rest, hrest, htail⟩ : ∃ rest : List UInt8, 10 ∉ rest ∧
      (if last = [] then [] else [last]).filter p = if rest = [] then [] else [rest] := by
    by_cases hp : p last
    · exact ⟨last, hlast, by split <;> simp [hp]⟩
    · exact ⟨[], List.not_mem_nil, by split <;> simp [hp]⟩
  have hflat : (kept.map (· ++ [10]) ++ if rest = [] then [] else [rest]).flatten =
      kept.flatMap (· ++ [10]) ++ rest := by
    split <;> simp_all [List.flatMap]
  rw [htail, hflat, splitLines_frames hkeptLines hrest]

/-! ## what is written -/

namespace Wire

variable {α : Type} [Wire α]

theorem read?_render {j : Json} (h : j.WellFormed) (blanks : String) (hb : ∀ c ∈ blanks.toList, Json.isBlank c) :
    (read? (j.render ++ blanks) : Option α) = ofJson? j := by
  rw [read?, Json.render, String.toList_append, String.toList_ofList, Json.parse?_print h hb, Option.bind_some]

theorem isBlank_lineFeed : ∀ c ∈ "\n".toList, Json.isBlank c := by simp [Json.isBlank]

theorem lineFeed_notMem_render {j : Json} (h : j.WellFormed) : '\n' ∉ j.render.toList := by
  rw [Json.render, String.toList_ofList]
  exact fun hmem => absurd (Json.plain_print h _ hmem) (by decide)

variable [Lawful α]

theorem lineFeed_notMem_write (a : α) : '\n' ∉ (write a).toList := lineFeed_notMem_render (wellFormed a)

theorem read?_line (a : α) : read? (write a ++ "\n") = some a :=
  (read?_render (wellFormed a) "\n" isBlank_lineFeed).trans (ofJson?_toJson a)

theorem read?_write (a : α) : read? (write a) = some a := by
  have hread : read? (write a ++ "") = some a := (read?_render (wellFormed a) "" (by simp)).trans (ofJson?_toJson a)
  rwa [String.append_empty] at hread

/-- Values on lines of their own are cut into those lines. -/
theorem splitLines_written (l : List α) :
    splitLines (utf8 (String.join (l.map fun a => write a ++ "\n"))) = l.map fun a => utf8 (write a ++ "\n") := by
  have hlines : ∀ line ∈ l.map write, '\n' ∉ line.toList := List.forall_mem_map.2 fun a _ => lineFeed_notMem_write a
  simpa [Function.comp_def] using splitLines_join hlines (show '\n' ∉ "".toList by simp)

end Wire

/-- Every answer is written on one line, is read back as it was, and a stream of answers is cut into just those. -/
theorem Reply.framed :
    (∀ r : Reply, '\n' ∉ (Wire.write r).toList ∧ Wire.read? (Wire.write r) = some r) ∧
      ∀ replies : List Reply,
        (splitLines (utf8 (String.join (replies.map fun r => Wire.write r ++ "\n")))).map
          (fun line => (decodeLine? line).bind Wire.read?) = replies.map some := by
  refine ⟨fun r => ⟨Wire.lineFeed_notMem_write r, Wire.read?_write r⟩, fun replies => ?_⟩
  have hline : ∀ r : Reply, (decodeLine? (utf8 (Wire.write r ++ "\n"))).bind Wire.read? = some r := fun r => by
    rw [decodeLine?_utf8, Option.bind_some, Wire.read?_line]
  simp only [Wire.splitLines_written, List.map_map, Function.comp_def, hline]

end GamepadPool
