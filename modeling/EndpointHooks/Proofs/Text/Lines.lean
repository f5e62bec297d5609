/-! Lines, and blocks of lines with an empty line between neighbours. Lines without line ends are
read back from the text that they make up, and blocks without empty lines from the text of the
blocks joined by empty lines. -/

namespace EndpointHooks.Text

/-- The text of whole lines, each with its end. -/
def ofLines (ls : List String) : String := String.join (ls.map (· ++ "\n"))

/-- The lines of a text whose last line is ended. -/
def lines (text : String) : List String :=
  (text.toList.splitOn '\n').dropLast.map String.ofList

/-- The blocks of lines that stand between the empty lines of a text. -/
def blocks (text : String) : List (List String) := (lines text).splitOn ""

variable {ls : List String} {bs : List (List String)}

@[simp] theorem ofLines_cons (line : String) (ls : List String) :
    ofLines (line :: ls) = line ++ "\n" ++ ofLines ls := by
  simp [ofLines]

@[simp] theorem ofLines_append (ls ms : List String) :
    ofLines (ls ++ ms) = ofLines ls ++ ofLines ms := by
  simp [ofLines]

/-- Every line is followed by a line end, so nothing follows the last one. -/
theorem toList_ofLines (ls : List String) :
    (ofLines ls).toList = ['\n'].intercalate (ls.map String.toList ++ [[]]) := by
  induction ls with
  | nil => rfl
  | cons line ls ih =>
    obtain ⟨first, rest, hcons⟩ := List.exists_cons_of_ne_nil
      (show ls.map String.toList ++ [[]] ≠ [] by simp)
    rw [List.map_cons, List.cons_append, hcons, List.intercalate_cons_cons, ← hcons, ← ih]
    simp

/-- Lines are read back from their text. -/
theorem lines_ofLines (h : ∀ line ∈ ls, '\n' ∉ line.toList) : lines (ofLines ls) = ls := by
  have hsplit : (ofLines ls).toList.splitOn '\n' = ls.map String.toList ++ [[]] := by
    rw [toList_ofLines]
    refine List.splitOn_intercalate '\n' (fun l hl => ?_) (by simp)
    rcases List.mem_append.mp hl with hl | hl
    · obtain ⟨line, hline, rfl⟩ := List.mem_map.mp hl
      exact h line hline
    · obtain rfl : l = [] := List.mem_singleton.mp hl
      simp
  rw [lines, hsplit, List.dropLast_concat, List.map_map]
  simp [Function.comp_def]

/-- Joining the texts of blocks by line ends puts an empty line between them. -/
theorem intercalate_ofLines (bs : List (List String)) :
    "\n".intercalate (bs.map ofLines) = ofLines ([""].intercalate bs) := by
  rw [← String.toList_inj, String.toList_intercalate]
  induction bs with
  | nil => rfl
  | cons b bs ih =>
    cases bs with
    | nil => simp
    | cons c bs =>
      simp only [List.map_cons, List.intercalate_cons_cons] at ih ⊢
      rw [ih]
      simp

theorem mem_intercalate_empty {line : String} (h : line ∈ [""].intercalate bs) :
    line = "" ∨ ∃ b ∈ bs, line ∈ b := by
  induction bs with
  | nil => simp at h
  | cons b bs ih =>
    cases bs with
    | nil => exact .inr ⟨b, by simp, by simpa using h⟩
    | cons c bs =>
      rw [List.intercalate_cons_cons, List.mem_append, List.mem_append] at h
      rcases h with (h | h) | h
      · exact .inr ⟨b, by simp, h⟩
      · exact .inl (List.mem_singleton.mp h)
      · rcases ih h with rfl | ⟨d, hd, hline⟩
        · exact .inl rfl
        · exact .inr ⟨d, List.mem_cons_of_mem _ hd, hline⟩

/-- A block has at least one line, and its lines are neither empty nor hold line ends. -/
structure IsBlock (b : List String) : Prop where
  ne_nil : b ≠ []
  empty_not_mem : "" ∉ b
  newline_not_mem : ∀ line ∈ b, '\n' ∉ line.toList

theorem lines_intercalate (h : ∀ b ∈ bs, IsBlock b) :
    lines ("\n".intercalate (bs.map ofLines)) = [""].intercalate bs := by
  rw [intercalate_ofLines, lines_ofLines]
  intro line hline
  rcases mem_intercalate_empty hline with rfl | ⟨b, hb, hmem⟩
  · simp
  · exact (h b hb).newline_not_mem line hmem

/-- Blocks are read back from their texts joined by line ends. -/
theorem blocks_intercalate (hbs : bs ≠ []) (h : ∀ b ∈ bs, IsBlock b) :
    blocks ("\n".intercalate (bs.map ofLines)) = bs := by
  rw [blocks, lines_intercalate h]
  exact List.splitOn_intercalate "" (fun b hb => (h b hb).empty_not_mem) hbs

theorem intercalate_ne_nil (hbs : bs ≠ []) (h : ∀ b ∈ bs, IsBlock b) :
    [""].intercalate bs ≠ [] := by
  obtain ⟨b, bs, rfl⟩ := List.exists_cons_of_ne_nil hbs
  have hb : b ≠ [] := (h b (by simp)).ne_nil
  cases bs with
  | nil => simpa using hb
  | cons c bs => simp [List.intercalate_cons_cons]

/-- Blocks with one text are the same blocks. -/
theorem eq_of_intercalate_eq {cs : List (List String)} (hb : ∀ b ∈ bs, IsBlock b)
    (hc : ∀ c ∈ cs, IsBlock c)
    (h : "\n".intercalate (bs.map ofLines) = "\n".intercalate (cs.map ofLines)) : bs = cs := by
  have hlines := congrArg lines h
  rw [lines_intercalate hb, lines_intercalate hc] at hlines
  by_cases hbs : bs = []
  · by_cases hcs : cs = []
    · rw [hbs, hcs]
    · rw [hbs] at hlines
      exact absurd hlines.symm (intercalate_ne_nil hcs hc)
  · by_cases hcs : cs = []
    · rw [hcs] at hlines
      exact absurd hlines (intercalate_ne_nil hbs hb)
    · rw [← blocks_intercalate hbs hb, h, blocks_intercalate hcs hc]

end EndpointHooks.Text
