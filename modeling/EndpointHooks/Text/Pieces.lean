/-! A text as the pieces between the occurrences of a separator. Splitting undoes joining for pieces
without the separator, and joining undoes splitting for every text. -/

namespace EndpointHooks.Text

/-- The pieces of a text between its separators; a text without one is its only piece. -/
def pieces (separator : Char) : List Char → List (List Char)
  | [] => [[]]
  | c :: s =>
    if c = separator then [] :: pieces separator s
    else
      match pieces separator s with
      | [] => [[c]]
      | first :: rest => (c :: first) :: rest

def join (separator : Char) (parts : List (List Char)) : List Char :=
  List.intercalate [separator] parts

theorem pieces_ne_nil (separator : Char) (s : List Char) : pieces separator s ≠ [] := by
  cases s with
  | nil => simp [pieces]
  | cons c s =>
    unfold pieces
    split
    · simp
    · split <;> simp

variable {separator : Char}

@[simp] theorem pieces_separator (s : List Char) :
    pieces separator (separator :: s) = [] :: pieces separator s := by
  simp [pieces]

theorem pieces_cons {c : Char} {s first : List Char} {rest : List (List Char)}
    (hc : c ≠ separator) (h : pieces separator s = first :: rest) :
    pieces separator (c :: s) = (c :: first) :: rest := by
  simp [pieces, hc, h]

@[simp] theorem join_cons_cons (first second : List Char) (rest : List (List Char)) :
    join separator (first :: second :: rest) = first ++ separator :: join separator (second :: rest)
    := by
  simp [join, List.intercalate]

@[simp] theorem join_singleton (first : List Char) : join separator [first] = first := by
  simp [join, List.intercalate]

/-- The pieces of a text make up the text. -/
theorem join_pieces (s : List Char) : join separator (pieces separator s) = s := by
  induction s with
  | nil => simp [pieces]
  | cons c s ih =>
    obtain ⟨first, rest, h⟩ := List.exists_cons_of_ne_nil (pieces_ne_nil separator s)
    by_cases hc : c = separator
    · subst hc
      rw [pieces_separator, h, join_cons_cons, ← h, ih]
      rfl
    · rw [pieces_cons hc h]
      rw [h] at ih
      cases rest with
      | nil => simpa using ih
      | cons second rest => simpa using ih

/-- Splitting goes on after a separator as if the text started there. -/
theorem pieces_append_separator (s t : List Char) :
    pieces separator (s ++ separator :: t) = pieces separator s ++ pieces separator t := by
  induction s with
  | nil => simp [pieces]
  | cons c s ih =>
    by_cases hc : c = separator
    · subst hc
      simp [ih]
    · obtain ⟨first, rest, hs⟩ := List.exists_cons_of_ne_nil (pieces_ne_nil separator s)
      rw [hs] at ih
      rw [List.cons_append, pieces_cons hc ih, pieces_cons hc hs]
      rfl

theorem pieces_of_not_mem {s : List Char} (h : separator ∉ s) : pieces separator s = [s] := by
  induction s with
  | nil => rfl
  | cons c s ih =>
    obtain ⟨hc, hs⟩ := not_or.mp (mt List.mem_cons.mpr h)
    rw [pieces_cons (Ne.symm hc) (ih hs)]

/-- Pieces without the separator are read back from the text that they make up. -/
theorem pieces_join {parts : List (List Char)} (hne : parts ≠ [])
    (h : ∀ part ∈ parts, separator ∉ part) : pieces separator (join separator parts) = parts := by
  induction parts with
  | nil => exact absurd rfl hne
  | cons first rest ih =>
    have hfirst : pieces separator first = [first] := pieces_of_not_mem (h first (by simp))
    cases rest with
    | nil => rw [join_singleton, hfirst]
    | cons second rest =>
      have hrest := ih (by simp) fun part hpart => h part (List.mem_cons_of_mem _ hpart)
      rw [join_cons_cons, pieces_append_separator, hfirst, hrest, List.singleton_append]

/-- A character other than the separator is in one of the pieces. -/
theorem exists_mem_pieces {s : List Char} {d : Char} (h : d ∈ s) (hd : d ≠ separator) :
    ∃ part ∈ pieces separator s, d ∈ part := by
  induction s with
  | nil => simp at h
  | cons c s ih =>
    obtain ⟨first, rest, hs⟩ := List.exists_cons_of_ne_nil (pieces_ne_nil separator s)
    by_cases hc : c = separator
    · subst hc
      obtain ⟨part, hpart, hmem⟩ := ih ((List.mem_cons.mp h).resolve_left hd)
      exact ⟨part, by simp [hpart], hmem⟩
    · rw [pieces_cons hc hs]
      rcases List.mem_cons.mp h with rfl | h
      · exact ⟨d :: first, by simp, by simp⟩
      · obtain ⟨part, hpart, hmem⟩ := ih h
        rw [hs] at hpart
        rcases List.mem_cons.mp hpart with rfl | hpart
        · exact ⟨c :: part, by simp, by simp [hmem]⟩
        · exact ⟨part, by simp [hpart], hmem⟩

end EndpointHooks.Text
