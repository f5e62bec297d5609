import EndpointHooks.Text.Pieces

/-! Texts without indentation: the blanks before each line are taken off. Going through a text from
the left, a blank goes exactly if nothing but blanks has come before it on its line, so a text can
be stripped part by part if one remembers whether a line has begun. -/

namespace EndpointHooks.Text

/-- The characters of a text with the blanks before each of its lines taken off. -/
def stripLines (s : List Char) : List Char :=
  join '\n' ((pieces '\n' s).map (·.dropWhile (· == ' ')))

/-- A text with the blanks before each of its lines taken off. -/
def stripped (text : String) : String := String.ofList (stripLines text.toList)

/-- Whether only blanks stand before the place after a character, on its line, if `open` says that
of the place before it. -/
def stillOpen (opening : Bool) (c : Char) : Bool := c == '\n' || (opening && c == ' ')

/-- Strips a text that starts in the middle of a line, or at the opening of one. -/
def stripFrom : Bool → List Char → List Char
  | _, [] => []
  | opening, c :: s =>
    (if opening && c == ' ' then [] else [c]) ++ stripFrom (stillOpen opening c) s

theorem stripFrom_append (opening : Bool) (s t : List Char) :
    stripFrom opening (s ++ t) =
      stripFrom opening s ++ stripFrom (s.foldl stillOpen opening) t := by
  induction s generalizing opening with
  | nil => rfl
  | cons c s ih => simp [stripFrom, ih]

/-- After a line end nothing stands on the line, whatever came before. -/
theorem foldl_stillOpen_newline (opening : Bool) (s : List Char) :
    (s ++ ['\n']).foldl stillOpen opening = true := by
  simp [stillOpen]

theorem foldl_stillOpen_blanks (n : Nat) :
    (List.replicate n ' ').foldl stillOpen true = true := by
  induction n with
  | zero => rfl
  | succ n ih => simpa [List.replicate_succ, stillOpen] using ih

theorem stripFrom_blanks (n : Nat) : stripFrom true (List.replicate n ' ') = [] := by
  induction n with
  | zero => rfl
  | succ n ih => simpa [List.replicate_succ, stripFrom, stillOpen] using ih

theorem join_cons_char (c : Char) (first : List Char) (rest : List (List Char)) :
    join '\n' ((c :: first) :: rest) = c :: join '\n' (first :: rest) := by
  cases rest <;> simp

/-- Going through a text strips its lines, the first of them only if it is at its opening. -/
theorem stripFrom_eq {s first : List Char} {rest : List (List Char)}
    (h : pieces '\n' s = first :: rest) (opening : Bool) :
    stripFrom opening s =
      join '\n' ((if opening then first.dropWhile (· == ' ') else first) ::
        rest.map (·.dropWhile (· == ' '))) := by
  induction s generalizing opening first rest with
  | nil =>
    obtain ⟨rfl, rfl⟩ : first = [] ∧ rest = [] := by simpa [pieces, eq_comm] using h
    cases opening <;> rfl
  | cons c s ih =>
    obtain ⟨first', rest', hs⟩ := List.exists_cons_of_ne_nil (pieces_ne_nil '\n' s)
    by_cases hc : c = '\n'
    · subst hc
      rw [pieces_separator, hs, List.cons_eq_cons] at h
      obtain ⟨rfl, rfl⟩ := h
      have hopen : stillOpen opening '\n' = true := by simp [stillOpen]
      rw [stripFrom, hopen, ih hs true]
      cases opening <;> simp
    · rw [pieces_cons hc hs, List.cons_eq_cons] at h
      obtain ⟨rfl, rfl⟩ := h
      rw [stripFrom, ih hs]
      by_cases hblank : opening = true ∧ c = ' '
      · obtain ⟨rfl, rfl⟩ := hblank
        simp [stillOpen]
      · -- The line has begun at the latest with this character.
        have hbegun : stillOpen opening c = false := by simpa [stillOpen, hc] using hblank
        have hkept : (opening && c == ' ') = false := by simpa using hblank
        have hfirst : (if opening then (c :: first').dropWhile (· == ' ') else c :: first') =
            c :: first' := by
          cases opening <;> simp_all
        rw [hbegun, hkept, hfirst, join_cons_char]
        rfl

theorem stripFrom_true (s : List Char) : stripFrom true s = stripLines s := by
  obtain ⟨first, rest, h⟩ := List.exists_cons_of_ne_nil (pieces_ne_nil '\n' s)
  rw [stripFrom_eq h, stripLines, h]
  rfl

end EndpointHooks.Text
