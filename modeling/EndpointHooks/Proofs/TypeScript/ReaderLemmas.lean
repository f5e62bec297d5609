import EndpointHooks.Proofs.TypeScript.Reader
import EndpointHooks.Proofs.TypeScript.WellFormed
import EndpointHooks.TypeScript.Printer

/-! What the readers of marks, names, literals and lists do to the texts that the printer writes.
The texts of names, types and expressions do not end by themselves: they end where one of a few
marks follows, and `Reads` is about texts that such a mark follows. -/

namespace EndpointHooks.TypeScript.Reader

open Layout

variable {α : Type}

/-- The characters that end names, types and expressions. -/
def enders : List Char := [',', ')', ']', '>', ';', ' ', '\n']

/-- Whether names, types and expressions end before a text. A blank ends them, but the blank before
a default goes on. -/
structure Ends (s : List Char) : Prop where
  head : ∃ c r, s = c :: r ∧ c ∈ enders
  fallback : after " = " s = none

/-- Whether a text starts with a character that neither ends anything nor closes a block. -/
def Opens (s : List Char) : Prop := ∃ c r, s = c :: r ∧ c ∉ '\x7d' :: enders

def Stops (p : Char → Bool) (s : List Char) : Prop := ∀ c, s.head? = some c → p c = false

theorem stops_of_head? {p : Char → Bool} {c : Char} {s : List Char} (hs : s.head? = some c)
    (h : p c = false) : Stops p s := by
  intro d hd
  obtain rfl : c = d := by simpa [hs] using hd
  exact h

theorem stops_cons {p : Char → Bool} {c : Char} (s : List Char) (h : p c = false) :
    Stops p (c :: s) := stops_of_head? rfl h

/-- The reader takes a text for a value wherever the text ends. -/
def Reads (r : Reader α) (text : List Char) (a : α) : Prop :=
  ∀ rest, Ends rest → r (text ++ rest) = some (a, rest)

theorem opens_of_head? {s : List Char} {c : Char} (h : s.head? = some c)
    (hc : c ∉ '\x7d' :: enders) : Opens s := by
  obtain ⟨r, rfl⟩ := List.head?_eq_some_iff.mp h
  exact ⟨c, r, rfl, hc⟩

theorem Opens.append {s : List Char} (h : Opens s) (t : List Char) : Opens (s ++ t) := by
  obtain ⟨c, r, rfl, hc⟩ := h
  exact ⟨c, r ++ t, rfl, hc⟩

/-! ### Marks and blanks -/

@[simp] theorem after_append (mark : String) (s : List Char) :
    after mark (mark.toList ++ s) = some s :=
  List.dropPrefix?_append_of_beq s (by simp)

/-- A mark is not found before a text that starts with another character. -/
theorem after_eq_none {mark : String} {c : Char} {m s : List Char} (hmark : mark.toList = c :: m)
    (hs : s.head? ≠ some c) : after mark s = none := by
  cases s with
  | nil => simp [after, hmark, List.dropPrefix?]
  | cons d s =>
    have hd : d ≠ c := by simpa using hs
    simp [after, hmark, List.dropPrefix?, hd]

theorem Opens.head?_ne {s : List Char} (h : Opens s) {c : Char} (hc : c ∈ '\x7d' :: enders) :
    s.head? ≠ some c := by
  obtain ⟨d, r, rfl, hd⟩ := h
  rintro ⟨⟩
  exact hd hc

theorem ends_cons {c : Char} (s : List Char) (h : c ∈ enders) (hc : c ≠ ' ') : Ends (c :: s) where
  head := ⟨c, s, rfl, h⟩
  fallback := after_eq_none (c := ' ') rfl (by simpa using hc)

theorem Ends.head?_ne {s : List Char} (h : Ends s) {c : Char} (hc : c ∉ enders) :
    s.head? ≠ some c := by
  obtain ⟨d, r, rfl, hd⟩ := h.head
  rintro ⟨⟩
  exact hc hd

@[simp] theorem skipBlanks_padding (width depth : Nat) (s : List Char) :
    skipBlanks (padding width depth ++ s) = skipBlanks s := by
  have blank : ∀ c ∈ padding width depth, (c == ' ') = true := by simp [padding]
  rw [skipBlanks, List.dropWhile_append_of_pos blank, skipBlanks]

theorem skipBlanks_of_head? {s : List Char} (h : s.head? ≠ some ' ') : skipBlanks s = s := by
  cases s with
  | nil => rfl
  | cons c s =>
    have hc : c ≠ ' ' := by simpa using h
    simp [skipBlanks, hc]

/-! ### Names -/

theorem run_append {p : Char → Bool} {name : String} {s : List Char}
    (inside : ∀ c ∈ name.toList, p c = true) (hs : Stops p s) :
    run p (name.toList ++ s) = some (name, s) := by
  rw [run, List.takeWhile_append_of_pos inside, List.dropWhile_append_of_pos inside]
  cases s with
  | nil => simp
  | cons c s =>
    have hc : p c = false := hs c rfl
    simp [hc]

theorem not_isIdentifierPart {c : Char} (h : c ∈ '.' :: '<' :: '(' :: '\x7d' :: enders) :
    isIdentifierPart c = false := by
  have hsign : ('.' :: '<' :: '(' :: '\x7d' :: enders).all isSign = true := by decide
  exact isIdentifierPart_of_isSign (List.all_eq_true.mp hsign c h)

theorem Ends.stops_identifier {s : List Char} (h : Ends s) : Stops isIdentifierPart s := by
  obtain ⟨c, r, rfl, hc⟩ := h.head
  exact stops_cons r (not_isIdentifierPart (by simp [hc]))

/-- An identifier is read up to a character that stands in none. -/
theorem run_identifier {name : String} (h : isIdentifier name.toList = true) {s : List Char}
    (hs : Stops isIdentifierPart s) :
    run isIdentifierPart (name.toList ++ s) = some (name, s) :=
  run_append (fun _ hc => isIdentifierPart_of_mem (isIdentifier_iff.mp h).1 hc) hs

theorem opens_of_isIdentifierShaped {s : List Char} (h : isIdentifierShaped s = true) :
    Opens s := by
  obtain ⟨c, r, rfl, hc⟩ := exists_cons_of_isIdentifierShaped h
  refine ⟨c, r, rfl, fun hmem => ?_⟩
  have hpart := isIdentifierPart_of_isIdentifierStart hc
  rw [not_isIdentifierPart (by simp at hmem ⊢; tauto)] at hpart
  simp at hpart

theorem opens_of_isIdentifier {s : List Char} (h : isIdentifier s = true) : Opens s :=
  opens_of_isIdentifierShaped (isIdentifier_iff.mp h).1

/-- An identifier with more after it starts with none of the marks of an expression. -/
theorem head?_identifier_ne {name : String} (h : isIdentifierShaped name.toList = true)
    (rest : List Char) {c : Char} (hc : isIdentifierStart c = false) :
    (name.toList ++ rest).head? ≠ some c := by
  obtain ⟨d, r, hr, hd⟩ := exists_cons_of_isIdentifierShaped h
  rw [hr]
  rintro ⟨⟩
  rw [hc] at hd
  cases hd

theorem opens_of_isDotted {s : List Char} (h : isDotted s = true) : Opens s := by
  rw [isDotted_iff] at h
  obtain ⟨first, more, hpieces⟩ := List.exists_cons_of_ne_nil (Text.pieces_ne_nil '.' s)
  have opens : Opens first := opens_of_isIdentifierShaped (h first (by simp [hpieces]))
  rw [← @Text.join_pieces '.' s, hpieces]
  cases more with
  | nil => simpa using opens
  | cons second more => simpa using opens.append _

theorem isTypeNamePart_of_mem {s : List Char} {c : Char} (h : isDotted s = true) (hc : c ∈ s) :
    isTypeNamePart c = true := by
  by_cases hdot : c = '.'
  · simp [isTypeNamePart, hdot]
  · obtain ⟨part, hpart, hmem⟩ := Text.exists_mem_pieces hc hdot
    have := isIdentifierPart_of_mem (isDotted_iff.mp h part hpart) hmem
    simp [isTypeNamePart, this]

theorem isTypeNamePart_of_isSign {c : Char} (h : isSign c = true) (hdot : c ≠ '.') :
    isTypeNamePart c = false := by
  simp [isTypeNamePart, isIdentifierPart_of_isSign h, hdot]

/-- A type name is read up to its arguments or a mark that ends it. -/
theorem run_typeName {name : String} (h : isTypeName name.toList = true) {s : List Char}
    (hs : Ends s ∨ s.head? = some '<') :
    run isTypeNamePart (name.toList ++ s) = some (name, s) := by
  refine run_append (fun _ hd => isTypeNamePart_of_mem (isDotted_of_isTypeName h) hd) fun c hc => ?_
  have hsign : ('<' :: enders).all isSign = true := by decide
  have stops (d : Char) (hd : d ∈ '<' :: enders) : isTypeNamePart d = false :=
    isTypeNamePart_of_isSign (List.all_eq_true.mp hsign d hd) fun h => absurd (h ▸ hd) (by decide)
  rcases hs with hs | hs
  · obtain ⟨d, r, rfl, hd⟩ := hs.head
    obtain rfl : d = c := by simpa using hc
    exact stops d (by simp [hd])
  · obtain rfl : '<' = c := by simpa [hs] using hc
    exact stops '<' (by simp)

/-! ### Literals -/

theorem literalRest_short {c d : Char} (hc : c ≠ 'u') (h : shortEscape? c = some d)
    (s : List Char) :
    literalRest ('\\' :: c :: s) = (literalRest s).map fun p => (d :: p.1, p.2) := by
  cases hs : literalRest s <;> simp [literalRest, hc, h, hs]

theorem literalRest_code {a b c d e : Char} (h : codeEscape? [a, b, c, d] = some e)
    (s : List Char) :
    literalRest ('\\' :: 'u' :: a :: b :: c :: d :: s) =
      (literalRest s).map fun p => (e :: p.1, p.2) := by
  cases hs : literalRest s <;> simp [literalRest, h, hs]

theorem literalRest_escapeChar (c : Char) (s : List Char) :
    literalRest (escapeChar c ++ s) =
      (literalRest s).map fun p => (c :: p.1, p.2) := by
  by_cases hslash : c = '\\'
  · subst hslash
    exact literalRest_short (by decide) (by decide) s
  by_cases hquote : c = '"'
  · subst hquote
    exact literalRest_short (by decide) (by decide) s
  by_cases hfeed : c = '\n'
  · subst hfeed
    exact literalRest_short (by decide) (by decide) s
  by_cases hreturn : c = '\r'
  · subst hreturn
    exact literalRest_short (by decide) (by decide) s
  by_cases hline : c = '\u2028'
  · subst hline
    exact literalRest_code (by decide) s
  by_cases hparagraph : c = '\u2029'
  · subst hparagraph
    exact literalRest_code (by decide) s
  have hend : isLineEnd c = false := by simp [isLineEnd, hfeed, hreturn, hline, hparagraph]
  cases hs : literalRest s <;>
    simp [escapeChar, literalRest, hslash, hquote, hfeed, hreturn, hline, hparagraph, hend, hs]

/-- What stands between the quotes of a literal is read back up to the closing quote, whatever
follows it. -/
theorem literalRest_escape (s rest : List Char) :
    literalRest (escape s ++ '"' :: rest) = some (s, rest) := by
  induction s with
  | nil => rfl
  | cons c s ih => rw [escape_cons, List.append_assoc, literalRest_escapeChar, ih]; rfl

/-! ### Lists -/

section Lists

variable {item : Reader α} {text : α → List Char} {as : List α} {n : Nat}

theorem separated_reads {next close : List Char → Option (List Char)} {sep fin : List Char}
    (next_sep : ∀ s, next (sep ++ s) = some s) (close_fin : ∀ s, close (fin ++ s) = some s)
    (close_sep : ∀ s, close (sep ++ s) = none) (ends_sep : ∀ s, Ends (sep ++ s))
    (ends_fin : ∀ s, Ends (fin ++ s)) (hitem : ∀ a ∈ as, Reads item (text a) a) (has : as ≠ [])
    (hn : as.length ≤ n) (rest : List Char) :
    separated item next close n (List.intercalate sep (as.map text) ++ (fin ++ rest)) =
      some (as, rest) := by
  induction as generalizing n with
  | nil => exact absurd rfl has
  | cons a as ih =>
    obtain ⟨n, rfl⟩ : ∃ m, n = m + 1 := ⟨n - 1, by simp at hn; omega⟩
    have ha : Reads item (text a) a := hitem a (by simp)
    cases as with
    | nil =>
      simp [separated, ha _ (ends_fin rest), close_fin]
    | cons b bs =>
      have more := ih (fun c hc => hitem c (List.mem_cons_of_mem _ hc)) (by simp) (n := n)
        (by simpa using hn)
      simp only [List.map_cons] at more
      simp only [List.map_cons, List.intercalate_cons_cons, List.append_assoc, separated,
        ha _ (ends_sep _), close_sep, next_sep, more, Option.bind_eq_bind, Option.bind_some]

/-- A mark that closes a list: it ends the item before it and is not taken for a comma. -/
structure IsCloser (close : String) : Prop where
  ends : ∀ s, Ends (close.toList ++ s)
  comma : ∀ s, after close (',' :: ' ' :: s) = none

theorem isCloser_of_head {close : String} {c : Char} {m : List Char} (h : close.toList = c :: m)
    (hc : c ∈ enders) (hblank : c ≠ ' ') (hcomma : c ≠ ',') : IsCloser close where
  ends s := by
    rw [h]
    exact ends_cons _ hc hblank
  comma s := after_eq_none h (by simpa using hcomma.symm)

theorem isCloser_angle : IsCloser ">" :=
  isCloser_of_head rfl (by decide) (by decide) (by decide)

theorem isCloser_paren : IsCloser ")" :=
  isCloser_of_head rfl (by decide) (by decide) (by decide)

theorem length_lt_sizeOf [SizeOf α] (as : List α) : as.length < sizeOf as := by
  induction as with
  | nil => simp
  | cons a as ih => simp; omega

/-- What is written for a list in angle brackets: nothing for the empty list. -/
def bracketedText (text : α → List Char) (close : String) (as : List α) : List Char :=
  if as.isEmpty then []
  else '<' :: (List.intercalate ", ".toList (as.map text) ++ close.toList)

theorem bracketedText_head (text : α → List Char) (close : String) (as : List α)
    (rest : List Char) :
    bracketedText text close as ++ rest = rest ∨
      (bracketedText text close as ++ rest).head? = some '<' := by
  cases as <;> simp [bracketedText]

theorem stops_bracketedText {close : String} {rest : List Char}
    (hrest : Stops isIdentifierPart rest) :
    Stops isIdentifierPart (bracketedText text close as ++ rest) := by
  rcases bracketedText_head text close as rest with h | h
  · rwa [h]
  · exact stops_of_head? h (not_isIdentifierPart (by simp))

/-- What is written for items on lines of their own, with the closing brace one level less deep. -/
def linesText (width depth : Nat) (text : α → List Char) (as : List α) : List Char :=
  as.flatMap (fun a => padding width (depth + 1) ++ (text a ++ ['\n'])) ++
    (padding width depth ++ ['\x7d'])

/-! The readers of lists are bounded by the size of the list, and their items have to be read only
where they are smaller than it. -/

variable [SizeOf α]

theorem commaSeparated_reads {close : String} (hclose : IsCloser close)
    (hitem : ∀ a ∈ as, sizeOf a < sizeOf as → Reads item (text a) a) (has : as ≠ [])
    (hn : sizeOf as ≤ n) (rest : List Char) :
    commaSeparated item close n
      (List.intercalate ", ".toList (as.map text) ++ (close.toList ++ rest)) = some (as, rest) := by
  have hlength := length_lt_sizeOf as
  exact separated_reads (after_append ", ") (after_append close) hclose.comma
    (fun _ => ends_cons _ (by decide) (by decide)) hclose.ends
    (fun a ha => hitem a ha (List.sizeOf_lt_of_mem ha)) has (by omega) rest

theorem enclosed_reads {close : String} (hclose : IsCloser close)
    (hitem : ∀ a ∈ as, sizeOf a < sizeOf as → Reads item (text a) a)
    (hopens : ∀ a ∈ as, Opens (text a)) (hn : sizeOf as ≤ n) (rest : List Char) :
    enclosed item close n
      (List.intercalate ", ".toList (as.map text) ++ (close.toList ++ rest)) = some (as, rest) := by
  by_cases has : as = []
  · subst has
    simp [enclosed]
  · have hnone : after close (List.intercalate ", ".toList (as.map text) ++
        (close.toList ++ rest)) = none := by
      obtain ⟨c, r, hc, hmem⟩ := (hclose.ends []).head
      refine after_eq_none (by simpa using hc) (Opens.head?_ne ?_ (by simp [hmem]))
      obtain ⟨a, as, rfl⟩ := List.exists_cons_of_ne_nil has
      have ha : Opens (text a) := hopens a (by simp)
      cases as with
      | nil => simpa using ha.append _
      | cons b bs => simpa [List.append_assoc] using ha.append _
    rw [enclosed, hnone]
    exact commaSeparated_reads hclose hitem has hn rest

theorem bracketed_reads {close : String} (hclose : IsCloser close)
    (hitem : ∀ a ∈ as, sizeOf a < sizeOf as → Reads item (text a) a) (hn : sizeOf as ≤ n)
    {rest : List Char} (hrest : rest.head? ≠ some '<') :
    bracketed item close n (bracketedText text close as ++ rest) = some (as, rest) := by
  by_cases has : as = []
  · subst has
    have hnone : after "<" rest = none := after_eq_none rfl hrest
    simp [bracketed, bracketedText, hnone]
  · have hsome (s : List Char) : after "<" ('<' :: s) = some s := after_append "<" s
    have hnonempty : as.isEmpty = false := by simpa using has
    simp only [bracketedText, hnonempty, Bool.false_eq_true, if_false, List.cons_append,
      List.append_assoc, bracketed, hsome]
    exact commaSeparated_reads hclose hitem has hn rest

/-- Items on lines of their own are read back, however far the lines are indented. -/
theorem lines_reads {width depth : Nat}
    (hitem : ∀ a ∈ as, sizeOf a < sizeOf as → Reads item (text a) a)
    (hopens : ∀ a ∈ as, Opens (text a)) (hn : sizeOf as ≤ n) (rest : List Char) :
    lines item n (linesText width depth text as ++ rest) = some (as, rest) := by
  have hread : ∀ a ∈ as, Reads item (text a) a := fun a ha =>
    hitem a ha (List.sizeOf_lt_of_mem ha)
  have hlength : as.length < n := Nat.lt_of_lt_of_le (length_lt_sizeOf as) hn
  clear hitem hn
  induction as generalizing n with
  | nil =>
    obtain ⟨n, rfl⟩ : ∃ m, n = m + 1 := ⟨n - 1, by omega⟩
    have hbrace : skipBlanks ('\x7d' :: rest) = '\x7d' :: rest :=
      skipBlanks_of_head? (by simp)
    have hsome : after "\x7d" ('\x7d' :: rest) = some rest := after_append "\x7d" rest
    simp [linesText, lines, hbrace, hsome]
  | cons a as ih =>
    obtain ⟨n, rfl⟩ : ∃ m, n = m + 1 := ⟨n - 1, by omega⟩
    have more := ih (n := n) (fun c hc => hopens c (List.mem_cons_of_mem _ hc))
      (fun c hc => hread c (List.mem_cons_of_mem _ hc)) (by simpa using hlength)
    have ha : Opens (text a) := hopens a (by simp)
    have hbrace (s : List Char) : after "\x7d" (text a ++ s) = none :=
      after_eq_none (c := '\x7d') rfl ((ha.append s).head?_ne (by simp))
    have hblank (s : List Char) : skipBlanks (text a ++ s) = text a ++ s :=
      skipBlanks_of_head? ((ha.append s).head?_ne (by decide))
    have hitem (s : List Char) : item (text a ++ '\n' :: s) = some (a, '\n' :: s) :=
      hread a (by simp) _ (ends_cons s (by decide) (by decide))
    have hline (s : List Char) : after "\n" ('\n' :: s) = some s := after_append "\n" s
    simp only [linesText, List.flatMap_cons, List.append_assoc, List.cons_append,
      List.nil_append] at more ⊢
    simp only [lines, skipBlanks_padding, hblank, hbrace, hitem, hline, more, Option.bind_eq_bind,
      Option.bind_some]

end Lists

end EndpointHooks.TypeScript.Reader
