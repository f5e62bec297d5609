import Mathlib.Data.List.Basic

/-! The braces of a text and the blanks before its lines. A scan goes through a text, passes over
the literals between double quotes and counts the braces that are open. A text is indented by its
braces if it closes all that it opens and no more, and if as many levels of blanks stand before
every line as braces are open there, one less before a line that starts with a closing brace.

Whether the last line of a part of a text is indented depends on what follows the part, so the
statements about parts speak of the text after them. -/

namespace EndpointHooks.Text

/-- Where a scan is: in the code, in a literal, or after a backslash in a literal. -/
inductive Place where
  | code
  | literal
  | escape
  deriving DecidableEq

def Place.next : Place → Char → Place
  | code, c => if c = '"' then literal else code
  | literal, c => if c = '\\' then escape else if c = '"' then code else literal
  | escape, _ => literal

/-- A scan: where it is, and how many braces more have been opened than closed. -/
structure Scan where
  place : Place
  count : Int
  deriving DecidableEq

def braceWeight (c : Char) : Int := if c = '\x7b' then 1 else if c = '\x7d' then -1 else 0

namespace Scan

/-- The scan of code that some braces are open around. -/
def inside (count : Nat) : Scan := ⟨.code, count⟩

/-- Braces count only in the code. -/
def step (s : Scan) (c : Char) : Scan :=
  ⟨s.place.next c, if s.place = .code then s.count + braceWeight c else s.count⟩

def run (s : Scan) (text : List Char) : Scan := text.foldl step s

@[simp] theorem run_nil (s : Scan) : s.run [] = s := rfl

@[simp] theorem run_cons (s : Scan) (c : Char) (text : List Char) :
    s.run (c :: text) = (s.step c).run text := rfl

@[simp] theorem run_append (s : Scan) (t u : List Char) : s.run (t ++ u) = (s.run t).run u :=
  List.foldl_append

end Scan

/-- Whether a line with a number of open braces before it starts with a level of blanks for each,
one less before a closing brace, and then with something else than a blank. -/
def Indented (width : Nat) (count : Int) (line : List Char) : Prop :=
  ∃ (level : Nat) (c : Char) (rest : List Char),
    line = List.replicate (width * level) ' ' ++ c :: rest ∧ c ≠ ' ' ∧
      (level : Int) = if c = '\x7d' then count - 1 else count

/-- A text with some braces open around it that is indented by its braces: the scan of it ends where
it started, at no place are fewer braces open, and every line but the first is indented, unless it
is empty and the last. -/
structure IndentedByBraces (width depth : Nat) (text : List Char) : Prop where
  balanced : (Scan.inside depth).run text = .inside depth
  never_below : ∀ front back, text = front ++ back → depth ≤ ((Scan.inside depth).run front).count
  lines : ∀ front back, text = front ++ '\n' :: back → back ≠ [] →
    Indented width ((Scan.inside depth).run (front ++ ['\n'])).count back

/-! ### Parts of a text -/

/-- A part of a text, before some more of it, in which no fewer braces are open than a number and
every line end is followed by an indented line, unless the text ends there. -/
def KeepsIndent (width : Nat) (least : Int) (after : List Char) : Scan → List Char → Prop
  | s, [] => least ≤ s.count
  | s, c :: text => least ≤ s.count ∧
      (c = '\n' → text ++ after = [] ∨ Indented width (s.step c).count (text ++ after)) ∧
      KeepsIndent width least after (s.step c) text

variable {width depth : Nat} {least : Int} {s : Scan} {after t u : List Char}

theorem KeepsIndent.least_le (h : KeepsIndent width least after s t) : least ≤ s.count := by
  cases t with
  | nil => exact h
  | cons c t => exact h.1

theorem keepsIndent_append : KeepsIndent width least after s (t ++ u) ↔
    KeepsIndent width least (u ++ after) s t ∧ KeepsIndent width least after (s.run t) u := by
  induction t generalizing s with
  | nil => exact ⟨fun h => ⟨h.least_le, h⟩, fun h => h.2⟩
  | cons c t ih =>
    simp only [List.cons_append, KeepsIndent, ih, List.append_assoc, Scan.run_cons, and_assoc]

theorem KeepsIndent.mono {least' : Int} (h : KeepsIndent width least after s t)
    (hle : least' ≤ least) : KeepsIndent width least' after s t := by
  induction t generalizing s with
  | nil => exact Int.le_trans hle h
  | cons c t ih => exact ⟨Int.le_trans hle h.1, h.2.1, ih h.2.2⟩

theorem indentedByBraces_of_keepsIndent (h : KeepsIndent width depth [] (.inside depth) t)
    (hend : (Scan.inside depth).run t = .inside depth) : IndentedByBraces width depth t where
  balanced := hend
  never_below front back htext := by
    rw [htext, keepsIndent_append] at h
    exact h.2.least_le
  lines front back htext hback := by
    rw [htext, keepsIndent_append] at h
    obtain ⟨-, -, hline, -⟩ := h
    have hindented := (hline rfl).resolve_left (by simpa using hback)
    simpa using hindented

/-- A part of a line, which may hold whole lines: whatever follows it, its own lines are indented,
and a scan comes out of it as it went in and finds no fewer braces open on the way. -/
structure InlineBraces (width : Nat) (s : Scan) (text : List Char) : Prop where
  keepsIndent : ∀ after, KeepsIndent width s.count after s text
  balanced : s.run text = s

/-- What may follow whole lines: nothing, or a line that is indented. -/
def LineFollows (width depth : Nat) (after : List Char) : Prop :=
  after = [] ∨ Indented width depth after

/-- Whole lines with some braces open around them. -/
structure LinesInBraces (width depth : Nat) (text : List Char) : Prop where
  keepsIndent : ∀ after, LineFollows width depth after →
    KeepsIndent width depth after (.inside depth) text
  balanced : (Scan.inside depth).run text = .inside depth
  follows : ∀ after, LineFollows width depth after → LineFollows width depth (text ++ after)

theorem InlineBraces.indentedByBraces (h : InlineBraces width (.inside depth) t) :
    IndentedByBraces width depth t :=
  indentedByBraces_of_keepsIndent (h.keepsIndent []) h.balanced

theorem LinesInBraces.indentedByBraces (h : LinesInBraces width depth t) :
    IndentedByBraces width depth t :=
  indentedByBraces_of_keepsIndent (h.keepsIndent [] (.inl rfl)) h.balanced

theorem inlineBraces_nil : InlineBraces width s [] := ⟨fun _ => Int.le_refl s.count, rfl⟩

theorem InlineBraces.append (ht : InlineBraces width s t) (hu : InlineBraces width s u) :
    InlineBraces width s (t ++ u) where
  keepsIndent after := by
    rw [keepsIndent_append, ht.balanced]
    exact ⟨ht.keepsIndent _, hu.keepsIndent _⟩
  balanced := by rw [Scan.run_append, ht.balanced, hu.balanced]

theorem inlineBraces_flatMap {α : Type} {f : α → List Char} {as : List α}
    (h : ∀ a ∈ as, InlineBraces width s (f a)) : InlineBraces width s (as.flatMap f) := by
  induction as with
  | nil => exact inlineBraces_nil
  | cons a as ih =>
    obtain ⟨ha, has⟩ := List.forall_mem_cons.mp h
    exact ha.append (ih has)

theorem linesInBraces_nil : LinesInBraces width depth [] :=
  ⟨fun _ _ => Int.le_refl depth, rfl, fun _ h => h⟩

theorem LinesInBraces.append (ht : LinesInBraces width depth t)
    (hu : LinesInBraces width depth u) : LinesInBraces width depth (t ++ u) where
  keepsIndent after h := by
    rw [keepsIndent_append, ht.balanced]
    exact ⟨ht.keepsIndent _ (hu.follows after h), hu.keepsIndent after h⟩
  balanced := by rw [Scan.run_append, ht.balanced, hu.balanced]
  follows after h := by
    rw [List.append_assoc]
    exact ht.follows _ (hu.follows after h)

/-! ### Characters that a scan passes over -/

/-- Whether a character neither starts a literal nor ends a line and is no brace. -/
def isPlain (c : Char) : Bool := c != '"' && c != '\n' && c != '\x7b' && c != '\x7d'

theorem inlineBraces_char {c : Char} (hstep : s.step c = s) (hc : c ≠ '\n') :
    InlineBraces width s [c] where
  keepsIndent after := by
    refine ⟨Int.le_refl s.count, fun hnewline => absurd hnewline hc, ?_⟩
    rw [hstep]
    exact Int.le_refl s.count
  balanced := hstep

theorem inlineBraces_of_plain (h : t.all isPlain = true) :
    InlineBraces width (.inside depth) t := by
  induction t with
  | nil => exact inlineBraces_nil
  | cons c t ih =>
    rw [List.all_cons, Bool.and_eq_true] at h
    obtain ⟨hc, ht⟩ := h
    simp only [isPlain, Bool.and_eq_true, bne_iff_ne] at hc
    obtain ⟨⟨⟨hquote, hnewline⟩, hopen⟩, hclose⟩ := hc
    have hstep : (Scan.inside depth).step c = .inside depth := by
      simp [Scan.step, Scan.inside, Place.next, braceWeight, hquote, hopen, hclose]
    exact (inlineBraces_char hstep hnewline).append (ih ht)

/-- A literal is passed over, with whatever stands between its quotes and does not end it. -/
theorem InlineBraces.quoted (h : InlineBraces width ⟨.literal, depth⟩ t) :
    InlineBraces width (.inside depth) ('"' :: t ++ ['"']) := by
  have hopen : (Scan.inside depth).step '"' = ⟨.literal, depth⟩ := by
    simp [Scan.step, Scan.inside, Place.next, braceWeight]
  have hclose : (Scan.mk .literal depth).step '"' = .inside depth := by
    simp [Scan.step, Scan.inside, Place.next]
  constructor
  · intro after
    rw [keepsIndent_append, Scan.run_cons, hopen, h.balanced]
    refine ⟨⟨Int.le_refl depth, by simp, ?_⟩, Int.le_refl depth, by simp, ?_⟩
    · rw [hopen]
      exact h.keepsIndent _
    · rw [hclose]
      exact Int.le_refl depth
  · simp only [Scan.run_append, Scan.run_cons, hopen, h.balanced, hclose, Scan.run_nil]

/-! ### Lines and blocks -/

/-- Whether a text can stand at the start of a line: it starts neither with a blank nor with a
closing brace. -/
def StartsLine (text : List Char) : Prop := ∃ c rest, text = c :: rest ∧ c ≠ ' ' ∧ c ≠ '\x7d'

theorem StartsLine.append (h : StartsLine t) (u : List Char) : StartsLine (t ++ u) := by
  obtain ⟨c, rest, rfl, hc⟩ := h
  exact ⟨c, rest ++ u, rfl, hc⟩

theorem inlineBraces_blanks (n : Nat) :
    InlineBraces width (.inside depth) (List.replicate n ' ') :=
  inlineBraces_of_plain (List.all_eq_true.mpr fun c hc => by
    rw [List.eq_of_mem_replicate hc]
    decide)

theorem step_newline (depth : Nat) : (Scan.inside depth).step '\n' = .inside depth := by
  show Scan.mk .code (depth + 0) = Scan.mk .code depth
  rw [Int.add_zero]

theorem step_open (depth : Nat) : (Scan.inside depth).step '\x7b' = .inside (depth + 1) := rfl

theorem step_close (depth : Nat) : (Scan.inside (depth + 1)).step '\x7d' = .inside depth := by
  have hcount : ((depth + 1 : Nat) : Int) + -1 = depth := by omega
  show Scan.mk .code ((depth + 1 : Nat) + -1) = Scan.mk .code depth
  rw [hcount]

/-- Blanks, a part of a line and a line end make up a whole line. -/
theorem InlineBraces.line (h : InlineBraces width (.inside depth) t) (hstart : StartsLine t) :
    LinesInBraces width depth (List.replicate (width * depth) ' ' ++ t ++ ['\n']) := by
  have hline : InlineBraces width (.inside depth) (List.replicate (width * depth) ' ' ++ t) :=
    (inlineBraces_blanks _).append h
  constructor
  · intro after hafter
    rw [keepsIndent_append, hline.balanced]
    refine ⟨hline.keepsIndent _, Int.le_refl depth, fun _ => ?_, ?_⟩
    · rw [step_newline]
      exact hafter
    · rw [step_newline]
      exact Int.le_refl depth
  · rw [Scan.run_append, hline.balanced, Scan.run_cons, step_newline, Scan.run_nil]
  · intro after _
    obtain ⟨c, rest, rfl, hblank, hclose⟩ := hstart
    refine .inr ⟨depth, c, rest ++ ['\n'] ++ after, ?_, hblank, ?_⟩
    · simp
    · rw [if_neg hclose]

/-- Lines between braces, the closing one indented like the line of the opening one. -/
theorem LinesInBraces.block (h : LinesInBraces width (depth + 1) t) :
    InlineBraces width (.inside depth)
      ('\x7b' :: '\n' :: (t ++ (List.replicate (width * depth) ' ' ++ ['\x7d']))) := by
  have hblanks : InlineBraces width (.inside (depth + 1)) (List.replicate (width * depth) ' ') :=
    inlineBraces_blanks _
  have hle : (depth : Int) ≤ (depth + 1 : Nat) := by omega
  constructor
  · intro after
    have hend : LineFollows width (depth + 1)
        (List.replicate (width * depth) ' ' ++ ['\x7d'] ++ after) :=
      .inr ⟨depth, '\x7d', after, by simp, by decide, by simp⟩
    refine ⟨Int.le_refl depth, by simp, ?_⟩
    rw [step_open]
    refine ⟨hle, fun _ => ?_, ?_⟩
    · rw [step_newline, List.append_assoc]
      exact h.follows _ hend
    · rw [step_newline, keepsIndent_append, keepsIndent_append, h.balanced, hblanks.balanced]
      refine ⟨?_, (hblanks.keepsIndent _).mono hle, hle, by simp, ?_⟩
      · exact (h.keepsIndent _ hend).mono hle
      · rw [step_close]
        exact Int.le_refl depth
  · simp only [Scan.run_cons, Scan.run_append, step_open, step_newline, h.balanced,
      hblanks.balanced, step_close, Scan.run_nil]

/-- Braces with nothing in them. -/
theorem inlineBraces_emptyBlock : InlineBraces width (.inside depth) ['\x7b', '\x7d'] := by
  have hle : (depth : Int) ≤ (depth + 1 : Nat) := by omega
  constructor
  · intro after
    refine ⟨Int.le_refl depth, by simp, ?_⟩
    rw [step_open]
    refine ⟨hle, by simp, ?_⟩
    rw [step_close]
    exact Int.le_refl depth
  · rw [Scan.run_cons, Scan.run_cons, step_open, step_close, Scan.run_nil]

end EndpointHooks.Text
