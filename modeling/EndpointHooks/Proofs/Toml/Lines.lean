import EndpointHooks.Proofs.Toml.Integers
import EndpointHooks.Toml.Document

/-! A document of one table: a header, and below it lines that give a name a value each. The values
are those of one word, and the names are bare and all different. Such a document is read as the
table of that name with the given entries, in the order of the lines. -/

namespace EndpointHooks.Toml

/-- A value of one word: a truth value, letters between quotes, or a decimal integer. -/
inductive LineValue where
  | bool (b : Bool)
  | word (letters : String)
  | int (i : Int)

namespace LineValue

def text : LineValue → String
  | bool b => if b then "true" else "false"
  | word letters => "\"" ++ letters ++ "\""
  | int i => toString i

def scalar : LineValue → Scalar
  | bool b => .bool b
  | word letters => .str letters
  | int i => .int i

/-- Whether words are of letters of ASCII and integers of 64 bits. -/
def IsPlain : LineValue → Prop
  | bool _ => True
  | word letters => ∀ c ∈ letters.toList, c.isAlpha = true
  | int i => -0x8000000000000000 ≤ i ∧ i ≤ 0x7fffffffffffffff

end LineValue

structure IsBareName (name : String) : Prop where
  ne_nil : name.toList ≠ []
  bare : ∀ c ∈ name.toList, isBareChar c = true

instance (name : String) : Decidable (IsBareName name) :=
  decidable_of_iff (name.toList ≠ [] ∧ name.toList.all isBareChar = true)
    ⟨fun h => ⟨h.1, List.all_eq_true.mp h.2⟩, fun h => ⟨h.ne_nil, List.all_eq_true.mpr h.bare⟩⟩

structure Line where
  name : String
  value : LineValue

theorem LineValue.toList_text_word (letters : String) :
    (word letters).text.toList = '"' :: (letters.toList ++ ['"']) := by
  simp [text]

namespace Line

def text (line : Line) : String := line.name ++ " = " ++ line.value.text

structure IsPlain (line : Line) : Prop where
  name : IsBareName line.name
  value : line.value.IsPlain

end Line

/-- The text of a table. The last line may have an end or not. -/
def tableText (header : String) (lines : List Line) (ended : Bool) : String :=
  "[" ++ header ++ "]" ++ String.join (lines.map fun line => "\n" ++ line.text) ++
    if ended then "\n" else ""

variable {rest : List Char} {c : Char}

/-! ### Values -/

theorem lineString_append {s : List Char} (hs : ∀ c ∈ s, c.isAlpha = true) :
    lineString '"' (s ++ '"' :: rest) = some (s, rest) := by
  induction s with
  | nil => rw [List.nil_append, lineString, if_pos rfl]
  | cons c s ih =>
    obtain ⟨hc, hs⟩ := List.forall_mem_cons.mp hs
    have hquote : c ≠ '"' := Text.ne_of_test hc (by decide)
    have hslash : c ≠ '\\' := Text.ne_of_test hc (by decide)
    have hplain : isPlain c = true := by
      have hdelete : c ≠ '\x7f' := Text.ne_of_test hc (by decide)
      have hcode := Unicode.isAlpha_iff.mp hc
      simp only [isPlain, Bool.or_eq_true, Bool.and_eq_true, decide_eq_true_eq, bne_iff_ne]
      exact .inr ⟨by omega, hdelete⟩
    rw [List.cons_append, lineString, if_neg hquote, if_neg (by simp [hslash]), if_pos hplain,
      ih hs]
    rfl

/-- Letters between quotes are a string of one line, and no letters are no three quotes. -/
theorem string?_append {s : List Char} (hs : ∀ c ∈ s, c.isAlpha = true) (hrest : AtLineEnd rest) :
    string? ('"' :: (s ++ '"' :: rest)) = some (s, rest) := by
  have honeLine : oneLineString? ('"' :: (s ++ '"' :: rest)) = some (s, rest) :=
    lineString_append hs
  unfold string?
  split
  case h_1 a b c r h =>
    obtain ⟨rfl, htail⟩ := List.cons_eq_cons.mp h
    rw [if_neg]
    · exact honeLine
    · rintro ⟨-, rfl, rfl⟩
      cases s with
      | nil =>
        obtain rfl : rest = '"' :: r := (List.cons_eq_cons.mp htail).2
        exact absurd (hrest '"' rfl) (by decide)
      | cons d s =>
        obtain rfl : d = '"' := (List.cons_eq_cons.mp htail).1
        exact absurd (hs '"' List.mem_cons_self) (by decide)
  case h_2 => exact honeLine

theorem head_integer (i : Int) :
    ∃ c r, (toString i).toList = c :: r ∧ (c = '-' ∨ c.isDigit = true) := by
  rcases Text.toList_toString_int i with ⟨n, -, htext⟩ | ⟨n, -, -, htext⟩
  · have whole := Json.wholePart_toDigits n
    obtain ⟨c, r, hc⟩ := List.exists_cons_of_ne_nil whole.ne_nil
    exact ⟨c, r, htext.trans hc, .inr (whole.all c (by simp [hc]))⟩
  · exact ⟨'-', _, htext, .inl rfl⟩

theorem scalar?_append {v : LineValue} (hv : v.IsPlain) (hrest : AtLineEnd rest) :
    scalar? (v.text.toList ++ rest) = some (v.scalar, rest) := by
  cases v with
  | bool b => cases b <;> rfl
  | word letters =>
    have hstring := string?_append hv hrest
    rw [LineValue.toList_text_word, List.cons_append, List.append_assoc, List.singleton_append,
      scalar?, if_pos (by decide), hstring]
    simp [LineValue.scalar]
  | int i =>
    obtain ⟨c, r, hc, hhead⟩ := head_integer i
    have hquote : isQuote c = false := by
      rcases hhead with rfl | hdigit
      · decide
      · have hbasic : c ≠ '"' := Text.ne_of_test hdigit (by decide)
        have hliteral : c ≠ '\'' := Text.ne_of_test hdigit (by decide)
        simp [isQuote, basicQuote, literalQuote, hbasic, hliteral]
    have hnumeral := numeral?_toString hv.1 hv.2 hrest
    rw [LineValue.text]
    rw [hc, List.cons_append] at hnumeral ⊢
    rw [scalar?, if_neg (by simp [hquote]), if_pos (by tauto), hnumeral]
    rfl

/-- A value starts with a character that is no blank and opens no bracket. -/
theorem head_value (v : LineValue) :
    ∃ c r, v.text.toList = c :: r ∧ c ∉ [' ', '\t', '[', '\x7b'] := by
  cases v with
  | bool b => cases b <;> exact ⟨_, _, rfl, by decide⟩
  | word letters => exact ⟨'"', _, LineValue.toList_text_word letters, by decide⟩
  | int i =>
    obtain ⟨c, r, hc, hhead⟩ := head_integer i
    refine ⟨c, r, hc, ?_⟩
    rcases hhead with rfl | hdigit
    · decide
    · intro hmem
      have hnone : [' ', '\t', '[', '\x7b'].all (!Char.isDigit ·) = true := by decide
      simpa [hdigit] using List.all_eq_true.mp hnone c hmem

theorem value?_append {v : LineValue} (hv : v.IsPlain) (hrest : AtLineEnd rest) (depth : Nat) :
    ∃ span, value? depth (v.text.toList ++ rest) = some (.scalar span v.scalar, rest) := by
  have hscalar := scalar?_append hv hrest
  obtain ⟨c, r, hc, hhead⟩ := head_value v
  have hbracket : ¬(c = '[' ∨ c = '\x7b') := by simp_all
  rw [hc, List.cons_append] at hscalar ⊢
  rw [value?.eq_def]
  simp [hbracket, hscalar]

theorem skipBlanks_value (v : LineValue) (s : List Char) :
    skipBlanks (' ' :: (v.text.toList ++ s)) = v.text.toList ++ s := by
  obtain ⟨c, r, hc, hhead⟩ := head_value v
  have hblank : isBlank c = false := by simp_all [isBlank]
  have hspace : isBlank ' ' = true := rfl
  simp [hc, skipBlanks, hspace, hblank]

/-! ### Keys -/

theorem skipBlanks_of_isBareChar (hc : isBareChar c = true) (s : List Char) :
    skipBlanks (c :: s) = c :: s := by
  have hspace : c ≠ ' ' := Text.ne_of_test hc (by decide)
  have htab : c ≠ '\t' := Text.ne_of_test hc (by decide)
  simp [skipBlanks, isBlank, hspace, htab]

theorem nameChars?_append {name : List Char} (hne : name ≠ [])
    (hname : ∀ c ∈ name, isBareChar c = true) (hrest : ∀ c ∈ rest.head?, isBareChar c = false) :
    nameChars? (name ++ rest) = some (name, rest) := by
  have htake : (name ++ rest).takeWhile isBareChar = name := by
    rw [List.takeWhile_append_of_pos hname]
    cases rest with
    | nil => simp
    | cons c rest => simp [hrest c rfl]
  have hdrop : (name ++ rest).dropWhile isBareChar = rest := by
    rw [List.dropWhile_append_of_pos hname]
    cases rest with
    | nil => rfl
    | cons c rest => simp [hrest c rfl]
  obtain ⟨c, s, rfl⟩ := List.exists_cons_of_ne_nil hne
  have hc := hname c List.mem_cons_self
  have hbasic : c ≠ '"' := Text.ne_of_test hc (by decide)
  have hliteral : c ≠ '\'' := Text.ne_of_test hc (by decide)
  rw [List.cons_append] at htake hdrop ⊢
  rw [nameChars?, htake, hdrop]
  simp [isQuote, basicQuote, literalQuote, hbasic, hliteral]

/-- A bare name is a key of its own unless a dot goes on with it. -/
theorem key?_append {name : String} (hname : IsBareName name) (rest : List Char)
    (hrest : ∀ c ∈ rest.head?, isBareChar c = false) (hdot : (skipBlanks rest).head? ≠ some '.') :
    ∃ key, key.name = name ∧ key? (name.toList ++ rest) = some ([], key, skipBlanks rest) := by
  have hchars := nameChars?_append hname.ne_nil hname.bare hrest
  have hblanks : skipBlanks (name.toList ++ rest) = name.toList ++ rest := by
    obtain ⟨c, s, hc⟩ := List.exists_cons_of_ne_nil hname.ne_nil
    rw [hc]
    exact skipBlanks_of_isBareChar (hname.bare c (by simp [hc])) _
  have hnames (fuel : Nat) : ∃ key, key.name = name ∧
      namesFrom? (fuel + 1) (name.toList ++ rest) = some ([key], skipBlanks rest) := by
    refine ⟨⟨name, .between (name.toList ++ rest) rest⟩, rfl, ?_⟩
    rw [namesFrom?, hblanks]
    simp only [name?, hchars, Option.bind_eq_bind, Option.bind_some, String.ofList_toList]
    split
    case h_1 s hs => exact absurd (by rw [hs]; rfl) hdot
    case h_2 => rfl
  obtain ⟨key, hkey, hnames⟩ := hnames (name.toList ++ rest).length
  exact ⟨key, hkey, by rw [key?, hnames]; rfl⟩

/-! ### Lines -/

theorem finishLine?_newline (s : List Char) : finishLine? ('\n' :: s) = some s := rfl

theorem AtLineEnd.finishLine? (h : AtLineEnd rest) :
    Toml.finishLine? rest = some rest.tail := by
  cases rest with
  | nil => rfl
  | cons c rest =>
    obtain rfl : c = '\n' := h c rfl
    exact finishLine?_newline rest

theorem line?_append {line : Line} (h : line.IsPlain) (hrest : AtLineEnd rest) :
    ∃ key span, key.name = line.name ∧ line? (line.text.toList ++ rest) =
      some ([], key, .scalar span line.value.scalar, rest.tail) := by
  have htext : line.text.toList ++ rest =
      line.name.toList ++ (' ' :: '=' :: ' ' :: (line.value.text.toList ++ rest)) := by
    simp [Line.text]
  obtain ⟨key, hname, hkey⟩ :=
    key?_append h.name (' ' :: '=' :: ' ' :: (line.value.text.toList ++ rest))
      (by simp [isBareChar]) (by simp [skipBlanks, isBlank])
  obtain ⟨span, hvalue⟩ := value?_append h.value hrest (nestingLimit - 1)
  have hequals : skipBlanks (' ' :: '=' :: ' ' :: (line.value.text.toList ++ rest)) =
      '=' :: ' ' :: (line.value.text.toList ++ rest) := rfl
  refine ⟨key, span, hname, ?_⟩
  rw [hequals] at hkey
  simp only [htext, line?, hkey, expect?, if_pos, skipBlanks_value, hvalue, hrest.finishLine?,
    Option.bind_eq_bind, Option.bind_some]

/-! ### Tables -/

/-- What follows the header of a table, or one of its lines. -/
def following (lines : List Line) (ended : Bool) : List Char :=
  lines.flatMap (fun line => '\n' :: line.text.toList) ++ if ended then ['\n'] else []

theorem toList_tableText (header : String) (lines : List Line) (ended : Bool) :
    (tableText header lines ended).toList =
      '[' :: (header.toList ++ ']' :: following lines ended) := by
  have hjoin : (String.join (lines.map fun line => "\n" ++ line.text)).toList =
      lines.flatMap fun line => '\n' :: line.text.toList := by
    induction lines with
    | nil => rfl
    | cons line lines ih => simp [ih]
  cases ended <;> simp [tableText, following, hjoin]

theorem following_cons (line : Line) (lines : List Line) (ended : Bool) :
    following (line :: lines) ended = '\n' :: (line.text.toList ++ following lines ended) := by
  simp [following]

theorem length_le_following (lines : List Line) (ended : Bool) :
    lines.length ≤ (following lines ended).length := by
  induction lines with
  | nil => simp
  | cons line lines ih =>
    rw [following_cons]
    simp only [List.length_cons, List.length_append]
    omega

theorem atLineEnd_following (lines : List Line) (ended : Bool) :
    AtLineEnd (following lines ended) := by
  cases lines with
  | nil => cases ended <;> simp [following, AtLineEnd]
  | cons line lines => simp [following_cons, AtLineEnd]

/-- Whether an entry has the name and the value of a line, wherever the line stands. -/
def IsEntryOf (entry : Key × Node) (line : Line) : Prop :=
  entry.1.name = line.name ∧ ∃ span, entry.2 = .scalar span line.value.scalar

def AreEntriesOf (entries : Entries) (lines : List Line) : Prop :=
  List.Forall₂ IsEntryOf entries lines

theorem AreEntriesOf.map_name {entries : Entries} {lines : List Line}
    (h : AreEntriesOf entries lines) : entries.map (·.1.name) = lines.map Line.name := by
  induction h with
  | nil => rfl
  | cons hentry _ ih => rw [List.map_cons, List.map_cons, hentry.1, ih]

theorem find?_eq_none {entries : Entries} {name : String}
    (h : name ∉ entries.map (·.1.name)) : entries.find? name = none := by
  rw [Entries.find?, Option.map_eq_none_iff, List.find?_eq_none]
  intro entry hentry hname
  exact h (List.mem_map.mpr ⟨entry, hentry, by simpa using hname⟩)

/-- A line with a new name adds its entry at the end of the open table. -/
theorem Progress.addLine_new {p : Progress} {key : Key} (node : Node)
    (h : key.name ∉ p.entries.map (·.1.name)) :
    ∃ q, p.addLine [] key node = some q ∧ q.root = p.root ∧ q.header = p.header ∧
      q.entries = p.entries ++ [(key, node)] := by
  have hadd : Toml.addLine .dotted [] key node .header p.entries =
      some (p.entries ++ [(key, node)]) := by
    simp [Toml.addLine, changeAt, TableForm.isDotted, addNew, find?_eq_none h]
  simp [Progress.addLine, hadd]

theorem linesFrom?_line {fuel : Nat} {p : Progress} {line : Line} (h : line.IsPlain) :
    linesFrom? (fuel + 1) p (line.text.toList ++ rest) =
      (line? (line.text.toList ++ rest)).bind fun l =>
        (p.addLine l.1 l.2.1 l.2.2.1).bind fun q => linesFrom? fuel q l.2.2.2 := by
  obtain ⟨c, s, hc⟩ := List.exists_cons_of_ne_nil h.name.ne_nil
  have hbare : isBareChar c = true := h.name.bare c (by simp [hc])
  have hcomment : c ≠ '#' := Text.ne_of_test hbare (by decide)
  have hfeed : c ≠ '\n' := Text.ne_of_test hbare (by decide)
  have hreturn : c ≠ '\r' := Text.ne_of_test hbare (by decide)
  have hbracket : c ≠ '[' := Text.ne_of_test hbare (by decide)
  obtain ⟨r, hr⟩ : ∃ r, line.text.toList ++ rest = c :: r := by simp [Line.text, hc]
  rw [hr, linesFrom?, skipBlanks_of_isBareChar hbare]
  simp [hcomment, hfeed, hreturn, hbracket]

/-- The lines below a header are read as entries of its table, one after the other. -/
theorem linesFrom?_following {lines before : List Line} {fuel : Nat} (p : Progress)
    (hp : AreEntriesOf p.entries before) (hplain : ∀ line ∈ lines, line.IsPlain)
    (hnames : ((before ++ lines).map Line.name).Nodup) (ended : Bool)
    (hfuel : lines.length < fuel) :
    ∃ q, linesFrom? fuel p (following lines ended).tail = some q ∧ q.root = p.root ∧
      q.header = p.header ∧ AreEntriesOf q.entries (before ++ lines) := by
  induction lines generalizing before fuel p with
  | nil =>
    obtain ⟨fuel, rfl⟩ : ∃ n, fuel = n + 1 := ⟨fuel - 1, by simp at hfuel; omega⟩
    have hnothing : (following [] ended).tail = [] := by cases ended <;> rfl
    exact ⟨p, by rw [hnothing, linesFrom?]; rfl, rfl, rfl, by simpa using hp⟩
  | cons line lines ih =>
    obtain ⟨fuel, rfl⟩ : ∃ n, fuel = n + 1 := ⟨fuel - 1, by simp at hfuel; omega⟩
    obtain ⟨hline, hplain⟩ := List.forall_mem_cons.mp hplain
    obtain ⟨key, span, hkey, hread⟩ := line?_append hline (atLineEnd_following lines ended)
    have hnew : key.name ∉ p.entries.map (·.1.name) := by
      rw [hp.map_name, hkey]
      rw [List.map_append, List.map_cons] at hnames
      exact fun hmem => (List.nodup_append.mp hnames).2.2 _ hmem _ List.mem_cons_self rfl
    obtain ⟨q, hadd, hroot, hheader, hentries⟩ :=
      p.addLine_new (.scalar span line.value.scalar) hnew
    have hq : AreEntriesOf q.entries (before ++ [line]) := by
      rw [hentries]
      exact List.rel_append hp (.cons ⟨hkey, span, rfl⟩ .nil)
    have hlonger : lines.length < fuel := by simpa using hfuel
    obtain ⟨last, hlast, hroot', hheader', hentries'⟩ :=
      ih q hq hplain (by simpa using hnames) hlonger
    refine ⟨last, ?_, hroot'.trans hroot, hheader'.trans hheader, by simpa using hentries'⟩
    rw [following_cons, List.tail_cons, linesFrom?_line hline, hread]
    simp only [Option.bind_some, hadd, hlast]

theorem header?_append {header : String} (h : IsBareName header) (hrest : AtLineEnd rest) :
    ∃ key span, key.name = header ∧
      header? ('[' :: (header.toList ++ ']' :: rest)) =
        some (⟨[], key, false⟩, span, rest.tail) := by
  obtain ⟨key, hkey, hread⟩ := key?_append h (']' :: rest) (by simp [isBareChar])
    (by simp [skipBlanks, isBlank])
  have hclose : skipBlanks (']' :: rest) = ']' :: rest := rfl
  refine ⟨key, .between ('[' :: (header.toList ++ ']' :: rest)) rest, hkey, ?_⟩
  unfold header?
  split
  case h_1 r hr =>
    obtain ⟨c, s, hc⟩ := List.exists_cons_of_ne_nil h.ne_nil
    have hbare : isBareChar c = true := h.bare c (by simp [hc])
    rw [hc, List.cons_append] at hr
    obtain rfl : c = '[' := (List.cons_eq_cons.mp (List.cons_eq_cons.mp hr).2).1
    exact absurd hbare (by decide)
  case h_2 r _ hr =>
    obtain rfl := (List.cons_eq_cons.mp hr).2
    simp only [hread, hclose, expect?, if_pos, hrest.finishLine?, Option.bind_eq_bind,
      Option.bind_some]
  case h_3 hother => exact absurd rfl (hother _)

/-- A table of lines with different names is read as the one table of the document. -/
theorem document?_tableText {header : String} {lines : List Line} (hheader : IsBareName header)
    (hplain : ∀ line ∈ lines, line.IsPlain) (hnames : (lines.map Line.name).Nodup)
    (ended : Bool) :
    ∃ key span entries, document? (tableText header lines ended).toList =
      some [(key, .table .header span entries)] ∧ key.name = header ∧
        AreEntriesOf entries lines := by
  obtain ⟨key, span, hkey, hread⟩ := header?_append hheader (atLineEnd_following lines ended)
  have hopen : Progress.start.open? ⟨[], key, false⟩ span =
      some ⟨[], some ⟨[], key, false⟩, some span, []⟩ := rfl
  have hfuel : lines.length < (tableText header lines ended).toList.length := by
    have hlength := length_le_following lines ended
    rw [toList_tableText]
    simp only [List.length_cons, List.length_append]
    omega
  obtain ⟨q, hlines, hroot, hopened, hentries⟩ := linesFrom?_following
    ⟨[], some ⟨[], key, false⟩, some span, []⟩ .nil hplain hnames ended hfuel
  have hclose : q.close = some [(key, .table .header q.span q.entries)] := by
    rw [Progress.close, hopened]
    simp [addTable, changeAt, addNew, hroot, Entries.find?]
  refine ⟨key, q.span, q.entries, ?_, hkey, hentries⟩
  rw [toList_tableText] at hlines ⊢
  have hmark : dropMark ('[' :: (header.toList ++ ']' :: following lines ended)) =
      '[' :: (header.toList ++ ']' :: following lines ended) := rfl
  have hblanks (s : List Char) : skipBlanks ('[' :: s) = '[' :: s := rfl
  rw [document?, hmark, linesFrom?, hblanks]
  have hheaded : ¬('[' = '#' ∨ '[' = '\n' ∨ '[' = '\r') := by decide
  simp only [hheaded, if_false, if_true, hread, hopen, hlines, hclose, Option.bind_eq_bind,
    Option.bind_some]

end EndpointHooks.Toml
