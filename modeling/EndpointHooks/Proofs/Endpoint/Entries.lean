import EndpointHooks.Generation
import EndpointHooks.Proofs.Json.Writing

/-! The members of a document and what kinds of values they may have. -/

namespace EndpointHooks

open Json

namespace Document

variable {α β : Type} {fails : Prop} {first : Bool} {rest : List Char}

section

variable {Name : α → List Char → Prop} {Value : β → List Char → Prop} {Named : α → String → Prop}

/-- The fields of an entry, for a statement about what is read so far and the members to come that
each member keeps up. -/
theorem entryFields_listed (Inv : List (α × β) → Endpoint → Prop)
    (named : ∀ a n, Name a n → ∀ rest, Leaves fails (Named a) rest (stringRest (n ++ '"' :: rest)))
    (step : ∀ {a v ms e name b b' t rest}, Named a name → Value v t → Inv ((a, v) :: ms) e →
      Blank b → Blank b' → EndsNumber rest →
      Leaves fails (Inv ms) rest (entryField e name (b ++ ':' :: (b' ++ (t ++ rest)))))
    {ms : List (α × β)} {s : List Char} (h : Listed (Member Name Value) first ms s) {fuel : Nat}
    (enough : ms.length < fuel) {e : Endpoint} (inv : Inv ms e) (rest : List Char) :
    Leaves fails (Inv []) rest (entryFields fuel first e (s ++ '\x7d' :: rest)) := by
  induction h generalizing fuel e with
  | done blank =>
    obtain ⟨fuel, rfl⟩ := Nat.exists_eq_add_one.mpr (Nat.zero_lt_of_lt enough)
    simp only [entryFields, nextField?_close blank, bind, Except.bind]
    rw [afterClose_append blank (by decide)]
    exact .of_ok inv
  | item lead member more ih =>
    obtain ⟨fuel, rfl⟩ := Nat.exists_eq_add_one.mpr (Nat.zero_lt_of_lt enough)
    obtain ⟨hn, before, after, ht⟩ := member
    simp only [List.append_assoc, List.cons_append]
    rw [entryFields, nextField?_lead lead]
    refine Leaves.bind (named _ _ hn _) fun name hname => ?_
    have ends := more.endsNumber (.inr rfl) rest
    refine Leaves.bind (step hname ht inv before after ends) fun e' inv' => ?_
    exact ih (Nat.lt_of_succ_lt_succ enough) inv'

/-- The entries of a document, for any statement about single entries. -/
theorem entries_listed {Post : α → β → Endpoint → Prop}
    (named : ∀ a n, Name a n → ∀ rest, Leaves fails (Named a) rest (stringRest (n ++ '"' :: rest)))
    (takes : ∀ a v t key, Named a key → Value v t → Takes fails (Post a v) (entry key) t)
    {ms : List (α × β)} {s : List Char} (h : Listed (Member Name Value) first ms s) {fuel : Nat}
    (enough : ms.length < fuel) (rest : List Char) :
    Leaves fails (List.Forall₂ (fun m => Post m.1 m.2) ms) rest
      (entries fuel first (s ++ '\x7d' :: rest)) := by
  induction h generalizing fuel with
  | done blank =>
    obtain ⟨fuel, rfl⟩ := Nat.exists_eq_add_one.mpr (Nat.zero_lt_of_lt enough)
    simp only [entries, nextField?_close blank, bind, Except.bind]
    rw [afterClose_append blank (by decide)]
    exact .of_ok .nil
  | item lead member more ih =>
    obtain ⟨fuel, rfl⟩ := Nat.exists_eq_add_one.mpr (Nat.zero_lt_of_lt enough)
    obtain ⟨hn, before, after, ht⟩ := member
    simp only [List.append_assoc, List.cons_append]
    rw [entries, nextField?_lead lead]
    refine Leaves.bind (named _ _ hn _) fun key hkey => ?_
    simp only [colon_append before, bind, Except.bind]
    have ends := more.endsNumber (.inr rfl) rest
    refine Leaves.bind (takes _ _ _ _ hkey ht _ _ after ends) fun e he => ?_
    refine Leaves.bind (ih (Nat.lt_of_succ_lt_succ enough)) fun es hes => ?_
    exact .of_ok (.cons he hes)

/-- A document that is an object, for any statement about its entries. -/
theorem endpoints_listed {Post : α → β → Endpoint → Prop}
    (named : ∀ a n, Name a n → ∀ rest, Leaves fails (Named a) rest (stringRest (n ++ '"' :: rest)))
    (takes : ∀ a v t key, Named a key → Value v t → Takes fails (Post a v) (entry key) t)
    {ms : List (α × β)} {b s : List Char} (blank : Blank b)
    (h : Listed (Member Name Value) true ms s) (rest : List Char) :
    Leaves fails (List.Forall₂ (fun m => Post m.1 m.2) ms) rest
      (endpoints (b ++ '\x7b' :: (s ++ '\x7d' :: rest))) := by
  have brace : isBlank '\x7b' = false := by decide
  simp only [endpoints, skipBlanks_append blank, skipBlanks_cons brace, ↓reduceIte]
  exact entries_listed named takes h (h.length_lt _ _) rest

/-- A document of entries that are read for certain is read, entry by entry. -/
theorem parse_listed {result : α → β → Endpoint}
    (named : ∀ a n, Name a n → ∀ rest, Leaves False (Named a) rest (stringRest (n ++ '"' :: rest)))
    (takes : ∀ a v t key, Named a key → Value v t → Takes False (Eq (result a v)) (entry key) t)
    {ms : List (α × β)} {b s b' : List Char} (before : Blank b)
    (h : Listed (Member Name Value) true ms s) (after : Blank b') :
    parse (b ++ '\x7b' :: (s ++ '\x7d' :: b')) = .ok (ms.map fun m => result m.1 m.2) := by
  have read : endpoints (b ++ '\x7b' :: (s ++ '\x7d' :: b')) =
      .ok (ms.map fun m => result m.1 m.2, b') := by
    refine Leaves.iff_ok.mp ((endpoints_listed named takes before h b').mono fun es hes => ?_)
    rwa [← List.forall₂_map_left_iff, List.forall₂_eq_eq_eq] at hes
  rw [parse, read]
  exact finish_blank after _

end

/-! ### Kinds of entries -/

/-- Whether a value of a kind may be an entry: an object, or an array of at most the two types. -/
def mayBeEntry : Kind → Bool
  | .scalar => false
  | .array items => decide (items ≤ 2)
  | .object => true

variable {depth : Nat} {kind : Kind} {key : String} {b t : List Char}

theorem entryField_leaves {e : Endpoint} {name : String} {b' : List Char}
    (h : ValueText depth kind t) (before : Blank b) (after : Blank b') (ends : EndsNumber rest) :
    Leaves True (fun _ => True) rest (entryField e name (b ++ ':' :: (b' ++ (t ++ rest)))) := by
  unfold entryField
  split
  · split
    · exact trivial
    · rw [colon_append before]
      exact Leaves.bind (h.value_takes valueDepth _ _ after ends) fun v _ => .of_ok trivial
  · rw [colon_append before]
    simp only [bind, Except.bind, h.skipValue_eq after ends]
    exact .of_ok trivial

theorem entry_object {ms : List (Unit × Kind)} {s : List Char} (blank : Blank b)
    (h : Listed (Member AnyName (ValueText depth)) true ms s) (rest : List Char) :
    Leaves True (fun _ => True) rest (entry key (b ++ '\x7b' :: (s ++ '\x7d' :: rest))) := by
  have brace : isBlank '\x7b' = false := by decide
  simp only [entry, skipBlanks_append blank, skipBlanks_cons brace, ↓reduceIte]
  exact entryFields_listed (fun _ _ => True) (fun _ _ name => stringRest_body name)
    (fun _ value _ before after ends => entryField_leaves value before after ends) h
    (h.length_lt _ _) trivial rest

theorem entry_scalar {s : List Char} (blank : Blank b) (h : Scalar t) :
    entry key (b ++ (t ++ s)) = .error (mismatched "struct RawEndpoint" (t ++ s)) := by
  obtain ⟨c, r, rfl, notBlank, -⟩ := h.begins
  have bracket := not_or.mp h.not_bracket
  simp only [entry, skipBlanks_append blank, List.cons_append, skipBlanks_cons notBlank, bracket,
    ↓reduceIte]

theorem entryItem_done (blank : Blank b) (rest : List Char) :
    entryItem first (b ++ ']' :: rest) = .ok (none, b ++ ']' :: rest) := by
  simp only [entryItem, nextItem?_close blank, bind, Except.bind]

theorem entryItem_item {Post : Json → Prop} {l : List Char} (lead : Lead first l)
    (begins : Begins t) (takes : Takes fails Post (value valueDepth) t) (ends : EndsNumber rest) :
    Leaves fails (fun o => ∃ v, o = some v ∧ Post v) rest (entryItem first (l ++ (t ++ rest))) := by
  obtain ⟨b, blank, next⟩ := nextItem?_lead .wanted lead begins rest
  rw [entryItem, next]
  exact Leaves.bind (takes b rest blank ends) fun v hv => .of_ok ⟨v, rfl, hv⟩

theorem entryArrayEnd_close (blank : Blank b) (rest : List Char) :
    entryArrayEnd (b ++ ']' :: rest) = .ok rest := by
  have bracket : isBlank ']' = false := by decide
  simp [entryArrayEnd, skipBlanks_append blank, skipBlanks_cons bracket]

theorem entryArrayEnd_item {l : List Char} (lead : Lead false l) (s : List Char) :
    ∃ fault, entryArrayEnd (l ++ s) = .error fault := by
  cases lead with
  | comma before =>
    simp only [entryArrayEnd, List.append_assoc, List.cons_append, skipBlanks_append before,
      skipBlanks_cons (show isBlank ',' = false by decide), Char.reduceEq, ↓reduceIte]
    exact ⟨_, rfl⟩

/-- An array is read as the two types by their places, and holds no third item. -/
theorem entryArray_listed {Item : α → List Char → Prop} {Post : α → Json → Prop}
    (begins : ∀ a t, Item a t → Begins t)
    (takes : ∀ a t, Item a t → Takes fails (Post a) (value valueDepth) t) {as : List α}
    {s : List Char} (h : Listed Item true as s) (long : 2 < as.length → fails) (rest : List Char) :
    Leaves fails
      (fun e => as.length ≤ 2 ∧ ∃ vs, List.Forall₂ Post as vs ∧ e = ⟨key, vs[0]?, vs[1]?⟩) rest
      (entryArray key (s ++ ']' :: rest)) := by
  cases h with
  | done blank =>
    simp only [entryArray, entryItem_done blank, entryArrayEnd_close blank, bind, Except.bind]
    exact .of_ok ⟨by simp, [], .nil, rfl⟩
  | item lead₁ item₁ more₁ =>
    simp only [List.append_assoc, entryArray]
    have first := entryItem_item lead₁ (begins _ _ item₁) (takes _ _ item₁)
      (more₁.endsNumber (.inl rfl) rest)
    refine Leaves.bind first ?_
    rintro _ ⟨v, rfl, hv⟩
    cases more₁ with
    | done blank =>
      simp only [entryItem_done blank, entryArrayEnd_close blank, bind, Except.bind]
      exact .of_ok ⟨by simp, [v], .cons hv .nil, rfl⟩
    | item lead₂ item₂ more₂ =>
      simp only [List.append_assoc]
      have second := entryItem_item lead₂ (begins _ _ item₂) (takes _ _ item₂)
        (more₂.endsNumber (.inl rfl) rest)
      refine Leaves.bind second ?_
      rintro _ ⟨w, rfl, hw⟩
      cases more₂ with
      | done blank =>
        simp only [entryArrayEnd_close blank, bind, Except.bind]
        exact .of_ok ⟨by simp, [v, w], .cons hv (.cons hw .nil), rfl⟩
      | @item _ _ _ _ t₃ s₃ lead₃ =>
        -- After the second type the reader meets the comma before a third.
        obtain ⟨fault, eq⟩ := entryArrayEnd_item lead₃ (t₃ ++ (s₃ ++ ']' :: rest))
        simp only [List.append_assoc, eq, bind, Except.bind]
        exact long (by simp)

/-- An entry of a kind that may not be one is refused; any other is taken whole, or refused for
what it holds. -/
theorem entry_takes (h : ValueText depth kind t) :
    Takes True (fun _ => mayBeEntry kind = true) (entry key) t := by
  intro b rest blank ends
  cases depth with
  | zero =>
    rw [entry_scalar blank h.2]
    exact trivial
  | succ depth =>
    obtain ⟨-, scalar⟩ | ⟨kinds, s, rfl, listed, rfl⟩ | ⟨members, s, rfl, listed, rfl⟩ := h
    · rw [entry_scalar blank scalar]
      exact trivial
    · have bracket : isBlank '[' = false := by decide
      simp only [List.cons_append, List.append_assoc, entry, skipBlanks_append blank,
        skipBlanks_cons bracket, Char.reduceEq, ↓reduceIte]
      refine (entryArray_listed (fun _ _ item => item.begins)
        (fun _ _ item => item.value_takes valueDepth) listed (fun _ => trivial) rest).mono ?_
      exact fun _ read => by simpa [mayBeEntry] using read.1
    · simp only [List.cons_append, List.append_assoc]
      exact (entry_object blank listed rest).mono fun _ _ => rfl

end Document

/-- The text of a document whose value is an object, with the kinds of the values of its members in
order. -/
def IsObjectText (kinds : List Kind) (document : List Char) : Prop :=
  ∃ depth members b s b', Blank b ∧ Blank b' ∧ members.map Prod.snd = kinds ∧
    Listed (Member AnyName (ValueText depth)) true members s ∧
    document = b ++ '\x7b' :: (s ++ '\x7d' :: b')

/-- Nothing is read of a document that has a member of a kind that may not be an entry. -/
theorem parse_misshapen {kinds : List Kind} {document : List Char}
    (object : IsObjectText kinds document)
    (misshapen : ∃ kind ∈ kinds, Document.mayBeEntry kind = false) :
    ∃ fault, Document.parse document = .error fault := by
  obtain ⟨depth, members, b, s, b', blank, -, rfl, listed, rfl⟩ := object
  have takes : ∀ (_ : Unit) (kind : Kind) (t : List Char) (key : String), True →
      ValueText depth kind t →
      Takes True (fun _ => Document.mayBeEntry kind = true) (Document.entry key) t :=
    fun _ _ _ _ _ value => Document.entry_takes value
  have read := Document.endpoints_listed (fun _ _ name => stringRest_body name) takes blank listed
    b'
  match h : Document.endpoints (b ++ '\x7b' :: (s ++ '\x7d' :: b')) with
  | .error fault => exact ⟨fault, by simp [Document.parse, h, bind, Except.bind]⟩
  | .ok (es, r) =>
    rw [h] at read
    have entries : ∀ m ∈ members, Document.mayBeEntry m.2 = true :=
      ((List.forall₂_and_left _ _).mp (read.1.imp fun _ _ may => ⟨may, trivial⟩)).1
    obtain ⟨kind, mem, no⟩ := misshapen
    obtain ⟨m, hm, rfl⟩ := List.mem_map.mp mem
    exact absurd (entries m hm) (by simp [no])

/-- A document that has a member of a kind that may not be an entry is refused, and no text is
generated from it, whatever the settings. -/
theorem misshapen_refused {kinds : List Kind} {document : String}
    (object : IsObjectText kinds document.toList)
    (misshapen : ∃ kind ∈ kinds, Document.mayBeEntry kind = false) :
    ∃ cause place, readEndpoints document = .error (.document cause place) ∧
      ∀ config, (generate config document).result = .error (.document cause place) := by
  obtain ⟨fault, h⟩ := parse_misshapen object misshapen
  have read : readEndpoints document =
      .error (.document fault.cause (fault.position document.toList)) := by
    rw [readEndpoints, h]
  refine ⟨_, _, read, fun config => ?_⟩
  rw [generate, read, Run.bind_result, Run.ofExcept_result]
  rfl

theorem misshapen_refused_number :
    IsObjectText [.object, .scalar] "\x7b\"Pools\": \x7b\x7d, \"Blocks\": 7\x7d".toList ∧
    ∃ cause place,
      readEndpoints "\x7b\"Pools\": \x7b\x7d, \"Blocks\": 7\x7d" =
        .error (.document cause place) ∧
      ∀ config, (generate config "\x7b\"Pools\": \x7b\x7d, \"Blocks\": 7\x7d").result =
        .error (.document cause place) := by
  have empty : ValueText 1 .object ['\x7b', '\x7d'] :=
    .inr (.inr ⟨[], [], rfl, .done .nil, rfl⟩)
  have seven : ValueText 1 .scalar ['7'] := .inl ⟨rfl, .positive (magnitude_toDigits 7)⟩
  have pools : Member AnyName (ValueText 1) ((), .object) _ :=
    .mk (StringBody.flatMap ['P', 'o', 'o', 'l', 's']) .nil .space empty
  have blocks : Member AnyName (ValueText 1) ((), .scalar) _ :=
    .mk (StringBody.flatMap ['B', 'l', 'o', 'c', 'k', 's']) .nil .space seven
  have object : IsObjectText [.object, .scalar]
      "\x7b\"Pools\": \x7b\x7d, \"Blocks\": 7\x7d".toList :=
    ⟨1, _, [], _, [], .nil, .nil, rfl,
      .item (.first .nil) pools (.item (.comma .nil .space) blocks (.done .nil)), rfl⟩
  exact ⟨object, misshapen_refused object ⟨.scalar, by decide, rfl⟩⟩

/-- The text of an array of at most two values. -/
def WritesTypes (vs : List Json) (t : List Char) : Prop :=
  vs.length ≤ 2 ∧ Writes (Document.valueDepth + 1) (.arr vs) t

theorem WritesTypes.entry_takes {vs : List Json} {t : List Char} (h : WritesTypes vs t)
    (key : String) : Takes False (Eq ⟨key, vs[0]?, vs[1]?⟩) (Document.entry key) t := by
  intro b rest blank _
  obtain ⟨few, scalar | ⟨items, s, eq, listed, rfl⟩ | ⟨_, _, eq, -⟩⟩ := h
  · cases scalar
  · obtain rfl := Json.arr.inj eq
    have bracket : isBlank '[' = false := by decide
    simp only [List.cons_append, List.append_assoc, Document.entry, skipBlanks_append blank,
      skipBlanks_cons bracket, Char.reduceEq, ↓reduceIte]
    have takes : ∀ v u, Writes Document.valueDepth v u →
        Takes False (Eq v) (value Document.valueDepth) u :=
      fun _ _ item => item.value_takes (Nat.le_refl _)
    refine (Document.entryArray_listed (fun _ _ item => item.valueText.begins) takes listed
      (by omega) rest).mono ?_
    rintro _ ⟨-, read, eq, rfl⟩
    rw [List.forall₂_eq_eq_eq] at eq
    rw [eq]
  · cases eq

section

variable {entries : List (String × List Json)} {b s b' : List Char}

/-- A document whose entries are arrays is read, with the types by their places. -/
theorem parse_arrays (before : Blank b)
    (h : Listed (Member WritesName WritesTypes) true entries s) (after : Blank b') :
    Document.parse (b ++ '\x7b' :: (s ++ '\x7d' :: b')) =
      .ok (entries.map fun m => ⟨m.1, m.2[0]?, m.2[1]?⟩) := by
  have takes : ∀ (name : String) (vs : List Json) (t : List Char) (key : String), name = key →
      WritesTypes vs t → Takes False (Eq ⟨name, vs[0]?, vs[1]?⟩) (Document.entry key) t := by
    rintro name vs t key rfl h
    exact h.entry_takes name
  exact Document.parse_listed (fun _ _ name => name.stringRest_leaves) takes before h after

theorem isObjectText_arrays (before : Blank b)
    (h : Listed (Member WritesName WritesTypes) true entries s) (after : Blank b') :
    IsObjectText (entries.map fun m => .array m.2.length)
      (b ++ '\x7b' :: (s ++ '\x7d' :: b')) := by
  have members := h.map (Member AnyName (ValueText (Document.valueDepth + 1)))
    (fun m => ((), .array m.2.length)) fun _ _ member _ =>
      member.map (fun _ => ()) (fun vs => Kind.array vs.length) (fun _ _ name => name.stringBody)
        fun _ _ types _ => types.2.valueText
  exact ⟨_, _, b, s, b', before, after, by simp, members, rfl⟩

end

/-- Of an array that holds two types the endpoint is read, although an array is not an object. -/
theorem array_read :
    ¬∀ (kinds : List Kind) (document : String), IsObjectText kinds document.toList →
      (∃ kind ∈ kinds, kind ≠ .object) →
      ∃ cause place, readEndpoints document = .error (.document cause place) := by
  intro objectsOnly
  have a : Writes Document.valueDepth (.str "A") ['"', 'A', '"'] := .inl (.str rfl)
  have b : Writes Document.valueDepth (.str "B") ['"', 'B', '"'] := .inl (.str rfl)
  have types : WritesTypes [.str "A", .str "B"] _ :=
    ⟨by decide, .inr (.inl ⟨_, _, rfl,
      .item (.first .nil) a (.item (.comma .nil .space) b (.done .nil)), rfl⟩)⟩
  have name : WritesName "Pools" ['P', 'o', 'o', 'l', 's'] := rfl
  have pools := Listed.item (.first .nil) (Member.mk name .nil .space types) (.done .nil)
  have read : Document.parse "\x7b\"Pools\": [\"A\", \"B\"]\x7d".toList =
      .ok [⟨"Pools", some (.str "A"), some (.str "B")⟩] := parse_arrays .nil pools .nil
  have object : IsObjectText [.array 2] "\x7b\"Pools\": [\"A\", \"B\"]\x7d".toList :=
    isObjectText_arrays .nil pools .nil
  obtain ⟨cause, place, refused⟩ := objectsOnly _ _ object ⟨.array 2, by decide, by decide⟩
  rw [readEndpoints, read] at refused
  cases refused

end EndpointHooks
