import EndpointHooks.Proofs.Json.Grammar
import Mathlib.Data.List.Forall2

/-! What the readers make of a text of the grammar, for any reader of the items. A statement says
that a reader takes its text, all of it and nothing more, with a result as specified; whether it may
fail on the way is a parameter. Without failure this is reading back, with failure it is all that
can be said of texts that are refused for some other reason, such as a number out of range. -/

namespace EndpointHooks.Json

variable {α β γ δ : Type} {fails : Prop}

/-- A reader has left `rest` with a result as specified, or it has failed and may. -/
def Leaves (fails : Prop) (Post : α → Prop) (rest : List Char) :
    Except Fault (α × List Char) → Prop
  | .ok (a, s) => Post a ∧ s = rest
  | .error _ => fails

/-- The rest of a text does not go on with a number. -/
def EndsNumber (rest : List Char) : Prop :=
  ∀ c ∈ rest.head?, c.isDigit = false ∧ c ≠ '.' ∧ isExponentMark c = false

/-- A reader takes a text after any blanks. -/
def Takes (fails : Prop) (Post : α → Prop) (read : List Char → Except Fault (α × List Char))
    (t : List Char) : Prop :=
  ∀ b rest, Blank b → EndsNumber rest → Leaves fails Post rest (read (b ++ (t ++ rest)))

namespace Leaves

variable {Post : α → Prop} {rest : List Char} {x : Except Fault (α × List Char)}

theorem iff_ok {a : α} : Leaves False (Eq a) rest x ↔ x = .ok (a, rest) := by
  match x with
  | .ok (b, s) => simp [Leaves, eq_comm]
  | .error fault => simp [Leaves]

theorem of_ok {a : α} (h : Post a) : Leaves fails Post rest (.ok (a, rest)) := ⟨h, rfl⟩

theorem bind {Mid : β → Prop} {mid : List Char} {y : Except Fault (β × List Char)}
    {next : β × List Char → Except Fault (α × List Char)} (h : Leaves fails Mid mid y)
    (step : ∀ b, Mid b → Leaves fails Post rest (next (b, mid))) :
    Leaves fails Post rest (y >>= next) := by
  match y with
  | .ok (b, s) =>
    obtain ⟨hb, rfl⟩ := h
    exact step b hb
  | .error fault => exact h

theorem map {Post' : β → Prop} {f : α × List Char → β × List Char} (h : Leaves fails Post rest x)
    (rest_eq : ∀ a, (f (a, rest)).2 = rest) (imp : ∀ a, Post a → Post' (f (a, rest)).1) :
    Leaves fails Post' rest (x.map f) := by
  match x with
  | .ok (a, s) =>
    obtain ⟨ha, rfl⟩ := h
    exact ⟨imp a ha, rest_eq a⟩
  | .error fault => exact h

theorem mono {Post' : α → Prop} (h : Leaves fails Post rest x) (imp : ∀ a, Post a → Post' a) :
    Leaves fails Post' rest x := by
  match x with
  | .ok (a, s) => exact ⟨imp a h.1, h.2⟩
  | .error fault => exact h

end Leaves

/-! ### Blanks and separators -/

theorem skipBlanks_append {b : List Char} (h : Blank b) (s : List Char) :
    skipBlanks (b ++ s) = skipBlanks s := by
  unfold skipBlanks
  exact List.dropWhile_append_of_pos h

theorem skipBlanks_cons {c : Char} {r : List Char} (h : isBlank c = false) :
    skipBlanks (c :: r) = c :: r := by
  simp [skipBlanks, h]

theorem endsNumber_cons {c : Char} {r : List Char}
    (h : c.isDigit = false ∧ c ≠ '.' ∧ isExponentMark c = false) : EndsNumber (c :: r) := by
  intro d hd
  obtain rfl : c = d := by simpa using hd
  exact h

theorem endsNumber_append {b s : List Char} (h : Blank b) (hs : EndsNumber s) :
    EndsNumber (b ++ s) := by
  cases b with
  | nil => exact hs
  | cons c b =>
    have blank := h c (by simp)
    simp only [isBlank, Bool.or_eq_true, beq_iff_eq] at blank
    apply endsNumber_cons
    rcases blank with ((rfl | rfl) | rfl) | rfl <;> decide

/-- After an item come blanks, a comma or the closing bracket. -/
theorem Listed.endsNumber {Item : α → List Char → Prop} {as : List α} {s : List Char}
    (h : Listed Item false as s) {close : Char} (hclose : close = ']' ∨ close = '\x7d')
    (rest : List Char) : EndsNumber (s ++ close :: rest) := by
  cases h with
  | done blank =>
    refine endsNumber_append blank (endsNumber_cons ?_)
    rcases hclose with rfl | rfl <;> decide
  | item lead =>
    cases lead with
    | comma before =>
      simp only [List.append_assoc]
      exact endsNumber_append before (endsNumber_cons (by decide))

variable {use : Use} {first : Bool}

theorem nextItem?_close {b : List Char} (h : Blank b) (rest : List Char) :
    nextItem? use first (b ++ ']' :: rest) = .ok none := by
  simp [nextItem?, skipBlanks_append h, skipBlanks_cons (show isBlank ']' = false by decide)]

theorem nextField?_close {b : List Char} (h : Blank b) (rest : List Char) :
    nextField? use first (b ++ '\x7d' :: rest) = .ok none := by
  simp [nextField?, skipBlanks_append h, skipBlanks_cons (show isBlank '\x7d' = false by decide)]

theorem afterClose_append {b : List Char} (h : Blank b) {close : Char}
    (hclose : isBlank close = false) (rest : List Char) :
    afterClose (b ++ close :: rest) = rest := by
  simp [afterClose, skipBlanks_append h, skipBlanks_cons hclose]

/-- After a comma the reader goes on at what follows, with the blanks left for a value that is
passed over. -/
theorem afterComma_append (use : Use) {b : List Char} (h : Blank b) {close c : Char} (r : List Char)
    (hblank : isBlank c = false) (hclose : c ≠ close) :
    ∃ b', Blank b' ∧ afterComma use close (b ++ c :: r) = .ok (b' ++ c :: r) := by
  cases use with
  | wanted =>
    refine ⟨[], Blank.nil, ?_⟩
    simp [afterComma, skipBlanks_append h, skipBlanks_cons hblank, hclose]
  | unwanted => exact ⟨b, h, rfl⟩

theorem nextItem?_lead (use : Use) {l t : List Char} (lead : Lead first l) (begins : Begins t)
    (rest : List Char) :
    ∃ b, Blank b ∧ nextItem? use first (l ++ (t ++ rest)) = .ok (some (b ++ (t ++ rest))) := by
  obtain ⟨c, r, rfl, hblank, hclose⟩ := begins
  cases lead with
  | first blank =>
    refine ⟨[], Blank.nil, ?_⟩
    simp [nextItem?, skipBlanks_append blank, skipBlanks_cons hblank, hclose]
  | comma before after =>
    obtain ⟨b, hb, eq⟩ := afterComma_append use after (r ++ rest) hblank hclose
    refine ⟨b, hb, ?_⟩
    have separator : isBlank ',' = false := by decide
    simp [nextItem?, skipBlanks_append before, skipBlanks_cons separator, eq, Except.map]

theorem openName_append {b : List Char} (h : Blank b) (r : List Char) :
    openName (b ++ '"' :: r) = .ok r := by
  simp [openName, skipBlanks_append h, skipBlanks_cons (show isBlank '"' = false by decide)]

theorem nextField?_lead {l r : List Char} (lead : Lead first l) :
    nextField? use first (l ++ '"' :: r) = .ok (some r) := by
  cases lead with
  | first blank =>
    have name := openName_append Blank.nil r
    rw [List.nil_append] at name
    simp [nextField?, skipBlanks_append blank, skipBlanks_cons (show isBlank '"' = false by decide),
      name, Except.map]
  | comma before after =>
    obtain ⟨b, hb, eq⟩ := afterComma_append use after r (show isBlank '"' = false by decide)
      (show '"' ≠ '\x7d' by decide)
    have separator : isBlank ',' = false := by decide
    simp [nextField?, skipBlanks_append before, skipBlanks_cons separator, eq, openName_append hb,
      Except.map, bind, Except.bind]

theorem colon_append {b : List Char} (h : Blank b) (r : List Char) :
    colon (b ++ ':' :: r) = .ok r := by
  simp [colon, skipBlanks_append h, skipBlanks_cons (show isBlank ':' = false by decide)]

theorem finish_blank {b : List Char} (h : Blank b) (a : α) : finish (a, b) = .ok a := by
  have ended : skipBlanks b = [] := by simpa [skipBlanks] using skipBlanks_append h []
  simp [finish, ended]

/-! ### Arrays and objects -/

section

variable {Item : α → List Char → Prop} {Post : α → β → Prop}
  {item : List Char → Except Fault (β × List Char)}

theorem itemsRest_listed (begins : ∀ a t, Item a t → Begins t)
    (takes : ∀ a t, Item a t → Takes fails (Post a) item t) {as : List α} {s : List Char}
    (h : Listed Item first as s) {fuel : Nat} (enough : as.length < fuel) (rest : List Char) :
    Leaves fails (List.Forall₂ Post as) rest
      (itemsRest use item fuel first (s ++ ']' :: rest)) := by
  induction h generalizing fuel with
  | done blank =>
    obtain ⟨fuel, rfl⟩ := Nat.exists_eq_add_one.mpr (Nat.zero_lt_of_lt enough)
    simp only [itemsRest, nextItem?_close blank, bind, Except.bind]
    rw [afterClose_append blank (by decide)]
    exact .of_ok .nil
  | @item first a as l t s lead hitem more ih =>
    obtain ⟨fuel, rfl⟩ := Nat.exists_eq_add_one.mpr (Nat.zero_lt_of_lt enough)
    simp only [List.append_assoc]
    obtain ⟨b, hb, next⟩ := nextItem?_lead use lead (begins a t hitem) (s ++ ']' :: rest)
    rw [itemsRest, next]
    refine Leaves.bind (takes a t hitem b _ hb (more.endsNumber (.inl rfl) rest)) fun v hv => ?_
    refine Leaves.bind (ih (Nat.lt_of_succ_lt_succ enough)) fun vs hvs => ?_
    exact .of_ok (.cons hv hvs)

theorem items_listed (begins : ∀ a t, Item a t → Begins t)
    (takes : ∀ a t, Item a t → Takes fails (Post a) item t) {as : List α} {s : List Char}
    (h : Listed Item true as s) (rest : List Char) :
    Leaves fails (List.Forall₂ Post as) rest (items use item (s ++ ']' :: rest)) :=
  itemsRest_listed begins takes h (h.length_lt _ _) rest

end

section

variable {Name : α → List Char → Prop} {Value : β → List Char → Prop}
  {Named : α → γ → Prop} {Post : β → δ → Prop} {name : List Char → Except Fault (γ × List Char)}
  {item : List Char → Except Fault (δ × List Char)}

theorem fieldsRest_listed
    (named : ∀ a n, Name a n → ∀ rest, Leaves fails (Named a) rest (name (n ++ '"' :: rest)))
    (takes : ∀ v t, Value v t → Takes fails (Post v) item t) {ms : List (α × β)} {s : List Char}
    (h : Listed (Member Name Value) first ms s) {fuel : Nat} (enough : ms.length < fuel)
    (rest : List Char) :
    Leaves fails (List.Forall₂ (fun m f => Named m.1 f.1 ∧ Post m.2 f.2) ms) rest
      (fieldsRest use name item fuel first (s ++ '\x7d' :: rest)) := by
  induction h generalizing fuel with
  | done blank =>
    obtain ⟨fuel, rfl⟩ := Nat.exists_eq_add_one.mpr (Nat.zero_lt_of_lt enough)
    simp only [fieldsRest, nextField?_close blank, bind, Except.bind]
    rw [afterClose_append blank (by decide)]
    exact .of_ok .nil
  | item lead member more ih =>
    obtain ⟨fuel, rfl⟩ := Nat.exists_eq_add_one.mpr (Nat.zero_lt_of_lt enough)
    obtain ⟨hn, before, after, ht⟩ := member
    simp only [List.append_assoc, List.cons_append]
    rw [fieldsRest, nextField?_lead lead]
    refine Leaves.bind (named _ _ hn _) fun k hk => ?_
    simp only [colon_append before, bind, Except.bind]
    refine Leaves.bind (takes _ _ ht _ _ after (more.endsNumber (.inr rfl) rest)) fun v hv => ?_
    refine Leaves.bind (ih (Nat.lt_of_succ_lt_succ enough)) fun fs hfs => ?_
    exact .of_ok (.cons ⟨hk, hv⟩ hfs)

theorem fields_listed
    (named : ∀ a n, Name a n → ∀ rest, Leaves fails (Named a) rest (name (n ++ '"' :: rest)))
    (takes : ∀ v t, Value v t → Takes fails (Post v) item t) {ms : List (α × β)} {s : List Char}
    (h : Listed (Member Name Value) true ms s) (rest : List Char) :
    Leaves fails (List.Forall₂ (fun m f => Named m.1 f.1 ∧ Post m.2 f.2) ms) rest
      (fields use name item (s ++ '\x7d' :: rest)) :=
  fieldsRest_listed named takes h (h.length_lt _ _) rest

end

end EndpointHooks.Json
