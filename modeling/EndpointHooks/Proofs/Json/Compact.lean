import EndpointHooks.Proofs.Json.Writing

/-! Compact texts among the texts that write a value: what the printer gives for a value without
floats is one of them. -/

namespace EndpointHooks.Json

/-- A value that can be written: without floats, with integers of 64 bits, with the fields of its
objects sorted by name, and with brackets that nest at most to a depth. -/
def Plain : Nat → Json → Prop
  | _, .null | _, .bool _ | _, .str _ => True
  | _, .int i => -0x8000000000000000 ≤ i ∧ i < 0x10000000000000000
  | depth + 1, .arr items => ∀ v ∈ items, Plain depth v
  | depth + 1, .obj fields =>
    fields.Pairwise (fun f g => f.1 < g.1) ∧ ∀ f ∈ fields, Plain depth f.2
  | _, _ => False

section

variable {α : Type} {Item : α → List Char → Prop} {a : α} {as : List α} {s : List Char}

theorem Listed.afterComma (h : Listed Item true (a :: as) s) :
    Listed Item false (a :: as) (',' :: s) := by
  cases h with
  | item lead item more =>
    cases lead with
    | first blank => exact .item (.comma .nil blank) item more

theorem listed_intercalate {text : α → List Char} (h : ∀ a ∈ as, Item a (text a)) :
    Listed Item true as ([','].intercalate (as.map text)) := by
  induction as with
  | nil => exact .done .nil
  | cons a as ih =>
    have first := h a (by simp)
    have others := ih fun b hb => h b (by simp [hb])
    cases as with
    | nil =>
      have single := Listed.item (.first .nil) first (.done .nil)
      simpa using single
    | cons b as =>
      have all := Listed.item (.first .nil) first others.afterComma
      simpa [List.intercalate_cons_cons] using all

end

theorem itemChars_eq (items : List Json) :
    itemChars items = [','].intercalate (items.map chars) := by
  induction items with
  | nil => rfl
  | cons v items ih =>
    cases items with
    | nil => simp [itemChars]
    | cons w items => simp [itemChars, ih, List.intercalate_cons_cons]

def memberChars (f : String × Json) : List Char := stringChars f.1 ++ ':' :: f.2.chars

theorem fieldChars_eq (fields : List (String × Json)) :
    fieldChars fields = [','].intercalate (fields.map memberChars) := by
  induction fields with
  | nil => rfl
  | cons f fields ih =>
    cases fields with
    | nil => simp [fieldChars, memberChars]
    | cons g fields => simp [fieldChars, memberChars, ih, List.intercalate_cons_cons]

theorem writesScalar_int {i : Int} (low : -0x8000000000000000 ≤ i)
    (high : i < 0x10000000000000000) : WritesScalar (.int i) (Json.int i).chars := by
  rcases Text.toList_toString_int i with ⟨n, rfl, text⟩ | ⟨n, positive, rfl, text⟩
  · rw [chars, text]
    exact .natural (by omega)
  · rw [chars, text]
    exact .negative positive (by omega)

/-- A name and a value with nothing but the colon between them. -/
theorem member_compact {β : Type} {Value : β → List Char → Prop} {v : β} {t : List Char}
    (h : Value v t) (name : String) :
    Member WritesName Value (name, v) (stringChars name ++ ':' :: t) := by
  have member : Member WritesName Value (name, v) _ := .mk rfl .nil .nil h
  simpa [stringChars] using member

theorem WritesScalar.writes {depth : Nat} {v : Json} {t : List Char} (h : WritesScalar v t) :
    Writes depth v t := by
  cases depth with
  | zero => exact h
  | succ => exact .inl h

/-- The compact text of a value writes it. -/
theorem Plain.writes : ∀ {depth : Nat} {v : Json}, Plain depth v → Writes depth v v.chars
  | _, .null, _ => WritesScalar.null.writes
  | _, .bool true, _ => WritesScalar.true.writes
  | _, .bool false, _ => WritesScalar.false.writes
  | _, .int _, h => by
    rw [Plain] at h
    exact (writesScalar_int h.1 h.2).writes
  | _, .str _, _ => (WritesScalar.str rfl).writes
  | _, .float _, h => by simp [Plain] at h
  | 0, .arr _, h | 0, .obj _, h => h.elim
  | depth + 1, .arr items, h => by
    have listed := listed_intercalate fun v hv => Plain.writes (h v hv)
    refine .inr (.inl ⟨items, _, rfl, listed, ?_⟩)
    rw [chars, itemChars_eq]
    rfl
  | depth + 1, .obj fields, h => by
    have listed : Listed (Member WritesName (Writes depth)) true fields _ :=
      listed_intercalate fun f hf => member_compact (Plain.writes (h.2 f hf)) f.1
    refine .inr (.inr ⟨fields, _, rfl, h.1, listed, ?_⟩)
    rw [chars, fieldChars_eq]
    rfl

theorem Plain.writes_text {depth : Nat} {v : Json} (h : Plain depth v) :
    Writes depth v v.text.toList := by
  rw [toList_text]
  exact h.writes

/-- A text of a value: its characters are those of the value, and it writes the value if that can be
written. -/
structure IsText (v : Json) (s : String) : Prop where
  chars : s.toList = v.chars
  writes : ∀ depth, Plain depth v → Writes depth v s.toList

theorem isText_iff {v : Json} {s : String} : v.IsText s ↔ s = v.text := by
  constructor
  · intro h
    rw [← String.toList_inj, h.chars, toList_text]
  · rintro rfl
    exact ⟨toList_text v, fun _ h => h.writes_text⟩

end EndpointHooks.Json
