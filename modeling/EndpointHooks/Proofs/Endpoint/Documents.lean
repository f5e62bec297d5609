import EndpointHooks.Proofs.Endpoint.Entries
import EndpointHooks.Proofs.Json.Compact

/-! Documents that write a list of endpoints, and that they are read back. Each endpoint is a member
of one object, in order, under its key. An entry is an object that gives a present type once, in any
place among members of other names, and an absent type not at all. -/

namespace EndpointHooks

open Json

/-- The values that members give to a type, in order. -/
def givenTypes (members : List (String × Json)) (f : TypeField) : List Json :=
  (members.filter fun m => m.1 = f.name).map Prod.snd

/-- The text of an object that gives the types of an endpoint, whatever other members it has. -/
def WritesEntry (e : Endpoint) (t : List Char) : Prop :=
  ∃ members s, (∀ f, givenTypes members f = (e.field f).toList) ∧
    Listed (Member WritesName (Writes Document.valueDepth)) true members s ∧
    t = '\x7b' :: (s ++ ['\x7d'])

/-- The text of a document that writes endpoints, with any blanks between its tokens. -/
def WritesEndpoints (es : List Endpoint) (document : List Char) : Prop :=
  ∃ b s b', Blank b ∧ Blank b' ∧
    Listed (Member WritesName WritesEntry) true (es.map fun e => (e.key, e)) s ∧
    document = b ++ '\x7b' :: (s ++ '\x7d' :: b')

theorem TypeField.name_injective {f g : TypeField} (h : f.name = g.name) : f = g := by
  have found := ofName?_name f
  rw [h, ofName?_name] at found
  exact (Option.some.inj found).symm

theorem TypeField.eq_name_of_ofName? {name : String} {f : TypeField} (h : ofName? name = some f) :
    name = f.name := by
  unfold ofName? at h
  split at h
  · rename_i eq
    rw [eq, ← Option.some.inj h]
  · split at h
    · rename_i eq
      rw [eq, ← Option.some.inj h]
    · cases h

section

variable {members : List (String × Json)} {name : String} {v : Json} {f : TypeField}

theorem givenTypes_cons_self :
    givenTypes ((f.name, v) :: members) f = v :: givenTypes members f := by
  simp [givenTypes]

theorem givenTypes_cons_of_ne (h : name ≠ f.name) :
    givenTypes ((name, v) :: members) f = givenTypes members f := by
  simp [givenTypes, h]

end

/-- What is read of an entry so far, `acc`, and the members to come make up the endpoint `e`. -/
structure Completes (key : String) (e : Endpoint) (members : List (String × Json))
    (acc : Endpoint) : Prop where
  key_eq : acc.key = key
  types : ∀ f, (acc.field f).toList ++ givenTypes members f = (e.field f).toList

namespace Completes

variable {key name : String} {e acc : Endpoint} {v : Json} {members : List (String × Json)}

/-- A type that is given now has not been given before. -/
theorem absent {f : TypeField} (h : Completes key e ((f.name, v) :: members) acc) :
    acc.field f = none := by
  have types := h.types f
  rw [givenTypes_cons_self] at types
  have length := congrArg List.length types
  cases now : acc.field f with
  | none => rfl
  | some w =>
    cases meant : e.field f with
    | none => simp [now, meant] at length
    | some u => simp [now, meant] at length

theorem setField {f : TypeField} (h : Completes key e ((f.name, v) :: members) acc) :
    Completes key e members (acc.setField v f) where
  key_eq := by rw [Endpoint.key_setField, h.key_eq]
  types := fun g => by
    have types := h.types g
    by_cases same : g = f
    · subst same
      rw [givenTypes_cons_self, h.absent] at types
      rw [Endpoint.field_setField_self]
      exact types
    · have ne : f.name ≠ g.name := fun eq => same (TypeField.name_injective eq).symm
      rw [givenTypes_cons_of_ne ne] at types
      rw [Endpoint.field_setField_of_ne same]
      exact types

/-- A member of another name changes nothing. -/
theorem other (h : Completes key e ((name, v) :: members) acc)
    (unknown : TypeField.ofName? name = none) : Completes key e members acc where
  key_eq := h.key_eq
  types := fun f => by
    have ne : name ≠ f.name := by
      rintro rfl
      simp at unknown
    rw [← h.types f, givenTypes_cons_of_ne ne]

theorem eq (h : Completes key e [] acc) : acc = { e with key } := by
  have field : ∀ f, acc.field f = e.field f := fun f => by
    simpa [givenTypes] using congrArg List.head? (h.types f)
  obtain ⟨k, requestType, responseType⟩ := acc
  obtain rfl := h.key_eq
  obtain rfl : requestType = e.requestType := field .request
  obtain rfl : responseType = e.responseType := field .response
  rfl

/-- Reading one member keeps up what is read so far. -/
theorem entryField_leaves {b b' t rest : List Char}
    (h : Completes key e ((name, v) :: members) acc) (value : Writes Document.valueDepth v t)
    (before : Blank b) (after : Blank b') (ends : EndsNumber rest) :
    Leaves False (Completes key e members) rest
      (Document.entryField acc name (b ++ ':' :: (b' ++ (t ++ rest)))) := by
  unfold Document.entryField
  split
  · rename_i f known
    obtain rfl := TypeField.eq_name_of_ofName? known
    rw [h.absent, if_neg (by simp), colon_append before]
    refine Leaves.bind (value.value_takes (Nat.le_refl _) _ _ after ends) ?_
    rintro _ rfl
    exact .of_ok h.setField
  · rename_i unknown
    rw [colon_append before]
    simp only [bind, Except.bind, value.valueText.skipValue_eq after ends]
    exact .of_ok (h.other unknown)

end Completes

/-- An entry is read as the endpoint it writes, under the key it has. -/
theorem WritesEntry.entry_takes {e : Endpoint} {t : List Char} (h : WritesEntry e t)
    (key : String) : Takes False (Eq { e with key }) (Document.entry key) t := by
  intro b rest blank _
  obtain ⟨members, s, given, listed, rfl⟩ := h
  have brace : isBlank '\x7b' = false := by decide
  simp only [List.cons_append, List.append_assoc, Document.entry, skipBlanks_append blank,
    skipBlanks_cons brace, ↓reduceIte]
  have start : Completes key e members (.bare key) :=
    ⟨rfl, fun f => by cases f <;> simpa [Endpoint.bare, Endpoint.field] using given _⟩
  refine (Document.entryFields_listed (Completes key e) (fun _ _ name => name.stringRest_leaves) ?_
    listed (listed.length_lt _ _) start rest).mono fun _ done => done.eq.symm
  rintro name v ms acc _ b b' t rest rfl value completes before after ends
  exact completes.entryField_leaves value before after ends

theorem parse_written {es : List Endpoint} {document : List Char}
    (h : WritesEndpoints es document) : Document.parse document = .ok es := by
  obtain ⟨b, s, b', before, after, listed, rfl⟩ := h
  have takes : ∀ (name : String) (e : Endpoint) (t : List Char) (key : String), name = key →
      WritesEntry e t → Takes False (Eq { e with key := name }) (Document.entry key) t := by
    rintro name e t key rfl written
    exact written.entry_takes name
  rw [Document.parse_listed (fun _ _ name => name.stringRest_leaves) takes before listed after,
    List.map_map]
  exact congrArg _ (List.map_id es)

/-- Every list of endpoints is read back from every document that writes it. -/
theorem readEndpoints_written {es : List Endpoint} {document : String}
    (h : WritesEndpoints es document.toList) : readEndpoints document = .ok es := by
  rw [readEndpoints, parse_written h]

theorem readEndpoints_written_repeated :
    WritesEndpoints [⟨"A", none, some .null⟩, ⟨"A", none, none⟩]
      "\x7b\"A\": \x7b\"x\": -1, \"responseType\": null\x7d, \"A\": \x7b\x7d\x7d".toList ∧
    readEndpoints "\x7b\"A\": \x7b\"x\": -1, \"responseType\": null\x7d, \"A\": \x7b\x7d\x7d" =
      .ok [⟨"A", none, some .null⟩, ⟨"A", none, none⟩] := by
  have minus : Writes Document.valueDepth (.int (-1)) ['-', '1'] :=
    (WritesScalar.negative (by decide) (by decide)).writes
  have null : Writes Document.valueDepth .null ['n', 'u', 'l', 'l'] := WritesScalar.null.writes
  have x : WritesName "x" ['x'] := rfl
  have response : WritesName "responseType" "responseType".toList := rfl
  have key : WritesName "A" ['A'] := rfl
  have first : WritesEntry ⟨"A", none, some .null⟩ _ :=
    ⟨_, _, fun f => by cases f <;> rfl, .item (.first .nil) (.mk x .nil .space minus)
      (.item (.comma .nil .space) (.mk response .nil .space null) (.done .nil)), rfl⟩
  have second : WritesEntry ⟨"A", none, none⟩ _ :=
    ⟨[], _, fun f => by cases f <;> rfl, .done .nil, rfl⟩
  have written : WritesEndpoints [⟨"A", none, some .null⟩, ⟨"A", none, none⟩]
      "\x7b\"A\": \x7b\"x\": -1, \"responseType\": null\x7d, \"A\": \x7b\x7d\x7d".toList :=
    ⟨[], _, [], .nil, .nil, .item (.first .nil) (.mk key .nil .space first)
      (.item (.comma .nil .space) (.mk key .nil .space second) (.done .nil)), rfl⟩
  exact ⟨written, readEndpoints_written written⟩

/-! ### Compact documents -/

/-- The types that are present, as the members of an entry. -/
def presentTypes (e : Endpoint) : List (String × Json) :=
  [TypeField.request, .response].flatMap fun f => (e.field f).toList.map fun v => (f.name, v)

def entryChars (e : Endpoint) : List Char :=
  '\x7b' :: ([','].intercalate ((presentTypes e).map memberChars) ++ ['\x7d'])

/-- The compact text of a document with an entry for each endpoint. -/
def documentChars (es : List Endpoint) : List Char :=
  '\x7b' ::
    ([','].intercalate (es.map fun e => stringChars e.key ++ ':' :: entryChars e) ++ ['\x7d'])

theorem givenTypes_presentTypes (e : Endpoint) (f : TypeField) :
    givenTypes (presentTypes e) f = (e.field f).toList := by
  obtain ⟨key, requestType, responseType⟩ := e
  cases f <;> cases requestType <;> cases responseType <;> rfl

theorem entryChars_writes {e : Endpoint} (h : ∀ f, ∀ v ∈ e.field f, Plain Document.valueDepth v) :
    WritesEntry e (entryChars e) := by
  have plain : ∀ m ∈ presentTypes e, Plain Document.valueDepth m.2 := by
    intro m hm
    obtain ⟨f, -, hf⟩ := List.mem_flatMap.mp hm
    obtain ⟨v, hv, rfl⟩ := List.mem_map.mp hf
    exact h f v (Option.mem_toList.mp hv)
  have listed : Listed (Member WritesName (Writes Document.valueDepth)) true (presentTypes e) _ :=
    listed_intercalate fun m hm => member_compact (plain m hm).writes m.1
  exact ⟨presentTypes e, _, givenTypes_presentTypes e, listed, rfl⟩

/-- Every list of endpoints whose types can be written has a document that writes it. -/
theorem documentChars_writes {es : List Endpoint}
    (h : ∀ e ∈ es, ∀ f, ∀ v ∈ e.field f, Plain Document.valueDepth v) :
    WritesEndpoints es (documentChars es) := by
  have members : Listed (Member WritesName WritesEntry) true (es.map fun e => (e.key, e))
      ([','].intercalate ((es.map fun e => (e.key, e)).map
        fun m => stringChars m.1 ++ ':' :: entryChars m.2)) := by
    refine listed_intercalate fun m hm => ?_
    obtain ⟨e, he, rfl⟩ := List.mem_map.mp hm
    exact member_compact (entryChars_writes (h e he)) e.key
  refine ⟨[], _, [], .nil, .nil, members, ?_⟩
  simp [documentChars, Function.comp_def]

end EndpointHooks
