import EndpointHooks.TypeScript.Identifier
import Mathlib.Data.List.Infix

/-! The grammar of type names. A type name is a chain of identifiers with dots between neighbours,
and of one chain only, because no identifier holds a dot. So two texts with a dot between them are a
type name exactly if both are, and dots neither start nor end a type name nor follow one another. -/

namespace EndpointHooks.TypeScript

variable {s t : List Char} {parts others : List (List Char)}

/-- The text is a chain: one identifier or more, none of them reserved, joined by dots. -/
structure IsChain (parts : List (List Char)) (s : List Char) : Prop where
  ne_nil : parts ≠ []
  shaped : ∀ part ∈ parts, isIdentifierShaped part = true
  not_reserved : ∀ part ∈ parts, isReserved part = false
  join_eq : Text.join '.' parts = s

namespace IsChain

/-- The identifiers of a chain are the pieces of its text. -/
theorem pieces_eq (h : IsChain parts s) : Text.pieces '.' s = parts := by
  rw [← h.join_eq]
  exact Text.pieces_join h.ne_nil fun part hpart =>
    not_mem_of_isIdentifierShaped (h.shaped part hpart) (isIdentifierPart_of_isSign rfl)

theorem unique (h : IsChain parts s) (h' : IsChain others s) : parts = others :=
  h.pieces_eq.symm.trans h'.pieces_eq

theorem isTypeName (h : IsChain parts s) : isTypeName s = true := by
  rw [isTypeName_iff, h.pieces_eq]
  intro part hpart
  exact isIdentifier_iff.mpr ⟨h.shaped part hpart, h.not_reserved part hpart⟩

end IsChain

theorem isChain_pieces (h : isTypeName s = true) : IsChain (Text.pieces '.' s) s where
  ne_nil := Text.pieces_ne_nil '.' s
  shaped part hpart := (isIdentifier_iff.mp (isTypeName_iff.mp h part hpart)).1
  not_reserved part hpart := (isIdentifier_iff.mp (isTypeName_iff.mp h part hpart)).2
  join_eq := Text.join_pieces s

theorem isTypeName_iff_exists_isChain : isTypeName s = true ↔ ∃ parts, IsChain parts s :=
  ⟨fun h => ⟨_, isChain_pieces h⟩, fun ⟨_, h⟩ => h.isTypeName⟩

theorem isTypeName_append_dot :
    isTypeName (s ++ '.' :: t) = true ↔ isTypeName s = true ∧ isTypeName t = true := by
  rw [isTypeName_iff, isTypeName_iff, isTypeName_iff, Text.pieces_append_separator,
    List.forall_mem_append]

theorem not_isTypeName_nil : ¬isTypeName [] = true := by decide

theorem head?_ne_dot (h : isTypeName s = true) : s.head? ≠ some '.' := by
  intro hhead
  obtain ⟨t, rfl⟩ := List.head?_eq_some_iff.mp hhead
  exact not_isTypeName_nil (isTypeName_append_dot (s := []).mp h).1

theorem getLast?_ne_dot (h : isTypeName s = true) : s.getLast? ≠ some '.' := by
  intro hlast
  obtain ⟨t, rfl⟩ := List.getLast?_eq_some_iff.mp hlast
  exact not_isTypeName_nil (isTypeName_append_dot.mp h).2

theorem not_doubled_dot (h : isTypeName s = true) : ¬['.', '.'] <:+: s := by
  rintro ⟨before, after, rfl⟩
  rw [List.append_assoc] at h
  exact head?_ne_dot (isTypeName_append_dot.mp h).2 rfl

/-- A text is a type name exactly if it is a chain of identifiers, which are then the only ones; two
texts joined by a dot are one exactly if both are, and no dot is at an end or next to another. -/
theorem typeName_grammar (s t : List Char) :
    (isTypeName s = true ↔ ∃ parts, IsChain parts s) ∧
      (∀ parts others, IsChain parts s → IsChain others s → parts = others) ∧
      (isTypeName (s ++ '.' :: t) = true ↔ isTypeName s = true ∧ isTypeName t = true) ∧
      (isTypeName s = true →
        s.head? ≠ some '.' ∧ s.getLast? ≠ some '.' ∧ ¬['.', '.'] <:+: s) :=
  ⟨isTypeName_iff_exists_isChain, fun _ _ h h' => h.unique h', isTypeName_append_dot,
    fun h => ⟨head?_ne_dot h, getLast?_ne_dot h, not_doubled_dot h⟩⟩

/-- The only chain of a name with a dot, which stands between its ends. -/
theorem typeName_grammar_qualified :
    (∃ parts, IsChain parts "gamm.Pools".toList) ∧
      (∀ parts, IsChain parts "gamm.Pools".toList → parts = ["gamm".toList, "Pools".toList]) ∧
      "gamm.Pools".toList.head? ≠ some '.' := by
  have hname : isTypeName "gamm.Pools".toList = true := by decide +kernel
  have hchain : IsChain ["gamm".toList, "Pools".toList] "gamm.Pools".toList :=
    ⟨by simp, by decide +kernel, by decide +kernel, by decide⟩
  obtain ⟨hiff, hunique, -, hdots⟩ := typeName_grammar "gamm.Pools".toList "Item".toList
  exact ⟨hiff.mp hname, fun parts h => hunique parts _ h hchain, (hdots hname).1⟩

end EndpointHooks.TypeScript
