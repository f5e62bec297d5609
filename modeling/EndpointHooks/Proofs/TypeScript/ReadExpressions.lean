import EndpointHooks.Proofs.TypeScript.ReadTypes

/-! The texts of expressions and statements are read back. An expression that members or arguments
may follow is an operand, and its text is read up to the reader of those, which then goes on; any
other text that may follow ends the expression. The two statements are proved together by induction
on the tree, with one lemma for each kind of node. -/

namespace EndpointHooks.TypeScript

open Layout Reader

variable {width depth : Nat}

/-! ### Expressions -/

theorem chars_typeArguments (args : List TypeRef) :
    chars width (typeArguments args) =
      bracketedText (fun t => chars width (TypeRef.layout t)) ">" args := by
  rw [typeArguments, TypeRef.layouts_eq, chars_bracketed]

theorem chars_arrowTypeParams (params : List TypeParam) :
    chars width (arrowTypeParams params) =
      bracketedText (fun param => chars width (TypeParam.layout param)) ",>" params :=
  chars_bracketed _ _ _

theorem chars_statements (ss : List Stmt) :
    chars width (Stmt.lines depth ss) = ss.flatMap fun s =>
      padding width depth ++ (chars width (s.layout depth) ++ ['\n']) := by
  rw [Stmt.lines_eq, chars, List.flatMap_assoc]
  refine List.flatMap_congr fun s _ => ?_
  simp [Stmt.line, chars, Piece.chars, ofText]

/-- The text of an expression starts with none of the marks that end one. -/
theorem Expr.opens (e : Expr) (h : e.wellNamed = true) : Opens (chars width (e.layout depth)) := by
  revert h
  refine (Expr.induct (P := fun e => e.wellNamed = true → Opens (chars width (e.layout depth)))
    (Q := fun _ => True) ?ident ?str ?array ?member ?call ?construct ?not ?arrow
    (fun _ _ => trivial) (fun _ _ => trivial) (fun _ _ _ _ => trivial)).1 e
  case ident =>
    intro name h
    simpa [Expr.layout] using opens_of_isIdentifier h
  case str =>
    exact fun value _ => opens_of_head? (c := '"') (by simp [Expr.layout]) (by decide)
  case array =>
    exact fun items _ _ => opens_of_head? (c := '[') (by simp [Expr.layout]) (by decide)
  case member =>
    intro object property ih h
    simp only [wellNamed, Bool.and_eq_true] at h
    simpa [Expr.layout] using (ih h.1).append _
  case call =>
    intro callee typeArgs args ih _ h
    simp only [wellNamed, Bool.and_eq_true] at h
    simpa [Expr.layout] using (ih h.1.1).append _
  case construct =>
    exact fun callee args _ _ _ => opens_of_head? (c := 'n') (by simp [Expr.layout]) (by decide)
  case not =>
    exact fun arg _ _ => opens_of_head? (c := '!') (by simp [Expr.layout]) (by decide)
  case arrow =>
    intro typeParams params body _ _
    cases typeParams with
    | nil => exact opens_of_head? (c := '(') (by simp [Expr.layout, arrowTypeParams]) (by decide)
    | cons t ts =>
      exact opens_of_head? (c := '<') (by simp [Expr.layout, arrowTypeParams]) (by decide)

theorem Stmt.opens (s : Stmt) : Opens (chars width (s.layout depth)) := by
  cases s with
  | ret => exact opens_of_head? (c := 'r') (by simp [Stmt.layout]) (by decide)
  | throw => exact opens_of_head? (c := 't') (by simp [Stmt.layout]) (by decide)
  | when => exact opens_of_head? (c := 'i') (by simp [Stmt.layout]) (by decide)

/-- Before a mark that stands in no identifier, the text of an operand is read up to the reader of
members and calls. -/
def ReadsOperand (text : List Char) (e : Expr) : Prop :=
  ∀ n c rest, sizeOf e ≤ n → isIdentifierPart c = false →
    ∃ m, n ≤ m + sizeOf e ∧
      expr (n + 1) (text ++ c :: rest) = suffixes (expr n) n m e (c :: rest)

/-- Where it ends, the text of an expression is read back within any bound above its size. -/
def ReadsWhole (text : List Char) (e : Expr) : Prop := ∀ n, sizeOf e + 2 ≤ n → Reads (expr n) text e

/-- No member and no call is read where an operand ends. -/
theorem ReadsOperand.whole {text : List Char} {e : Expr} (h : ReadsOperand text e) :
    ReadsWhole text e := by
  intro n hn rest hrest
  obtain ⟨n, rfl⟩ : ∃ k, n = k + 1 := ⟨n - 1, by omega⟩
  obtain ⟨c, r, rfl, hc⟩ := hrest.head
  obtain ⟨m, hm, hread⟩ := h n c r (by omega) (not_isIdentifierPart (by simp [hc]))
  obtain ⟨m, rfl⟩ : ∃ k, m = k + 1 := ⟨m - 1, by omega⟩
  have hdot : after "." (c :: r) = none :=
    after_eq_none (c := '.') rfl (hrest.head?_ne (by decide))
  have hangle : (c :: r).head? ≠ some '<' := hrest.head?_ne (by decide)
  have hparen : (c :: r).head? ≠ some '(' := hrest.head?_ne (by decide)
  rw [hread]
  simp only [suffixes, hdot, hangle, hparen, or_self, if_false]

theorem readsOperand_ident {name : String} (h : isIdentifier name.toList = true) :
    ReadsOperand (chars width ((Expr.ident name).layout depth)) (.ident name) := by
  intro n c rest _ hc
  refine ⟨n, by omega, ?_⟩
  have hshape := (isIdentifier_iff.mp h).1
  have hmark {d : Char} (hd : isSign d = true) : (name.toList ++ c :: rest).head? ≠ some d :=
    head?_identifier_ne hshape _ (isIdentifierStart_of_isSign hd)
  have hnew : name ≠ "new" := by
    rintro rfl
    exact absurd h (by decide)
  rw [Expr.layout, chars_ofText, expr]
  simp only [hmark (d := '"') rfl, hmark (d := '[') rfl, hmark (d := '!') rfl,
    hmark (d := '<') rfl, hmark (d := '(') rfl, or_self, if_false,
    run_identifier h (stops_cons rest hc), Option.bind_eq_bind, Option.bind_some, hnew]

theorem readsOperand_str (value : String) :
    ReadsOperand (chars width ((Expr.str value).layout depth)) (.str value) := by
  intro n c rest _ _
  refine ⟨n, by omega, ?_⟩
  simp [Expr.layout, expr, literalRest_escape]

theorem expressions_read {items : List Expr} {close : String} (hclose : IsCloser close)
    (hitems : ∀ e ∈ items, ReadsWhole (chars width (e.layout depth)) e)
    (hopens : ∀ e ∈ items, Opens (chars width (e.layout depth))) {n : Nat}
    (hn : sizeOf items < n) (rest : List Char) :
    enclosed (expr n) close n
      (chars width (Layout.commaSeparated (Expr.layouts depth items)) ++ (close.toList ++ rest)) =
      some (items, rest) := by
  rw [chars_commaSeparated, Expr.layouts_eq, List.map_map]
  exact enclosed_reads hclose (fun e he hlt => hitems e he n (by omega)) hopens (by omega) rest

theorem readsOperand_array {items : List Expr}
    (hitems : ∀ e ∈ items, ReadsWhole (chars width (e.layout depth)) e)
    (hopens : ∀ e ∈ items, Opens (chars width (e.layout depth))) :
    ReadsOperand (chars width ((Expr.array items).layout depth)) (.array items) := by
  intro n c rest hn _
  refine ⟨n, by omega, ?_⟩
  simp only [Expr.array.sizeOf_spec] at hn
  have hclose : IsCloser "]" := isCloser_of_head rfl (by decide) (by decide) (by decide)
  have hread := expressions_read hclose hitems hopens (n := n) (by omega) (c :: rest)
  have hhead (s : List Char) : expr (n + 1) ("[".toList ++ s) = (enclosed (expr n) "]" n s).bind
      fun p => suffixes (expr n) n n (.array p.1) p.2 := by
    simp [expr]
  rw [Expr.layout, chars_append, chars_append, chars_ofText, chars_ofText, List.append_assoc,
    List.append_assoc, hhead, hread, Option.bind_some]

theorem readsOperand_member {object : Expr} {property : String}
    (hobject : ReadsOperand (chars width (object.layout depth)) object)
    (h : isIdentifier property.toList = true) :
    ReadsOperand (chars width ((Expr.member object property).layout depth))
      (.member object property) := by
  intro n c rest hn hc
  simp only [Expr.member.sizeOf_spec] at hn ⊢
  obtain ⟨m, hm, hread⟩ := hobject n '.' (property.toList ++ c :: rest) (by omega)
    (not_isIdentifierPart (by simp))
  obtain ⟨m, rfl⟩ : ∃ k, m = k + 1 := ⟨m - 1, by omega⟩
  refine ⟨m, by omega, ?_⟩
  have hdot (s : List Char) : after "." ('.' :: s) = some s := after_append "." s
  have htext : chars width ((Expr.member object property).layout depth) ++ c :: rest =
      chars width (object.layout depth) ++ '.' :: (property.toList ++ c :: rest) := by
    simp [Expr.layout]
  rw [htext, hread, suffixes]
  simp only [hdot, run_identifier h (stops_cons rest hc), Option.bind_eq_bind, Option.bind_some]

def callText (width depth : Nat) (typeArgs : List TypeRef) (args : List Expr) : List Char :=
  bracketedText (fun t => chars width (TypeRef.layout t)) ">" typeArgs ++
    '(' :: (chars width (Layout.commaSeparated (Expr.layouts depth args)) ++ ")".toList)

theorem callText_head (width depth : Nat) (typeArgs : List TypeRef) (args : List Expr)
    (rest : List Char) :
    (callText width depth typeArgs args ++ rest).head? = some '<' ∨
      (callText width depth typeArgs args ++ rest).head? = some '(' := by
  cases typeArgs <;> simp [callText, bracketedText]

theorem suffixes_callText {callee : Expr} {typeArgs : List TypeRef} {args : List Expr} {n : Nat}
    (htypeArgs : ∀ t ∈ typeArgs, t.wellNamed = true)
    (hargs : ∀ e ∈ args, ReadsWhole (chars width (e.layout depth)) e)
    (hopens : ∀ e ∈ args, Opens (chars width (e.layout depth)))
    (hn : sizeOf typeArgs + sizeOf args < n) (m : Nat) (rest : List Char) :
    suffixes (expr n) n (m + 1) callee (callText width depth typeArgs args ++ rest) =
      suffixes (expr n) n m (.call callee typeArgs args) rest := by
  have htypes (s : List Char) : bracketed (typeRef n) ">" n
      (bracketedText (fun t => chars width (TypeRef.layout t)) ">" typeArgs ++ '(' :: s) =
      some (typeArgs, '(' :: s) := typeArgs_read htypeArgs (by omega) (by simp)
  have hread := expressions_read isCloser_paren hargs hopens (n := n) (by omega) rest
  have hopen (s : List Char) : after "(" ('(' :: s) = some s := after_append "(" s
  have hhead := callText_head width depth typeArgs args rest
  have hdot : after "." (callText width depth typeArgs args ++ rest) = none :=
    after_eq_none (c := '.') rfl (by rcases hhead with h | h <;> simp [h])
  rw [suffixes, hdot, if_pos hhead]
  simp only [callText, List.append_assoc, List.cons_append, htypes, hopen, hread,
    Option.bind_eq_bind, Option.bind_some]

theorem readsOperand_call {callee : Expr} {typeArgs : List TypeRef} {args : List Expr}
    (hcallee : ReadsOperand (chars width (callee.layout depth)) callee)
    (htypeArgs : ∀ t ∈ typeArgs, t.wellNamed = true)
    (hargs : ∀ e ∈ args, ReadsWhole (chars width (e.layout depth)) e)
    (hopens : ∀ e ∈ args, Opens (chars width (e.layout depth))) :
    ReadsOperand (chars width ((Expr.call callee typeArgs args).layout depth))
      (.call callee typeArgs args) := by
  intro n c rest hn _
  simp only [Expr.call.sizeOf_spec] at hn ⊢
  have hhead := callText_head width depth typeArgs args (c :: rest)
  obtain ⟨d, r, hd, hpart⟩ : ∃ d r, callText width depth typeArgs args ++ c :: rest = d :: r ∧
      isIdentifierPart d = false := by
    rcases hhead with h | h <;> obtain ⟨r, hr⟩ := List.head?_eq_some_iff.mp h <;>
      exact ⟨_, r, hr, not_isIdentifierPart (by simp)⟩
  obtain ⟨m, hm, hread⟩ := hcallee n d r (by omega) hpart
  obtain ⟨m, rfl⟩ : ∃ k, m = k + 1 := ⟨m - 1, by omega⟩
  refine ⟨m, by omega, ?_⟩
  have htext : chars width ((Expr.call callee typeArgs args).layout depth) ++ c :: rest =
      chars width (callee.layout depth) ++ (callText width depth typeArgs args ++ c :: rest) := by
    simp [Expr.layout, chars_typeArguments, callText]
  rw [htext, hd, hread, ← hd, suffixes_callText htypeArgs hargs hopens (by omega)]

theorem dottedName_reads (width depth : Nat) (e : Expr) (hname : e.isDottedName = true)
    (h : e.wellNamed = true) {n : Nat} (hn : sizeOf e ≤ n) {c : Char}
    (hc : isIdentifierPart c = false) (rest : List Char) :
    ∃ m, n ≤ m + sizeOf e ∧
      dottedName n (chars width (e.layout depth) ++ c :: rest) = members m e (c :: rest) := by
  match e with
  | .ident name =>
    simp only [Expr.wellNamed] at h
    refine ⟨n, by omega, ?_⟩
    simp only [dottedName, Expr.layout, chars_ofText, run_identifier h (stops_cons rest hc),
      Option.bind_eq_bind, Option.bind_some]
  | .member object property =>
    simp only [Expr.isDottedName] at hname
    simp only [Expr.wellNamed, Bool.and_eq_true] at h
    simp only [Expr.member.sizeOf_spec] at hn ⊢
    obtain ⟨m, hm, hread⟩ := dottedName_reads width depth object hname h.1 (n := n) (by omega)
      (c := '.') (not_isIdentifierPart (by simp)) (property.toList ++ c :: rest)
    obtain ⟨m, rfl⟩ : ∃ k, m = k + 1 := ⟨m - 1, by omega⟩
    refine ⟨m, by omega, ?_⟩
    have hdot (s : List Char) : after "." ('.' :: s) = some s := after_append "." s
    have htext : chars width ((Expr.member object property).layout depth) ++ c :: rest =
        chars width (object.layout depth) ++ '.' :: (property.toList ++ c :: rest) := by
      simp [Expr.layout]
    rw [htext, hread, members]
    simp only [hdot, run_identifier h.2 (stops_cons rest hc), Option.bind_eq_bind,
      Option.bind_some]

theorem expr_new (n : Nat) (s : List Char) :
    expr (n + 1) ("new".toList ++ ' ' :: s) = (construction (expr n) n (' ' :: s)).bind
      fun p => suffixes (expr n) n n p.1 p.2 := by
  have hname : run isIdentifierPart ("new".toList ++ ' ' :: s) = some ("new", ' ' :: s) :=
    run_append (List.all_eq_true.mp (by decide)) (stops_cons s (not_isIdentifierPart (by decide)))
  rw [expr, if_neg (by simp), if_neg (by simp), if_neg (by simp), if_neg (by simp)]
  simp only [hname, if_true, Option.bind_eq_bind, Option.bind_some]

theorem readsOperand_construct {callee : Expr} {args : List Expr}
    (hname : callee.isDottedName = true) (h : callee.wellNamed = true)
    (hargs : ∀ e ∈ args, ReadsWhole (chars width (e.layout depth)) e)
    (hopens : ∀ e ∈ args, Opens (chars width (e.layout depth))) :
    ReadsOperand (chars width ((Expr.construct callee args).layout depth))
      (.construct callee args) := by
  intro n c rest hn _
  refine ⟨n, by omega, ?_⟩
  simp only [Expr.construct.sizeOf_spec] at hn
  have hread := expressions_read isCloser_paren hargs hopens (n := n) (by omega) (c :: rest)
  obtain ⟨m, hm, hcallee⟩ := dottedName_reads width depth callee hname h
    (n := n) (by omega) (c := '(') (not_isIdentifierPart (by simp))
    (chars width (Layout.commaSeparated (Expr.layouts depth args)) ++ (")".toList ++ c :: rest))
  obtain ⟨m, rfl⟩ : ∃ k, m = k + 1 := ⟨m - 1, by omega⟩
  have hblank (s : List Char) : after " " (' ' :: s) = some s := after_append " " s
  have hopen (s : List Char) : after "(" ('(' :: s) = some s := after_append "(" s
  have hdot (s : List Char) : after "." ('(' :: s) = none := after_eq_none (c := '.') rfl (by simp)
  have htext : chars width ((Expr.construct callee args).layout depth) ++ c :: rest =
      "new".toList ++ ' ' :: (chars width (callee.layout depth) ++
        '(' :: (chars width (Layout.commaSeparated (Expr.layouts depth args)) ++
          (")".toList ++ c :: rest))) := by
    simp [Expr.layout]
  rw [htext, expr_new]
  simp only [construction, hblank, hcallee, members, hdot, hopen, hread, Option.bind_eq_bind,
    Option.bind_some]

theorem readsWhole_not {arg : Expr} (harg : ReadsWhole (chars width (arg.layout depth)) arg) :
    ReadsWhole (chars width ((Expr.not arg).layout depth)) (.not arg) := by
  intro n hn rest hrest
  simp only [Expr.not.sizeOf_spec] at hn
  obtain ⟨n, rfl⟩ : ∃ k, n = k + 1 := ⟨n - 1, by omega⟩
  have hread := harg n (by omega) rest hrest
  have htext : chars width ((Expr.not arg).layout depth) ++ rest =
      '!' :: (chars width (arg.layout depth) ++ rest) := by
    simp [Expr.layout]
  rw [htext, expr]
  simp [hread]

/-- Where it ends, the text of a statement is read back within any bound above its size. -/
def ReadsStmt (text : List Char) (s : Stmt) : Prop := ∀ n, sizeOf s + 2 ≤ n → Reads (stmt n) text s

def blockText (width depth : Nat) (body : List Stmt) : List Char :=
  if body.isEmpty then "\x7b\x7d".toList
  else "\x7b\n".toList ++
    linesText width depth (fun s => chars width (Stmt.layout (depth + 1) s)) body

theorem block_read {body : List Stmt}
    (hbody : ∀ s ∈ body, ReadsStmt (chars width (s.layout (depth + 1))) s) {n : Nat}
    (hn : sizeOf body < n) (rest : List Char) :
    block (stmt n) n (blockText width depth body ++ rest) = some (body, rest) := by
  by_cases hempty : body = []
  · subst hempty
    simp only [block, blockText, List.isEmpty_nil, if_true, after_append]
  · have hnone (s : List Char) : after "\x7b\x7d" ("\x7b\n".toList ++ s) = none := by
      simp [after, List.dropPrefix?]
    have hlines : lines (stmt n) n
        (linesText width depth (fun s => chars width (Stmt.layout (depth + 1) s)) body ++ rest) =
        some (body, rest) :=
      lines_reads (fun s hs hlt => hbody s hs n (by omega)) (fun s _ => s.opens) (by omega) rest
    have hnonempty : body.isEmpty = false := by simpa using hempty
    simp only [block, blockText, hnonempty, Bool.false_eq_true, if_false, List.append_assoc, hnone,
      after_append, hlines, Option.bind_eq_bind, Option.bind_some]

theorem chars_arrow (typeParams : List TypeParam) (params : List Param) (body : List Stmt) :
    chars width ((Expr.arrow typeParams params body).layout depth) =
      bracketedText (fun t => chars width (TypeParam.layout t)) ",>" typeParams ++
        '(' :: (List.intercalate ", ".toList
          (params.map fun p => chars width (Param.layout depth p)) ++
            (") => ".toList ++ blockText width depth body)) := by
  cases body <;>
    simp [Expr.layout, chars_arrowTypeParams, chars_commaSeparated, chars_statements, blockText,
      linesText, Piece.chars, Function.comp_def]

theorem arrow_head (width depth : Nat) (typeParams : List TypeParam) (params : List Param)
    (body : List Stmt) (rest : List Char) :
    (chars width ((Expr.arrow typeParams params body).layout depth) ++ rest).head? = some '<' ∨
      (chars width ((Expr.arrow typeParams params body).layout depth) ++ rest).head? =
        some '(' := by
  cases typeParams <;> simp [chars_arrow, bracketedText]

theorem readsWhole_arrow {typeParams : List TypeParam} {params : List Param} {body : List Stmt}
    (htypeParams : ∀ t ∈ typeParams, t.wellNamed = true)
    (hparams : ∀ p ∈ params, p.wellNamed = true)
    (hbody : ∀ s ∈ body, ReadsStmt (chars width (s.layout (depth + 1))) s) :
    ReadsWhole (chars width ((Expr.arrow typeParams params body).layout depth))
      (.arrow typeParams params body) := by
  intro n hn rest hrest
  simp only [Expr.arrow.sizeOf_spec] at hn
  obtain ⟨n, rfl⟩ : ∃ k, n = k + 1 := ⟨n - 1, by omega⟩
  have hclose : IsCloser ",>" :=
    ⟨fun _ => ends_cons _ (by decide) (by decide), fun _ => by simp [after, List.dropPrefix?]⟩
  have hparen : IsCloser ") => " := isCloser_of_head rfl (by decide) (by decide) (by decide)
  have hopen (s : List Char) : after "(" ('(' :: s) = some s := after_append "(" s
  have hparamsRead (s : List Char) : enclosed (param n) ") => " n
      (List.intercalate ", ".toList (params.map fun p => chars width (Param.layout depth p)) ++
        (") => ".toList ++ s)) = some (params, s) :=
    enclosed_reads hparen (fun p hp hlt => p.reads (hparams p hp) (by omega))
      (fun p _ => p.opens) (by omega) s
  have htypes (s : List Char) : bracketed (typeParam n) ",>" n
      (bracketedText (fun t => chars width (TypeParam.layout t)) ",>" typeParams ++ '(' :: s) =
      some (typeParams, '(' :: s) := typeParams_read hclose htypeParams (by omega) (by simp)
  have hblock := block_read hbody (n := n) (by omega) rest
  have hhead := arrow_head width depth typeParams params body rest
  have hmark {c : Char} (hangle : c ≠ '<') (hparen : c ≠ '(') :
      (chars width ((Expr.arrow typeParams params body).layout depth) ++ rest).head? ≠ some c := by
    rcases hhead with h | h <;> simp [h, hangle.symm, hparen.symm]
  rw [expr, if_neg (hmark (by decide) (by decide)), if_neg (hmark (by decide) (by decide)),
    if_neg (hmark (by decide) (by decide)), if_pos hhead, chars_arrow]
  simp only [List.append_assoc, List.cons_append, arrow, htypes, hopen, hparamsRead, hblock,
    Option.bind_eq_bind, Option.bind_some]

/-! ### Statements -/

theorem readsStmt_ret {value : Expr}
    (hvalue : ReadsWhole (chars width (value.layout depth)) value) :
    ReadsStmt (chars width ((Stmt.ret value).layout depth)) (.ret value) := by
  intro n hn rest _
  simp only [Stmt.ret.sizeOf_spec] at hn
  obtain ⟨n, rfl⟩ : ∃ k, n = k + 1 := ⟨n - 1, by omega⟩
  have hread := hvalue n (by omega) (";".toList ++ rest) (ends_cons _ (by decide) (by decide))
  simp only [Stmt.layout, chars_append, chars_ofText, List.append_assoc, stmt, after_append, hread,
    Option.bind_eq_bind, Option.bind_some]

theorem readsStmt_throw {value : Expr}
    (hvalue : ReadsWhole (chars width (value.layout depth)) value) :
    ReadsStmt (chars width ((Stmt.throw value).layout depth)) (.throw value) := by
  intro n hn rest _
  simp only [Stmt.throw.sizeOf_spec] at hn
  obtain ⟨n, rfl⟩ : ∃ k, n = k + 1 := ⟨n - 1, by omega⟩
  have hread := hvalue n (by omega) (";".toList ++ rest) (ends_cons _ (by decide) (by decide))
  have hret (s : List Char) : after "return " ("throw ".toList ++ s) = none :=
    after_eq_none (c := 'r') rfl (by simp)
  simp only [Stmt.layout, chars_append, chars_ofText, List.append_assoc, stmt, hret, after_append,
    hread, Option.bind_eq_bind, Option.bind_some]

theorem readsStmt_when {cond : Expr} {consequent : Stmt}
    (hcond : ReadsWhole (chars width (cond.layout depth)) cond)
    (hconsequent : ReadsStmt (chars width (consequent.layout depth)) consequent) :
    ReadsStmt (chars width ((Stmt.when cond consequent).layout depth)) (.when cond consequent) := by
  intro n hn rest hrest
  simp only [Stmt.when.sizeOf_spec] at hn
  obtain ⟨n, rfl⟩ : ∃ k, n = k + 1 := ⟨n - 1, by omega⟩
  have hread := hcond n (by omega)
    (") ".toList ++ (chars width (consequent.layout depth) ++ rest))
    (ends_cons _ (by decide) (by decide))
  have hthen := hconsequent n (by omega) rest hrest
  have hret (s : List Char) : after "return " ("if (".toList ++ s) = none :=
    after_eq_none (c := 'r') rfl (by simp)
  have hthrow (s : List Char) : after "throw " ("if (".toList ++ s) = none :=
    after_eq_none (c := 't') rfl (by simp)
  simp only [Stmt.layout, chars_append, chars_ofText, List.append_assoc, stmt, hret, hthrow,
    after_append, hread, hthen, Option.bind_eq_bind, Option.bind_some]

/-- Expressions and statements are read back from their texts. The parts of an operand are needed
in both ways, as operands and as whole expressions. -/
theorem reads_all :
    (∀ e : Expr, ∀ {depth}, e.wellNamed = true → e.isBare = true →
      (e.isOperand = true → ReadsOperand (chars width (e.layout depth)) e) ∧
        ReadsWhole (chars width (e.layout depth)) e) ∧
    ∀ s : Stmt, ∀ {depth}, s.wellNamed = true → s.isBare = true →
      ReadsStmt (chars width (s.layout depth)) s := by
  have operand {e : Expr} {text : List Char} (h : ReadsOperand text e) :
      (e.isOperand = true → ReadsOperand text e) ∧ ReadsWhole text e := ⟨fun _ => h, h.whole⟩
  apply Expr.induct
  case ident =>
    intro name depth h _
    exact operand (readsOperand_ident h)
  case str => exact fun value depth _ _ => operand (readsOperand_str value)
  case array =>
    intro items ih depth h hbare
    simp only [Expr.wellNamed, Expr.allWellNamed_iff] at h
    simp only [Expr.isBare, Expr.allBare_iff] at hbare
    exact operand (readsOperand_array (fun e he => (ih e he (h e he) (hbare e he)).2)
      fun e he => e.opens (h e he))
  case member =>
    intro object property ih depth h hbare
    simp only [Expr.wellNamed, Bool.and_eq_true] at h
    simp only [Expr.isBare, Bool.and_eq_true] at hbare
    exact operand (readsOperand_member ((ih h.1 hbare.2).1 hbare.1) h.2)
  case call =>
    intro callee typeArgs args ih ihargs depth h hbare
    simp only [Expr.wellNamed, Bool.and_eq_true, List.all_eq_true, Expr.allWellNamed_iff] at h
    simp only [Expr.isBare, Bool.and_eq_true, Expr.allBare_iff] at hbare
    exact operand (readsOperand_call ((ih h.1.1 hbare.1.2).1 hbare.1.1) h.1.2
      (fun e he => (ihargs e he (h.2 e he) (hbare.2 e he)).2) fun e he => e.opens (h.2 e he))
  case construct =>
    intro callee args _ ihargs depth h hbare
    simp only [Expr.wellNamed, Bool.and_eq_true, Expr.allWellNamed_iff] at h
    simp only [Expr.isBare, Bool.and_eq_true, Expr.allBare_iff] at hbare
    exact operand (readsOperand_construct hbare.1 h.1
      (fun e he => (ihargs e he (h.2 e he) (hbare.2 e he)).2) fun e he => e.opens (h.2 e he))
  case not =>
    intro arg ih depth h hbare
    simp only [Expr.isBare, Bool.and_eq_true] at hbare
    exact ⟨fun hop => by simp [Expr.isOperand] at hop, readsWhole_not (ih h hbare.2).2⟩
  case arrow =>
    intro typeParams params body ih depth h hbare
    simp only [Expr.wellNamed, Bool.and_eq_true, List.all_eq_true, Stmt.allWellNamed_iff] at h
    simp only [Expr.isBare, Stmt.allBare_iff] at hbare
    exact ⟨fun hop => by simp [Expr.isOperand] at hop,
      readsWhole_arrow h.1.1 h.1.2 fun s hs => ih s hs (h.2 s hs) (hbare s hs)⟩
  case ret => exact fun value ih depth h hbare => readsStmt_ret (ih h hbare).2
  case throw => exact fun value ih depth h hbare => readsStmt_throw (ih h hbare).2
  case when =>
    intro cond consequent ih ihs depth h hbare
    simp only [Stmt.wellNamed, Bool.and_eq_true] at h
    simp only [Stmt.isBare, Bool.and_eq_true] at hbare
    exact readsStmt_when (ih h.1 hbare.1).2 (ihs h.2 hbare.2)

end EndpointHooks.TypeScript
