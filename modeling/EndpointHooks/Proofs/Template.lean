import EndpointHooks.Proofs.Acceptance
import EndpointHooks.Proofs.Text.Lines
import Mathlib

/-! The text generated from a document is a template filled in for each of its endpoints. The
template is written out here line by line, without syntax trees, layouts and the names of hooks;
the characters of a key and the values of its two types are all that goes into it. -/

namespace EndpointHooks

open TypeScript

variable {width : Nat} {exportHook : Bool} {e : Endpoint}

namespace Template

/-- A key with its first character in upper case. -/
def upperKey (key : String) : String :=
  match key.toList with
  | [] => ""
  | first :: rest => String.ofList (Unicode.upper first) ++ String.ofList rest

/-- A key with its first character in lower case. -/
def lowerKey (key : String) : String :=
  match key.toList with
  | [] => ""
  | first :: rest => String.ofList (Unicode.lower first) ++ String.ofList rest

/-- What stands for a type: the string that is given, `undefined` if nothing is given, and the JSON
of anything else. -/
def typeName : Option Json → String
  | some (.str name) => name
  | some .null => "null"
  | some value => String.ofList value.chars
  | none => "undefined"

def indent (width level : Nat) : String := String.ofList (List.replicate (width * level) ' ')

/-- The interface for the parameters of a hook. -/
def interfaceLines (width : Nat) (e : Endpoint) : List String :=
  ["export interface Use" ++ upperKey e.key ++ "Query<TData> extends ReactQueryParams<" ++
      typeName e.responseType ++ ", TData> \x7b",
    indent width 1 ++ "request?: " ++ typeName e.requestType ++ ";",
    "\x7d"]

/-- The fetcher of a hook, between the lines of its braces. -/
def fetcherLines (width : Nat) (e : Endpoint) : List String :=
  [indent width 2 ++ "if (!queryService) throw new Error(\"Query Service not initialized\");",
    indent width 2 ++ "return queryService." ++ lowerKey e.key ++ "(request);"]

def hookLines (width : Nat) (exportHook : Bool) (e : Endpoint) : List String :=
  [(if exportHook then "export " else "") ++ "const use" ++ upperKey e.key ++ " = <TData = " ++
      typeName e.responseType ++ ",>(\x7b",
    indent width 1 ++ "request,",
    indent width 1 ++ "options",
    "\x7d: Use" ++ upperKey e.key ++ "Query<TData>) => \x7b",
    indent width 1 ++ "return useQuery<" ++ typeName e.responseType ++ ", Error, TData>([\"" ++
      String.ofList (escape (lowerKey e.key ++ "Query").toList) ++
      "\", request], () => \x7b"] ++
  fetcherLines width e ++
  [indent width 1 ++ "\x7d, options);",
    "\x7d;"]

def lines (width : Nat) (exportHook : Bool) (e : Endpoint) : List String :=
  interfaceLines width e ++ hookLines width exportHook e

/-- The template filled in for an endpoint: whole lines. -/
def text (width : Nat) (exportHook : Bool) (e : Endpoint) : String :=
  Text.ofLines (lines width exportHook e)

theorem map_text (width : Nat) (exportHook : Bool) (es : List Endpoint) :
    es.map (text width exportHook) = (es.map (lines width exportHook)).map Text.ofLines := by
  rw [List.map_map]
  refine List.map_congr_left fun e _ => ?_
  rw [Function.comp_apply, text]

/-! ### The names of a hook in the template -/

@[simp] theorem upperKey_eq (key : String) : upperKey key = capitalize key := by
  rw [upperKey, capitalize]
  cases key.toList with
  | nil => rfl
  | cons first rest => rw [capitalizeChars, String.ofList_append]

@[simp] theorem lowerKey_eq (key : String) : lowerKey key = uncapitalize key := by
  rw [lowerKey, uncapitalize]
  cases key.toList with
  | nil => rfl
  | cons first rest => rw [uncapitalizeChars, String.ofList_append]

@[simp] theorem typeName_eq (value : Option Json) : typeName value = typeText value := by
  cases value with
  | none => rfl
  | some v => cases v <;> rfl

end Template

/-! ### Modules are written as the template -/

def lineChars (lines : List String) : List Char := lines.flatMap fun line => line.toList ++ ['\n']

theorem Template.toList_text :
    (Template.text width exportHook e).toList =
      lineChars (interfaceLines width e) ++ lineChars (hookLines width exportHook e) := by
  simp [text, lines, Text.ofLines, lineChars, List.flatMap_map]

theorem chars_interface_item :
    Layout.chars width (Item.layout 0 ⟨true, .interface (Synthesis.paramsInterface e.hookNames)⟩) =
      lineChars (Template.interfaceLines width e) := by
  have hkey : propertyKey Synthesis.requestParam = "request" := by decide
  simp [Template.interfaceLines, Template.indent, lineChars, Item.layout, Decl.layout,
    Interface.layout, interfaceTypeParams, heritage, Property.line, Property.layout, hkey,
    TypeParam.layout, TypeRef.layout, TypeRef.layouts, TypeRef.named, Layout.commaSeparated,
    Synthesis.paramsInterface, Synthesis.dataParam, Synthesis.baseInterface, Endpoint.hookNames,
    HookNames.derive, padding, Piece.chars]

theorem chars_fetcher :
    Layout.chars width ((Synthesis.fetcher e.hookNames).layout 1) =
      "() => \x7b\n".toList ++ (lineChars (Template.fetcherLines width e) ++
        (padding width 1 ++ "\x7d".toList)) := by
  simp [Template.fetcherLines, Template.indent, lineChars, Synthesis.fetcher, Expr.layout,
    Expr.layouts, Stmt.lines, Stmt.layout, arrowTypeParams, typeArguments, Layout.commaSeparated,
    Synthesis.queryService, Synthesis.errorClass, Synthesis.serviceMissing, Synthesis.requestParam,
    Endpoint.hookNames, HookNames.derive, padding, Piece.chars, literal, escape, escapeChar]

theorem chars_hook_item :
    Layout.chars width
        (Item.layout 0 ⟨exportHook, .constant (Synthesis.hookConstant e.hookNames)⟩) =
      lineChars (Template.hookLines width exportHook e) := by
  have hname : e.hookNames.hook = "use" ++ capitalize e.key := rfl
  have hinterface : e.hookNames.queryInterface = "Use" ++ capitalize e.key ++ "Query" := rfl
  have hkey : e.hookNames.cacheKey = uncapitalize e.key ++ "Query" := rfl
  have htype : e.hookNames.responseType = typeText e.responseType := rfl
  simp [Template.hookLines, Template.indent, lineChars, Item.layout, Decl.layout, Constant.layout,
    Synthesis.hookConstant, Synthesis.queryCall, Expr.layout, Expr.layouts, chars_fetcher,
    Stmt.lines, Stmt.layout, arrowTypeParams, typeArguments, TypeParam.layout, TypeRef.layout,
    TypeRef.layouts, TypeRef.named, Param.layout, bindingLines, Layout.commaSeparated,
    Synthesis.queryFunction, Synthesis.dataParam, Synthesis.errorClass, Synthesis.requestParam,
    Synthesis.optionsParam, hname, hinterface, hkey, htype, padding, Piece.chars, literal]

theorem chars_module :
    Layout.chars width ((e.hook exportHook).module.layout 0) =
      (Template.text width exportHook e).toList := by
  have hitems : (e.hook exportHook).module.layout 0 =
      Item.layout 0 ⟨true, .interface (Synthesis.paramsInterface e.hookNames)⟩ ++
        Item.layout 0 ⟨exportHook, .constant (Synthesis.hookConstant e.hookNames)⟩ := by
    simp [Endpoint.hook, HookNames.module, Module.layout]
  rw [hitems, Layout.chars_append, chars_interface_item, chars_hook_item, Template.toList_text]

/-- The deepest lines of a module are two levels deep. -/
theorem fits_module :
    Layout.fits width ((e.hook exportHook).module.layout 0) = decide (width * 2 < textLimit) := by
  have hlimit : 0 < textLimit := by decide
  have hone : width * 2 < textLimit → width < textLimit := by omega
  rw [Bool.eq_iff_iff]
  simp [Endpoint.hook, HookNames.module, Module.layout, Item.layout, Decl.layout, Interface.layout,
    Constant.layout, interfaceTypeParams, heritage, Property.line, Property.layout,
    Synthesis.paramsInterface, Synthesis.hookConstant, Synthesis.queryCall, Synthesis.fetcher,
    Expr.layout, Expr.layouts, Stmt.lines, Stmt.layout, arrowTypeParams, typeArguments,
    TypeParam.layout, TypeRef.layout, TypeRef.layouts, TypeRef.named, Param.layout, bindingLines,
    Layout.commaSeparated, Piece.fits, hlimit]
  exact ⟨fun h => h.2.1, fun h => ⟨hone h, h, hone h⟩⟩

/-- A hook is rendered as the template, unless two levels of blanks are too long for a string. -/
theorem render_hook :
    (e.hook exportHook).render width =
      if width * 2 < textLimit then .ok (Template.text width exportHook e)
      else .error .indentTooWide := by
  rw [Hook.render, Module.render?, Layout.render?, fits_module, chars_module, String.ofList_toList]
  split <;> simp_all

variable {config : Config} {document : String} {es : List Endpoint}

theorem renderAll_hooks (hwidth : config.indentWidth * 2 < textLimit) :
    renderAll config.indentWidth (hooks config es) =
      .ok (es.map (Template.text config.indentWidth config.exportHook)) := by
  induction es with
  | nil => rfl
  | cons e es ih =>
    simp only [renderAll, hooks_eq_map, List.map_cons, List.mapM_cons, render_hook,
      if_pos hwidth] at ih ⊢
    rw [ih]
    rfl

theorem renderAll_hooks_eq_error (hwidth : ¬config.indentWidth * 2 < textLimit) (hes : es ≠ []) :
    renderAll config.indentWidth (hooks config es) = .error .indentTooWide := by
  obtain ⟨e, es, rfl⟩ := List.exists_cons_of_ne_nil hes
  simp only [renderAll, hooks_eq_map, List.map_cons, List.mapM_cons, render_hook, if_neg hwidth]
  rfl

/-- The result for a document that can be read: its endpoints are validated and then rendered. -/
theorem generate_result (hread : readEndpoints document = .ok es) :
    (generate config document).result = do
      (validate config.strictness es).result
      let texts ← renderAll config.indentWidth (hooks config es)
      return joinModules texts := by
  simp only [generate, synthesize, Run.bind_result, Run.ofExcept_result, Run.logged_result,
    Run.pure_result, hread]
  simp only [bind, Except.bind]
  cases (validate config.strictness es).result <;> rfl

/-- A document that can be read gives a text exactly if its issues do not matter or it has none, and
the text is the template for its endpoints, in order and with repetitions, with an empty line
between neighbours. Whether modules may be built side by side makes no difference. -/
theorem generate_eq_template (hread : readEndpoints document = .ok es)
    (hwidth : (generate config document).result ≠ .error .indentTooWide) :
    (∀ text, (generate config document).result = .ok text ↔
      (config.strictness = .lenient ∨ issues es = []) ∧
        text = "\n".intercalate
          (es.map (Template.text config.indentWidth config.exportHook))) ∧
    ∀ parallel, (generate { config with parallel } document).result =
      (generate config document).result := by
  refine ⟨fun text => ?_, fun parallel => ?_⟩
  · rw [← validate_ok_iff]
    rw [generate_result hread] at hwidth ⊢
    cases hvalid : (validate config.strictness es).result with
    | error err => simp [bind, Except.bind]
    | ok =>
      have hrender : renderAll config.indentWidth (hooks config es) =
          .ok (es.map (Template.text config.indentWidth config.exportHook)) := by
        by_cases hfits : config.indentWidth * 2 < textLimit
        · exact renderAll_hooks hfits
        · by_cases hes : es = []
          · subst hes
            rfl
          · rw [hvalid, renderAll_hooks_eq_error hfits hes] at hwidth
            exact absurd rfl hwidth
      rw [hrender]
      simp [bind, Except.bind, pure, Except.pure, joinModules, eq_comm]
  · rw [generate_result hread, generate_result hread]
    rfl

/-- Two endpoints in a lenient run, the second one without a type for its response. -/
theorem generate_eq_template_pools :
    (generate { strictness := .lenient, indentWidth := 2, exportHook := false }
      ("\x7b\"pools\":\x7b\"requestType\":\"A\",\"responseType\":\"B.C\"\x7d," ++
        "\"a\\\"\":\x7b\"requestType\":7\x7d\x7d")).result =
    .ok (Text.ofLines
      ["export interface UsePoolsQuery<TData> extends ReactQueryParams<B.C, TData> \x7b",
        "  request?: A;",
        "\x7d",
        "const usePools = <TData = B.C,>(\x7b",
        "  request,",
        "  options",
        "\x7d: UsePoolsQuery<TData>) => \x7b",
        "  return useQuery<B.C, Error, TData>([\"poolsQuery\", request], () => \x7b",
        "    if (!queryService) throw new Error(\"Query Service not initialized\");",
        "    return queryService.pools(request);",
        "  \x7d, options);",
        "\x7d;",
        "",
        "export interface UseA\"Query<TData> extends ReactQueryParams<undefined, TData> \x7b",
        "  request?: 7;",
        "\x7d",
        "const useA\" = <TData = undefined,>(\x7b",
        "  request,",
        "  options",
        "\x7d: UseA\"Query<TData>) => \x7b",
        "  return useQuery<undefined, Error, TData>([\"a\\\"Query\", request], () => \x7b",
        "    if (!queryService) throw new Error(\"Query Service not initialized\");",
        "    return queryService.a\"(request);",
        "  \x7d, options);",
        "\x7d;"]) := by
  have hread : readEndpoints
      ("\x7b\"pools\":\x7b\"requestType\":\"A\",\"responseType\":\"B.C\"\x7d," ++
        "\"a\\\"\":\x7b\"requestType\":7\x7d\x7d") =
      .ok [⟨"pools", some (.str "A"), some (.str "B.C")⟩, ⟨"a\"", some (.int 7), none⟩] := by cbv
  refine ((generate_eq_template hread ?_).1 _).mpr ⟨.inl rfl, ?_⟩
  · rw [generate_result hread, validate_ok_iff.mpr (.inl rfl), renderAll_hooks (by decide)]
    simp [bind, Except.bind, pure, Except.pure]
  · rw [Template.map_text, Text.intercalate_ofLines]
    exact congrArg Text.ofLines (by decide +kernel)

end EndpointHooks
