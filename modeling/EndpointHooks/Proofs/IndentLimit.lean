import EndpointHooks.Proofs.Template
import EndpointHooks.Proofs.TypeScript.Indentation

/-! Widths that are too large. A line cannot be indented by `2 ^ 63` blanks or more, so a module can
be written exactly as long as its deepest line stays below that. The modules of hooks are two levels
deep, and a run fails for its width only where there is a module to write: whatever else is wrong
with a document is told first. -/

namespace EndpointHooks

open TypeScript

variable {e : Endpoint} {es : List Endpoint} {config : Config} {document : String} {width : Nat}
  {err : Error}

/-- The body of a hook is one level deep and that of its fetcher two. -/
theorem levels_hook (e : Endpoint) (exportHook : Bool) :
    (e.hook exportHook).module.levels = 2 := rfl

theorem render_eq_error_iff {hook : Hook} : hook.render width = .error err ↔
    err = .indentTooWide ∧ textLimit ≤ width * hook.module.levels := by
  rw [Hook.render, ← Module.render?_eq_none_iff_levels]
  cases h : hook.module.render? width <;> simp [eq_comm]

/-- Hooks are rendered unless one of them is too wide. -/
theorem renderAll_eq_error_iff {hs : List Hook} : renderAll width hs = .error err ↔
    err = .indentTooWide ∧ ∃ hook ∈ hs, textLimit ≤ width * hook.module.levels := by
  induction hs with
  | nil => simp [renderAll, pure, Except.pure]
  | cons hook hs ih =>
    simp only [renderAll] at ih
    rw [renderAll, List.mapM_cons]
    cases hrender : hook.render width with
    | error err' =>
      obtain ⟨rfl, hwide⟩ := render_eq_error_iff.mp hrender
      rw [List.exists_mem_cons_iff, and_iff_left (.inl hwide)]
      simp [bind, Except.bind, eq_comm]
    | ok text =>
      have hnarrow : ¬textLimit ≤ width * hook.module.levels := fun hwide => by
        rw [render_eq_error_iff.mpr ⟨rfl, hwide⟩] at hrender
        cases hrender
      rw [List.exists_mem_cons_iff, or_iff_right hnarrow, ← ih]
      cases hs.mapM (·.render width) <;> simp [bind, Except.bind, pure, Except.pure]

theorem renderAll_hooks_eq_error_iff : renderAll width (hooks config es) = .error err ↔
    err = .indentTooWide ∧ es ≠ [] ∧ 2 ^ 62 ≤ width := by
  have hlimit : textLimit = 2 ^ 63 := rfl
  rw [renderAll_eq_error_iff, hlimit]
  refine and_congr_right fun _ => ⟨?_, ?_⟩
  · rintro ⟨hook, hmem, hwide⟩
    obtain ⟨e, he, rfl⟩ := mem_hooks.mp hmem
    rw [levels_hook] at hwide
    exact ⟨List.ne_nil_of_mem he, by omega⟩
  · rintro ⟨hes, hwide⟩
    obtain ⟨e, he⟩ := List.exists_mem_of_ne_nil es hes
    refine ⟨e.hook config.exportHook, mem_hooks.mpr ⟨e, he, rfl⟩, ?_⟩
    rw [levels_hook]
    omega

theorem generate_of_unreadable (h : readEndpoints document = .error err) :
    (generate config document).result = .error err := by
  rw [generate, Run.bind_result, Run.ofExcept_result, h]
  rfl

theorem readEndpoints_ne_indentTooWide : readEndpoints document ≠ .error .indentTooWide := by
  rw [readEndpoints]
  split <;> simp

theorem validate_ne_indentTooWide {strictness : Strictness} :
    (validate strictness es).result ≠ .error .indentTooWide := by
  cases strictness with
  | strict => cases h : issues es <;> simp [validate, h]
  | lenient => simp [validate]

/-- Whether a run gets as far as writing a module: its document can be read and has an endpoint, and
it has no issues or is not held to them. -/
def WritesModule (config : Config) (document : String) : Prop :=
  ∃ es, readEndpoints document = .ok es ∧ (config.strictness = .lenient ∨ issues es = []) ∧ es ≠ []

theorem writesModule_iff (h : readEndpoints document = .ok es) :
    WritesModule config document ↔ (validate config.strictness es).result = .ok () ∧ es ≠ [] := by
  simp [WritesModule, h, validate_ok_iff]

theorem not_writesModule (h : readEndpoints document = .error err) :
    ¬WritesModule config document := by
  simp [WritesModule, h]

theorem generate_eq_indentTooWide_iff :
    (generate config document).result = .error .indentTooWide ↔
      WritesModule config document ∧ 2 ^ 62 ≤ config.indentWidth := by
  cases hread : readEndpoints document with
  | error err =>
    have hne : err ≠ .indentTooWide := fun h => readEndpoints_ne_indentTooWide (h ▸ hread)
    rw [generate_of_unreadable hread]
    simp [hne, not_writesModule hread]
  | ok es =>
    rw [generate_result hread, writesModule_iff hread]
    cases hvalid : (validate config.strictness es).result with
    | error err =>
      have hne : err ≠ .indentTooWide := fun h => validate_ne_indentTooWide (h ▸ hvalid)
      simp [bind, Except.bind, hne]
    | ok =>
      have hiff : renderAll config.indentWidth (hooks config es) = .error .indentTooWide ↔
          es ≠ [] ∧ 2 ^ 62 ≤ config.indentWidth := by simp [renderAll_hooks_eq_error_iff]
      cases hrender : renderAll config.indentWidth (hooks config es) with
      | error err => simpa [bind, Except.bind, hrender] using hiff
      | ok texts => simpa [bind, Except.bind, pure, Except.pure, hrender] using hiff

end EndpointHooks
