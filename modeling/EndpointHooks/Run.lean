import EndpointHooks.Error
import EndpointHooks.Log.Event

/-! Runs: results together with what was logged on the way to them. A failed run keeps the events
before its failure. -/

namespace EndpointHooks

/-- The events of a run and its result. -/
structure Run (α : Type) where
  events : List Log.Event
  result : Except Error α

namespace Run

variable {α β : Type}

def ofExcept (result : Except Error α) : Run α := ⟨[], result⟩

/-- A run that logs events and does nothing else. -/
def logged (events : List Log.Event) : Run Unit := ⟨events, .ok ()⟩

/-- A run that goes on from the result of another, unless that failed. -/
def andThen (run : Run α) (next : α → Run β) : Run β :=
  match run.result with
  | .ok a => ⟨run.events ++ (next a).events, (next a).result⟩
  | .error e => ⟨run.events, .error e⟩

instance : Monad Run where
  pure a := ⟨[], .ok a⟩
  bind := andThen

@[simp] theorem pure_result (a : α) : (pure a : Run α).result = .ok a := rfl

@[simp] theorem ofExcept_events (r : Except Error α) : (ofExcept r).events = [] := rfl

@[simp] theorem ofExcept_result (r : Except Error α) : (ofExcept r).result = r := rfl

@[simp] theorem logged_events (es : List Log.Event) : (logged es).events = es := rfl

@[simp] theorem logged_result (es : List Log.Event) : (logged es).result = .ok () := rfl

theorem bind_of_ok {run : Run α} {a : α} (h : run.result = .ok a) (next : α → Run β) :
    run >>= next = ⟨run.events ++ (next a).events, (next a).result⟩ := by
  simp [bind, andThen, h]

theorem bind_of_error {run : Run α} {e : Error} (h : run.result = .error e) (next : α → Run β) :
    run >>= next = ⟨run.events, .error e⟩ := by
  simp [bind, andThen, h]

/-- The result of a run is the result of its parts, whatever they log. -/
theorem bind_result (run : Run α) (next : α → Run β) :
    (run >>= next).result = run.result >>= fun a => (next a).result := by
  cases h : run.result with
  | ok a => rw [bind_of_ok h]; rfl
  | error e => rw [bind_of_error h]; rfl

end Run

end EndpointHooks
