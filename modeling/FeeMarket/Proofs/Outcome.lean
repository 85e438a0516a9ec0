import FeeMarket.Dialogue

/-!
# Outcomes over a view

**Value** (`Dialogue.value`). What a dialogue comes to over a view, its calls and notices
forgotten. **Outcome** (`Query.outcome`). The same of a query: a value, or what stopped it.

**Calls** (`Query.calls`). What a query asks of a view, in order.

All respect sequencing: the outcome of one query after another is that of the second, begun with
the value of the first (`outcome_bind`), and it asks what the first one asks, and then what the
second one asks if there is a value to begin with (`calls_bind`). So a query is read stage by stage,
and the notices that it records on the way do not matter.
-/

namespace FeeMarket

namespace Dialogue

variable {α β : Type} (view : View)

/-- What a dialogue comes to over a view. -/
def value (d : Dialogue α) : α := (d.run view).value

@[simp] theorem value_pure (a : α) : value view (pure a) = a := rfl

theorem run_bind (d : Dialogue α) (f : α → Dialogue β) :
    (d >>= f).run view =
      ⟨value view (f (value view d)), (d.run view).calls ++ ((f (value view d)).run view).calls,
        (d.run view).notices ++ ((f (value view d)).run view).notices⟩ := by
  show (d.bind f).run view = _
  induction d with
  | done a => rfl
  | note n rest ih =>
    rw [bind, run, ih]
    rfl
  | ask c rest ih =>
    rw [bind, run, ih]
    rfl

@[simp] theorem value_bind (d : Dialogue α) (f : α → Dialogue β) :
    value view (d >>= f) = value view (f (value view d)) := by
  rw [value, run_bind]

theorem calls_bind (d : Dialogue α) (f : α → Dialogue β) :
    ((d >>= f).run view).calls =
      (d.run view).calls ++ ((f (value view d)).run view).calls := by
  rw [run_bind]

end Dialogue

namespace Query

variable {α β : Type} (view : View)

/-- What a query comes to over a view. -/
def outcome (q : Query α) : Except Stop α := Dialogue.value view q.run

@[simp] theorem outcome_pure (a : α) : outcome view (pure a) = .ok a := rfl

@[simp] theorem outcome_throw (s : Stop) : outcome view (throw s : Query α) = .error s := rfl

@[simp] theorem outcome_refuse (e : FeeHistoryError) :
    outcome view (refuse e : Query α) = .error (.refused e) := rfl

@[simp] theorem outcome_notice (n : Notice) : outcome view (notice n) = .ok () := rfl

@[simp] theorem outcome_call (c : Call) : outcome view (call c) = .ok (view c) := rfl

theorem outcome_lift (d : Dialogue α) :
    outcome view (ExceptT.lift d) = .ok (d.value view) := by
  show Dialogue.value view (d >>= fun a => pure (Except.ok a)) = _
  rw [Dialogue.value_bind, Dialogue.value_pure]

@[simp] theorem outcome_monadLift (d : Dialogue α) :
    outcome view (monadLift d : Query α) = .ok (d.value view) :=
  outcome_lift view d

@[simp] theorem outcome_bind (q : Query α) (f : α → Query β) :
    outcome view (q >>= f) = (outcome view q).bind fun a => outcome view (f a) := by
  show Dialogue.value view (q.run >>= ExceptT.bindCont f) = _
  rw [Dialogue.value_bind, outcome]
  cases q.run.value view <;> rfl

@[simp] theorem outcome_checked (c : Checked α) :
    outcome view (checked c) = c.mapError .crashed := by
  cases c <;> rfl

/-! ## Calls -/

/-- What a query asks of a view, in order. -/
def calls (q : Query α) : List Call := (Dialogue.run view q.run).calls

@[simp] theorem calls_pure (a : α) : calls view (pure a) = [] := rfl

@[simp] theorem calls_throw (s : Stop) : calls view (throw s : Query α) = [] := rfl

@[simp] theorem calls_refuse (e : FeeHistoryError) :
    calls view (refuse e : Query α) = [] := rfl

@[simp] theorem calls_notice (n : Notice) : calls view (notice n) = [] := rfl

@[simp] theorem calls_call (c : Call) : calls view (call c) = [c] := rfl

@[simp] theorem calls_checked (c : Checked α) : calls view (checked c) = [] := by
  cases c <;> rfl

theorem calls_lift (d : Dialogue α) : calls view (ExceptT.lift d) = (d.run view).calls := by
  show (Dialogue.run view (d >>= fun a => pure (Except.ok a))).calls = _
  rw [Dialogue.calls_bind]
  exact List.append_nil _

@[simp] theorem calls_monadLift (d : Dialogue α) :
    calls view (monadLift d : Query α) = (d.run view).calls :=
  calls_lift view d

/-- A query that stops asks nothing more. -/
theorem calls_bind (q : Query α) (f : α → Query β) :
    calls view (q >>= f) = calls view q ++
      match outcome view q with
      | .ok a => calls view (f a)
      | .error _ => [] := by
  show (Dialogue.run view (q.run >>= ExceptT.bindCont f)).calls = _
  rw [Dialogue.calls_bind, calls, outcome]
  cases q.run.value view <;> rfl

end Query

end FeeMarket
