import Waybill.Service.Operation
/-!
What a unit of work does, call by call.  A change or a query touches only the working copy, only
the commit publishes, and a unit that has committed refuses every call and stays as it was.  So a
change in a unit of its own either fails with the fault of its work, before its commit is reached,
and publishes nothing, or succeeds and publishes exactly the copy its work left; a read never
commits.  Main statements: `Service.committing_runOn` and `Operation.unit_runOn`.
-/
namespace Waybill

namespace Uow

variable {α β : Type} {w : Work}

/-- Sequencing in a unit: a failure ends the computation and keeps the unit it left. -/
theorem runIn_bind (u : Uow α) (k : α → Uow β) (w : Work) :
    (u >>= k).runIn w =
      match u.runIn w with
      | (.ok a, w') => (k a).runIn w'
      | (.error f, w') => (.error f, w') := by
  unfold runIn
  simp only [ExceptT.run_bind, StateT.run_bind]
  rcases (ExceptT.run u).run w with ⟨_ | a, w'⟩ <;> rfl

@[simp] theorem runIn_pure (a : α) (w : Work) : (pure a : Uow α).runIn w = (.ok a, w) := rfl

@[simp] theorem runIn_get (w : Work) : (get : Uow Work).runIn w = (.ok w, w) := rfl

@[simp] theorem runIn_throw (f : Fault) (w : Work) : (throw f : Uow α).runIn w = (.error f, w) :=
  rfl

theorem ensureOpen_runIn_open (h : w.published = none) : ensureOpen.runIn w = (.ok (), w) := by
  obtain ⟨working, published⟩ := w
  subst h
  rfl

theorem ensureOpen_runIn_closed {p : Store} (h : w.published = some p) :
    ensureOpen.runIn w = (.error (.internal "unit of work already committed"), w) := by
  obtain ⟨working, published⟩ := w
  subst h
  rfl

/-- In an open unit, a change or a query answers as it does on the working copy, and what it
writes lands in the working copy only. -/
theorem exec_runIn (tx : Tx α) (h : w.published = none) :
    (exec tx).runIn w =
      match tx.run w.working with
      | .ok (a, s) => (.ok a, { w with working := s })
      | .error f => (.error f, w) := by
  simp only [exec, runIn_bind, ensureOpen_runIn_open h, runIn_get]
  cases tx.run w.working with
  | ok r => rfl
  | error f => exact runIn_throw f w

/-- A committed unit refuses every change and query, and stays as it was. -/
theorem exec_runIn_closed {p : Store} (tx : Tx α) (h : w.published = some p) :
    (exec tx).runIn w = (.error (.internal "unit of work already committed"), w) := by
  simp only [exec, runIn_bind, ensureOpen_runIn_closed h]

/-- The commit of an open unit publishes its working copy. -/
theorem commit_runIn (h : w.published = none) :
    commit.runIn w = (.ok (), { w with published := some w.working }) := by
  simp only [commit, runIn_bind, ensureOpen_runIn_open h]
  rfl

/-- A unit commits at most once. -/
theorem commit_runIn_closed {p : Store} (h : w.published = some p) :
    commit.runIn w = (.error (.internal "unit of work already committed"), w) := by
  simp only [commit, runIn_bind, ensureOpen_runIn_closed h]

end Uow

namespace Service

/-- A change in a unit of its own either fails with the fault of its work, before its commit is
reached, and publishes nothing, or succeeds with its work's value and publishes exactly the copy
its work left: all of its writes are published, or none. -/
theorem committing_runOn {α : Type} (body : Tx α) (s : Store) :
    (committing body).runOn s =
      match body.run s with
      | .ok (a, s') => (.ok a, s')
      | .error f => (.error f, s) := by
  have hopen : ({ working := s } : Work).published = none := rfl
  unfold committing Uow.runOn
  rw [Uow.runIn_bind, Uow.exec_runIn body hopen]
  cases body.run s with
  | ok r =>
    -- the work left the unit open, so the commit runs and publishes the work's copy
    simp only [Uow.runIn_bind, Uow.commit_runIn (w := { working := r.2 }) rfl, Uow.runIn_pure,
      Option.getD_some]
  | error f => rfl

end Service

namespace Operation

/-- A call in its own unit of work fails with the fault of its transaction and publishes
nothing, or succeeds; then a change publishes the store its transaction left, and a read, which
never commits, publishes nothing. -/
theorem unit_runOn (env : Env) (op : Operation) (s : Store) :
    (op.unit env).runOn s =
      match (op.perform env).run s with
      | .ok ((), s') => (.ok (), if op.isRead then s else s')
      | .error f => (.error f, s) := by
  unfold unit
  cases hread : op.isRead
  · simp only [Bool.false_eq_true, if_false, Service.committing_runOn]
    cases (op.perform env).run s <;> rfl
  · simp only [if_true, Uow.runOn, Uow.exec_runIn (w := { working := s }) (op.perform env) rfl]
    cases (op.perform env).run s <;> rfl

end Operation

end Waybill
