import Waybill.Store
/-!
Units of work over the store.  A unit begins with a copy of the published store and works on the
copy; `commit` publishes the copy, and the unit refuses every call after it.  A failure ends the
unit at once and keeps whatever the unit had published by then, so a unit that fails before its
commit, or ends without one, leaves the published store as it began.
-/
namespace Waybill

/-- A unit of work: the copy being worked on, and the store it published, once committed. -/
structure Work where
  working : Store
  published : Option Store := none

/-- A computation in a unit of work.  A failure ends it and keeps the unit as the failure found it,
what it had published included. -/
abbrev Uow := ExceptT Fault (StateM Work)

namespace Uow

/-- Runs `u` inside the unit `w`: its outcome and the unit afterwards. -/
def runIn {α : Type} (u : Uow α) (w : Work) : Except Fault α × Work :=
  Id.run ((ExceptT.run u).run w)

/-- Runs `u` in a unit begun on `store`: its outcome and the store published afterwards, which is
`store` itself unless the unit committed. -/
def runOn {α : Type} (u : Uow α) (store : Store) : Except Fault α × Store :=
  let (outcome, w) := u.runIn { working := store }
  (outcome, w.published.getD store)

/-- Refuses a call once the unit has committed. -/
def ensureOpen : Uow Unit := do
  if (← get).published.isSome then throw (.internal "unit of work already committed")

/-- Runs a change or a query of the store on the working copy of an open unit. -/
def exec {α : Type} (tx : Tx α) : Uow α := do
  ensureOpen
  let w ← get
  match tx.run w.working with
  | .ok (a, s) =>
    set { w with working := s }
    pure a
  | .error f => throw f

/-- Publishes the working copy of an open unit. -/
def commit : Uow Unit := do
  ensureOpen
  modify fun w => { w with published := some w.working }

end Uow

end Waybill
