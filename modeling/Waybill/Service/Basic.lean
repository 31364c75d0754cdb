import Waybill.UnitOfWork
import Waybill.Directory
import Waybill.Eligibility
import Waybill.Money
/-!
What every service shares: the reference data and the moment of the call, the unit of work a
change runs in, the notices sent once a change is kept, the checks on who acts, and the two ways
a guide's life moves on.
Moving a guide follows one edge of the state table, stamps the dates that edge sets and adds
one history line; recording an event adds a history line and leaves the state alone.
-/
namespace Waybill

/-- What a service call reads besides the store: the reference data and the moment it runs. -/
structure Env where
  directory : Directory
  now : Instant

/-- A message to send once a change is kept. -/
structure Notice where
  recipient : String
  subject : String
  body : String
deriving DecidableEq, Repr

namespace Service

/-- The user with this id, or a fault saying it does not exist. -/
def requireUser (env : Env) (id : Int) : Except Fault User :=
  match env.directory.user? id with
  | some u => .ok u
  | none => .error (Fault.missing "User" id)

/-- The user with this id, if that user may assign couriers. -/
def requireCoordinator (env : Env) (id : Int) (operation : String) : Except Fault User := do
  let u ← requireUser env id
  if !u.canCoordinate then throw (Fault.refused operation "user is not an active coordinator")
  pure u

/-- The courier with this id and the contract in force today, if the courier may carry guides. -/
def eligibleCourier (env : Env) (id : Int) : Except Fault (User × Contract) := do
  let today := env.now.date
  let courier ← Eligibility.courier id (env.directory.user? id)
  let contract ← Eligibility.contract id (env.directory.activeContract? id today) today
  pure (courier, contract)

/-- The address of a user, when there is one. -/
def userEmail (env : Env) (id : Option Int) : Option String :=
  match id with
  | some i => (env.directory.user? i).map User.email
  | none => none

/-- The address of a business, when it exists. -/
def businessEmail (env : Env) (id : Int) : Option String :=
  (env.directory.business? id).map Business.email

/-- A notice to an address that may be unknown, in which case nothing is sent. -/
def noticeTo (recipient : Option String) (subject body : String) : List Notice :=
  match recipient with
  | some r => [⟨r, subject, body⟩]
  | none => []

/-- A change in a unit of work of its own: it works on a copy of the published store and commits
the copy once all of its work has succeeded. -/
def committing {α : Type} (body : Tx α) : Uow α := do
  let a ← Uow.exec body
  Uow.commit
  pure a

/-- Lifts a check into a transaction. -/
def check {α : Type} (result : Except Fault α) : Tx α :=
  match result with
  | .ok a => pure a
  | .error f => throw f

/-- The guide's state if it allows the operation, else a fault naming the state. -/
def requireState (g : Guide) (allowed : List GuideState) (operation : String) : Tx Unit :=
  if allowed.contains g.state then pure () else throw (.wrongState g.id g.state operation)

/-- Refuses a courier who does not hold the guide. -/
def requireHolder (g : Guide) (courier : Int) (operation : String) : Tx Unit :=
  if g.isAssignedTo courier then pure ()
  else throw (Fault.refused operation "guide is not assigned to this courier")

/-- The dates an arrival in `target` sets: the assignment date every time, and the pickup,
delivery and cancellation dates only the first time. -/
def stampArrival (g : Guide) (target : GuideState) (moment : Instant) : Guide :=
  match target with
  | .assigned => { g with assignedAt := some moment }
  | .pickedUp => { g with pickedUpAt := some (g.pickedUpAt.getD moment) }
  | .delivered => { g with deliveredAt := some (g.deliveredAt.getD moment) }
  | .cancelled => { g with cancelledAt := some (g.cancelledAt.getD moment) }
  | _ => g

/-- Moves a guide along one edge of the state table, stamps its dates, keeps it and adds a
history line in the new state. -/
def move (g : Guide) (target : GuideState) (actor : Int) (note : String) (moment : Instant) :
    Tx (Guide × HistoryEntry) := do
  if !GuideState.canMove g.state target then throw (.badMove g.state target)
  let moved := { stampArrival g target moment with state := target, updatedAt := moment }
  Tx.updateGuide moved
  let entry ← Tx.appendHistory moved.id target actor note moment
  pure (moved, entry)

/-- Keeps a guide's changes without a change of state and adds a history line in its state. -/
def record (g : Guide) (actor : Int) (note : String) (moment : Instant) :
    Tx (Guide × HistoryEntry) := do
  let kept := { g with updatedAt := moment }
  Tx.updateGuide kept
  let entry ← Tx.appendHistory kept.id kept.state actor note moment
  pure (kept, entry)

/-- The guide handed to a courier by a coordinator, at a newly computed commission and not yet
accepted. -/
def handOver (g : Guide) (courier coordinator : Int) (commission : Decimal) : Guide :=
  { g with courier := some courier, coordinator := some coordinator,
           commission := some commission, accepted := false, acceptedAt := none }

/-- A previous courier as the history names it. -/
def previousText (previous : Option Int) : String :=
  match previous with
  | some id => "#" ++ toString id
  | none => "sin asignar"

end Service

end Waybill
