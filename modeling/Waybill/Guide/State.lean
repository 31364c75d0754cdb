/-!
The states of a delivery guide and the edges between them.  A guide is created, assigned to
a courier, picked up, carried and delivered; it may be cancelled before pickup, handed back
by the courier, or held by an incident until the incident is dealt with.  Delivered,
cancelled and refused guides are final: no edge leaves them.
-/
namespace Waybill

/-- Where a guide stands in its life. -/
inductive GuideState where
  /-- Registered, with no courier. -/
  | created
  /-- Assigned to a courier. -/
  | assigned
  /-- Collected by the courier. -/
  | pickedUp
  /-- On its way to the recipient. -/
  | inTransit
  /-- Handed to the recipient. -/
  | delivered
  /-- Cancelled before pickup. -/
  | cancelled
  /-- Refused. -/
  | refused
  /-- Held by an open incident. -/
  | incident
deriving DecidableEq, Repr

namespace GuideState

/-- Every state, in presentation order. -/
def all : List GuideState :=
  [created, assigned, pickedUp, inTransit, delivered, cancelled, refused, incident]

/-- The name a state is known by. -/
def name : GuideState → String
  | created => "Creada"
  | assigned => "Asignada"
  | pickedUp => "Recogida"
  | inTransit => "EnRuta"
  | delivered => "Entregada"
  | cancelled => "Cancelada"
  | refused => "Rechazada"
  | incident => "Incidencia"

/-- The state with a given name; names are matched exactly. -/
def ofName? (s : String) : Option GuideState := all.find? (fun st => st.name == s)

/-- Position in presentation order, from 1. -/
def displayOrder : GuideState → Nat
  | created => 1
  | assigned => 2
  | pickedUp => 3
  | inTransit => 4
  | delivered => 5
  | cancelled => 6
  | refused => 7
  | incident => 8

/-- Delivered, cancelled and refused guides are finished. -/
def isFinal : GuideState → Bool
  | delivered | cancelled | refused => true
  | _ => false

/-- States in which a guide must have a courier. -/
def requiresCourier : GuideState → Bool
  | assigned | pickedUp | inTransit | delivered | incident => true
  | _ => false

/-- The states reachable in one step, in table order. -/
def targets : GuideState → List GuideState
  | created => [assigned, cancelled]
  | assigned => [created, pickedUp, incident, cancelled]
  | pickedUp => [inTransit, incident]
  | inTransit => [delivered, incident]
  | incident => [assigned, inTransit, delivered]
  | delivered | cancelled | refused => []

/-- Whether one step leads from `source` to `target`. -/
def canMove (source target : GuideState) : Bool := (targets source).contains target

/-- No edge leaves a final state. -/
theorem targets_of_isFinal {s : GuideState} (h : s.isFinal = true) : s.targets = [] := by
  cases s <;> simp_all [isFinal, targets]

theorem ofName?_name (s : GuideState) : ofName? s.name = some s := by
  cases s <;> rfl

end GuideState

end Waybill
