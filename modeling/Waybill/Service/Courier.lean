import Waybill.Service.Basic
/-!
What a courier does with a guide in their hands: accept or refuse an assignment, then report
pickup, transit and delivery.  Only the courier holding the guide may act; pickup waits for
acceptance, and a guide held by an incident does not move on until the incident is dealt
with.  A refusal tells the coordinator; a delivery tells the business.
-/
namespace Waybill

namespace Service

/-- A history line with the courier's notes, if any, after it. -/
def withNotes (line : String) (notes : Option String) : String :=
  match notes with
  | some n => line ++ ". " ++ n
  | none => line

/-- Refuses to move a guide held by an incident. -/
def requireNoIncident (g : Guide) (operation : String) : Tx Unit :=
  if g.state == .incident then throw (.wrongState g.id g.state operation) else pure ()

/-- The courier accepts an assigned guide. -/
def accept (env : Env) (guideId courierId : Int) (notesText : Option String) :
    Tx (Guide × List Notice) := do
  let now := env.now
  let notes := FieldCheck.optionalText notesText
  let g ← Tx.loadGuide guideId
  requireState g [.assigned] "accept assignment"
  requireHolder g courierId "accept assignment"
  if g.accepted then throw (.alreadyAccepted g.id)
  let g := { g with accepted := true, acceptedAt := some now }
  let (g, _) ← record g courierId
    (withNotes ("Asignación aceptada por el mensajero #" ++ toString courierId) notes) now
  pure (g, [])

/-- The courier refuses an assigned guide before accepting it; the guide goes back to created
and keeps its coordinator. -/
def reject (env : Env) (guideId courierId : Int) (reasonText : String) :
    Tx (Guide × List Notice) := do
  let now := env.now
  let reason ← check (FieldCheck.requireText "reason" reasonText)
  let g ← Tx.loadGuide guideId
  requireState g [.assigned] "reject assignment"
  requireHolder g courierId "reject assignment"
  if g.accepted then throw (.alreadyAccepted g.id)
  let g := { g with courier := none, commission := none, accepted := false, acceptedAt := none }
  let (g, _) ← move g .created courierId
    ("Asignación rechazada por el mensajero #" ++ toString courierId ++ ": " ++ reason) now
  pure (g, noticeTo (userEmail env g.coordinator) ("Guía " ++ g.number ++ " rechazada")
    ("El mensajero #" ++ toString courierId ++ " rechazó la guía " ++ g.number ++ ". Motivo: " ++
      reason ++ ". Requiere nueva asignación."))

/-- The courier collects the guide, once the assignment is accepted. -/
def pickUp (env : Env) (guideId courierId : Int) (notesText : Option String) :
    Tx (Guide × List Notice) := do
  let now := env.now
  let notes := FieldCheck.optionalText notesText
  let g ← Tx.loadGuide guideId
  requireHolder g courierId "mark pickup"
  if g.state == .assigned && !g.accepted then
    throw (.wrongState g.id g.state "mark pickup before accepting the assignment")
  let (g, _) ← move g .pickedUp courierId
    (withNotes ("Recogida por el mensajero #" ++ toString courierId) notes) now
  pure (g, [])

/-- The courier sets out with the guide. -/
def setOut (env : Env) (guideId courierId : Int) (notesText : Option String) :
    Tx (Guide × List Notice) := do
  let now := env.now
  let notes := FieldCheck.optionalText notesText
  let g ← Tx.loadGuide guideId
  requireHolder g courierId "mark in transit"
  requireNoIncident g "mark in transit"
  let (g, _) ← move g .inTransit courierId
    (withNotes ("En ruta con el mensajero #" ++ toString courierId) notes) now
  pure (g, [])

/-- The courier hands the guide to its recipient. -/
def deliver (env : Env) (guideId courierId : Int) (notesText : Option String) :
    Tx (Guide × List Notice) := do
  let now := env.now
  let notes := FieldCheck.optionalText notesText
  let g ← Tx.loadGuide guideId
  requireHolder g courierId "mark delivered"
  requireNoIncident g "mark delivered"
  let (g, _) ← move g .delivered courierId
    (withNotes ("Entregada por el mensajero #" ++ toString courierId) notes) now
  pure (g, noticeTo (businessEmail env g.business) ("Guía " ++ g.number ++ " entregada")
    ("La guía " ++ g.number ++ " fue entregada a " ++ g.recipient.name ++ "."))

end Service

end Waybill
