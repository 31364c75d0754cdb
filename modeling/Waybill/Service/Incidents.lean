import Waybill.Service.Basic
/-!
Incidents.  An incident can be reported on a guide that is assigned, picked up, in transit or
already held by another incident; the guide is then held.  Resolving an incident may hand the
guide to another courier and may reschedule the delivery.  A held guide goes back to assigned
when it has a courier and either the delivery is rescheduled or no other incident is open;
otherwise the resolution is only recorded.
-/
namespace Waybill

/-- How an incident is resolved: the resolution text, perhaps a new courier, and whether the
delivery is rescheduled. -/
structure Resolution where
  text : String
  newCourier : Option Int
  reschedule : Bool

namespace Service

/-- Reports an incident of some kind on a guide. -/
def report (env : Env) (guideId kindId : Int) (descriptionText : String) (reporterId : Int) :
    Tx ((Incident × Guide) × List Notice) := do
  let now := env.now
  let g ← Tx.loadGuide guideId
  requireState g [.assigned, .pickedUp, .inTransit, .incident] "report incident"
  let description ← check (FieldCheck.requireText "description" descriptionText)
  let kind ← match env.directory.incidentKind? kindId with
    | some k => pure k
    | none => throw (Fault.missing "IncidentType" kindId)
  let reporter ← check (requireUser env reporterId)
  let i ← Tx.insertIncident g.id kind.id description reporter.id now
  let note := "Incidencia #" ++ toString i.id ++ " (" ++ kind.name ++ ") reportada: " ++ description
  let (g, _) ← if g.state == .incident then record g reporter.id note now
    else move g .incident reporter.id note now
  pure ((i, g),
    noticeTo (businessEmail env g.business) ("Incidencia en la guía " ++ g.number)
      ("Se reportó una incidencia (" ++ kind.name ++ ") en la guía " ++ g.number ++ ": " ++
        description) ++
    noticeTo (userEmail env g.courier) ("Incidencia en la guía " ++ g.number)
      ("La guía " ++ g.number ++ " quedó en incidencia: " ++ description))

/-- The guide handed to a new courier while an incident is resolved, with the courier. -/
def reassignForIncident (env : Env) (g : Guide) (resolver : User) (newCourier : Int) :
    Tx (Guide × User) := do
  let operation := "reassign courier while resolving incident"
  requireState g [.assigned, .incident] operation
  let coordinator ← check (requireCoordinator env resolver.id operation)
  let (courier, contract) ← check (eligibleCourier env newCourier)
  let commission ← check (Money.commission g.basePrice contract.rate)
  pure (handOver g courier.id coordinator.id commission, courier)

/-- Resolves an open incident on behalf of a user. -/
def resolve (env : Env) (incidentId : Int) (params : Resolution) (resolverId : Int) :
    Tx ((Incident × Guide) × List Notice) := do
  let now := env.now
  let i ← match (← get).incident? incidentId with
    | some i => pure i
    | none => throw (Fault.missing "Incident" incidentId)
  if i.resolved then throw (.alreadyResolved i.id)
  let resolution ← check (FieldCheck.requireText "resolution" params.text)
  let resolver ← check (requireUser env resolverId)
  let g ← Tx.loadGuide i.guide
  let previous := g.courier
  let (g, newCourier) ← match params.newCourier with
    | some c => do
      let (g, courier) ← reassignForIncident env g resolver c
      pure (g, some courier)
    | none => pure (g, none)
  let i := { i with resolved := true, resolution := some resolution,
                    resolvedBy := some resolver.id, resolvedAt := some now }
  Tx.updateIncident i
  let otherOpen := ((← get).incidentsOf g.id).any fun j => j.id != i.id && !j.resolved
  let note := "Incidencia #" ++ toString i.id ++ " resuelta: " ++ resolution ++
    (match newCourier with
      | some courier => ". Reasignada del mensajero " ++ previousText previous ++
          " al mensajero #" ++ toString courier.id ++ " (" ++ courier.fullName ++ ")"
      | none => "") ++
    (if params.reschedule then ". Entrega reprogramada" else "")
  let returns := g.state == .incident && g.courier.isSome && (params.reschedule || !otherOpen)
  let (g, _) ← if returns then move g .assigned resolver.id note now
    else record g resolver.id note now
  let toBusiness := noticeTo (businessEmail env g.business)
    ("Incidencia resuelta en la guía " ++ g.number)
    ("La incidencia de la guía " ++ g.number ++ " fue resuelta: " ++ resolution)
  let toCouriers := match newCourier with
    | some courier =>
      ⟨courier.email, "Nueva guía asignada " ++ g.number,
        "Se te asignó la guía " ++ g.number ++ " para " ++ g.recipient.name ++ " (" ++
          g.recipient.address ++ ", " ++ g.recipient.city ++ "). Confirma si la aceptas."⟩ ::
      (if previous != some courier.id then
        noticeTo (userEmail env previous) ("Guía " ++ g.number ++ " reasignada")
          ("La guía " ++ g.number ++ " ya no está a tu cargo.")
      else [])
    | none => noticeTo (userEmail env g.courier) ("Incidencia resuelta en la guía " ++ g.number)
        ("La incidencia de la guía " ++ g.number ++ " fue resuelta: " ++ resolution)
  pure ((i, g), toBusiness ++ toCouriers)

end Service

end Waybill
