import Waybill.Service.Basic
/-!
Handing guides to couriers.  A coordinator assigns a created guide, or reassigns one that is
assigned or held by an incident, to an active courier with a contract in force; the
commission is recomputed from that contract every time and the courier has to accept again.
The courier, the courier who loses the guide and the business are told.
-/
namespace Waybill

namespace Service

/-- The notice that hands a guide to a courier; `verb` says whether it was given or given
again. -/
def handOverNotice (email : String) (g : Guide) (verb : String) : Notice :=
  ⟨email, "Nueva guía asignada " ++ g.number,
    verb ++ " la guía " ++ g.number ++ " para " ++ g.recipient.name ++ " (" ++
      g.recipient.address ++ ", " ++ g.recipient.city ++ "). Confirma si la aceptas."⟩

/-- Assigns a created guide to a courier. -/
def assign (env : Env) (guideId courierId coordinatorId : Int) (observations : Option String) :
    Tx (Guide × List Notice) := do
  let now := env.now
  let notes := FieldCheck.optionalText observations
  let g ← Tx.loadGuide guideId
  requireState g [.created] "assign courier"
  let coordinator ← check (requireCoordinator env coordinatorId "assign courier")
  let (courier, contract) ← check (eligibleCourier env courierId)
  let commission ← check (Money.commission g.basePrice contract.rate)
  let g := handOver g courier.id coordinator.id commission
  let note := "Asignada al mensajero " ++ courier.fullName ++ " (#" ++ toString courier.id ++
    ") con comisión " ++ commission.render ++
    (match notes with
      | some n => ". " ++ n
      | none => "")
  let (g, _) ← move g .assigned coordinator.id note now
  pure (g, handOverNotice courier.email g "Se te asignó" ::
    noticeTo (businessEmail env g.business) ("Guía " ++ g.number ++ " asignada")
      ("La guía " ++ g.number ++ " fue asignada a un mensajero."))

/-- Gives an assigned guide, or one held by an incident, to another courier. -/
def reassign (env : Env) (guideId courierId : Int) (reasonText : String) (coordinatorId : Int) :
    Tx (Guide × List Notice) := do
  let now := env.now
  let reason ← check (FieldCheck.requireText "reason" reasonText)
  let g ← Tx.loadGuide guideId
  requireState g [.assigned, .incident] "reassign courier"
  if g.state == .assigned && g.courier == some courierId then
    throw (Fault.rule "new_courier_id" "guide is already assigned to this courier")
  let coordinator ← check (requireCoordinator env coordinatorId "reassign courier")
  let (courier, contract) ← check (eligibleCourier env courierId)
  let commission ← check (Money.commission g.basePrice contract.rate)
  let previous := g.courier
  let g := handOver g courier.id coordinator.id commission
  let note := "Reasignada del mensajero " ++ previousText previous ++ " al mensajero #" ++
    toString courier.id ++ " (" ++ courier.fullName ++ ") con comisión " ++ commission.render ++
    ". Motivo: " ++ reason
  let (g, _) ← if g.state == .incident then move g .assigned coordinator.id note now
    else record { g with assignedAt := some now } coordinator.id note now
  let toPrevious :=
    if previous != some courier.id then
      noticeTo (userEmail env previous) ("Guía " ++ g.number ++ " reasignada")
        ("La guía " ++ g.number ++ " ya no está a tu cargo. Motivo: " ++ reason)
    else []
  pure (g, handOverNotice courier.email g "Se te reasignó" :: toPrevious ++
    noticeTo (businessEmail env g.business) ("Guía " ++ g.number ++ " reasignada")
      ("La guía " ++ g.number ++ " fue reasignada a otro mensajero."))

end Service

end Waybill
