import Waybill.Service.Basic
/-!
Cancelling guides.  A guide can be cancelled once, only before pickup, while it is created or
assigned.  What the cancellation costs depends on who asked for it, the business's loyalty
level and how many cancellations the business itself asked for in the current calendar
month.  The business and the courier, if any, are told.
-/
namespace Waybill

namespace Service

/-- Cancels a guide on behalf of a user, for a reason and with optional notes. -/
def cancel (env : Env) (guideId kindId : Int) (reasonText : String) (userId : Int)
    (notesText : Option String) : Tx ((Cancellation × Guide) × List Notice) := do
  let now := env.now
  let notes := FieldCheck.optionalText notesText
  let g ← Tx.loadGuide guideId
  if ((← get).cancellationOf? g.id).isSome then throw (.alreadyCancelled g.id)
  if g.pickedUpAt.isSome then throw (.cancelAfterPickup g.id)
  requireState g [.created, .assigned] "cancel guide"
  let reason ← check (FieldCheck.requireText "reason" reasonText)
  let kind ← match env.directory.cancellationKind? kindId with
    | some k => pure k
    | none => throw (Fault.missing "CancellationType" kindId)
  let user ← check (requireUser env userId)
  let level := env.directory.levelOf? g.business
  let (start, finish) := Instant.monthBounds now
  let used := (← get).businessCancellations g.business start finish
  let penalty ← check (Money.penalty (g.commission.getD 0) kind.initiator level used)
  let c ← Tx.insertCancellation
    { guide := g.id, business := g.business, cancelledBy := user.id, kind := kind.id,
      initiator := kind.initiator, reason, charged := penalty.charged,
      courierPayment := penalty.courierPayment, createdAt := now }
  let g := g.appendObservation "Cancelación" reason now
  let g := match notes with
    | some n => g.appendObservation "Notas de cancelación" n now
    | none => g
  let note := "Cancelada (" ++ kind.name ++ ", " ++ kind.initiator.name ++ "): " ++ reason ++
    ". Penalización " ++ penalty.charged.render ++ ", pago al mensajero " ++
    penalty.courierPayment.render ++
    (if penalty.freeUsed then ". Cancelación gratuita del mes" else "")
  let (g, _) ← move g .cancelled user.id note now
  pure ((c, g),
    noticeTo (businessEmail env g.business) ("Guía " ++ g.number ++ " cancelada")
      ("La guía " ++ g.number ++ " fue cancelada. Motivo: " ++ reason ++ ". Penalización: " ++
        penalty.charged.render ++ ".") ++
    noticeTo (userEmail env g.courier) ("Guía " ++ g.number ++ " cancelada")
      ("La guía " ++ g.number ++ " fue cancelada. Pago por la cancelación: " ++
        penalty.courierPayment.render ++ "."))

end Service

end Waybill
