import Waybill.Console.Answer
import Waybill.Console.Args
import Waybill.UnitOfWork
/-!
Batches of raw store calls run in one unit of work.  The calls work on a copy of the store,
one after the other, and each answers on its own; a call that fails changes nothing.  Only a
`commit` publishes the copy, and every call after it is refused.  A batch that never commits
leaves the store as it was.  Every record the batch writes is stamped with the step's moment.
-/
namespace Waybill

namespace Batch

open Args

/-- A call of a batch: a change or a query of the working store, or the commit. -/
inductive Call where
  | run (tx : Tx Json)
  | commit

/-- The guide a call inserts, from its arguments and their defaults. -/
def readDraft (j : Json) : Args GuideDraft := do
  let number ← withDefault j "guide_number" asText "GU-TEST"
  let business ← withDefault j "business_id" asInt64 10
  let branch ← withDefault j "branch_id" asInt64 1
  let basePrice ← withDefault j "base_price" asDecimal ((Decimal.ofParts? 10000 2).getD 0)
  let name ← withDefault j "recipient_name" asText "Ana"
  let phone ← withDefault j "recipient_phone" asText "3001234567"
  let address ← withDefault j "recipient_address" asText "Calle 1"
  let city ← withDefault j "recipient_city" asText "Bogotá"
  let region ← withDefault j "recipient_state" asText "Cundinamarca"
  let observations ← opt j "observations" asText
  pure ⟨number, business, branch, basePrice, ⟨name, phone, address, city, region⟩, observations⟩

/-- Changes a stored guide's state, courier or observations, as given. -/
def updateGuide (id : Int) (state : Option GuideState) (courier : Option Int)
    (observations : Option String) : Tx Json := do
  match (← get).guide? id with
  | none => throw (Fault.missing "Guide" id)
  | some g =>
    Tx.updateGuide { g with state := state.getD g.state, courier := courier.orElse fun _ => g.courier,
                            observations := observations.orElse fun _ => g.observations }
    pure .null

/-- Marks a stored incident resolved or not, and sets its resolution, as given. -/
def updateIncident (id : Int) (resolved : Option Bool) (resolution : Option String) : Tx Json := do
  match (← get).incident? id with
  | none => throw (Fault.missing "Incident" id)
  | some i =>
    Tx.updateIncident { i with resolved := resolved.getD i.resolved,
                               resolution := resolution.orElse fun _ => i.resolution }
    pure .null

/-- A call from its arguments; `now` stamps what it writes. -/
def readCall (now : Instant) (j : Json) : Args Call := do
  let op ← need j "op" asText
  match op with
  | "lock_guide" | "find_guide" =>
    let id ← need j "id" asInt64
    pure (.run do pure (Json.opt Guide.toJson ((← get).guide? id)))
  | "guide_number_exists" =>
    let number ← need j "number" asText
    pure (.run do pure (.bool ((← get).hasNumber number)))
  | "insert_guide" =>
    let draft ← readDraft j
    pure (.run do pure (← Tx.insertGuide draft now).toJson)
  | "update_guide" =>
    let id ← need j "id" asInt64
    let state ← opt j "current_state" asState
    let courier ← opt j "courier_id" asInt64
    let observations ← opt j "observations" asText
    pure (.run (updateGuide id state courier observations))
  | "append_history" =>
    let guide ← need j "guide_id" asInt64
    let state ← withDefault j "state" asState .created
    let user ← withDefault j "user_id" asInt64 1
    let note ← withDefault j "observation" asText "nota"
    pure (.run do pure (← Tx.appendHistory guide state user note now).toJson)
  | "history_for_guide" =>
    let guide ← need j "guide_id" asInt64
    pure (.run do pure (.arr (((← get).historyOf guide).map HistoryEntry.toJson)))
  | "find_cancellation_by_guide" =>
    let guide ← need j "guide_id" asInt64
    pure (.run do pure (Json.opt Cancellation.toJson ((← get).cancellationOf? guide)))
  | "lock_business_cancellations" =>
    let _ ← need j "business_id" asInt64
    pure (.run (pure .null))
  | "count_business_cancellations" =>
    let business ← need j "business_id" asInt64
    let (start, finish) := Instant.monthBounds now
    pure (.run do pure (.int ((← get).businessCancellations business start finish)))
  | "insert_cancellation" =>
    let guide ← need j "guide_id" asInt64
    let business ← withDefault j "business_id" asInt64 10
    let initiator ← withDefault j "initiator" asInitiator .business
    let cancelledBy ← withDefault j "cancelled_by" asInt64 4
    let kind ← withDefault j "cancellation_type_id" asInt64 1
    let reason ← withDefault j "reason" asText "previa"
    let charged ← withDefault j "penalty_amount" asDecimal 0
    let courierPayment ← withDefault j "courier_payment" asDecimal 0
    pure (.run do
      pure (← Tx.insertCancellation ⟨guide, business, cancelledBy, kind, initiator, reason,
        charged, courierPayment, now⟩).toJson)
  | "insert_incident" =>
    let guide ← need j "guide_id" asInt64
    let kind ← withDefault j "incident_type_id" asInt64 1
    let description ← withDefault j "description" asText "x"
    let reporter ← withDefault j "reported_by" asInt64 1
    pure (.run do pure (← Tx.insertIncident guide kind description reporter now).toJson)
  | "lock_incident" =>
    let id ← need j "id" asInt64
    pure (.run do pure (Json.opt Incident.toJson ((← get).incident? id)))
  | "update_incident" =>
    let id ← need j "id" asInt64
    let resolved ← opt j "resolved" asFlag
    let resolution ← opt j "resolution" asText
    pure (.run (updateIncident id resolved resolution))
  | "incidents_for_guide" =>
    let guide ← need j "guide_id" asInt64
    pure (.run do pure (.arr (((← get).incidentsOf guide).map Incident.toJson)))
  | "commit" => pure .commit
  | other => throw ("unknown uow op '" ++ other ++ "'")

/-- A call as a step of the unit of work. -/
def Call.unit : Call → Uow Json
  | .run tx => Uow.exec tx
  | .commit => do
    Uow.commit
    pure .null

/-- Runs the calls in order in one unit of work, collecting their answers; a call that fails
answers its fault and the next one runs. -/
def runCalls : List Call → Work → List Json → Work × List Json
  | [], w, answers => (w, answers.reverse)
  | c :: rest, w, answers =>
    match c.unit.runIn w with
    | (.ok v, w') => runCalls rest w' (Answer.ok v :: answers)
    | (.error f, w') => runCalls rest w' (Answer.fault f :: answers)

/-- Runs a batch on a store: the store afterwards and the answer of each call. -/
def run (now : Instant) (store : Store) (calls : List Json) : Args (Store × List Json) := do
  let calls ← calls.mapM (readCall now)
  let (w, answers) := runCalls calls { working := store } []
  pure (w.published.getD store, answers)

end Batch

end Waybill
