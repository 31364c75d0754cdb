import Waybill.Console.Calculation
import Waybill.Directory
/-!
Reference data for console sessions.  A session starts from the standard directory, the demo
directory or an empty one, then adds the users, businesses, loyalty levels, contracts and
kinds it is given; each record given leaves out what it may, and defaults fill the rest.
Contract dates may be given as days counted from today.
-/
namespace Waybill

namespace Fixture

open Args

/-- Six users, three couriers' contracts from thirty days ago to thirty days ahead, the Bronce
and Oro levels, three businesses, a kind of cancellation for each initiator and one kind of
incident. -/
def standard (today : Date) : Directory :=
  let users : List User :=
    [(1, "Carla Coordinadora", Role.coordinator, true), (2, "Mario Mensajero", .courier, true),
      (3, "Beatriz Mensajera", .courier, true), (4, "Tienda Norte", .business, true),
      (5, "Sin Contrato", .courier, true), (6, "Inactivo", .courier, false)].map
      fun (id, name, role, active) =>
        { id, fullName := name, email := "user" ++ toString id ++ "@example.com", role, active }
  let contracts : List Contract := [(1, 2, 30), (2, 3, 25), (3, 6, 30)].map
    fun (id, courier, rate) =>
      { id, courier, rate := (Decimal.ofInt? rate).getD 0, start := today.addDays (-30),
        finish := some (today.addDays 30), active := true }
  let businesses : List Business := [(10, some 1), (11, some 2), (12, none)].map
    fun (id, level) =>
      { id, name := "Negocio " ++ toString id, email := "negocio" ++ toString id ++ "@example.com",
        loyaltyLevel := level, active := true }
  { users, contracts, businesses
    levels := [⟨1, "Bronce", 0, (Decimal.ofInt? 15).getD 0, 0⟩,
      ⟨2, "Oro", (Decimal.ofInt? 10).getD 0, (Decimal.ofInt? 20).getD 0, 2⟩]
    cancellationKinds := [⟨1, "Pedido anulado por el negocio", .business⟩,
      ⟨2, "Cliente rechaza el pedido", .customer⟩]
    incidentKinds := [⟨1, "Dirección incorrecta", none⟩] }

/-- A business given to a session. -/
def readBusiness (key : String) (j : Json) : Args Business := do
  let j ← asObject key j
  let id ← need j "id" asInt64
  pure {
    id
    name := ← withDefault j "name" asText ("Negocio " ++ toString id)
    email := ← withDefault j "email" asText ("negocio" ++ toString id ++ "@example.com")
    loyaltyLevel := ← opt j "loyalty_level_id" asInt64
    active := ← withDefault j "active" asFlag true }

/-- A loyalty level given to a session. -/
def readLevel (key : String) (j : Json) : Args LoyaltyLevel := do
  let j ← asObject key j
  let id ← need j "id" asInt64
  pure {
    id
    name := ← withDefault j "name" asText ("Nivel " ++ toString id)
    discount := ← withDefault j "discount_percentage" asDecimal 0
    penalty := ← withDefault j "penalty_percentage" asDecimal 0
    freeCancellations := ← withDefault j "free_cancellations_per_month" asInt32 0 }

/-- A day given either as a date or as a count of days from today. -/
def readDay (j : Json) (dateKey offsetKey : String) (today : Date) (offset : Int) : Args Date := do
  match ← opt j dateKey asDate with
  | some d => pure d
  | none => pure (today.addDays (← withDefault j offsetKey asInt64 offset))

/-- A contract given to a session.  Without dates it runs from thirty days ago to thirty days
ahead; an end offset given as `null` leaves it open. -/
def readContract (today : Date) (key : String) (j : Json) : Args Contract := do
  let j ← asObject key j
  let id ← withDefault j "id" asInt64 1
  let courier ← need j "courier_id" asInt64
  let rate ← withDefault j "commission_percentage" asDecimal ((Decimal.ofInt? 30).getD 0)
  let start ← readDay j "start_date" "start_offset_days" today (-30)
  let finish ← match ← opt j "end_date" asDate with
    | some d => pure (some d)
    | none => match j.field? "end_offset_days" with
      | some .null => pure none
      | some v => do pure (some (today.addDays (← asInt64 "end_offset_days" v)))
      | none => pure (some (today.addDays 30))
  let active ← withDefault j "active" asFlag true
  pure { id, courier, rate, start, finish, active }

/-- A kind of cancellation given to a session. -/
def readCancellationKind (key : String) (j : Json) : Args CancellationKind := do
  let j ← asObject key j
  let id ← need j "id" asInt64
  pure {
    id
    name := ← withDefault j "name" asText ("Tipo " ++ toString id)
    initiator := ← need j "initiator" asInitiator }

/-- A kind of incident given to a session. -/
def readIncidentKind (key : String) (j : Json) : Args IncidentKind := do
  let j ← asObject key j
  let id ← need j "id" asInt64
  pure {
    id
    name := ← withDefault j "name" asText ("Incidencia " ++ toString id)
    description := ← opt j "description" asText }

/-- Each item of the list `key`, read by `read`. -/
def readEach {α : Type} (j : Json) (key : String) (read : String → Json → Args α) :
    Args (List α) := do
  match ← opt j key asList with
  | some items => items.mapM (read key)
  | none => pure []

/-- The directory with the records of `j` added: users, businesses, loyalty levels, contracts,
kinds of cancellation and kinds of incident, in that order. -/
def extend (today : Date) (d : Directory) (j : Json) : Args Directory := do
  let users ← readEach j "users" Calculation.readUser
  let businesses ← readEach j "businesses" readBusiness
  let levels ← readEach j "loyalty_levels" readLevel
  let contracts ← readEach j "contracts" (readContract today)
  let cancellationKinds ← readEach j "cancellation_types" readCancellationKind
  let incidentKinds ← readEach j "incident_types" readIncidentKind
  let d := users.foldl Directory.addUser d
  let d := businesses.foldl Directory.addBusiness d
  let d := levels.foldl Directory.addLevel d
  let d := contracts.foldl Directory.addContract d
  let d := cancellationKinds.foldl Directory.addCancellationKind d
  pure (incidentKinds.foldl Directory.addIncidentKind d)

/-- The directory a session starts from: its base, then the records it is given. -/
def initial (today : Date) (j : Option Json) : Args Directory := do
  match j with
  | none => pure (standard today)
  | some j =>
    let j ← asObject "directory" j
    let base ← match ← withDefault j "base" asText "standard" with
      | "standard" => pure (standard today)
      | "demo" => pure (Directory.demo today)
      | "empty" => pure {}
      | other => throw (badText "base" ("unknown base '" ++ other ++ "'"))
    extend today base j

end Fixture

end Waybill
