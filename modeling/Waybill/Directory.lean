import Waybill.Party
import Waybill.Calendar.Instant
/-!
The reference data the service reads and never writes: users, businesses, loyalty levels,
contracts and the kinds of cancellation and incident.  Adding a record with an id already
present replaces it in place; contracts are only ever added.  A courier's contract on a day
is the one in force with the latest start, the one added last among equal starts.
-/
namespace Waybill

/-- The reference data. -/
structure Directory where
  users : List User := []
  businesses : List Business := []
  levels : List LoyaltyLevel := []
  contracts : List Contract := []
  cancellationKinds : List CancellationKind := []
  incidentKinds : List IncidentKind := []

namespace Directory

/-- A list with `x` in place of the item with the same key, or with `x` added at the end. -/
def upsert {α : Type} (key : α → Int) (x : α) (xs : List α) : List α :=
  if xs.any (fun y => key y == key x) then xs.map (fun y => if key y == key x then x else y)
  else xs ++ [x]

/-- The directory with a user added or replaced. -/
def addUser (d : Directory) (u : User) : Directory :=
  { d with users := upsert User.id u d.users }

/-- The directory with a business added or replaced. -/
def addBusiness (d : Directory) (b : Business) : Directory :=
  { d with businesses := upsert Business.id b d.businesses }

/-- The directory with a loyalty level added or replaced. -/
def addLevel (d : Directory) (l : LoyaltyLevel) : Directory :=
  { d with levels := upsert LoyaltyLevel.id l d.levels }

/-- The directory with one more contract. -/
def addContract (d : Directory) (c : Contract) : Directory :=
  { d with contracts := d.contracts ++ [c] }

/-- The directory with a kind of cancellation added or replaced. -/
def addCancellationKind (d : Directory) (k : CancellationKind) : Directory :=
  { d with cancellationKinds := upsert CancellationKind.id k d.cancellationKinds }

/-- The directory with a kind of incident added or replaced. -/
def addIncidentKind (d : Directory) (k : IncidentKind) : Directory :=
  { d with incidentKinds := upsert IncidentKind.id k d.incidentKinds }

/-- The user with this id. -/
def user? (d : Directory) (id : Int) : Option User := d.users.find? (·.id == id)

/-- The business with this id. -/
def business? (d : Directory) (id : Int) : Option Business := d.businesses.find? (·.id == id)

/-- The loyalty level with this id. -/
def level? (d : Directory) (id : Int) : Option LoyaltyLevel := d.levels.find? (·.id == id)

/-- The kind of cancellation with this id. -/
def cancellationKind? (d : Directory) (id : Int) : Option CancellationKind :=
  d.cancellationKinds.find? (·.id == id)

/-- The kind of incident with this id. -/
def incidentKind? (d : Directory) (id : Int) : Option IncidentKind :=
  d.incidentKinds.find? (·.id == id)

/-- The later-starting of two contracts, the second on equal starts. -/
def laterStart (best next : Contract) : Contract :=
  if next.start.dayNumber ≥ best.start.dayNumber then next else best

/-- The courier's contract in force on `day` with the latest start; among equal starts, the
one added last. -/
def activeContract? (d : Directory) (courier : Int) (day : Date) : Option Contract :=
  match d.contracts.filter (fun c => c.courier == courier && c.inForceOn day) with
  | [] => none
  | c :: rest => some (rest.foldl laterStart c)

/-- The loyalty level of a business, when the business and its level exist. -/
def levelOf? (d : Directory) (business : Int) : Option LoyaltyLevel :=
  match d.business? business with
  | some b => match b.loyaltyLevel with
    | some l => d.level? l
    | none => none
  | none => none

/-- The directory the service ships with for trying it out without a database: a coordinator,
two couriers with open-ended contracts from a year before `today`, a business user, two
businesses at the Bronce and Oro levels, a kind of cancellation for each initiator and one
kind of incident. -/
def demo (today : Date) : Directory :=
  let users : List User := [(1, "Coordinación", Role.coordinator), (2, "Mensajero Uno", .courier),
    (3, "Mensajero Dos", .courier), (4, "Tienda Demo", .business)].map fun (id, name, role) =>
      { id, fullName := name, email := "demo" ++ toString id ++ "@example.com", role, active := true }
  let contracts : List Contract := [(1, 2, 30), (2, 3, 25)].map fun (id, courier, rate) =>
    { id, courier, rate := (Decimal.ofInt? rate).getD 0, start := today.addDays (-365),
      finish := none, active := true }
  { users, contracts
    levels := [⟨1, "Bronce", 0, (Decimal.ofInt? 15).getD 0, 0⟩,
      ⟨2, "Oro", (Decimal.ofInt? 10).getD 0, (Decimal.ofInt? 20).getD 0, 2⟩]
    businesses := [(1, 1), (2, 2)].map fun (id, level) =>
      { id, name := "Negocio Demo " ++ toString id, email := "negocio" ++ toString id ++ "@example.com",
        loyaltyLevel := some level, active := true }
    cancellationKinds := [⟨1, "Anulado por el negocio", .business⟩,
      ⟨2, "Rechazado por el cliente", .customer⟩]
    incidentKinds := [⟨1, "Dirección incorrecta", none⟩] }

end Directory

end Waybill
