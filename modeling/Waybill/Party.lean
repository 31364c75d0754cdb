import Waybill.Decimal.Basic
import Waybill.Calendar.Date
import Waybill.Json.Value
/-!
The people and organisations around a guide, and the reference data the service reads:
users with their roles, businesses with their loyalty levels, couriers' contracts, and the
kinds of cancellation and incident.  A contract is in force on a day when it is active and
the day lies between its start and its end, both included.
-/
namespace Waybill

/-- What a user does. -/
inductive Role where
  | administrator
  | coordinator
  | courier
  | business
deriving DecidableEq, Repr

namespace Role

/-- The name a role is known by. -/
def name : Role → String
  | administrator => "Administrador"
  | coordinator => "Coordinador"
  | courier => "Mensajero"
  | business => "Negocio"

/-- The role with a given name. -/
def ofName? (s : String) : Option Role :=
  [administrator, coordinator, courier, business].find? (fun r => r.name == s)

end Role

/-- A person who uses the service. -/
structure User where
  id : Int
  fullName : String
  email : String
  role : Role
  active : Bool
deriving DecidableEq, Repr

namespace User

/-- Active coordinators and administrators may assign couriers. -/
def canCoordinate (u : User) : Bool :=
  u.active && (u.role == .coordinator || u.role == .administrator)

/-- Whether the user delivers guides. -/
def isCourier (u : User) : Bool := u.role == .courier

/-- The user as clients see it. -/
def toJson (u : User) : Json :=
  .obj [("id", .int u.id), ("full_name", .str u.fullName), ("email", .str u.email),
    ("role", .str u.role.name), ("active", .bool u.active)]

end User

/-- A business that sends guides. -/
structure Business where
  id : Int
  name : String
  email : String
  loyaltyLevel : Option Int
  active : Bool
deriving DecidableEq, Repr

/-- A tier of the loyalty programme: its discount on prices, its penalty on cancellations, and
how many cancellations a month are free. -/
structure LoyaltyLevel where
  id : Int
  name : String
  discount : Decimal
  penalty : Decimal
  freeCancellations : Int
deriving DecidableEq

/-- A courier's contract: a commission rate over a range of days. -/
structure Contract where
  id : Int
  courier : Int
  rate : Decimal
  start : Date
  finish : Option Date
  active : Bool
deriving DecidableEq

namespace Contract

/-- Whether the contract is in force on a day. -/
def inForceOn (c : Contract) (day : Date) : Bool :=
  c.active && decide (c.start ≤ day) &&
    (match c.finish with
      | none => true
      | some finish => decide (day ≤ finish))

/-- The contract as clients see it. -/
def toJson (c : Contract) : Json :=
  .obj [("id", .int c.id), ("courier_id", .int c.courier),
    ("commission_percentage", .str c.rate.render), ("start_date", .str c.start.render),
    ("end_date", Json.opt (fun d => .str d.render) c.finish), ("active", .bool c.active)]

end Contract

/-- Who asked for a cancellation. -/
inductive Initiator where
  | business
  | customer
deriving DecidableEq, Repr

namespace Initiator

/-- The name an initiator is known by. -/
def name : Initiator → String
  | business => "Negocio"
  | customer => "Cliente"

/-- The initiator with a given name. -/
def ofName? (s : String) : Option Initiator :=
  [business, customer].find? (fun i => i.name == s)

end Initiator

/-- A kind of cancellation, with who asks for it. -/
structure CancellationKind where
  id : Int
  name : String
  initiator : Initiator
deriving DecidableEq, Repr

/-- A kind of incident. -/
structure IncidentKind where
  id : Int
  name : String
  description : Option String
deriving DecidableEq, Repr

end Waybill
