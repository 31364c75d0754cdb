import Waybill.Service.Basic
/-!
Registering guides and reading them back.  A new guide needs a price that is not negative, a
recipient with a name, a phone number, an address, a city and a region, a known user and an
active business; the business's loyalty discount lowers the price.  The business is told of
every new guide.
-/
namespace Waybill

/-- What a business asks for when it registers a guide; texts as given, before trimming. -/
structure GuideRequest where
  business : Int
  branch : Int
  basePrice : Decimal
  recipient : Recipient
  observations : Option String

namespace Service

/-- How many guide numbers are tried before giving up. -/
def numberAttempts : Nat := 5

/-- The first of `attempts` guide numbers from `serial` on that no guide carries yet. -/
def freshNumber (s : Store) (moment : Instant) (serial : Nat) : Nat → Option String
  | 0 => none
  | attempts + 1 =>
    let candidate := GuideNumber.make moment serial
    if s.hasNumber candidate then freshNumber s moment (serial + 1) attempts else some candidate

/-- The discount a business gets from its loyalty level, or zero. -/
def discountOf (env : Env) (b : Business) : Decimal :=
  match b.loyaltyLevel with
  | some id => ((env.directory.level? id).map LoyaltyLevel.discount).getD 0
  | none => 0

/-- Registers a guide for a business on behalf of a user. -/
def create (env : Env) (req : GuideRequest) (userId : Int) : Tx (Guide × List Notice) := do
  let now := env.now
  if !FieldCheck.passes (FieldCheck.nonNegative req.basePrice) then
    throw (Fault.rule "base_price" "must not be negative")
  let name ← check (FieldCheck.requireText "recipient_name" req.recipient.name)
  let phone ← check (FieldCheck.requireText "recipient_phone" req.recipient.phone)
  if !isPhone phone then throw (Fault.rule "recipient_phone" "invalid phone number")
  let address ← check (FieldCheck.requireText "recipient_address" req.recipient.address)
  let city ← check (FieldCheck.requireText "recipient_city" req.recipient.city)
  let region ← check (FieldCheck.requireText "recipient_state" req.recipient.region)
  let user ← check (requireUser env userId)
  let business ← match env.directory.business? req.business with
    | some b => pure b
    | none => throw (Fault.missing "Business" req.business)
  if !business.active then throw (Fault.refused "create guide" "business is not active")
  let discount := discountOf env business
  let basePrice ← check (Money.discounted req.basePrice discount)
  let s ← get
  let number ← match freshNumber s now (s.guides.length + 1) numberAttempts with
    | some n => pure n
    | none => throw (.internal "could not generate a unique guide number")
  let g ← Tx.insertGuide
    { number, business := business.id, branch := req.branch, basePrice,
      recipient := ⟨name, phone, address, city, region⟩,
      observations := FieldCheck.optionalText req.observations } now
  let note := "Guía creada" ++
    (if 0 < discount then
      ". Descuento de fidelidad " ++ discount.render ++ "% sobre " ++ req.basePrice.render
    else "")
  let _ ← Tx.appendHistory g.id .created user.id note now
  pure (g, [⟨business.email, "Guía " ++ g.number ++ " creada",
    "Se registró la guía " ++ g.number ++ " para " ++ g.recipient.name ++ " (" ++
      g.recipient.city ++ ")."⟩])

/-- A guide by id. -/
def find (id : Int) : Tx Guide := Tx.loadGuide id

/-- A guide's history, by time and then by id. -/
def history (id : Int) : Tx (List HistoryEntry) := do
  let _ ← Tx.loadGuide id
  pure ((← get).historyOf id)

/-- A guide's cancellation. -/
def cancellation (id : Int) : Tx Cancellation := do
  let _ ← Tx.loadGuide id
  match (← get).cancellationOf? id with
  | some c => pure c
  | none => throw (.notFound ("Guide " ++ toString id ++ " has no cancellation"))

/-- A guide's incidents, by id. -/
def incidents (id : Int) : Tx (List Incident) := do
  let _ ← Tx.loadGuide id
  pure ((← get).incidentsOf id)

end Service

end Waybill
