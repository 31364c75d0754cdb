import Waybill.Guide.Record
import Waybill.Fault
/-!
The store of guides, their history, their incidents and their cancellations, and the
transactions that change it.  Records are kept in the order they were added and never
removed, so the n-th record of a kind has id n.  A transaction works on the store and either
fails, leaving the store as it was, or returns its value with the store to keep.
-/
namespace Waybill

/-- Everything the service has written. -/
structure Store where
  guides : List Guide := []
  history : List HistoryEntry := []
  cancellations : List Cancellation := []
  incidents : List Incident := []

/-- A change to the store that may fail; a failure discards every change made before it. -/
abbrev Tx := StateT Store (Except Fault)

/-- A guide before the store gives it an id and its dates. -/
structure GuideDraft where
  number : String
  business : Int
  branch : Int
  basePrice : Decimal
  recipient : Recipient
  observations : Option String

/-- A cancellation before the store gives it an id. -/
structure CancellationDraft where
  guide : Int
  business : Int
  cancelledBy : Int
  kind : Int
  initiator : Initiator
  reason : String
  charged : Decimal
  courierPayment : Decimal
  createdAt : Instant

namespace Store

/-- The guide with this id. -/
def guide? (s : Store) (id : Int) : Option Guide := s.guides.find? (·.id == id)

/-- Whether some guide carries this number. -/
def hasNumber (s : Store) (number : String) : Bool := s.guides.any (·.number == number)

/-- The history of a guide, ordered by time and then by id. -/
def historyOf (s : Store) (guide : Int) : List HistoryEntry :=
  (s.history.filter (·.guide == guide)).mergeSort fun a b =>
    a.createdAt.secs < b.createdAt.secs ||
      (a.createdAt.secs == b.createdAt.secs &&
        (a.createdAt.nanos < b.createdAt.nanos ||
          (a.createdAt.nanos == b.createdAt.nanos && a.id ≤ b.id)))

/-- The history of a guide in the order it was written. -/
def writtenHistoryOf (s : Store) (guide : Int) : List HistoryEntry :=
  s.history.filter (·.guide == guide)

/-- The cancellation of a guide. -/
def cancellationOf? (s : Store) (guide : Int) : Option Cancellation :=
  s.cancellations.find? (·.guide == guide)

/-- The incident with this id. -/
def incident? (s : Store) (id : Int) : Option Incident := s.incidents.find? (·.id == id)

/-- The incidents of a guide, by id. -/
def incidentsOf (s : Store) (guide : Int) : List Incident := s.incidents.filter (·.guide == guide)

/-- How many cancellations a business asked for itself between `start` (included) and `finish`
(excluded). -/
def businessCancellations (s : Store) (business : Int) (start finish : Instant) : Nat :=
  (s.cancellations.filter fun c =>
    c.business == business && c.initiator == .business && decide (start ≤ c.createdAt) &&
      decide (c.createdAt < finish)).length

end Store

namespace Tx

/-- The guide with this id, or a fault saying it does not exist. -/
def loadGuide (id : Int) : Tx Guide := do
  match (← get).guide? id with
  | some g => pure g
  | none => throw (Fault.missing "Guide" id)

/-- A new guide in state created, stamped `moment`, with the next id. -/
def insertGuide (draft : GuideDraft) (moment : Instant) : Tx Guide := do
  let s ← get
  let g : Guide := {
    id := s.guides.length + 1, number := draft.number, business := draft.business,
    branch := draft.branch, courier := none, coordinator := none, state := .created,
    basePrice := draft.basePrice, commission := none, recipient := draft.recipient,
    observations := draft.observations, accepted := false, acceptedAt := none,
    assignedAt := none, pickedUpAt := none, deliveredAt := none, cancelledAt := none,
    createdAt := moment, updatedAt := moment }
  set { s with guides := s.guides ++ [g] }
  pure g

/-- Replaces the stored guide with the same id. -/
def updateGuide (g : Guide) : Tx Unit := do
  let s ← get
  if s.guides.any (·.id == g.id) then
    set { s with guides := s.guides.map fun (h : Guide) => if h.id == g.id then g else h }
  else throw (Fault.missing "Guide" g.id)

/-- A new history line with the next id. -/
def appendHistory (guide : Int) (state : GuideState) (user : Int) (note : String)
    (moment : Instant) : Tx HistoryEntry := do
  let s ← get
  let e : HistoryEntry := ⟨s.history.length + 1, guide, state, user, note, moment⟩
  set { s with history := s.history ++ [e] }
  pure e

/-- A new cancellation with the next id; a guide has at most one. -/
def insertCancellation (draft : CancellationDraft) : Tx Cancellation := do
  let s ← get
  if s.cancellations.any (·.guide == draft.guide) then throw (.alreadyCancelled draft.guide)
  let c : Cancellation := {
    id := s.cancellations.length + 1, guide := draft.guide, business := draft.business,
    cancelledBy := draft.cancelledBy, kind := draft.kind, initiator := draft.initiator,
    reason := draft.reason, charged := draft.charged, courierPayment := draft.courierPayment,
    createdAt := draft.createdAt }
  set { s with cancellations := s.cancellations ++ [c] }
  pure c

/-- A new open incident with the next id. -/
def insertIncident (guide kind : Int) (description : String) (reportedBy : Int)
    (moment : Instant) : Tx Incident := do
  let s ← get
  let i : Incident := {
    id := s.incidents.length + 1, guide, kind, description, reportedBy, resolved := false,
    resolution := none, resolvedBy := none, resolvedAt := none, createdAt := moment }
  set { s with incidents := s.incidents ++ [i] }
  pure i

/-- Replaces the stored incident with the same id. -/
def updateIncident (i : Incident) : Tx Unit := do
  let s ← get
  if s.incidents.any (·.id == i.id) then
    set { s with incidents := s.incidents.map fun (j : Incident) => if j.id == i.id then i else j }
  else throw (Fault.missing "Incident" i.id)

end Tx

end Waybill
