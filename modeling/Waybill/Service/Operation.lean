import Waybill.Service.Guides
import Waybill.Service.Assignment
import Waybill.Service.Courier
import Waybill.Service.Cancellation
import Waybill.Service.Incidents
/-!
The service's calls as data, and runs of them.  An operation is one call of a service with its
arguments.  It runs against the directory at its own moment, in a unit of work of its own begun on
the published store: a change commits its working copy once all of its work has succeeded, and a
read ends without committing.  A run starts from the empty store and performs its operations one
after the other.
-/
namespace Waybill

/-- A call of one of the services, with its arguments. -/
inductive Operation where
  | create (request : GuideRequest) (user : Int)
  | assign (guide courier coordinator : Int) (observations : Option String)
  | reassign (guide courier : Int) (reason : String) (coordinator : Int)
  | accept (guide courier : Int) (notes : Option String)
  | reject (guide courier : Int) (reason : String)
  | pickUp (guide courier : Int) (notes : Option String)
  | setOut (guide courier : Int) (notes : Option String)
  | deliver (guide courier : Int) (notes : Option String)
  | cancel (guide kind : Int) (reason : String) (user : Int) (notes : Option String)
  | report (guide kind : Int) (description : String) (reporter : Int)
  | resolve (incident : Int) (resolution : Resolution) (resolver : Int)
  | find (guide : Int)
  | history (guide : Int)
  | cancellation (guide : Int)
  | incidents (guide : Int)

namespace Operation

/-- The call as a transaction; what it answers and the notices it sends are left aside. -/
def perform (env : Env) : Operation → Tx Unit
  | create request user => discard (Service.create env request user)
  | assign guide courier coordinator observations =>
    discard (Service.assign env guide courier coordinator observations)
  | reassign guide courier reason coordinator =>
    discard (Service.reassign env guide courier reason coordinator)
  | accept guide courier notes => discard (Service.accept env guide courier notes)
  | reject guide courier reason => discard (Service.reject env guide courier reason)
  | pickUp guide courier notes => discard (Service.pickUp env guide courier notes)
  | setOut guide courier notes => discard (Service.setOut env guide courier notes)
  | deliver guide courier notes => discard (Service.deliver env guide courier notes)
  | cancel guide kind reason user notes => discard (Service.cancel env guide kind reason user notes)
  | report guide kind description reporter =>
    discard (Service.report env guide kind description reporter)
  | resolve incident resolution resolver =>
    discard (Service.resolve env incident resolution resolver)
  | find guide => discard (Service.find guide)
  | history guide => discard (Service.history guide)
  | cancellation guide => discard (Service.cancellation guide)
  | incidents guide => discard (Service.incidents guide)

/-- Whether the operation only reads. -/
def isRead : Operation → Bool
  | find _ | history _ | cancellation _ | incidents _ => true
  | _ => false

/-- The call in a unit of work of its own: a change commits once all of its work has succeeded,
and a read only looks and ends without committing. -/
def unit (env : Env) (op : Operation) : Uow Unit :=
  if op.isRead then Uow.exec (op.perform env) else Service.committing (op.perform env)

/-- The guide the operation works on in store `s`: the one it creates, the one it names, or the
guide of the incident it resolves. -/
def subject (s : Store) : Operation → Option Int
  | create _ _ => some (s.guides.length + 1)
  | assign guide .. | reassign guide .. | accept guide .. | reject guide .. | pickUp guide ..
  | setOut guide .. | deliver guide .. | cancel guide .. | report guide .. => some guide
  | resolve incident .. => (s.incident? incident).map Incident.guide
  | find guide | history guide | cancellation guide | incidents guide => some guide

end Operation

namespace Store

/-- The published store after one operation at `now`, run in its own unit of work begun on
`s`. -/
def after (d : Directory) (s : Store) (now : Instant) (op : Operation) : Store :=
  ((op.unit ⟨d, now⟩).runOn s).2

/-- The store after a run of operations, each at its moment. -/
def run (d : Directory) : Store → List (Instant × Operation) → Store
  | s, [] => s
  | s, (now, op) :: rest => (s.after d now op).run d rest

end Store

end Waybill
