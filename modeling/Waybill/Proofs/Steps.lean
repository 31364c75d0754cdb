import Waybill.Proofs.Transaction
/-!
What each service writes when it succeeds.  One lemma per service reads a successful run
backwards: the guide it loaded, the guards that guide passed, and the exact store it left.
Every service writes one guide and one history line for it in the guide's new state; `cancel`
also adds a cancellation, `report` an incident, and `resolve` rewrites the incident it resolves.
The reads change nothing.  Later proofs cite these lemmas and never unfold a service.
-/
namespace Waybill

namespace Store

theorem guide?_some {s : Store} {id : Int} {g : Guide} (h : s.guide? id = some g) :
    g ∈ s.guides ∧ g.id = id := by
  unfold guide? at h
  exact ⟨List.mem_of_find?_eq_some h, by simpa using List.find?_some h⟩

theorem incident?_some {s : Store} {id : Int} {i : Incident} (h : s.incident? id = some i) :
    i ∈ s.incidents ∧ i.id = id := by
  unfold incident? at h
  exact ⟨List.mem_of_find?_eq_some h, by simpa using List.find?_some h⟩

theorem any_id_of_guide? {s : Store} {id : Int} {g : Guide} (h : s.guide? id = some g) :
    s.guides.any (·.id == g.id) = true := by
  obtain ⟨hmem, _⟩ := guide?_some h
  exact List.any_eq_true.mpr ⟨g, hmem, by simp⟩

end Store

/-- The incident as its resolution leaves it. -/
def Incident.closed (i : Incident) (resolution : String) (resolver : Int) (moment : Instant) :
    Incident :=
  { i with resolved := true, resolution := some resolution, resolvedBy := some resolver,
           resolvedAt := some moment }

/-- A user the directory finds under an id has that id. -/
theorem Directory.user?_id {d : Directory} {id : Int} {u : User} (h : d.user? id = some u) :
    u.id = id := by
  simpa using List.find?_some h

namespace Service

open Tx

/-- A user found is the one the directory holds under the id asked for. -/
theorem requireUser_ok {env : Env} {id : Int} {u : User} (h : requireUser env id = .ok u) :
    env.directory.user? id = some u ∧ u.id = id := by
  unfold requireUser at h
  split at h
  · rename_i found hfound
    cases h
    exact ⟨hfound, Directory.user?_id hfound⟩
  · cases h

/-- A coordinator found is a user the directory holds under the id asked for, and one who may
assign couriers. -/
theorem requireCoordinator_ok {env : Env} {id : Int} {operation : String} {u : User}
    (h : requireCoordinator env id operation = .ok u) :
    env.directory.user? id = some u ∧ u.id = id ∧ u.canCoordinate = true := by
  cases hu : requireUser env id with
  | error f => simp [requireCoordinator, hu, bind, Except.bind] at h
  | ok found =>
      obtain ⟨hfound, hid⟩ := requireUser_ok hu
      by_cases hcan : found.canCoordinate = true
      · simp only [requireCoordinator, hu, hcan, bind, Except.bind, Bool.not_true,
          Bool.false_eq_true, ↓reduceIte, except_pure, Except.ok.injEq] at h
        subst h
        exact ⟨hfound, hid, hcan⟩
      · simp [requireCoordinator, hu, hcan, bind, Except.bind] at h

theorem requireNoIncident_ok {g : Guide} {operation : String} {s s' : Store} {u : Unit} :
    (requireNoIncident g operation).run s = .ok (u, s') ↔ g.state ≠ .incident ∧ s' = s := by
  unfold requireNoIncident
  by_cases hheld : g.state = .incident
  · simp [hheld]
  · simp only [hheld, beq_eq_false_iff_ne.mpr hheld, Bool.false_eq_true, ↓reduceIte, run_pure,
      Except.ok.injEq, Prod.mk.injEq, ne_eq, not_false_eq_true, true_and]
    exact eq_comm

/-- A guide already assigned, restamped as assigned, is an arrival in assigned. -/
theorem arrival_assigned_of_state {g : Guide} (hs : g.state = .assigned) (m : Instant) :
    arrival g .assigned m = { g with assignedAt := some m, updatedAt := m } := by
  cases g
  subst hs
  rfl

/-- A guide already held, with one more incident recorded, is an arrival in incident. -/
theorem arrival_incident_of_state {g : Guide} (hs : g.state = .incident) (m : Instant) :
    arrival g .incident m = { g with updatedAt := m } := by
  cases g
  subst hs
  rfl

theorem reassignForIncident_ok {env : Env} {g : Guide} {resolver : User} {c : Int}
    {s s' : Store} {g₁ : Guide} {courier : User} :
    (reassignForIncident env g resolver c).run s = .ok ((g₁, courier), s') →
      (g.state = .assigned ∨ g.state = .incident) ∧
        ∃ coordinator contract commission,
          requireCoordinator env resolver.id "reassign courier while resolving incident" =
              .ok coordinator ∧
            eligibleCourier env c = .ok (courier, contract) ∧
            Money.commission g.basePrice contract.rate = .ok commission ∧
            g₁ = handOver g courier.id coordinator.id commission ∧ s' = s := by
  intro h
  simp only [reassignForIncident, bind_ok, requireState_ok, check_ok, run_pure, Except.ok.injEq,
    Prod.mk.injEq, List.mem_cons, List.not_mem_nil, or_false] at h
  obtain ⟨_, _, ⟨hstate, rfl⟩, coordinator, _, ⟨hcoord, rfl⟩, ⟨courier, contract⟩, _,
    ⟨heligible, rfl⟩, commission, _, ⟨hcommission, rfl⟩, ⟨rfl, rfl⟩, rfl⟩ := h
  exact ⟨hstate, coordinator, contract, commission, hcoord, heligible, hcommission, rfl, rfl⟩

/-- Registering a guide appends it under the next id, with a number no guide had, and one
history line in created, written in the name of the user who registers it.  The price asked for
passed its check, and the guide is stored at that price after the discount of the business. -/
theorem create_ok {env : Env} {req : GuideRequest} {userId : Int} {s s' : Store}
    {r : Guide × List Notice} (h : (create env req userId).run s = .ok (r, s')) :
    ∃ draft : GuideDraft,
      (FieldCheck.passes (FieldCheck.nonNegative req.basePrice) = true ∧
        ∃ b, env.directory.business? req.business = some b ∧
          Money.discounted req.basePrice (discountOf env b) = .ok draft.basePrice) ∧
      freshNumber s env.now (s.guides.length + 1) numberAttempts = some draft.number ∧
      ∃ note,
        s' = ({ s with guides := s.guides ++ [draft.toGuide (s.guides.length + 1) env.now] }).withEntry
          ⟨s.history.length + 1, s.guides.length + 1, .created, userId, note, env.now⟩ := by
  cases hb : env.directory.business? req.business with
  | none =>
      simp only [create, hb, bind_ok, ite_ok, run_throw, reduceCtorEq, and_false, exists_false,
        false_and, false_or, check_ok] at h
  | some b =>
      simp only [create, hb, bind_ok, ite_ok, run_throw, reduceCtorEq, and_false, exists_false,
        false_and, false_or, check_ok, run_get, run_pure, Except.ok.injEq, Prod.mk.injEq,
        Bool.not_eq_true] at h
      obtain ⟨hprice, _, _, ⟨_, rfl⟩, _, _, ⟨_, rfl⟩, _, _, _, ⟨_, rfl⟩, _, _, ⟨_, rfl⟩, _, _,
        ⟨_, rfl⟩, user, _, ⟨huser, rfl⟩, _, _, ⟨rfl, rfl⟩, _, _, _, ⟨hdiscount, rfl⟩, _, _,
        ⟨rfl, rfl⟩, h⟩ := h
      obtain ⟨-, rfl⟩ := requireUser_ok huser
      -- the store read for the number is the one the guide is appended to
      split at h
      · rename_i n hn
        simp only [bind_ok, run_pure, insertGuide_run, appendHistory_run, Except.ok.injEq,
          Prod.mk.injEq] at h
        obtain ⟨_, _, ⟨rfl, rfl⟩, _, _, ⟨rfl, rfl⟩, _, _, ⟨rfl, rfl⟩, _, rfl⟩ := h
        refine ⟨_, ?_, hn, _, rfl⟩
        exact ⟨by simpa using hprice, b, rfl, hdiscount⟩
      · simp only [bind_ok, run_throw, reduceCtorEq, false_and, exists_false] at h

/-- Assigning moves a created guide to assigned, handed to an eligible courier by a coordinator. -/
theorem assign_ok {env : Env} {gid cid kid : Int} {observations : Option String} {s s' : Store}
    {r : Guide × List Notice} (h : (assign env gid cid kid observations).run s = .ok (r, s')) :
    ∃ g, s.guide? gid = some g ∧ g.state = .created ∧
      ∃ coordinator courier contract commission,
        requireCoordinator env kid "assign courier" = .ok coordinator ∧
        eligibleCourier env cid = .ok (courier, contract) ∧
        Money.commission g.basePrice contract.rate = .ok commission ∧ ∃ note,
        s' = (s.withGuide
            (arrival (handOver g courier.id coordinator.id commission) .assigned env.now)).withEntry
          ⟨s.history.length + 1, g.id, .assigned, coordinator.id, note, env.now⟩ := by
  simp only [assign, bind_ok, Tx.loadGuide_ok, requireState_ok, check_ok, move_ok, run_pure,
    Except.ok.injEq, Prod.mk.injEq, List.mem_singleton] at h
  obtain ⟨g, _, ⟨hg, rfl⟩, _, _, ⟨hstate, rfl⟩, coordinator, _, ⟨hcoord, rfl⟩,
    ⟨courier, contract⟩, _, ⟨heligible, rfl⟩, commission, _, ⟨hcommission, rfl⟩, _, _,
    ⟨_, _, rfl, rfl⟩, rfl, rfl⟩ := h
  exact ⟨g, hg, hstate, coordinator, courier, contract, commission, hcoord, heligible,
    hcommission, _, rfl⟩

/-- Reassigning hands an assigned or held guide to an eligible courier, other than the one that
holds an assigned guide, and leaves it assigned. -/
theorem reassign_ok {env : Env} {gid cid : Int} {reasonText : String} {kid : Int} {s s' : Store}
    {r : Guide × List Notice} (h : (reassign env gid cid reasonText kid).run s = .ok (r, s')) :
    ∃ g, s.guide? gid = some g ∧ (g.state = .assigned ∨ g.state = .incident) ∧
      ¬ (g.state = .assigned ∧ g.courier = some cid) ∧
      ∃ coordinator courier contract commission,
        requireCoordinator env kid "reassign courier" = .ok coordinator ∧
        eligibleCourier env cid = .ok (courier, contract) ∧
        Money.commission g.basePrice contract.rate = .ok commission ∧ ∃ note,
        s' = (s.withGuide
            (arrival (handOver g courier.id coordinator.id commission) .assigned env.now)).withEntry
          ⟨s.history.length + 1, g.id, .assigned, coordinator.id, note, env.now⟩ := by
  simp only [reassign, bind_ok, ite_ok, run_throw, reduceCtorEq, and_false, exists_false,
    false_and, false_or, Tx.loadGuide_ok, requireState_ok, check_ok, move_ok, record_ok,
    run_pure, Except.ok.injEq, Prod.mk.injEq, List.mem_cons, List.not_mem_nil, or_false] at h
  obtain ⟨_, _, ⟨_, rfl⟩, g, _, ⟨hg, rfl⟩, _, _, ⟨hstate, rfl⟩, hother, coordinator, _,
    ⟨hcoord, rfl⟩, ⟨courier, contract⟩, _, ⟨heligible, rfl⟩, commission, _,
    ⟨hcommission, rfl⟩, h⟩ := h
  have hother' : ¬ (g.state = .assigned ∧ g.courier = some cid) := by simpa using hother
  refine ⟨g, hg, hstate, hother', coordinator, courier, contract, commission, hcoord, heligible,
    hcommission, ?_⟩
  rcases h with ⟨_, _, _, ⟨_, _, rfl, rfl⟩, rfl, rfl⟩ | ⟨hheld, _, _, ⟨_, rfl, rfl⟩, rfl, rfl⟩
  · exact ⟨_, rfl⟩
  · -- an assigned guide is restamped in place, which is the same as arriving in assigned again
    have hassigned : g.state = .assigned := by
      rcases hstate with hs | hs
      · exact hs
      · simp [hs] at hheld
    rw [arrival_assigned_of_state (by simpa using hassigned)]
    simp only [handOver_state, handOver_id, hassigned]
    exact ⟨_, rfl⟩

/-- The holding courier accepts an assigned guide not yet accepted; its state stays assigned. -/
theorem accept_ok {env : Env} {gid cid : Int} {notes : Option String} {s s' : Store}
    {r : Guide × List Notice} (h : (accept env gid cid notes).run s = .ok (r, s')) :
    ∃ g, s.guide? gid = some g ∧ g.state = .assigned ∧ g.courier = some cid ∧
      g.accepted = false ∧ ∃ note,
        s' = (s.withGuide
            { g with accepted := true, acceptedAt := some env.now, updatedAt := env.now }).withEntry
          ⟨s.history.length + 1, g.id, .assigned, cid, note, env.now⟩ := by
  simp only [accept, bind_ok, ite_ok, run_throw, reduceCtorEq, and_false, exists_false,
    false_and, false_or, Tx.loadGuide_ok, requireState_ok, requireHolder_ok, record_ok, run_pure,
    Except.ok.injEq, Prod.mk.injEq, List.mem_singleton, Bool.not_eq_true] at h
  obtain ⟨g, _, ⟨hg, rfl⟩, _, _, ⟨hstate, rfl⟩, _, _, ⟨hheld, rfl⟩, haccepted, _, _,
    ⟨_, rfl, rfl⟩, _, rfl⟩ := h
  exact ⟨g, hg, hstate, hheld, haccepted, _, by rw [hstate]⟩

/-- The holding courier refuses an assigned guide not yet accepted; it goes back to created with
no courier, commission or acceptance. -/
theorem reject_ok {env : Env} {gid cid : Int} {reasonText : String} {s s' : Store}
    {r : Guide × List Notice} (h : (reject env gid cid reasonText).run s = .ok (r, s')) :
    ∃ g, s.guide? gid = some g ∧ g.state = .assigned ∧ g.courier = some cid ∧
      g.accepted = false ∧ ∃ note,
        s' = (s.withGuide (arrival
            { g with courier := none, commission := none, accepted := false, acceptedAt := none }
            .created env.now)).withEntry
          ⟨s.history.length + 1, g.id, .created, cid, note, env.now⟩ := by
  simp only [reject, bind_ok, ite_ok, run_throw, reduceCtorEq, and_false, exists_false,
    false_and, false_or, Tx.loadGuide_ok, requireState_ok, requireHolder_ok, check_ok, move_ok,
    run_pure, Except.ok.injEq, Prod.mk.injEq, List.mem_singleton, Bool.not_eq_true] at h
  obtain ⟨_, _, ⟨_, rfl⟩, g, _, ⟨hg, rfl⟩, _, _, ⟨hstate, rfl⟩, _, _, ⟨hheld, rfl⟩, haccepted,
    _, _, ⟨_, _, rfl, rfl⟩, rfl, rfl⟩ := h
  exact ⟨g, hg, hstate, hheld, haccepted, _, rfl⟩

/-- The holding courier picks up an assigned guide whose assignment was accepted. -/
theorem pickUp_ok {env : Env} {gid cid : Int} {notes : Option String} {s s' : Store}
    {r : Guide × List Notice} (h : (pickUp env gid cid notes).run s = .ok (r, s')) :
    ∃ g, s.guide? gid = some g ∧ g.state = .assigned ∧ g.courier = some cid ∧
      g.accepted = true ∧ ∃ note,
        s' = (s.withGuide (arrival g .pickedUp env.now)).withEntry
          ⟨s.history.length + 1, g.id, .pickedUp, cid, note, env.now⟩ := by
  simp only [pickUp, bind_ok, ite_ok, run_throw, reduceCtorEq, and_false, exists_false,
    false_and, false_or, Tx.loadGuide_ok, requireHolder_ok, move_ok, run_pure, Except.ok.injEq,
    Prod.mk.injEq] at h
  obtain ⟨g, _, ⟨hg, rfl⟩, _, _, ⟨hheld, rfl⟩, hwaiting, _, _, ⟨hmove, _, rfl, rfl⟩, rfl, rfl⟩ := h
  -- only assigned has an edge to picked up, and there the assignment must be accepted
  have hstate : g.state = .assigned := by
    cases hs : g.state <;> simp_all [GuideState.canMove, GuideState.targets]
  exact ⟨g, hg, hstate, hheld, by simpa [hstate] using hwaiting, _, rfl⟩

/-- The holding courier sets out with a picked-up guide. -/
theorem setOut_ok {env : Env} {gid cid : Int} {notes : Option String} {s s' : Store}
    {r : Guide × List Notice} (h : (setOut env gid cid notes).run s = .ok (r, s')) :
    ∃ g, s.guide? gid = some g ∧ g.state = .pickedUp ∧ g.courier = some cid ∧ ∃ note,
      s' = (s.withGuide (arrival g .inTransit env.now)).withEntry
        ⟨s.history.length + 1, g.id, .inTransit, cid, note, env.now⟩ := by
  simp only [setOut, bind_ok, Tx.loadGuide_ok, requireHolder_ok, requireNoIncident_ok, move_ok,
    run_pure, Except.ok.injEq, Prod.mk.injEq] at h
  obtain ⟨g, _, ⟨hg, rfl⟩, _, _, ⟨hheld, rfl⟩, _, _, ⟨hheldNot, rfl⟩, _, _, ⟨hmove, _, rfl, rfl⟩,
    rfl, rfl⟩ := h
  -- of the states with an edge to in transit, the incident state is refused here
  have hstate : g.state = .pickedUp := by
    cases hs : g.state <;> simp_all [GuideState.canMove, GuideState.targets]
  exact ⟨g, hg, hstate, hheld, _, rfl⟩

/-- The holding courier delivers a guide in transit. -/
theorem deliver_ok {env : Env} {gid cid : Int} {notes : Option String} {s s' : Store}
    {r : Guide × List Notice} (h : (deliver env gid cid notes).run s = .ok (r, s')) :
    ∃ g, s.guide? gid = some g ∧ g.state = .inTransit ∧ g.courier = some cid ∧ ∃ note,
      s' = (s.withGuide (arrival g .delivered env.now)).withEntry
        ⟨s.history.length + 1, g.id, .delivered, cid, note, env.now⟩ := by
  simp only [deliver, bind_ok, Tx.loadGuide_ok, requireHolder_ok, requireNoIncident_ok, move_ok,
    run_pure, Except.ok.injEq, Prod.mk.injEq] at h
  obtain ⟨g, _, ⟨hg, rfl⟩, _, _, ⟨hheld, rfl⟩, _, _, ⟨hheldNot, rfl⟩, _, _, ⟨hmove, _, rfl, rfl⟩,
    rfl, rfl⟩ := h
  -- of the states with an edge to delivered, the incident state is refused here
  have hstate : g.state = .inTransit := by
    cases hs : g.state <;> simp_all [GuideState.canMove, GuideState.targets]
  exact ⟨g, hg, hstate, hheld, _, rfl⟩

/-- The observations a cancellation leaves: the reason as one more stamped line, then the notes,
when there are any, as another. -/
def Guide.cancelTrail (existing : Option String) (reason : String) (notes : Option String)
    (moment : Instant) : String :=
  let first := Guide.extendTrail existing "Cancelación" reason moment
  match notes with
  | some n => Guide.extendTrail (some first) "Notas de cancelación" n moment
  | none => first

/-- Cancelling a guide that was neither cancelled nor picked up, in created or assigned, adds
its one cancellation and moves it to cancelled with the reason in its observations.  The
cancellation carries who asked for it and what the penalty rule charged, counting the business's
own cancellations in the month window of the call. -/
theorem cancel_ok {env : Env} {gid kindId : Int} {reasonText : String} {userId : Int}
    {notesText : Option String} {s s' : Store} {r : (Cancellation × Guide) × List Notice}
    (h : (cancel env gid kindId reasonText userId notesText).run s = .ok (r, s')) :
    ∃ g, s.guide? gid = some g ∧ s.cancellationOf? g.id = none ∧ g.pickedUpAt = none ∧
      (g.state = .created ∨ g.state = .assigned) ∧
      ∃ draft : CancellationDraft, draft.guide = g.id ∧ draft.business = g.business ∧
        draft.createdAt = env.now ∧
        (∃ kind penalty, env.directory.cancellationKind? kindId = some kind ∧
          draft.initiator = kind.initiator ∧
          Money.penalty (g.commission.getD 0) kind.initiator (env.directory.levelOf? g.business)
            (s.businessCancellations g.business (Instant.monthBounds env.now).1
              (Instant.monthBounds env.now).2) = .ok penalty ∧
          draft.charged = penalty.charged ∧ draft.courierPayment = penalty.courierPayment) ∧
        ∃ reason, FieldCheck.requireText "reason" reasonText = .ok reason ∧ ∃ note,
        s' = (({ s with cancellations :=
              s.cancellations ++ [draft.toCancellation (s.cancellations.length + 1)] }).withGuide
            (arrival { g with observations := some (Guide.cancelTrail g.observations reason
              (FieldCheck.optionalText notesText) env.now) } .cancelled env.now)).withEntry
          ⟨s.history.length + 1, g.id, .cancelled, userId, note, env.now⟩ := by
  cases hk : env.directory.cancellationKind? kindId with
  | none =>
      simp only [cancel, hk, bind_ok, ite_ok, run_throw, reduceCtorEq, and_false, exists_false,
        false_and, false_or, Tx.loadGuide_ok, run_get, requireState_ok, check_ok] at h
  | some kind =>
      simp only [cancel, hk, bind_ok, ite_ok, run_throw, reduceCtorEq, and_false, exists_false,
        false_and, false_or, Tx.loadGuide_ok, run_get, requireState_ok, check_ok, run_pure,
        Except.ok.injEq, Prod.mk.injEq, Option.isSome_eq_false_iff, Option.isNone_iff_eq_none,
        List.mem_cons, List.not_mem_nil, or_false, Bool.not_eq_true] at h
      obtain ⟨g, _, ⟨hg, rfl⟩, _, _, ⟨rfl, rfl⟩, hfree, hpicked, _, _, ⟨hstate, rfl⟩, reason, _,
        ⟨hreason, rfl⟩, _, _, ⟨rfl, rfl⟩, user, _, ⟨huser, rfl⟩, _, _, ⟨rfl, rfl⟩, penalty, _,
        ⟨hpenalty, rfl⟩, h⟩ := h
      obtain ⟨-, rfl⟩ := requireUser_ok huser
      simp only [insertCancellation_ok] at h
      obtain ⟨_, _, ⟨_, rfl, rfl⟩, h⟩ := h
      -- the notes, when there are any, are one more stamped line of the same observations
      split at h <;> rename_i hnotes <;>
      · obtain ⟨_, _, hmove, -, rfl⟩ := h
        obtain ⟨_, _, -, rfl⟩ := move_ok.mp hmove
        rw [hnotes]
        exact ⟨g, hg, hfree, by simpa using hpicked, hstate, _, rfl, rfl, rfl,
          ⟨kind, penalty, rfl, rfl, hpenalty, rfl, rfl⟩, reason, hreason, _, rfl⟩

/-- Reporting an incident on an assigned, picked-up, in-transit or held guide adds an open
incident for it, in the name of the reporter, and leaves it held. -/
theorem report_ok {env : Env} {gid kindId : Int} {descriptionText : String} {reporterId : Int}
    {s s' : Store} {r : (Incident × Guide) × List Notice}
    (h : (report env gid kindId descriptionText reporterId).run s = .ok (r, s')) :
    ∃ g, s.guide? gid = some g ∧
      (g.state = .assigned ∨ g.state = .pickedUp ∨ g.state = .inTransit ∨
        g.state = .incident) ∧
      ∃ kind description note,
        s' = (({ s with incidents := s.incidents ++ [(⟨s.incidents.length + 1, g.id, kind,
              description, reporterId, false, none, none, none, env.now⟩ : Incident)] }).withGuide
            (arrival g .incident env.now)).withEntry
          ⟨s.history.length + 1, g.id, .incident, reporterId, note, env.now⟩ := by
  cases hk : env.directory.incidentKind? kindId with
  | none =>
      simp only [report, hk, bind_ok, run_throw, reduceCtorEq, and_false, exists_false,
        false_and, Tx.loadGuide_ok, requireState_ok, check_ok] at h
  | some kind =>
      simp only [report, hk, bind_ok, ite_ok, Tx.loadGuide_ok, requireState_ok, check_ok,
        run_pure, insertIncident_run, move_ok, record_ok, Except.ok.injEq, Prod.mk.injEq,
        List.mem_cons, List.not_mem_nil, or_false] at h
      obtain ⟨g, _, ⟨hg, rfl⟩, _, _, ⟨hstate, rfl⟩, description, _, ⟨_, rfl⟩, _, _, ⟨rfl, rfl⟩,
        reporter, _, ⟨hreporter, rfl⟩, _, _, ⟨rfl, rfl⟩, h⟩ := h
      obtain ⟨-, rfl⟩ := requireUser_ok hreporter
      refine ⟨g, hg, hstate, kind.id, description, ?_⟩
      rcases h with ⟨hheld, _, _, ⟨_, rfl, rfl⟩, rfl, rfl⟩ | ⟨_, _, _, ⟨_, _, rfl, rfl⟩, rfl, rfl⟩
      · -- one more incident on a held guide is recorded, and the guide stays held
        have hincident : g.state = .incident := by simpa using hheld
        rw [arrival_incident_of_state hincident]
        simp only [hincident]
        exact ⟨_, rfl⟩
      · exact ⟨_, rfl⟩

/-- Whether resolving incident `i` sends the held guide `g` back to assigned, read in the store
`s` where `i` is already resolved: the guide has a courier and either the delivery is
rescheduled or no other incident of it is open. -/
def returnsToAssigned (s : Store) (g : Guide) (i : Incident) (reschedule : Bool) : Bool :=
  g.state == .incident && g.courier.isSome &&
    (reschedule || !(s.incidentsOf g.id).any fun j => j.id != i.id && !j.resolved)

/-- Resolving an open incident closes it, may hand its guide to another courier, and either sends
the held guide back to assigned or only records the resolution. -/
theorem resolve_ok {env : Env} {iid : Int} {params : Resolution} {resolverId : Int}
    {s s' : Store} {r : (Incident × Guide) × List Notice}
    (h : (resolve env iid params resolverId).run s = .ok (r, s')) :
    ∃ i, s.incident? iid = some i ∧ i.resolved = false ∧
      ∃ resolution resolver, FieldCheck.requireText "resolution" params.text = .ok resolution ∧
        requireUser env resolverId = .ok resolver ∧
      ∃ g, s.guide? i.guide = some g ∧
      ∃ g₁, (params.newCourier = none ∧ g₁ = g ∨
          ∃ c, params.newCourier = some c ∧ (g.state = .assigned ∨ g.state = .incident) ∧
            ∃ coordinator courier contract commission,
              requireCoordinator env resolver.id "reassign courier while resolving incident" =
                .ok coordinator ∧
              eligibleCourier env c = .ok (courier, contract) ∧
              Money.commission g.basePrice contract.rate = .ok commission ∧
              g₁ = handOver g courier.id coordinator.id commission) ∧
      ∃ note,
        (returnsToAssigned (s.withIncident (i.closed resolution resolver.id env.now)) g₁ i
            params.reschedule = true ∧
          s' = ((s.withIncident (i.closed resolution resolver.id env.now)).withGuide
              (arrival g₁ .assigned env.now)).withEntry
            ⟨s.history.length + 1, g.id, .assigned, resolver.id, note, env.now⟩) ∨
        (returnsToAssigned (s.withIncident (i.closed resolution resolver.id env.now)) g₁ i
            params.reschedule = false ∧
          s' = ((s.withIncident (i.closed resolution resolver.id env.now)).withGuide
              { g₁ with updatedAt := env.now }).withEntry
            ⟨s.history.length + 1, g.id, g₁.state, resolver.id, note, env.now⟩) := by
  simp only [resolve, bind_ok, run_get, Except.ok.injEq, Prod.mk.injEq] at h
  obtain ⟨_, _, ⟨rfl, rfl⟩, h⟩ := h
  split at h
  · rename_i i hi
    cases hc : params.newCourier with
    | none =>
        simp only [hc, bind_ok, ite_ok, run_throw, reduceCtorEq, and_false, exists_false,
          false_and, false_or, check_ok, Tx.loadGuide_ok, run_pure, updateIncident_ok, run_get,
          move_ok, record_ok, Except.ok.injEq, Prod.mk.injEq, Bool.not_eq_true] at h
        obtain ⟨_, _, ⟨rfl, rfl⟩, hopen, resolution, _, ⟨hresolution, rfl⟩, resolver, _,
          ⟨huser, rfl⟩, g, _, ⟨hg, rfl⟩, _, _, ⟨rfl, rfl⟩, _, _, ⟨_, rfl⟩, _, _, ⟨rfl, rfl⟩, h⟩ := h
        refine ⟨i, hi, hopen, resolution, resolver, hresolution, huser, g, hg, g,
          Or.inl ⟨rfl, rfl⟩, ?_⟩
        rcases h with ⟨hreturns, _, _, ⟨_, _, rfl, rfl⟩, rfl, rfl⟩ |
          ⟨hstays, _, _, ⟨_, rfl, rfl⟩, rfl, rfl⟩
        · exact ⟨_, Or.inl ⟨hreturns, rfl⟩⟩
        · exact ⟨_, Or.inr ⟨hstays, rfl⟩⟩
    | some c =>
        simp only [hc, bind_ok, ite_ok, run_throw, reduceCtorEq, and_false, exists_false,
          false_and, false_or, check_ok, Tx.loadGuide_ok, run_pure, updateIncident_ok, run_get,
          move_ok, record_ok, Except.ok.injEq, Prod.mk.injEq, Bool.not_eq_true] at h
        obtain ⟨_, _, ⟨rfl, rfl⟩, hopen, resolution, _, ⟨hresolution, rfl⟩, resolver, _,
          ⟨huser, rfl⟩, g, _, ⟨hg, rfl⟩, ⟨g₁, courier⟩, _, hreassign, _, _, ⟨rfl, rfl⟩, _, _,
          ⟨_, rfl⟩, _, _, ⟨rfl, rfl⟩, h⟩ := h
        obtain ⟨hstate, coordinator, contract, commission, hcoord, heligible, hcommission, rfl,
          rfl⟩ := reassignForIncident_ok hreassign
        refine ⟨i, hi, hopen, resolution, resolver, hresolution, huser, g, hg, _,
          Or.inr ⟨c, rfl, hstate, coordinator, courier, contract, commission, hcoord, heligible,
            hcommission, rfl⟩, ?_⟩
        rcases h with ⟨hreturns, _, _, ⟨_, _, rfl, rfl⟩, rfl, rfl⟩ |
          ⟨hstays, _, _, ⟨_, rfl, rfl⟩, rfl, rfl⟩
        · exact ⟨_, Or.inl ⟨hreturns, rfl⟩⟩
        · exact ⟨_, Or.inr ⟨hstays, rfl⟩⟩
  · simp only [bind_ok, run_throw, reduceCtorEq, false_and, exists_false] at h

theorem find_ok {gid : Int} {s s' : Store} {r : Guide} (h : (find gid).run s = .ok (r, s')) :
    s' = s :=
  (Tx.loadGuide_ok.mp h).2

/-- Reading a guide's history finds the guide and answers its history ordered by time and id. -/
theorem history_ok {gid : Int} {s s' : Store} {r : List HistoryEntry} :
    (history gid).run s = .ok (r, s') ↔
      (∃ g, s.guide? gid = some g) ∧ r = s.historyOf gid ∧ s' = s := by
  simp only [history, bind_ok, Tx.loadGuide_ok, run_get, run_pure, Except.ok.injEq,
    Prod.mk.injEq]
  constructor
  · rintro ⟨g, _, ⟨hg, rfl⟩, _, _, ⟨rfl, rfl⟩, rfl, rfl⟩
    exact ⟨⟨g, hg⟩, rfl, rfl⟩
  · rintro ⟨⟨g, hg⟩, rfl, rfl⟩
    exact ⟨g, _, ⟨hg, rfl⟩, _, _, ⟨rfl, rfl⟩, rfl, rfl⟩

theorem cancellation_ok {gid : Int} {s s' : Store} {r : Cancellation}
    (h : (cancellation gid).run s = .ok (r, s')) : s' = s := by
  simp only [cancellation, bind_ok, Tx.loadGuide_ok, run_get] at h
  obtain ⟨_, _, ⟨_, rfl⟩, _, _, ⟨rfl, rfl⟩, h⟩ := h
  split at h
  · obtain ⟨-, rfl⟩ := by simpa using h
    rfl
  · simp at h

theorem incidents_ok {gid : Int} {s s' : Store} {r : List Incident}
    (h : (incidents gid).run s = .ok (r, s')) : s' = s := by
  simp only [incidents, bind_ok, Tx.loadGuide_ok, run_get, run_pure, Except.ok.injEq,
    Prod.mk.injEq] at h
  obtain ⟨_, _, ⟨_, rfl⟩, _, _, ⟨rfl, rfl⟩, _, rfl⟩ := h
  rfl

end Service

theorem Tx.discard_ok {α : Type} {x : Tx α} {s s' : Store} {u : PUnit} :
    (Functor.discard x).run s = .ok (u, s') ↔ ∃ a, x.run s = .ok (a, s') := by
  simp only [Functor.discard, Functor.mapConst, StateT.run]
  unfold StateT.map
  simp only [bind, Except.bind, Function.comp_apply]
  split
  · rename_i hx
    simp [hx]
  · rename_i v hx
    obtain ⟨a, s₁⟩ := v
    simp [hx, eq_comm]

namespace Store

/-- A step keeps the store as it was, or is a successful run of the operation that leaves the
store it gives. -/
theorem after_cases (d : Directory) (s : Store) (now : Instant) (op : Operation) :
    s.after d now op = s ∨ (op.perform ⟨d, now⟩).run s = .ok ((), s.after d now op) := by
  unfold after
  rw [Operation.unit_runOn]
  cases hrun : (op.perform ⟨d, now⟩).run s with
  | ok r =>
    -- a read publishes nothing; a change publishes the store its transaction left
    cases op.isRead
    · exact Or.inr (by simp)
    · exact Or.inl rfl
  | error f => exact Or.inl rfl

end Store

end Waybill
