import Waybill.Proofs.Work
/-!
What the store's transactions do when they succeed.  Each primitive write of the store, and each
step the services share (loading a guide, the guards, moving a guide along an edge, recording an
event), gets one lemma saying exactly when it succeeds and which store it leaves.  The services'
own lemmas are built from these and never unfold a primitive again.
-/
namespace Waybill

/-- The guide the store makes of a draft, with its id and its creation moment. -/
def GuideDraft.toGuide (draft : GuideDraft) (id : Int) (moment : Instant) : Guide :=
  { id, number := draft.number, business := draft.business, branch := draft.branch,
    courier := none, coordinator := none, state := .created, basePrice := draft.basePrice,
    commission := none, recipient := draft.recipient, observations := draft.observations,
    accepted := false, acceptedAt := none, assignedAt := none, pickedUpAt := none,
    deliveredAt := none, cancelledAt := none, createdAt := moment, updatedAt := moment }

/-- The cancellation the store makes of a draft, with its id. -/
def CancellationDraft.toCancellation (draft : CancellationDraft) (id : Int) : Cancellation :=
  { id, guide := draft.guide, business := draft.business, cancelledBy := draft.cancelledBy,
    kind := draft.kind, initiator := draft.initiator, reason := draft.reason,
    charged := draft.charged, courierPayment := draft.courierPayment,
    createdAt := draft.createdAt }

namespace Store

/-- The store with `g` written over every guide of its id. -/
def withGuide (s : Store) (g : Guide) : Store :=
  { s with guides := s.guides.map fun (h : Guide) => if h.id == g.id then g else h }

/-- The store with one more history line. -/
def withEntry (s : Store) (e : HistoryEntry) : Store := { s with history := s.history ++ [e] }

/-- The store with `i` written over every incident of its id. -/
def withIncident (s : Store) (i : Incident) : Store :=
  { s with incidents := s.incidents.map fun (j : Incident) => if j.id == i.id then i else j }

@[simp] theorem withGuide_history (s : Store) (g : Guide) :
    (s.withGuide g).history = s.history := rfl

@[simp] theorem withGuide_cancellations (s : Store) (g : Guide) :
    (s.withGuide g).cancellations = s.cancellations := rfl

@[simp] theorem withGuide_incidents (s : Store) (g : Guide) :
    (s.withGuide g).incidents = s.incidents := rfl

@[simp] theorem withEntry_guides (s : Store) (e : HistoryEntry) :
    (s.withEntry e).guides = s.guides := rfl

@[simp] theorem withEntry_history (s : Store) (e : HistoryEntry) :
    (s.withEntry e).history = s.history ++ [e] := rfl

@[simp] theorem withEntry_cancellations (s : Store) (e : HistoryEntry) :
    (s.withEntry e).cancellations = s.cancellations := rfl

@[simp] theorem withEntry_incidents (s : Store) (e : HistoryEntry) :
    (s.withEntry e).incidents = s.incidents := rfl

@[simp] theorem withIncident_guides (s : Store) (i : Incident) :
    (s.withIncident i).guides = s.guides := rfl

@[simp] theorem withIncident_history (s : Store) (i : Incident) :
    (s.withIncident i).history = s.history := rfl

@[simp] theorem withIncident_cancellations (s : Store) (i : Incident) :
    (s.withIncident i).cancellations = s.cancellations := rfl

/-- A guide after the write is the written one, or was there before under another id. -/
theorem mem_withGuide {s : Store} {g h : Guide} (hh : h ∈ (s.withGuide g).guides) :
    h = g ∨ (h ∈ s.guides ∧ h.id ≠ g.id) := by
  simp only [withGuide, List.mem_map] at hh
  obtain ⟨old, hold, rfl⟩ := hh
  by_cases hid : old.id = g.id
  · exact Or.inl (by simp [hid])
  · exact Or.inr (by simpa [hid] using hold)

/-- A view of the guides that agrees on guides of the written id does not see the write. -/
theorem map_withGuide {α : Type} {s : Store} {g : Guide} {f : Guide → α}
    (hf : ∀ h ∈ s.guides, h.id = g.id → f h = f g) :
    (s.withGuide g).guides.map f = s.guides.map f := by
  simp only [withGuide, List.map_map]
  apply List.map_congr_left
  intro h hh
  by_cases hid : h.id = g.id
  · simp [hid, hf h hh hid]
  · simp [hid]

@[simp] theorem map_id_withGuide (s : Store) (g : Guide) :
    (s.withGuide g).guides.map Guide.id = s.guides.map Guide.id :=
  map_withGuide fun _ _ hid => hid

/-- Writing over the guides of one id leaves the lookup of every other id alone. -/
theorem find?_replace_of_ne {gs : List Guide} {g : Guide} {id : Int} (hid : id ≠ g.id) :
    (gs.map fun (h : Guide) => if h.id == g.id then g else h).find? (·.id == id) =
      gs.find? (·.id == id) := by
  induction gs with
  | nil => rfl
  | cons h rest ih =>
      rw [List.map_cons]
      by_cases hh : h.id = g.id
      · have hne : h.id ≠ id := fun e => hid (e ▸ hh)
        rw [List.find?_cons_of_neg (by simpa [hh] using Ne.symm hid),
          List.find?_cons_of_neg (by simpa using hne), ih]
      · rw [if_neg (by simpa using hh)]
        by_cases hfound : h.id = id
        · rw [List.find?_cons_of_pos (by simpa using hfound),
            List.find?_cons_of_pos (by simpa using hfound)]
        · rw [List.find?_cons_of_neg (by simpa using hfound),
            List.find?_cons_of_neg (by simpa using hfound), ih]

/-- Writing over the guides of an id that is there makes the lookup of that id find the written
guide. -/
theorem find?_replace_self {gs : List Guide} {g : Guide} (hany : gs.any (·.id == g.id) = true) :
    (gs.map fun (h : Guide) => if h.id == g.id then g else h).find? (·.id == g.id) = some g := by
  induction gs with
  | nil => simp at hany
  | cons h rest ih =>
      rw [List.map_cons]
      by_cases hh : h.id = g.id
      · rw [if_pos (by simpa using hh), List.find?_cons_of_pos (by simp)]
      · have hrest : rest.any (·.id == g.id) = true := by simpa [hh] using hany
        rw [if_neg (by simpa using hh), List.find?_cons_of_neg (by simpa using hh), ih hrest]

/-- Looking a guide up after the write finds the written guide at its id, when a guide of that
id was there to be written over, and what was there before at every other id. -/
theorem guide?_withGuide {s : Store} {g : Guide} (hany : s.guides.any (·.id == g.id) = true)
    (id : Int) : (s.withGuide g).guide? id = if id = g.id then some g else s.guide? id := by
  by_cases hid : id = g.id
  · subst hid
    simpa [withGuide, guide?] using find?_replace_self hany
  · simpa [withGuide, guide?, hid] using find?_replace_of_ne hid

end Store

namespace Tx

theorem bind_ok {α β : Type} {x : Tx α} {f : α → Tx β} {s : Store} {r : β × Store} :
    (x >>= f).run s = .ok r ↔ ∃ a s₁, x.run s = .ok (a, s₁) ∧ (f a).run s₁ = .ok r := by
  simp only [StateT.run_bind]
  cases x.run s with
  | error e => simp [bind, Except.bind]
  | ok p =>
      obtain ⟨a, s₁⟩ := p
      simp only [bind, Except.bind, Except.ok.injEq, Prod.mk.injEq]
      constructor
      · intro h
        exact ⟨a, s₁, ⟨rfl, rfl⟩, h⟩
      · rintro ⟨_, _, ⟨rfl, rfl⟩, h⟩
        exact h

theorem ite_ok {α : Type} {c : Prop} [Decidable c] {x y : Tx α} {s : Store} {r : α × Store} :
    (if c then x else y).run s = .ok r ↔ (c ∧ x.run s = .ok r) ∨ (¬ c ∧ y.run s = .ok r) := by
  by_cases hc : c <;> simp [hc]

@[simp] theorem run_throw {α : Type} (f : Fault) (s : Store) :
    (throw f : Tx α).run s = .error f := rfl

@[simp] theorem run_get (s : Store) : (get : Tx Store).run s = .ok (s, s) := rfl

@[simp] theorem run_set (s t : Store) : (set t : Tx PUnit).run s = .ok (⟨⟩, t) := rfl

@[simp] theorem run_pure {α : Type} (a : α) (s : Store) :
    (pure a : Tx α).run s = .ok (a, s) := rfl

@[simp] theorem except_pure {α : Type} (a : α) : (pure a : Except Fault α) = .ok a := rfl

@[simp] theorem except_throw_bind {α β : Type} (f : Fault) (g : α → Except Fault β) :
    ((throw f : Except Fault α) >>= g) = .error f := rfl

theorem loadGuide_run (id : Int) (s : Store) :
    (loadGuide id).run s = match s.guide? id with
      | some g => .ok (g, s)
      | none => .error (Fault.missing "Guide" id) := by
  change (match s.guide? id with
    | some g => (pure g : Tx Guide)
    | none => throw (Fault.missing "Guide" id)).run s = _
  split <;> rfl

theorem loadGuide_ok {id : Int} {s s' : Store} {g : Guide} :
    (loadGuide id).run s = .ok (g, s') ↔ s.guide? id = some g ∧ s' = s := by
  rw [loadGuide_run]
  cases s.guide? id <;> simp [eq_comm]

theorem updateGuide_ok {g : Guide} {s s' : Store} {u : Unit} :
    (updateGuide g).run s = .ok (u, s') ↔
      s.guides.any (·.id == g.id) = true ∧ s' = s.withGuide g := by
  change (if s.guides.any (·.id == g.id) then (set (s.withGuide g) : Tx Unit)
    else throw (Fault.missing "Guide" g.id)).run s = _ ↔ _
  by_cases hany : s.guides.any (·.id == g.id) = true <;> simp [hany, eq_comm, pure, Except.pure]

theorem appendHistory_run (guide : Int) (state : GuideState) (user : Int) (note : String)
    (moment : Instant) (s : Store) :
    (appendHistory guide state user note moment).run s =
      .ok (⟨s.history.length + 1, guide, state, user, note, moment⟩,
        s.withEntry ⟨s.history.length + 1, guide, state, user, note, moment⟩) := rfl

theorem insertGuide_run (draft : GuideDraft) (moment : Instant) (s : Store) :
    (insertGuide draft moment).run s =
      .ok (draft.toGuide (s.guides.length + 1) moment,
        { s with guides := s.guides ++ [draft.toGuide (s.guides.length + 1) moment] }) := rfl

theorem insertCancellation_ok {draft : CancellationDraft} {s s' : Store} {c : Cancellation} :
    (insertCancellation draft).run s = .ok (c, s') ↔
      s.cancellations.any (·.guide == draft.guide) = false ∧
        c = draft.toCancellation (s.cancellations.length + 1) ∧
        s' = { s with cancellations := s.cancellations ++ [c] } := by
  change (if s.cancellations.any (·.guide == draft.guide) then
      (throw (.alreadyCancelled draft.guide) : Tx Cancellation)
    else do
      set { s with cancellations :=
        s.cancellations ++ [draft.toCancellation (s.cancellations.length + 1)] }
      pure (draft.toCancellation (s.cancellations.length + 1))).run s = _ ↔ _
  by_cases hany : s.cancellations.any (·.guide == draft.guide) = true
  · simp [hany]
  · have hfalse : s.cancellations.any (·.guide == draft.guide) = false := by simpa using hany
    simp only [hfalse, Bool.false_eq_true, ↓reduceIte, StateT.run_bind, run_set, true_and]
    constructor
    · intro h
      cases h
      exact ⟨rfl, rfl⟩
    · rintro ⟨rfl, rfl⟩
      rfl

theorem insertIncident_run (guide kind : Int) (description : String) (reportedBy : Int)
    (moment : Instant) (s : Store) :
    (insertIncident guide kind description reportedBy moment).run s =
      .ok (⟨s.incidents.length + 1, guide, kind, description, reportedBy, false, none, none, none,
          moment⟩,
        { s with incidents := s.incidents ++ [⟨s.incidents.length + 1, guide, kind, description,
          reportedBy, false, none, none, none, moment⟩] }) := rfl

theorem updateIncident_ok {i : Incident} {s s' : Store} {u : Unit} :
    (updateIncident i).run s = .ok (u, s') ↔
      s.incidents.any (·.id == i.id) = true ∧ s' = s.withIncident i := by
  change (if s.incidents.any (·.id == i.id) then (set (s.withIncident i) : Tx Unit)
    else throw (Fault.missing "Incident" i.id)).run s = _ ↔ _
  by_cases hany : s.incidents.any (·.id == i.id) = true <;> simp [hany, eq_comm, pure, Except.pure]

end Tx

namespace Service

open Tx

theorem check_ok {α : Type} {result : Except Fault α} {s s' : Store} {a : α} :
    (check result).run s = .ok (a, s') ↔ result = .ok a ∧ s' = s := by
  cases result <;> simp [check, eq_comm]

theorem requireState_ok {g : Guide} {allowed : List GuideState} {operation : String}
    {s s' : Store} {u : Unit} :
    (requireState g allowed operation).run s = .ok (u, s') ↔ g.state ∈ allowed ∧ s' = s := by
  by_cases hin : g.state ∈ allowed <;> simp [requireState, hin, eq_comm]

theorem requireHolder_ok {g : Guide} {courier : Int} {operation : String} {s s' : Store}
    {u : Unit} :
    (requireHolder g courier operation).run s = .ok (u, s') ↔
      g.courier = some courier ∧ s' = s := by
  unfold requireHolder Guide.isAssignedTo
  by_cases hheld : g.courier = some courier
  · simp only [hheld, beq_self_eq_true, ↓reduceIte, run_pure, Except.ok.injEq, Prod.mk.injEq,
      true_and]
    exact eq_comm
  · simp [hheld]

/-- The guide as a move to `target` at `moment` leaves it. -/
def arrival (g : Guide) (target : GuideState) (moment : Instant) : Guide :=
  { stampArrival g target moment with state := target, updatedAt := moment }

section Arrival

variable (g : Guide) (t : GuideState) (m : Instant)

@[simp] theorem arrival_state : (arrival g t m).state = t := rfl
@[simp] theorem arrival_updatedAt : (arrival g t m).updatedAt = m := rfl
@[simp] theorem arrival_id : (arrival g t m).id = g.id := by cases t <;> rfl
@[simp] theorem arrival_number : (arrival g t m).number = g.number := by cases t <;> rfl
@[simp] theorem arrival_business : (arrival g t m).business = g.business := by cases t <;> rfl
@[simp] theorem arrival_branch : (arrival g t m).branch = g.branch := by cases t <;> rfl
@[simp] theorem arrival_basePrice : (arrival g t m).basePrice = g.basePrice := by cases t <;> rfl
@[simp] theorem arrival_recipient : (arrival g t m).recipient = g.recipient := by cases t <;> rfl
@[simp] theorem arrival_observations : (arrival g t m).observations = g.observations := by
  cases t <;> rfl
@[simp] theorem arrival_createdAt : (arrival g t m).createdAt = g.createdAt := by cases t <;> rfl
@[simp] theorem arrival_courier : (arrival g t m).courier = g.courier := by cases t <;> rfl
@[simp] theorem arrival_coordinator : (arrival g t m).coordinator = g.coordinator := by
  cases t <;> rfl
@[simp] theorem arrival_commission : (arrival g t m).commission = g.commission := by
  cases t <;> rfl
@[simp] theorem arrival_accepted : (arrival g t m).accepted = g.accepted := by cases t <;> rfl
@[simp] theorem arrival_acceptedAt : (arrival g t m).acceptedAt = g.acceptedAt := by
  cases t <;> rfl

/-- Every arrival in assigned restamps the assignment date. -/
@[simp] theorem arrival_assignedAt :
    (arrival g t m).assignedAt = if t = .assigned then some m else g.assignedAt := by
  cases t <;> rfl

/-- The pickup, delivery and cancellation dates are stamped by the first arrival only. -/
@[simp] theorem arrival_pickedUpAt :
    (arrival g t m).pickedUpAt =
      if t = .pickedUp then some (g.pickedUpAt.getD m) else g.pickedUpAt := by
  cases t <;> rfl

@[simp] theorem arrival_deliveredAt :
    (arrival g t m).deliveredAt =
      if t = .delivered then some (g.deliveredAt.getD m) else g.deliveredAt := by
  cases t <;> rfl

@[simp] theorem arrival_cancelledAt :
    (arrival g t m).cancelledAt =
      if t = .cancelled then some (g.cancelledAt.getD m) else g.cancelledAt := by
  cases t <;> rfl

end Arrival

section HandOver

variable (g : Guide) (courier coordinator : Int) (commission : Decimal)

@[simp] theorem handOver_state : (handOver g courier coordinator commission).state = g.state := rfl
@[simp] theorem handOver_id : (handOver g courier coordinator commission).id = g.id := rfl
@[simp] theorem handOver_number :
    (handOver g courier coordinator commission).number = g.number := rfl
@[simp] theorem handOver_business :
    (handOver g courier coordinator commission).business = g.business := rfl
@[simp] theorem handOver_branch :
    (handOver g courier coordinator commission).branch = g.branch := rfl
@[simp] theorem handOver_basePrice :
    (handOver g courier coordinator commission).basePrice = g.basePrice := rfl
@[simp] theorem handOver_recipient :
    (handOver g courier coordinator commission).recipient = g.recipient := rfl
@[simp] theorem handOver_observations :
    (handOver g courier coordinator commission).observations = g.observations := rfl
@[simp] theorem handOver_createdAt :
    (handOver g courier coordinator commission).createdAt = g.createdAt := rfl
@[simp] theorem handOver_courier :
    (handOver g courier coordinator commission).courier = some courier := rfl
@[simp] theorem handOver_coordinator :
    (handOver g courier coordinator commission).coordinator = some coordinator := rfl
@[simp] theorem handOver_commission :
    (handOver g courier coordinator commission).commission = some commission := rfl
@[simp] theorem handOver_accepted :
    (handOver g courier coordinator commission).accepted = false := rfl
@[simp] theorem handOver_acceptedAt :
    (handOver g courier coordinator commission).acceptedAt = none := rfl
@[simp] theorem handOver_assignedAt :
    (handOver g courier coordinator commission).assignedAt = g.assignedAt := rfl
@[simp] theorem handOver_pickedUpAt :
    (handOver g courier coordinator commission).pickedUpAt = g.pickedUpAt := rfl
@[simp] theorem handOver_deliveredAt :
    (handOver g courier coordinator commission).deliveredAt = g.deliveredAt := rfl
@[simp] theorem handOver_cancelledAt :
    (handOver g courier coordinator commission).cancelledAt = g.cancelledAt := rfl

end HandOver

/-- `move` written with the guide it leaves named. -/
theorem move_eq (g : Guide) (t : GuideState) (actor : Int) (note : String) (m : Instant) :
    move g t actor note m = (do
      if !GuideState.canMove g.state t then throw (.badMove g.state t)
      Tx.updateGuide (arrival g t m)
      let entry ← Tx.appendHistory g.id t actor note m
      pure (arrival g t m, entry)) := by
  simp only [move, ← arrival_id g t m]
  rfl

/-- A move succeeds exactly when the state table has the edge and the guide is stored; it writes
the arrived guide and one history line in the target state. -/
theorem move_ok {g : Guide} {t : GuideState} {actor : Int} {note : String} {m : Instant}
    {s s' : Store} {r : Guide × HistoryEntry} :
    (move g t actor note m).run s = .ok (r, s') ↔
      GuideState.canMove g.state t = true ∧ s.guides.any (·.id == g.id) = true ∧
        r = (arrival g t m, ⟨s.history.length + 1, g.id, t, actor, note, m⟩) ∧
        s' = (s.withGuide (arrival g t m)).withEntry
          ⟨s.history.length + 1, g.id, t, actor, note, m⟩ := by
  rw [move_eq]
  simp only [bind_ok, ite_ok, run_throw, reduceCtorEq, and_false, exists_false, false_and,
    false_or, updateGuide_ok, appendHistory_run, run_pure, Except.ok.injEq, Prod.mk.injEq,
    Bool.not_eq_true', Bool.not_eq_false, arrival_id]
  constructor
  · rintro ⟨hmove, _, _, ⟨hany, rfl⟩, _, _, ⟨rfl, rfl⟩, rfl, rfl⟩
    exact ⟨hmove, hany, rfl, rfl⟩
  · rintro ⟨hmove, hany, rfl, rfl⟩
    exact ⟨hmove, (), _, ⟨hany, rfl⟩, _, _, ⟨rfl, rfl⟩, rfl, rfl⟩

/-- `record` written with the guide it keeps named. -/
theorem record_eq (g : Guide) (actor : Int) (note : String) (m : Instant) :
    record g actor note m = (do
      Tx.updateGuide { g with updatedAt := m }
      let entry ← Tx.appendHistory g.id g.state actor note m
      pure ({ g with updatedAt := m }, entry)) := rfl

/-- Recording an event succeeds exactly when the guide is stored; it writes the guide with its
new update moment and one history line in the guide's own state. -/
theorem record_ok {g : Guide} {actor : Int} {note : String} {m : Instant} {s s' : Store}
    {r : Guide × HistoryEntry} :
    (record g actor note m).run s = .ok (r, s') ↔
      s.guides.any (·.id == g.id) = true ∧
        r = ({ g with updatedAt := m }, ⟨s.history.length + 1, g.id, g.state, actor, note, m⟩) ∧
        s' = (s.withGuide { g with updatedAt := m }).withEntry
          ⟨s.history.length + 1, g.id, g.state, actor, note, m⟩ := by
  rw [record_eq]
  simp only [bind_ok, updateGuide_ok, appendHistory_run, run_pure, Except.ok.injEq,
    Prod.mk.injEq]
  constructor
  · rintro ⟨_, _, ⟨hany, rfl⟩, _, _, ⟨rfl, rfl⟩, rfl, rfl⟩
    exact ⟨hany, rfl, rfl⟩
  · rintro ⟨hany, rfl, rfl⟩
    exact ⟨(), _, ⟨hany, rfl⟩, _, _, ⟨rfl, rfl⟩, rfl, rfl⟩

end Service

end Waybill
