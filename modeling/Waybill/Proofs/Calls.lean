import Waybill.Proofs.Steps
/-!
What one call does to the store, said once for every operation.  A successful call only reads,
or registers one guide, or rewrites one stored guide: the guide it works on is rewritten as
`Rewrites` says, one history line records the guide's new state, a cancellation is added exactly
when the guide enters cancelled, and the incidents change only by the one the call reports or
resolves.  Invariants of runs are proved from this description and never from the services.
-/
namespace Waybill

open Service

/-- The user a call is made by: the one who registers, assigns, carries, cancels, reports or
resolves.  Reads name no user. -/
def Operation.actor : Operation → Option Int
  | .create _ user | .assign _ _ user _ | .reassign _ _ _ user | .accept _ user _
  | .reject _ user _ | .pickUp _ user _ | .setOut _ user _ | .deliver _ user _
  | .cancel _ _ _ user _ | .report _ _ _ user | .resolve _ _ user => some user
  | .find _ | .history _ | .cancellation _ | .incidents _ => none

/-- How a successful call rewrites the stored guide `g` it works on into `g'`, with the guards `g`
passed: one constructor for each way a service changes a guide.  Resolving an incident may first
hand the guide to a new courier, and then sends it back to assigned or only records the event.  A
guide is handed over at a commission of its price, at the rate of some contract. -/
inductive Rewrites (now : Instant) : Operation → Guide → Guide → Prop
  | assign {g : Guide} {guide courier coordinator : Int} {observations : Option String}
      (c k : Int) (x : Decimal) (hs : g.state = .created)
      (hx : ∃ rate, Money.commission g.basePrice rate = .ok x) :
      Rewrites now (.assign guide courier coordinator observations) g
        (arrival (handOver g c k x) .assigned now)
  | reassign {g : Guide} {guide courier coordinator : Int} {reason : String} (c k : Int)
      (x : Decimal) (hs : g.state = .assigned ∨ g.state = .incident)
      (hother : ¬ (g.state = .assigned ∧ g.courier = some courier))
      (hx : ∃ rate, Money.commission g.basePrice rate = .ok x) :
      Rewrites now (.reassign guide courier reason coordinator) g
        (arrival (handOver g c k x) .assigned now)
  | accept {g : Guide} {guide courier : Int} {notes : Option String} (hs : g.state = .assigned)
      (hheld : g.courier = some courier) (hwaiting : g.accepted = false) :
      Rewrites now (.accept guide courier notes) g
        { g with accepted := true, acceptedAt := some now, updatedAt := now }
  | reject {g : Guide} {guide courier : Int} {reason : String} (hs : g.state = .assigned)
      (hheld : g.courier = some courier) (hwaiting : g.accepted = false) :
      Rewrites now (.reject guide courier reason) g (arrival
        { g with courier := none, commission := none, accepted := false, acceptedAt := none }
        .created now)
  | pickUp {g : Guide} {guide courier : Int} {notes : Option String} (hs : g.state = .assigned)
      (hheld : g.courier = some courier) (haccepted : g.accepted = true) :
      Rewrites now (.pickUp guide courier notes) g (arrival g .pickedUp now)
  | setOut {g : Guide} {guide courier : Int} {notes : Option String} (hs : g.state = .pickedUp)
      (hheld : g.courier = some courier) :
      Rewrites now (.setOut guide courier notes) g (arrival g .inTransit now)
  | deliver {g : Guide} {guide courier : Int} {notes : Option String} (hs : g.state = .inTransit)
      (hheld : g.courier = some courier) :
      Rewrites now (.deliver guide courier notes) g (arrival g .delivered now)
  | cancel {g : Guide} {guide kind user : Int} {reason : String} {notes : Option String}
      (observations : Option String) (hpicked : g.pickedUpAt = none)
      (hs : g.state = .created ∨ g.state = .assigned)
      (htrail : ∃ text notes, observations = some (Guide.cancelTrail g.observations text notes now)) :
      Rewrites now (.cancel guide kind reason user notes) g
        (arrival { g with observations } .cancelled now)
  | report {g : Guide} {guide kind reporter : Int} {description : String}
      (hs : g.state = .assigned ∨ g.state = .pickedUp ∨ g.state = .inTransit ∨
        g.state = .incident) :
      Rewrites now (.report guide kind description reporter) g (arrival g .incident now)
  | resolveReturn {g : Guide} {incident resolver : Int} {params : Resolution}
      (hs : g.state = .incident) (hcourier : g.courier.isSome = true) :
      Rewrites now (.resolve incident params resolver) g (arrival g .assigned now)
  | resolveReturnHanded {g : Guide} {incident resolver : Int} {params : Resolution} (c k : Int)
      (x : Decimal) (hs : g.state = .incident)
      (hx : ∃ rate, Money.commission g.basePrice rate = .ok x) :
      Rewrites now (.resolve incident params resolver) g
        (arrival (handOver g c k x) .assigned now)
  | resolveStay {g : Guide} {incident resolver : Int} {params : Resolution} :
      Rewrites now (.resolve incident params resolver) g { g with updatedAt := now }
  | resolveStayHanded {g : Guide} {incident resolver : Int} {params : Resolution} (c k : Int)
      (x : Decimal) (hs : g.state = .assigned ∨ g.state = .incident)
      (hx : ∃ rate, Money.commission g.basePrice rate = .ok x) :
      Rewrites now (.resolve incident params resolver) g
        { handOver g c k x with updatedAt := now }

/-- A rewrite keeps what identifies a guide: its id, its number and its business. -/
theorem Rewrites.keeps {now : Instant} {op : Operation} {g g' : Guide}
    (hr : Rewrites now op g g') :
    g'.id = g.id ∧ g'.number = g.number ∧ g'.business = g.business := by
  cases hr <;> simp

/-- Whether the operation writes incidents: reporting one, or resolving one. -/
def Operation.writesIncidents : Operation → Bool
  | report .. | resolve .. => true
  | _ => false

/-- A successful call that rewrote the stored guide `g` as `g'`. -/
structure Rewrote (now : Instant) (op : Operation) (s s' : Store) (g g' : Guide) : Prop where
  subject : op.subject s = some g.id
  stored : s.guide? g.id = some g
  rewrites : Rewrites now op g g'
  guides : s'.guides = (s.withGuide g').guides
  /-- One history line records the guide's new state, in the name of the user who makes the
  call. -/
  history : ∃ user note, op.actor = some user ∧
    s'.history = s.history ++ [⟨s.history.length + 1, g.id, g'.state, user, note, now⟩]
  /-- A cancellation is added exactly when the guide enters cancelled, and only for a guide that
  had none. -/
  cancellations :
    (s'.cancellations = s.cancellations ∧ (g'.state = .cancelled ↔ g.state = .cancelled)) ∨
      (g.state ≠ .cancelled ∧ g'.state = .cancelled ∧ s.cancellationOf? g.id = none ∧
        ∃ draft : CancellationDraft, draft.guide = g.id ∧ draft.business = g.business ∧
          s'.cancellations = s.cancellations ++ [draft.toCancellation (s.cancellations.length + 1)])
  /-- The incidents stay as they were, unless a call that writes them adds one of the guide's or
  resolves an open one of the guide's. -/
  incidents : s'.incidents = s.incidents ∨
    (op.writesIncidents = true ∧ ∃ i : Incident, i.guide = g.id ∧
      i.id = s.incidents.length + 1 ∧ s'.incidents = s.incidents ++ [i]) ∨
    (op.writesIncidents = true ∧ ∃ i ∈ s.incidents, i.guide = g.id ∧ i.resolved = false ∧
      ∃ resolution resolver,
        s'.incidents = (s.withIncident (i.closed resolution resolver now)).incidents)

/-- After a rewrite a stored guide is the rewritten one, or an old one under another id. -/
theorem Rewrote.mem_guides {now : Instant} {op : Operation} {s s' : Store} {g g' : Guide}
    (hr : Rewrote now op s s' g g') {h : Guide} (hh : h ∈ s'.guides) :
    h = g' ∨ (h ∈ s.guides ∧ h.id ≠ g.id) := by
  rw [hr.guides] at hh
  rcases Store.mem_withGuide hh with rfl | ⟨hh, hne⟩
  · exact Or.inl rfl
  · exact Or.inr ⟨hh, hr.rewrites.keeps.1 ▸ hne⟩

/-- A successful call that registered a guide: it is appended under the next id with a number no
guide had, and one history line in created records it. -/
def Registered (now : Instant) (op : Operation) (s s' : Store) : Prop :=
  op.subject s = some ((s.guides.length : Int) + 1) ∧
    ∃ draft : GuideDraft, s.hasNumber draft.number = false ∧ ∃ user note,
      s' = ({ s with guides := s.guides ++ [draft.toGuide (s.guides.length + 1) now] }).withEntry
        ⟨s.history.length + 1, s.guides.length + 1, .created, user, note, now⟩

namespace Service

/-- The number `freshNumber` finds is carried by no guide. -/
theorem hasNumber_of_freshNumber {s : Store} {moment : Instant} {number : String} :
    ∀ {attempts serial : Nat}, freshNumber s moment serial attempts = some number →
      s.hasNumber number = false
  | 0, _, h => by simp [freshNumber] at h
  | attempts + 1, serial, h => by
      simp only [freshNumber] at h
      split at h
      · exact hasNumber_of_freshNumber h
      · rename_i hfree
        cases h
        simpa using hfree

end Service

/-- Every successful call only reads, registers a guide, or rewrites one stored guide. -/
theorem perform_ok_shape {d : Directory} {now : Instant} {op : Operation} {s s' : Store}
    (h : (op.perform ⟨d, now⟩).run s = .ok ((), s')) :
    (op.isRead = true ∧ s' = s) ∨
      (op.isRead = false ∧ ((∃ request user, op = .create request user) ∧ Registered now op s s' ∨
        ∃ g g', Rewrote now op s s' g g')) := by
  cases op <;> simp only [Operation.perform] at h <;> obtain ⟨result, hrun⟩ := Tx.discard_ok.mp h
  case create request user =>
      obtain ⟨draft, -, hfresh, note, rfl⟩ := create_ok hrun
      exact Or.inr ⟨rfl, Or.inl ⟨⟨request, user, rfl⟩, rfl, draft, hasNumber_of_freshNumber hfresh,
        user, note, rfl⟩⟩
  case assign guide courier coordinator observations =>
      obtain ⟨g, hg, hs, k, c, contract, x, hk, -, hx, note, rfl⟩ := assign_ok hrun
      obtain ⟨_, rfl⟩ := Store.guide?_some hg
      obtain ⟨-, rfl, -⟩ := requireCoordinator_ok hk
      refine Or.inr ⟨rfl, Or.inr ⟨g, ?_⟩⟩
      exact ⟨_, { subject := rfl, stored := hg, rewrites := .assign _ _ _ hs ⟨_, hx⟩, guides := rfl,
                  history := ⟨_, _, rfl, rfl⟩, cancellations := Or.inl ⟨rfl, by simp [hs]⟩,
                  incidents := Or.inl rfl }⟩
  case reassign guide courier reason coordinator =>
      obtain ⟨g, hg, hs, hother, k, c, contract, x, hk, -, hx, note, rfl⟩ := reassign_ok hrun
      obtain ⟨_, rfl⟩ := Store.guide?_some hg
      obtain ⟨-, rfl, -⟩ := requireCoordinator_ok hk
      have hlive : g.state ≠ .cancelled := by rcases hs with hs | hs <;> simp [hs]
      refine Or.inr ⟨rfl, Or.inr ⟨g, ?_⟩⟩
      exact ⟨_, { subject := rfl, stored := hg, rewrites := .reassign _ _ _ hs hother ⟨_, hx⟩,
                  guides := rfl, history := ⟨_, _, rfl, rfl⟩,
                  cancellations := Or.inl ⟨rfl, by simp [hlive]⟩, incidents := Or.inl rfl }⟩
  case accept guide courier notes =>
      obtain ⟨g, hg, hs, hheld, hwaiting, note, rfl⟩ := accept_ok hrun
      obtain ⟨_, rfl⟩ := Store.guide?_some hg
      refine Or.inr ⟨rfl, Or.inr ⟨g, ?_⟩⟩
      exact ⟨_, { subject := rfl, stored := hg, rewrites := .accept hs hheld hwaiting,
                  guides := rfl, history := ⟨_, _, rfl, by rw [hs]; rfl⟩,
                  cancellations := Or.inl ⟨rfl, Iff.rfl⟩, incidents := Or.inl rfl }⟩
  case reject guide courier reason =>
      obtain ⟨g, hg, hs, hheld, hwaiting, note, rfl⟩ := reject_ok hrun
      obtain ⟨_, rfl⟩ := Store.guide?_some hg
      refine Or.inr ⟨rfl, Or.inr ⟨g, ?_⟩⟩
      exact ⟨_, { subject := rfl, stored := hg, rewrites := .reject hs hheld hwaiting,
                  guides := rfl, history := ⟨_, _, rfl, rfl⟩,
                  cancellations := Or.inl ⟨rfl, by simp [hs]⟩, incidents := Or.inl rfl }⟩
  case pickUp guide courier notes =>
      obtain ⟨g, hg, hs, hheld, haccepted, note, rfl⟩ := pickUp_ok hrun
      obtain ⟨_, rfl⟩ := Store.guide?_some hg
      refine Or.inr ⟨rfl, Or.inr ⟨g, ?_⟩⟩
      exact ⟨_, { subject := rfl, stored := hg, rewrites := .pickUp hs hheld haccepted,
                  guides := rfl, history := ⟨_, _, rfl, rfl⟩,
                  cancellations := Or.inl ⟨rfl, by simp [hs]⟩, incidents := Or.inl rfl }⟩
  case setOut guide courier notes =>
      obtain ⟨g, hg, hs, hheld, note, rfl⟩ := setOut_ok hrun
      obtain ⟨_, rfl⟩ := Store.guide?_some hg
      refine Or.inr ⟨rfl, Or.inr ⟨g, ?_⟩⟩
      exact ⟨_, { subject := rfl, stored := hg, rewrites := .setOut hs hheld, guides := rfl,
                  history := ⟨_, _, rfl, rfl⟩, cancellations := Or.inl ⟨rfl, by simp [hs]⟩,
                  incidents := Or.inl rfl }⟩
  case deliver guide courier notes =>
      obtain ⟨g, hg, hs, hheld, note, rfl⟩ := deliver_ok hrun
      obtain ⟨_, rfl⟩ := Store.guide?_some hg
      refine Or.inr ⟨rfl, Or.inr ⟨g, ?_⟩⟩
      exact ⟨_, { subject := rfl, stored := hg, rewrites := .deliver hs hheld, guides := rfl,
                  history := ⟨_, _, rfl, rfl⟩, cancellations := Or.inl ⟨rfl, by simp [hs]⟩,
                  incidents := Or.inl rfl }⟩
  case cancel guide kind reason user notes =>
      obtain ⟨g, hg, hfree, hpicked, hs, draft, hguide, hbusiness, -, -, text, -, note,
        rfl⟩ := cancel_ok hrun
      obtain ⟨_, rfl⟩ := Store.guide?_some hg
      have hlive : g.state ≠ .cancelled := by rcases hs with hs | hs <;> simp [hs]
      refine Or.inr ⟨rfl, Or.inr ⟨g, ?_⟩⟩
      exact ⟨_, { subject := rfl, stored := hg, rewrites := .cancel _ hpicked hs ⟨text, _, rfl⟩,
                  guides := rfl, history := ⟨_, _, rfl, rfl⟩,
                  cancellations := Or.inr ⟨hlive, rfl, hfree, draft, hguide, hbusiness, rfl⟩,
                  incidents := Or.inl rfl }⟩
  case report guide kind description reporter =>
      obtain ⟨g, hg, hs, k, text, note, rfl⟩ := report_ok hrun
      obtain ⟨_, rfl⟩ := Store.guide?_some hg
      have hlive : g.state ≠ .cancelled := by rcases hs with hs | hs | hs | hs <;> simp [hs]
      refine Or.inr ⟨rfl, Or.inr ⟨g, ?_⟩⟩
      exact ⟨_, { subject := rfl, stored := hg, rewrites := .report hs, guides := rfl,
                  history := ⟨_, _, rfl, rfl⟩, cancellations := Or.inl ⟨rfl, by simp [hlive]⟩,
                  incidents := Or.inr (Or.inl ⟨rfl, _, rfl, rfl, rfl⟩) }⟩
  case resolve incident params resolver =>
      obtain ⟨i, hi, hopen, resolution, user, -, huser, g, hg, g₁, hg₁, note, hcase⟩ :=
        resolve_ok hrun
      obtain ⟨himem, rfl⟩ := Store.incident?_some hi
      obtain ⟨_, hgid⟩ := Store.guide?_some hg
      have hsubject : (Operation.resolve i.id params resolver).subject s = some g.id := by
        simp [Operation.subject, hi, hgid]
      rw [← hgid] at hg
      obtain ⟨-, rfl⟩ := requireUser_ok huser
      refine Or.inr ⟨rfl, Or.inr ⟨g, ?_⟩⟩
      -- four ways out: back to assigned or not, with the guide handed over or not
      rcases hg₁ with ⟨-, rfl⟩ | ⟨c, -, hs, k, courier, contract, x, -, -, hx, rfl⟩ <;>
        rcases hcase with ⟨hreturns, rfl⟩ | ⟨-, rfl⟩
      · simp only [returnsToAssigned, Bool.and_eq_true, beq_iff_eq] at hreturns
        refine ⟨_, { subject := hsubject, stored := hg,
                     rewrites := .resolveReturn hreturns.1.1 hreturns.1.2, guides := rfl,
                     history := ⟨_, _, rfl, rfl⟩, cancellations := Or.inl ⟨rfl, by simp [hreturns.1.1]⟩,
                     incidents := Or.inr (Or.inr ?_) }⟩
        exact ⟨rfl, i, himem, hgid.symm, hopen, resolution, user.id, rfl⟩
      · refine ⟨_, { subject := hsubject, stored := hg, rewrites := .resolveStay, guides := rfl,
                     history := ⟨_, _, rfl, rfl⟩, cancellations := Or.inl ⟨rfl, Iff.rfl⟩,
                     incidents := Or.inr (Or.inr ?_) }⟩
        exact ⟨rfl, i, himem, hgid.symm, hopen, resolution, user.id, rfl⟩
      · simp only [returnsToAssigned, Bool.and_eq_true, beq_iff_eq, handOver_state] at hreturns
        refine ⟨_, { subject := hsubject, stored := hg,
                     rewrites := .resolveReturnHanded _ _ _ hreturns.1.1 ⟨_, hx⟩, guides := rfl,
                     history := ⟨_, _, rfl, rfl⟩, cancellations := Or.inl ⟨rfl, by simp [hreturns.1.1]⟩,
                     incidents := Or.inr (Or.inr ?_) }⟩
        exact ⟨rfl, i, himem, hgid.symm, hopen, resolution, user.id, rfl⟩
      · have hlive : g.state ≠ .cancelled := by rcases hs with hs | hs <;> simp [hs]
        refine ⟨_, { subject := hsubject, stored := hg, rewrites := .resolveStayHanded _ _ _ hs ⟨_, hx⟩,
                     guides := rfl, history := ⟨_, _, rfl, rfl⟩,
                     cancellations := Or.inl ⟨rfl, by simp [hlive]⟩,
                     incidents := Or.inr (Or.inr ?_) }⟩
        exact ⟨rfl, i, himem, hgid.symm, hopen, resolution, user.id, rfl⟩
  case find => exact Or.inl ⟨rfl, find_ok hrun⟩
  case history => exact Or.inl ⟨rfl, (history_ok.mp hrun).2.2⟩
  case cancellation => exact Or.inl ⟨rfl, cancellation_ok hrun⟩
  case incidents => exact Or.inl ⟨rfl, incidents_ok hrun⟩

/-- A successful call that neither registers a guide nor only reads rewrote one stored guide. -/
theorem perform_ok_rewrote {d : Directory} {now : Instant} {op : Operation} {s s' : Store}
    (hcreate : ∀ request user, op ≠ .create request user) (hread : op.isRead = false)
    (h : (op.perform ⟨d, now⟩).run s = .ok ((), s')) : ∃ g g', Rewrote now op s s' g g' := by
  rcases perform_ok_shape h with ⟨hr, -⟩ | ⟨-, ⟨⟨request, user, rfl⟩, -⟩ | hrewrote⟩
  · rw [hread] at hr
    exact absurd hr Bool.false_ne_true
  · exact absurd rfl (hcreate request user)
  · exact hrewrote

theorem Store.after_of_ok {d : Directory} {now : Instant} {op : Operation} {s s' : Store}
    (h : (op.perform ⟨d, now⟩).run s = .ok ((), s')) : s.after d now op = s' := by
  unfold Store.after
  rw [Operation.unit_runOn, h]
  -- a read publishes nothing, and its transaction left the store as it found it
  rcases perform_ok_shape h with ⟨hread, rfl⟩ | ⟨hwrite, -⟩
  · simp [hread]
  · simp [hwrite]

theorem Store.after_of_error {d : Directory} {now : Instant} {op : Operation} {s : Store}
    (h : ∀ s', (op.perform ⟨d, now⟩).run s ≠ .ok ((), s')) : s.after d now op = s := by
  rcases Store.after_cases d s now op with hsame | hok
  · exact hsame
  · exact absurd hok (h _)

/-- One call leaves the store as it was, registers a guide, or rewrites one. -/
theorem Store.after_shape (d : Directory) (s : Store) (now : Instant) (op : Operation) :
    s.after d now op = s ∨ Registered now op s (s.after d now op) ∨
      ∃ g g', Rewrote now op s (s.after d now op) g g' := by
  rcases Store.after_cases d s now op with hsame | hok
  · exact Or.inl hsame
  · rcases perform_ok_shape hok with ⟨-, hsame⟩ | ⟨-, hchange⟩
    · exact Or.inl hsame
    · exact Or.inr (hchange.imp_left And.right)

/-- A property of stores that every registration and every rewrite of a guide keeps.  Reads and
failed calls leave the store as it was, so such a property holds along every run that starts
where it holds. -/
structure Preserved (P : Store → Prop) : Prop where
  registered {now : Instant} {op : Operation} {s s' : Store} : P s → Registered now op s s' → P s'
  rewrote {now : Instant} {op : Operation} {s s' : Store} {g g' : Guide} :
    P s → Rewrote now op s s' g g' → P s'

namespace Preserved

variable {P : Store → Prop}

theorem after (hP : Preserved P) {s : Store} (hs : P s) (d : Directory) (now : Instant)
    (op : Operation) : P (s.after d now op) := by
  rcases Store.after_shape d s now op with hsame | hregistered | ⟨g, g', hrewrote⟩
  · rw [hsame]
    exact hs
  · exact hP.registered hs hregistered
  · exact hP.rewrote hs hrewrote

/-- The run lemma: induction on the operations, one `after` step at a time. -/
theorem run (hP : Preserved P) (d : Directory) :
    ∀ (steps : List (Instant × Operation)) {s : Store}, P s → P (s.run d steps)
  | [], _, hs => hs
  | (now, op) :: rest, _, hs => hP.run d rest (hP.after hs d now op)

end Preserved

/-- Whether a call succeeds on a store. -/
def Operation.succeeds (d : Directory) (now : Instant) (s : Store) (op : Operation) : Bool :=
  match (op.perform ⟨d, now⟩).run s with
  | .ok _ => true
  | .error _ => false

theorem Operation.succeeds_iff {d : Directory} {now : Instant} {s : Store} {op : Operation} :
    op.succeeds d now s = true ↔ ∃ s', (op.perform ⟨d, now⟩).run s = .ok ((), s') := by
  unfold Operation.succeeds
  split
  · rename_i r hr
    exact ⟨fun _ => ⟨r.2, by rw [hr]⟩, fun _ => rfl⟩
  · rename_i f hf
    simp [hf]

/-- Whether every call of a run succeeds on the store the calls before it left. -/
def Store.allSucceed (d : Directory) : Store → List (Instant × Operation) → Bool
  | _, [] => true
  | s, (now, op) :: rest => op.succeeds d now s && allSucceed d (s.after d now op) rest

end Waybill
