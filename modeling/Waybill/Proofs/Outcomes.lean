import Waybill.Proofs.Ledger
import Waybill.Proofs.Edges
/-!
What a call's outcome leaves behind.  Every call runs in a unit of work of its own, begun on the
published store: one that fails does so before its commit and publishes nothing, whatever it wrote
to its working copy, one that succeeds publishes all it wrote, and a read never commits; so a run
ends where the calls that changed something, replayed alone, end.  Calls that conflict have one
winner: once a call on a guide succeeds, the same call on that guide, and the calls it excludes,
are refused, with any other arguments, so of two such requests on one store exactly the first to
run succeeds and the history gains one line.
-/
namespace Waybill

open Service

namespace Store

variable {d : Directory} {s : Store} {now : Instant} {op : Operation}

/-- A call that fails leaves the store as it was. -/
theorem after_of_fails (h : op.succeeds d now s = false) : s.after d now op = s := by
  apply after_of_error
  intro s' hrun
  have hok : op.succeeds d now s = true := Operation.succeeds_iff.mpr ⟨s', hrun⟩
  rw [h] at hok
  exact Bool.false_ne_true hok

/-- A read leaves the store as it was, whether it succeeds or not. -/
theorem after_of_read (hread : op.isRead = true) : s.after d now op = s := by
  rcases after_cases d s now op with hsame | hok
  · exact hsame
  · rcases perform_ok_shape hok with ⟨-, hsame⟩ | ⟨hwrite, -⟩
    · exact hsame
    · rw [hread] at hwrite
      cases hwrite

/-- Whether a call changed the store it ran on: it succeeded and does not only read. -/
def commits (d : Directory) (s : Store) (now : Instant) (op : Operation) : Bool :=
  op.succeeds d now s && !op.isRead

theorem after_of_not_commits (h : s.commits d now op = false) : s.after d now op = s := by
  unfold commits at h
  cases hok : op.succeeds d now s
  · exact after_of_fails hok
  · rw [hok, Bool.true_and, Bool.not_eq_false'] at h
    exact after_of_read h

/-- The calls of a run that changed the store, each where it ran. -/
def committed (d : Directory) : Store → List (Instant × Operation) → List (Instant × Operation)
  | _, [] => []
  | s, (now, op) :: rest =>
      if s.commits d now op then (now, op) :: committed d (s.after d now op) rest
      else committed d (s.after d now op) rest

/-- The run lemma of atomicity: replaying only the calls that changed the store, each one still
succeeds and the run ends in the same store; the failed calls and the reads leave no trace. -/
theorem run_committed (d : Directory) :
    ∀ (steps : List (Instant × Operation)) (s : Store),
      s.run d (s.committed d steps) = s.run d steps ∧
        s.allSucceed d (s.committed d steps) = true ∧
        ∀ step ∈ s.committed d steps, step.2.isRead = false
  | [], _ => ⟨rfl, rfl, fun _ h => nomatch h⟩
  | (now, op) :: rest, s => by
    obtain ⟨ihrun, ihok, ihwrite⟩ := run_committed d rest (s.after d now op)
    by_cases hc : s.commits d now op = true
    · -- the call is kept, and the rest is replayed from the store it left
      have hparts : op.succeeds d now s = true ∧ op.isRead = false := by
        simpa [commits] using hc
      simp only [committed, hc, if_true, run, allSucceed, hparts.1, Bool.true_and, List.mem_cons,
        forall_eq_or_imp]
      exact ⟨ihrun, ihok, hparts.2, ihwrite⟩
    · -- the call is dropped: it left the store as it found it
      have hsame := after_of_not_commits (Bool.eq_false_iff.mpr hc)
      simp only [committed, hc, run]
      rw [hsame] at ihrun ihok ihwrite ⊢
      exact ⟨ihrun, ihok, ihwrite⟩

end Store

/-- Atomicity of every call.  A call runs in a unit of work of its own, begun on the published
store `s`.  If it fails, wherever in its work the fault arises and whatever it wrote to its working
copy before, it fails before its commit, and the published store is still `s`: its guides,
history, cancellations and incidents, and with them the counters that number them.  If it
succeeds, it has published its working copy with everything it wrote; a read never commits and
publishes nothing.  Along any run, the store reached is the one reached by replaying only the calls
that changed something, each of which succeeds again where it runs. -/
theorem failed_calls_keep_nothing (d : Directory) (s : Store) (now : Instant) (op : Operation) :
    (∀ f, (op.perform ⟨d, now⟩).run s = .error f →
      (op.unit ⟨d, now⟩).runOn s = (.error f, s)) ∧
    (∀ s', (op.perform ⟨d, now⟩).run s = .ok ((), s') →
      (op.unit ⟨d, now⟩).runOn s = (.ok (), s')) ∧
    (op.isRead = true → ((op.unit ⟨d, now⟩).runOn s).2 = s) ∧
    ∀ steps : List (Instant × Operation),
      s.run d (s.committed d steps) = s.run d steps ∧
        s.allSucceed d (s.committed d steps) = true ∧
        ∀ step ∈ s.committed d steps, step.2.isRead = false := by
  refine ⟨fun f hf => ?_, fun s' hs' => ?_, fun hread => ?_,
    fun steps => Store.run_committed d steps s⟩
  · rw [Operation.unit_runOn, hf]
  · -- the outcome is the transaction's, and the published store is the one `after` gives
    refine Prod.ext ?_ (Store.after_of_ok hs')
    rw [Operation.unit_runOn, hs']
  · exact Store.after_of_read hread

/-- A coordinator, two couriers with a contract in force and one without. -/
def twoCouriersDirectory : Directory :=
  { users := [⟨2, "Coordinación", "coordinacion@correo.co", .coordinator, true⟩,
      ⟨7, "Mensajero A", "a@correo.co", .courier, true⟩,
      ⟨8, "Mensajero B", "b@correo.co", .courier, true⟩,
      ⟨9, "Mensajero C", "c@correo.co", .courier, true⟩],
    businesses := [⟨11, "Negocio", "negocio@correo.co", none, true⟩],
    contracts := [⟨1, 7, Decimal.hundred, ⟨2020, 1, 1⟩, none, true⟩,
      ⟨2, 8, Decimal.hundred, ⟨2020, 1, 1⟩, none, true⟩] }

/-- One created guide. -/
def oneGuideStore : Store :=
  { guides := [GuideDraft.toGuide ⟨"GU-1", 11, 1, Decimal.hundred,
      ⟨"Ana", "3001234567", "Calle 1", "Cali", "Valle"⟩, none⟩ 1 ⟨0, 0⟩] }

set_option maxRecDepth 10000 in
/-- Assigning the guide to a courier without a contract fails, and the published store is as it
was. -/
theorem assignment_without_contract_keeps_store :
    ((Operation.assign 1 9 2 none).perform ⟨twoCouriersDirectory, ⟨1700000000, 0⟩⟩).run
        oneGuideStore = .error (.noActiveContract 9) ∧
      ((Operation.assign 1 9 2 none).unit ⟨twoCouriersDirectory, ⟨1700000000, 0⟩⟩).runOn
        oneGuideStore = (.error (.noActiveContract 9), oneGuideStore) :=
  ⟨by rfl, (failed_calls_keep_nothing _ _ _ _).1 _ (by rfl)⟩

/-- Two calls of which the second is refused once the first has succeeded, whatever their other
arguments: the same call twice on one guide or on one incident, accepting and refusing one
assignment, and cancelling and picking up one guide, in either order. -/
inductive Clash : Operation → Operation → Prop
  | assign {guide courier courier' coordinator coordinator' : Int}
      {observations observations' : Option String} :
      Clash (.assign guide courier coordinator observations)
        (.assign guide courier' coordinator' observations')
  | accept {guide courier courier' : Int} {notes notes' : Option String} :
      Clash (.accept guide courier notes) (.accept guide courier' notes')
  | reject {guide courier courier' : Int} {reason reason' : String} :
      Clash (.reject guide courier reason) (.reject guide courier' reason')
  | acceptReject {guide courier courier' : Int} {notes : Option String} {reason : String} :
      Clash (.accept guide courier notes) (.reject guide courier' reason)
  | rejectAccept {guide courier courier' : Int} {reason : String} {notes : Option String} :
      Clash (.reject guide courier reason) (.accept guide courier' notes)
  | pickUp {guide courier courier' : Int} {notes notes' : Option String} :
      Clash (.pickUp guide courier notes) (.pickUp guide courier' notes')
  | setOut {guide courier courier' : Int} {notes notes' : Option String} :
      Clash (.setOut guide courier notes) (.setOut guide courier' notes')
  | deliver {guide courier courier' : Int} {notes notes' : Option String} :
      Clash (.deliver guide courier notes) (.deliver guide courier' notes')
  | cancel {guide kind kind' user user' : Int} {reason reason' : String}
      {notes notes' : Option String} :
      Clash (.cancel guide kind reason user notes) (.cancel guide kind' reason' user' notes')
  | cancelPickUp {guide kind user courier : Int} {reason : String} {notes notes' : Option String} :
      Clash (.cancel guide kind reason user notes) (.pickUp guide courier notes')
  | pickUpCancel {guide courier kind user : Int} {notes notes' : Option String} {reason : String} :
      Clash (.pickUp guide courier notes) (.cancel guide kind reason user notes')
  | resolve {incident resolver resolver' : Int} {resolution resolution' : Resolution} :
      Clash (.resolve incident resolution resolver) (.resolve incident resolution' resolver')

namespace Clash

variable {op₁ op₂ : Operation}

theorem symm (hc : Clash op₁ op₂) : Clash op₂ op₁ := by
  cases hc <;> constructor

/-- Clashing calls both write, and neither registers a guide. -/
theorem writes (hc : Clash op₁ op₂) :
    op₁.isRead = false ∧ op₂.isRead = false ∧ (∀ request user, op₁ ≠ .create request user) ∧
      ∀ request user, op₂ ≠ .create request user := by
  cases hc <;> simp [Operation.isRead]

/-- Clashing calls on a guide name the same guide, in any stores. -/
theorem subject (hc : Clash op₁ op₂)
    (hguide : ∀ incident resolution resolver, op₁ ≠ .resolve incident resolution resolver)
    (s s' : Store) : op₂.subject s' = op₁.subject s := by
  cases hc
  case resolve => exact absurd rfl (hguide _ _ _)
  all_goals rfl

/-- The guard of the second of two clashing calls on a guide refuses the guide the first one
leaves: one constructor of `Rewrites` against another. -/
theorem rewrites {t₁ t₂ : Instant} {g g' h' : Guide} (hc : Clash op₁ op₂)
    (hguide : ∀ incident resolution resolver, op₁ ≠ .resolve incident resolution resolver)
    (h₁ : Rewrites t₁ op₁ g g') (h₂ : Rewrites t₂ op₂ g' h') : False := by
  cases hc
  case resolve => exact hguide _ _ _ rfl
  all_goals (cases h₁; cases h₂; simp_all)

end Clash

namespace Store

/-- Writing over an incident found by its id makes that id find the written incident. -/
theorem incident?_withIncident {s : Store} {id : Int} {i i' : Incident}
    (hi : s.incident? id = some i) (hid : i'.id = i.id) :
    (s.withIncident i').incident? id = some i' := by
  unfold incident? withIncident at *
  rw [List.find?_map]
  -- the write keeps every id, so the lookup goes through it
  have hkeep : ((·.id == id) ∘ fun j : Incident => if j.id == i'.id then i' else j) =
      (·.id == id) := by
    funext j
    by_cases hj : j.id = i'.id <;> simp [hj]
  rw [hkeep, hi]
  simp [hid]

end Store

/-- An incident is resolved once: after a successful resolution every resolution of it fails. -/
theorem resolve_twice {d : Directory} {s s' s'' : Store} {t₁ t₂ : Instant} {incident : Int}
    {resolution resolution' : Resolution} {resolver resolver' : Int}
    (h₁ : ((Operation.resolve incident resolution resolver).perform ⟨d, t₁⟩).run s = .ok ((), s'))
    (h₂ : ((Operation.resolve incident resolution' resolver').perform ⟨d, t₂⟩).run s' =
      .ok ((), s'')) : False := by
  simp only [Operation.perform] at h₁ h₂
  obtain ⟨_, hrun₁⟩ := Tx.discard_ok.mp h₁
  obtain ⟨_, hrun₂⟩ := Tx.discard_ok.mp h₂
  obtain ⟨i, hi, -, text, user, -, -, g, -, g₁, -, note, hcase⟩ := resolve_ok hrun₁
  obtain ⟨j, hj, hopen, -⟩ := resolve_ok hrun₂
  -- both ways out of the first resolution store the incident closed
  have hincidents : s'.incidents = (s.withIncident (i.closed text user.id t₁)).incidents := by
    rcases hcase with ⟨-, rfl⟩ | ⟨-, rfl⟩ <;> rfl
  have hclosed : s'.incident? incident = some (i.closed text user.id t₁) := by
    rw [Store.incident?, hincidents]
    exact Store.incident?_withIncident hi rfl
  rw [hclosed] at hj
  cases hj
  simp [Incident.closed] at hopen

/-- Once a call succeeds, every call that clashes with it fails on the store it left. -/
theorem Clash.blocks {d : Directory} {s : Store} {t₁ t₂ : Instant} {op₁ op₂ : Operation}
    (hc : Clash op₁ op₂) (h₁ : op₁.succeeds d t₁ s = true) :
    op₂.succeeds d t₂ (s.after d t₁ op₁) = false := by
  obtain ⟨s', hrun₁⟩ := Operation.succeeds_iff.mp h₁
  rw [Store.after_of_ok hrun₁, Bool.eq_false_iff]
  intro h₂
  obtain ⟨s'', hrun₂⟩ := Operation.succeeds_iff.mp h₂
  by_cases hguide : ∀ incident resolution resolver, op₁ ≠ .resolve incident resolution resolver
  · obtain ⟨hread₁, hread₂, hcreate₁, hcreate₂⟩ := hc.writes
    obtain ⟨g, g', hr₁⟩ := perform_ok_rewrote hcreate₁ hread₁ hrun₁
    obtain ⟨h, h', hr₂⟩ := perform_ok_rewrote hcreate₂ hread₂ hrun₂
    -- the second call works on the guide the first one left
    have hid : h.id = g.id := by
      have hsubject := hr₂.subject
      rw [hc.subject hguide s s', hr₁.subject] at hsubject
      exact (Option.some.inj hsubject).symm
    have hstored := hr₂.stored
    rw [hr₁.guide?_eq, if_pos hid] at hstored
    cases hstored
    exact hc.rewrites hguide hr₁.rewrites hr₂.rewrites
  · simp only [ne_eq, not_forall, not_not] at hguide
    obtain ⟨incident, resolution, resolver, rfl⟩ := hguide
    cases hc
    exact resolve_twice hrun₁ hrun₂

/-- Of two clashing requests that would each succeed on a store, whichever runs first succeeds,
the other fails, and the history gains exactly one line. -/
theorem Clash.one_line {d : Directory} {s : Store} {t₁ t₂ : Instant} {op₁ op₂ : Operation}
    (hc : Clash op₁ op₂) (h₁ : op₁.succeeds d t₁ s = true) :
    op₂.succeeds d t₂ (s.after d t₁ op₁) = false ∧
      ∃ e : HistoryEntry, (s.run d [(t₁, op₁), (t₂, op₂)]).history = s.history ++ [e] := by
  have hblocked : op₂.succeeds d t₂ (s.after d t₁ op₁) = false := hc.blocks h₁
  refine ⟨hblocked, ?_⟩
  obtain ⟨e, -, -, hhistory⟩ :=
    (Store.after_history d s t₁ op₁).2 hc.writes.1 (Operation.succeeds_iff.mp h₁)
  exact ⟨e, by rw [Store.run, Store.run, Store.run, Store.after_of_fails hblocked, hhistory]⟩

theorem Tx.except_ok_bind {α β : Type} (a : α) (g : α → Except Fault β) :
    ((Except.ok a : Except Fault α) >>= g) = g a := rfl

theorem Tx.except_error_bind {α β : Type} (f : Fault) (g : α → Except Fault β) :
    ((Except.error f : Except Fault α) >>= g) = .error f := rfl

theorem Tx.discard_error {α : Type} {x : Tx α} {s : Store} {f : Fault} :
    (Functor.discard x).run s = .error f ↔ x.run s = .error f := by
  simp only [Functor.discard, Functor.mapConst, StateT.run]
  unfold StateT.map
  simp only [bind, Except.bind, Function.comp_apply]
  split <;> simp_all

/-- A guide is assigned once: after a successful assignment, assigning it again is refused as a
guide in the wrong state, assigned, whatever the courier, coordinator and notes. -/
theorem assign_again_wrongState {d : Directory} {s : Store} {t₁ t₂ : Instant}
    {guide courier courier' coordinator coordinator' : Int}
    {observations observations' : Option String}
    (h : (Operation.assign guide courier coordinator observations).succeeds d t₁ s = true) :
    ((Operation.assign guide courier' coordinator' observations').perform ⟨d, t₂⟩).run
        (s.after d t₁ (.assign guide courier coordinator observations)) =
      .error (.wrongState guide .assigned "assign courier") := by
  obtain ⟨s', hrun⟩ := Operation.succeeds_iff.mp h
  rw [Store.after_of_ok hrun]
  obtain ⟨g, g', hr⟩ := perform_ok_rewrote (by simp) rfl hrun
  have hguide : g.id = guide := by simpa [Operation.subject] using hr.subject.symm
  have hstored : s'.guide? guide = some g' := by rw [hr.guide?_eq, if_pos hguide.symm]
  -- the guide was created and is now assigned, under the same id
  obtain ⟨hid, -, -⟩ := hr.rewrites.keeps
  have hstate : g'.state = .assigned := by
    cases hr.rewrites
    simp
  simp only [Operation.perform]
  rw [Tx.discard_error]
  simp [Service.assign, StateT.run_bind, Tx.loadGuide_run, hstored, Tx.except_ok_bind,
    Tx.except_error_bind, requireState, hstate, hid, hguide]

/-- One winner among conflicting requests.  Once a call on a guide, or on an incident, succeeds,
every call that clashes with it fails on the store it left, whatever its other arguments and its
moment.  So of two clashing requests that would each succeed alone, in either order exactly the
first succeeds and the history gains exactly one line; and of two assignments of one created guide
the second is refused as a guide in the wrong state, assigned. -/
theorem conflicting_requests_one_winner :
    (∀ (d : Directory) (s : Store) (t₁ t₂ : Instant) (op₁ op₂ : Operation), Clash op₁ op₂ →
      op₁.succeeds d t₁ s = true → op₂.succeeds d t₂ (s.after d t₁ op₁) = false) ∧
    (∀ (d : Directory) (s : Store) (t₁ t₂ : Instant) (op₁ op₂ : Operation), Clash op₁ op₂ →
      op₁.succeeds d t₁ s = true → op₂.succeeds d t₂ s = true →
      (op₂.succeeds d t₂ (s.after d t₁ op₁) = false ∧
        ∃ e : HistoryEntry, (s.run d [(t₁, op₁), (t₂, op₂)]).history = s.history ++ [e]) ∧
      (op₁.succeeds d t₁ (s.after d t₂ op₂) = false ∧
        ∃ e : HistoryEntry, (s.run d [(t₂, op₂), (t₁, op₁)]).history = s.history ++ [e])) ∧
    (∀ (d : Directory) (s : Store) (t₁ t₂ : Instant)
        (guide courier courier' coordinator coordinator' : Int)
        (observations observations' : Option String),
      (Operation.assign guide courier coordinator observations).succeeds d t₁ s = true →
      ((Operation.assign guide courier' coordinator' observations').perform ⟨d, t₂⟩).run
          (s.after d t₁ (.assign guide courier coordinator observations)) =
        .error (.wrongState guide .assigned "assign courier")) :=
  ⟨fun _ _ _ _ _ _ hc h₁ => hc.blocks h₁,
    fun _ _ _ _ _ _ hc h₁ h₂ => ⟨hc.one_line h₁, hc.symm.one_line h₂⟩,
    fun _ _ _ _ _ _ _ _ _ _ _ h => assign_again_wrongState h⟩

set_option maxRecDepth 10000 in
/-- Two couriers assigned one created guide at once: the second assignment is refused with the
guide assigned, and the history gains one line. -/
theorem two_assignments_one_winner :
    ((Operation.assign 1 8 2 none).perform ⟨twoCouriersDirectory, ⟨1700000000, 0⟩⟩).run
        (oneGuideStore.after twoCouriersDirectory ⟨1700000000, 0⟩ (.assign 1 7 2 none)) =
      .error (.wrongState 1 .assigned "assign courier") ∧
    ∃ e : HistoryEntry, (oneGuideStore.run twoCouriersDirectory
        [(⟨1700000000, 0⟩, .assign 1 7 2 none), (⟨1700000000, 0⟩, .assign 1 8 2 none)]).history =
      oneGuideStore.history ++ [e] :=
  ⟨conflicting_requests_one_winner.2.2 _ _ _ _ _ _ _ _ _ _ _ (by decide),
    (conflicting_requests_one_winner.2.1 _ _ _ _ _ _ .assign (by decide) (by decide)).1.2⟩

end Waybill
