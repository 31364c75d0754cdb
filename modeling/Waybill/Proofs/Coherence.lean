import Waybill.Proofs.Calls
/-!
The shape of a stored guide.  Who holds a guide, at what commission and since when, whether the
holder accepted it, and which of its dates are set, all follow from its state: a guide that needs
a courier has one, a courier comes with a commission, a coordinator and an assignment date, a
created guide is free, a guide carries a delivery or cancellation date exactly when it is
delivered or cancelled, and a guide on its way was accepted and picked up.  Every call keeps this,
so every guide of every run has it.
-/
namespace Waybill

open Service

/-- The fields of a guide agree with its state. -/
structure Guide.Coherent (g : Guide) : Prop where
  courier_of_requires : g.state.requiresCourier = true → g.courier.isSome = true
  commission_iff : g.commission.isSome = g.courier.isSome
  acceptedAt_iff : g.acceptedAt.isSome = g.accepted
  courier_of_accepted : g.accepted = true → g.courier.isSome = true
  coordinator_of_courier : g.courier.isSome = true → g.coordinator.isSome = true
  assignedAt_of_courier : g.courier.isSome = true → g.assignedAt.isSome = true
  created_free : g.state = .created → g.courier = none ∧ g.commission = none ∧ g.accepted = false
  deliveredAt_iff : g.deliveredAt.isSome = true ↔ g.state = .delivered
  cancelledAt_iff : g.cancelledAt.isSome = true ↔ g.state = .cancelled
  /-- A guide on its way or delivered was accepted and picked up. -/
  carried : g.state = .pickedUp ∨ g.state = .inTransit ∨ g.state = .delivered →
    g.pickedUpAt.isSome = true ∧ g.accepted = true
  cancelled_unpicked : g.state = .cancelled → g.pickedUpAt = none
  not_refused : g.state ≠ .refused

/-- A registered guide is free and has only its creation date. -/
theorem GuideDraft.toGuide_coherent (draft : GuideDraft) (id : Int) (moment : Instant) :
    (draft.toGuide id moment).Coherent := by
  constructor <;> simp [GuideDraft.toGuide, GuideState.requiresCourier]

/-- Every way a call rewrites a guide keeps its fields in agreement with its state.  Most cases
only need the guard the call checked; a reassignment, a cancellation, a report and a hand-over
that keeps the state also need what the old guide's state says about its courier and dates. -/
theorem Rewrites.coherent {now : Instant} {op : Operation} {g g' : Guide}
    (hr : Rewrites now op g g') (hg : g.Coherent) : g'.Coherent := by
  obtain ⟨hrequires, hcommission, hacceptedAt, hholder, hcoordinator, hassignedAt, hcreated,
    hdelivered, hcancelled, hcarried, hunpicked, hrefused⟩ := hg
  cases hr with
  | reassign _ _ _ hs =>
      have hlive : g.state ≠ .delivered ∧ g.state ≠ .cancelled := by
        rcases hs with hs | hs <;> simp [hs]
      constructor <;> simp +contextual [*, GuideState.requiresCourier]
  | cancel _ _ hs =>
      have hlive : g.state ≠ .delivered := by rcases hs with hs | hs <;> simp [hs]
      constructor <;> simp +contextual [*, GuideState.requiresCourier]
  | report hs =>
      -- the guide was held by a courier, so it is neither delivered nor cancelled
      have hheld : g.state.requiresCourier = true ∧ g.state ≠ .delivered ∧
          g.state ≠ .cancelled := by
        rcases hs with hs | hs | hs | hs <;> simp [hs, GuideState.requiresCourier]
      have hcourier : g.courier.isSome = true := hrequires hheld.1
      constructor <;> simp +contextual [*, GuideState.requiresCourier]
  | resolveStayHanded _ _ _ hs =>
      -- the guide keeps its state, in which it already had a courier and an assignment date
      have hheld : g.state.requiresCourier = true ∧ g.state ≠ .created ∧
          g.state ≠ .pickedUp ∧ g.state ≠ .inTransit ∧ g.state ≠ .delivered := by
        rcases hs with hs | hs <;> simp [hs, GuideState.requiresCourier]
      have hassigned : g.assignedAt.isSome = true := hassignedAt (hrequires hheld.1)
      constructor <;> simp +contextual [*, GuideState.requiresCourier]
  | _ => constructor <;> simp +contextual [*, GuideState.requiresCourier]

/-- Every guide of the store agrees with its state. -/
def Store.Coherent (s : Store) : Prop := ∀ g ∈ s.guides, g.Coherent

theorem Store.coherent_empty : Store.Coherent {} := fun _ hg => nomatch hg

theorem Store.coherent_preserved : Preserved Store.Coherent where
  registered := by
    rintro now op s s' hs ⟨-, draft, -, user, note, rfl⟩ g hg
    simp only [Store.withEntry_guides, List.mem_append, List.mem_singleton] at hg
    rcases hg with hg | rfl
    · exact hs g hg
    · exact draft.toGuide_coherent _ _
  rewrote := by
    intro now op s s' g g' hs hrewrote h hh
    rcases hrewrote.mem_guides hh with rfl | ⟨hh, -⟩
    · exact hrewrote.rewrites.coherent (hs g (Store.guide?_some hrewrote.stored).1)
    · exact hs h hh

/-- Every guide of every run has fields that agree with its state. -/
theorem run_guides_coherent (d : Directory) (steps : List (Instant × Operation)) :
    ∀ g ∈ (Store.run d {} steps).guides, g.Coherent :=
  Store.coherent_preserved.run d steps Store.coherent_empty

/-- One guide registered for an active business: it is stored and agrees with its state. -/
theorem registered_guide_coherent :
    let d : Directory :=
      { users := [⟨1, "Ana", "ana@tienda.co", .business, true⟩],
        businesses := [⟨1, "Tienda", "tienda@tienda.co", none, true⟩] }
    let request : GuideRequest :=
      ⟨1, 1, 0, ⟨"Luis", "3001234567", "Calle 1", "Cali", "Valle"⟩, none⟩
    let g := GuideDraft.toGuide ⟨"GU-19700101-AAAAAB", 1, 1, 0, request.recipient, none⟩ 1 ⟨0, 0⟩
    g ∈ (Store.run d {} [(⟨0, 0⟩, .create request 1)]).guides ∧ g.Coherent := by
  intro d request g
  have hstored : g ∈ (Store.run d {} [(⟨0, 0⟩, .create request 1)]).guides := by decide
  exact ⟨hstored, run_guides_coherent d _ g hstored⟩

end Waybill
