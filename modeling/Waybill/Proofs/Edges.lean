import Waybill.Proofs.Coherence
/-!
The edges of the state table the services actually take.  The table lets a guide move further
than any service moves it: a guide held by an incident could go on its way or be delivered, yet
only a reassignment or a resolution ever takes it out of an incident, and back to assigned.  One
call changes at most one guide, and when it changes a guide's state it takes the edge the call is
made for.  No guide is ever refused.
-/
namespace Waybill

open Service

/-- The edges each call takes, as the service that makes it is meant to. -/
def Operation.takes : Operation → GuideState → GuideState → Bool
  | .assign .., .created, .assigned => true
  | .reject .., .assigned, .created => true
  | .pickUp .., .assigned, .pickedUp => true
  | .setOut .., .pickedUp, .inTransit => true
  | .deliver .., .inTransit, .delivered => true
  | .report .., .assigned, .incident | .report .., .pickedUp, .incident
  | .report .., .inTransit, .incident => true
  | .reassign .., .incident, .assigned | .resolve .., .incident, .assigned => true
  | .cancel .., .created, .cancelled | .cancel .., .assigned, .cancelled => true
  | _, _, _ => false

/-- The only way out of an incident is back to assigned. -/
theorem Operation.takes_from_incident {op : Operation} {target : GuideState}
    (h : op.takes .incident target = true) : target = .assigned := by
  cases op <;> cases target <;> simp_all [Operation.takes]

/-- A rewrite that changes the guide's state takes the edge its call is made for. -/
theorem Rewrites.takes {now : Instant} {op : Operation} {g g' : Guide}
    (hr : Rewrites now op g g') (hchange : g.state ≠ g'.state) :
    op.takes g.state g'.state = true := by
  cases hr with
  | reassign _ _ _ hs =>
      rcases hs with hs | hs <;> simp_all [Operation.takes]
  | cancel _ _ hs => rcases hs with hs | hs <;> simp [hs, Operation.takes]
  | report hs =>
      rcases hs with hs | hs | hs | hs <;> simp_all [Operation.takes]
  | resolveStay | resolveStayHanded | accept => simp at hchange
  | _ => simp_all [Operation.takes]

namespace Store

/-- A lookup by id sees only the guides. -/
theorem guide?_of_guides {s t : Store} (h : s.guides = t.guides) (id : Int) :
    s.guide? id = t.guide? id := by
  simp only [guide?, h]

/-- Storing a guide under the id of a stored one replaces it: the lookup of that id finds the new
guide, and every other lookup finds what it found before. -/
theorem guide?_replaced {s t : Store} {g G : Guide} (hg : s.guide? G.id = some g)
    (hguides : t.guides = (s.withGuide G).guides) (id : Int) :
    t.guide? id = if id = G.id then some G else s.guide? id := by
  obtain ⟨-, hid⟩ := guide?_some hg
  have hany : s.guides.any (·.id == G.id) = true := hid ▸ any_id_of_guide? hg
  rw [guide?_of_guides hguides, guide?_withGuide hany]

end Store

/-- After a rewrite the lookup of the rewritten guide's id finds the new guide, and every other
lookup finds what it found before. -/
theorem Rewrote.guide?_eq {now : Instant} {op : Operation} {s s' : Store} {g g' : Guide}
    (hr : Rewrote now op s s' g g') (id : Int) :
    s'.guide? id = if id = g.id then some g' else s.guide? id := by
  have hid := hr.rewrites.keeps.1
  rw [Store.guide?_replaced (by rw [hid]; exact hr.stored) hr.guides, hid]

/-- A registration adds a guide behind all others, so every lookup that found a guide still finds
it. -/
theorem Registered.guide?_of_some {now : Instant} {op : Operation} {s s' : Store}
    (hr : Registered now op s s') {id : Int} {g : Guide} (hg : s.guide? id = some g) :
    s'.guide? id = some g := by
  obtain ⟨-, draft, -, user, note, rfl⟩ := hr
  unfold Store.guide? at hg ⊢
  simp [List.find?_append, hg]

namespace Store

/-- Looking a stored guide up after one call finds it as it was, or as the call rewrote it. -/
theorem after_guide? (d : Directory) (now : Instant) (op : Operation) {s : Store} {id : Int}
    {g : Guide} (hg : s.guide? id = some g) :
    (s.after d now op).guide? id = some g ∨
      ∃ g', Rewrote now op s (s.after d now op) g g' ∧ (s.after d now op).guide? id = some g' := by
  rcases after_shape d s now op with hsame | hregistered | ⟨h, h', hr⟩
  · rw [hsame]
    exact Or.inl hg
  · exact Or.inl (hregistered.guide?_of_some hg)
  · by_cases hid : id = h.id
    · -- the call rewrote this very guide
      have hstored := hr.stored
      rw [← hid, hg] at hstored
      cases hstored
      exact Or.inr ⟨h', hr, by rw [hr.guide?_eq, if_pos hid]⟩
    · exact Or.inl (by rw [hr.guide?_eq, if_neg hid, hg])

/-- One call changes at most the guide of one id, and a change of that guide's state takes the
edge the call is made for. -/
theorem after_changes (d : Directory) (s : Store) (now : Instant) (op : Operation) :
    ∃ id : Int, (∀ other, other ≠ id → (s.after d now op).guide? other = s.guide? other) ∧
      ∀ g g', s.guide? id = some g → (s.after d now op).guide? id = some g' →
        g.state ≠ g'.state → op.takes g.state g'.state = true := by
  rcases after_shape d s now op with hsame | hregistered | ⟨g, g', hr⟩
  · refine ⟨0, fun _ _ => by rw [hsame], ?_⟩
    intro g g' hg hg' hchange
    rw [hsame, hg] at hg'
    cases hg'
    exact absurd rfl hchange
  · -- a registration adds a guide behind all others, so every lookup that found one still does
    obtain ⟨-, draft, -, user, note, hafter⟩ := hregistered
    have hfind : ∀ id, (s.after d now op).guide? id =
        (s.guide? id).or ([draft.toGuide (s.guides.length + 1) now].find? (·.id == id)) := by
      intro id
      rw [hafter]
      simp only [guide?, withEntry_guides, List.find?_append]
    refine ⟨s.guides.length + 1, ?_, ?_⟩
    · intro other hother
      rw [hfind]
      cases s.guide? other with
      | some g => rfl
      | none =>
          have hne : (s.guides.length : Int) + 1 ≠ other := fun h => hother h.symm
          simp [GuideDraft.toGuide, hne]
    · intro g g' hg hg' hchange
      rw [hfind, hg] at hg'
      cases hg'
      exact absurd rfl hchange
  · -- a rewrite changes the guide of its id and no other
    refine ⟨g.id, fun other hother => by rw [hr.guide?_eq, if_neg hother], ?_⟩
    intro h h' hh hh' hchange
    rw [hr.guide?_eq, if_pos rfl] at hh'
    rw [hr.stored] at hh
    cases hh
    cases hh'
    exact hr.rewrites.takes hchange

end Store

/-- The edges taken along every run: from any store a run leaves, one more call changes the
guide of at most one id; when it changes a guide's state it takes the edge the call is made for,
so a guide held by an incident never goes on its way or to delivered; and no guide is refused. -/
theorem run_edges_taken (d : Directory) (steps : List (Instant × Operation)) (now : Instant)
    (op : Operation) :
    let s := Store.run d {} steps
    let s' := s.after d now op
    (∃ id : Int, ∀ other, other ≠ id → s'.guide? other = s.guide? other) ∧
    (∀ id g g', s.guide? id = some g → s'.guide? id = some g' → g.state ≠ g'.state →
      op.takes g.state g'.state = true ∧
        (g.state = .incident → g'.state ≠ .inTransit ∧ g'.state ≠ .delivered)) ∧
    (∀ g ∈ s'.guides, g.state ≠ .refused) := by
  intro s s'
  obtain ⟨id, hothers, hedge⟩ := Store.after_changes d s now op
  refine ⟨⟨id, hothers⟩, ?_, ?_⟩
  · intro id' g g' hg hg' hchange
    -- only the guide of `id` can change
    have hsame : id' = id := by
      by_cases hne : id' = id
      · exact hne
      · rw [hothers id' hne, hg] at hg'
        cases hg'
        exact absurd rfl hchange
    subst hsame
    have htakes := hedge g g' hg hg' hchange
    refine ⟨htakes, fun hincident => ?_⟩
    rw [hincident] at htakes
    rw [Operation.takes_from_incident htakes]
    simp
  · -- every guide keeps its fields in agreement with its state, and a refused one never does
    have hcoherent : s'.Coherent :=
      Store.coherent_preserved.after (Store.coherent_preserved.run d steps Store.coherent_empty)
        d now op
    exact fun g hg => (hcoherent g hg).not_refused

end Waybill
