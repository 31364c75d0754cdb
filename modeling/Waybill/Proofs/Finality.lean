import Waybill.Proofs.Allowance
import Waybill.Proofs.Outcomes
/-!
Delivered, cancelled and refused guides stay as they are.  No edge of the state table leaves a
final state, and every service but one is guarded by a state from which an edge leaves; the one
that is not is the resolution of an incident, which may still be open when its guide is delivered
or cancelled.  Resolving it without handing the guide to a new courier records the event: the
guide keeps every field but its update moment, and its history gains one line in its own final
state.  Nothing else a call does ever reaches a final guide.
-/
namespace Waybill

open Service

/-- A call that rewrites a final guide is a resolution, and leaves the guide as it was but for its
update moment. -/
theorem Rewrites.of_isFinal {now : Instant} {op : Operation} {g g' : Guide}
    (hr : Rewrites now op g g') (hfinal : g.state.isFinal = true) :
    g' = { g with updatedAt := now } ∧
      ∃ incident params resolver, op = .resolve incident params resolver := by
  cases hr
  case resolveStay => exact ⟨rfl, _, _, _, rfl⟩
  -- every other rewrite is guarded by a state that is not final
  all_goals cases hs : g.state <;> simp_all [GuideState.isFinal]

/-- A resolution that succeeds on the incident of a final guide was of an open incident, and named
no new courier: handing the guide over needs it assigned or held. -/
theorem resolve_of_isFinal {env : Env} {iid resolverId : Int} {params : Resolution}
    {s s' : Store} {r : (Incident × Guide) × List Notice}
    (h : (resolve env iid params resolverId).run s = .ok (r, s')) {i : Incident} {g : Guide}
    (hi : s.incident? iid = some i) (hg : s.guide? i.guide = some g)
    (hfinal : g.state.isFinal = true) :
    i.resolved = false ∧ params.newCourier = none := by
  obtain ⟨j, hj, hopen, resolution, resolver, -, -, G, hG, G₁, hhanded, -⟩ := resolve_ok h
  rw [hi] at hj
  cases hj
  rw [hg] at hG
  cases hG
  refine ⟨hopen, ?_⟩
  rcases hhanded with ⟨hnone, -⟩ | ⟨c, -, hs, -⟩
  · exact hnone
  · rcases hs with hs | hs <;> simp [hs, GuideState.isFinal] at hfinal

namespace Store

/-- A run of two parts goes through the store the first part leaves. -/
theorem run_append (d : Directory) :
    ∀ (first second : List (Instant × Operation)) (s : Store),
      s.run d (first ++ second) = (s.run d first).run d second
  | [], _, _ => rfl
  | (now, op) :: rest, second, s => run_append d rest second (s.after d now op)

variable {d : Directory} {now : Instant} {op : Operation}

/-- One call leaves a final guide as it was but for its update moment. -/
theorem after_isFinal {s : Store} {id : Int} {g : Guide} (hg : s.guide? id = some g)
    (hfinal : g.state.isFinal = true) :
    ∃ t, (s.after d now op).guide? id = some { g with updatedAt := t } := by
  rcases after_guide? d now op hg with hsame | ⟨g', hr, hg'⟩
  · exact ⟨g.updatedAt, hsame⟩
  · rw [(hr.rewrites.of_isFinal hfinal).1] at hg'
    exact ⟨now, hg'⟩

/-- The run lemma: along any run a final guide keeps every field but its update moment.  The
induction is on the run, and the guide it carries is the one the step before left. -/
theorem run_isFinal (d : Directory) :
    ∀ (steps : List (Instant × Operation)) {s : Store} {id : Int} {g : Guide},
      s.guide? id = some g → g.state.isFinal = true →
      ∃ t, (s.run d steps).guide? id = some { g with updatedAt := t }
  | [], _, _, g, hg, _ => ⟨g.updatedAt, hg⟩
  | (now, op) :: rest, _, _, g, hg, hfinal => by
    obtain ⟨t, ht⟩ := @after_isFinal d now op _ _ _ hg hfinal
    exact run_isFinal d rest (g := { g with updatedAt := t }) ht hfinal

/-- What one call writes in the history of a final guide of a consistent store: nothing, unless it
resolves an open incident of the guide without naming a new courier, and then one line in the
guide's own state, by the resolver, at the call's moment. -/
theorem after_history_isFinal {s : Store} (hc : s.Consistent) {id : Int} {g : Guide}
    (hg : s.guide? id = some g) (hfinal : g.state.isFinal = true) :
    (s.after d now op).writtenHistoryOf id = s.writtenHistoryOf id ∨
      ∃ iid params resolver i, op = .resolve iid params resolver ∧ params.newCourier = none ∧
        s.incident? iid = some i ∧ i.guide = id ∧ i.resolved = false ∧
        ∃ e : HistoryEntry, e.state = g.state ∧ e.user = resolver ∧ e.createdAt = now ∧
          (s.after d now op).writtenHistoryOf id = s.writtenHistoryOf id ++ [e] := by
  obtain ⟨hgmem, rfl⟩ := guide?_some hg
  rcases after_cases d s now op with hsame | hok
  · exact Or.inl (by rw [hsame])
  rcases perform_ok_shape hok with ⟨-, hsame⟩ | ⟨-, ⟨-, hregistered⟩ | ⟨h, h', hr⟩⟩
  · exact Or.inl (by rw [after_of_ok hok, hsame])
  · -- a registration writes a line for the new guide, whose id is not yet in use
    left
    obtain ⟨-, draft, -, user, note, hafter⟩ := hregistered
    have hne : (s.guides.length : Int) + 1 ≠ g.id := fun heq =>
      hc.next_id_fresh (heq ▸ List.mem_map_of_mem hgmem)
    rw [after_of_ok hok, hafter, writtenHistoryOf_of_history (s := s) rfl, if_neg hne,
      List.append_nil]
  · rw [after_of_ok hok]
    obtain ⟨user, note, hactor, hhistory⟩ := hr.history
    rw [writtenHistoryOf_of_history hhistory]
    by_cases hid : h.id = g.id
    · -- the call rewrote the final guide, so it resolved one of its incidents
      right
      have hstored := hr.stored
      rw [hid, hg] at hstored
      cases hstored
      obtain ⟨rfl, iid, params, resolver, rfl⟩ := hr.rewrites.of_isFinal hfinal
      have hsubject := hr.subject
      simp only [Operation.subject, Option.map_eq_some_iff] at hsubject
      obtain ⟨i, hi, higuide⟩ := hsubject
      simp only [Operation.perform] at hok
      obtain ⟨_, hrun⟩ := Tx.discard_ok.mp hok
      obtain ⟨hopen, hnone⟩ := resolve_of_isFinal hrun hi (by rw [higuide]; exact hg) hfinal
      have huser : resolver = user := by simpa [Operation.actor] using hactor
      exact ⟨iid, params, resolver, i, rfl, hnone, hi, higuide, hopen, _, rfl, huser.symm, rfl,
        by rw [if_pos rfl]⟩
    · exact Or.inl (by rw [if_neg hid, List.append_nil])

end Store

/-- Final states absorb.  Take a guide that is delivered, cancelled or refused in a store a run
leaves.  Along any further run, successful or failed calls alike, it keeps its state and every
other field (courier, coordinator, commission, acceptance, all its dates, price, observations),
all but its update moment.  And the only trace any later call can leave on it is one history line
in its own final state: when the call resolves, without naming a new courier, an incident of the
guide that was still open, the line written in the resolver's name at the call's moment. -/
theorem final_guides_absorb (d : Directory) (steps : List (Instant × Operation)) {g : Guide}
    (hg : g ∈ (Store.run d {} steps).guides) (hfinal : g.state.isFinal = true) :
    (∀ more : List (Instant × Operation),
      ∃ t, ((Store.run d {} steps).run d more).guide? g.id = some { g with updatedAt := t }) ∧
    ∀ (more : List (Instant × Operation)) (now : Instant) (op : Operation),
      let s := (Store.run d {} steps).run d more
      (s.after d now op).writtenHistoryOf g.id = s.writtenHistoryOf g.id ∨
        ∃ iid params resolver i, op = .resolve iid params resolver ∧ params.newCourier = none ∧
          s.incident? iid = some i ∧ i.guide = g.id ∧ i.resolved = false ∧
          ∃ e : HistoryEntry, e.state = g.state ∧ e.user = resolver ∧ e.createdAt = now ∧
            (s.after d now op).writtenHistoryOf g.id = s.writtenHistoryOf g.id ++ [e] := by
  have hstored : (Store.run d {} steps).guide? g.id = some g :=
    (Store.run_consistent d steps).guide?_of_mem hg
  refine ⟨fun more => Store.run_isFinal d more hstored hfinal, fun more now op => ?_⟩
  obtain ⟨t, ht⟩ := Store.run_isFinal d more hstored hfinal
  -- the store the further run reaches is itself reached by a run from the empty store
  have hc := Store.run_consistent d (steps ++ more)
  rw [Store.run_append] at hc
  exact Store.after_history_isFinal hc (g := { g with updatedAt := t }) ht hfinal

/-- A guide registered and then cancelled by its business. -/
def cancelledRun : List (Instant × Operation) :=
  [(⟨1700000000, 0⟩, .create ⟨11, 1, Decimal.hundred,
      ⟨"Ana", "3001234567", "Calle 1", "Cali", "Valle"⟩, none⟩ 4),
    (⟨1700000100, 0⟩, .cancel 1 1 "Sin existencias" 4 none)]

set_option maxRecDepth 10000 in
/-- The cancelled guide is final, and no further run changes it but for its update moment. -/
theorem cancelled_guide_stays_cancelled :
    let g := (Store.run twoFreeDirectory {} cancelledRun).guides.head (by decide)
    g.state.isFinal = true ∧ ∀ more : List (Instant × Operation),
      ∃ t, ((Store.run twoFreeDirectory {} cancelledRun).run twoFreeDirectory more).guide? g.id =
        some { g with updatedAt := t } :=
  ⟨by decide, (final_guides_absorb twoFreeDirectory cancelledRun (List.head_mem _)
    (by decide)).1⟩

end Waybill
