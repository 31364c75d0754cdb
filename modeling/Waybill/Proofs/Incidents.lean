import Waybill.Proofs.Outcomes
/-!
Incidents and the held state agree.  A guide held by an incident has one open; an incident records
its resolution, resolver and moment exactly when it is resolved, and once resolved it never changes
again.  Reporting holds a guide, and resolving an incident sends a held guide back to assigned when
the delivery is rescheduled or no other incident of it is open, and keeps it held otherwise; so
resolving the open incidents of a held guide one by one, in any order, sends it back exactly at the
last one.
-/
namespace Waybill

open Service

/-- An incident records its resolution, its resolver and the moment exactly when it is resolved,
all three together. -/
def Incident.Recorded (i : Incident) : Prop :=
  (i.resolved = true ∧ i.resolution.isSome ∧ i.resolvedBy.isSome ∧ i.resolvedAt.isSome) ∨
    (i.resolved = false ∧ i.resolution = none ∧ i.resolvedBy = none ∧ i.resolvedAt = none)

namespace Incident

theorem Recorded.resolved_iff {i : Incident} (hi : i.Recorded) :
    i.resolved = true ↔ i.resolution.isSome ∧ i.resolvedBy.isSome ∧ i.resolvedAt.isSome := by
  rcases hi with ⟨hres, hsome⟩ | ⟨hres, hnone, hby, hat⟩
  · exact ⟨fun _ => hsome, fun _ => hres⟩
  · simp [hres, hnone, hby, hat]

theorem closed_recorded (i : Incident) (resolution : String) (resolver : Int) (moment : Instant) :
    (i.closed resolution resolver moment).Recorded :=
  Or.inl ⟨rfl, rfl, rfl, rfl⟩

end Incident

namespace Store

/-- The ids of the open incidents of a guide, in the order they were reported. -/
def openIncidents (s : Store) (guide : Int) : List Int :=
  ((s.incidentsOf guide).filter fun j => !j.resolved).map Incident.id

theorem mem_openIncidents {s : Store} {guide x : Int} :
    x ∈ s.openIncidents guide ↔
      ∃ j ∈ s.incidents, j.resolved = false ∧ j.guide = guide ∧ j.id = x := by
  simp [openIncidents, incidentsOf, and_assoc]

/-- The open incidents of a guide are read off the incidents alone. -/
theorem openIncidents_congr {s s' : Store} (h : s'.incidents = s.incidents) (guide : Int) :
    s'.openIncidents guide = s.openIncidents guide := by
  simp only [openIncidents, incidentsOf, h]

theorem openIncidents_append {s s' : Store} {i : Incident} (h : s'.incidents = s.incidents ++ [i])
    (guide : Int) :
    s'.openIncidents guide =
      s.openIncidents guide ++ if i.guide = guide ∧ i.resolved = false then [i.id] else [] := by
  simp only [openIncidents, incidentsOf, h, List.filter_append, List.map_append]
  by_cases hg : i.guide = guide <;> cases hr : i.resolved <;> simp [hg, hr]

/-- Closing an incident takes its id out of the open incidents of every guide. -/
theorem openIncidents_withIncident_closed (s : Store) (i : Incident) (resolution : String)
    (resolver : Int) (moment : Instant) (guide : Int) :
    (s.withIncident (i.closed resolution resolver moment)).openIncidents guide =
      (s.openIncidents guide).filter (· != i.id) := by
  simp only [openIncidents, incidentsOf, withIncident]
  -- one incident at a time: the written one is resolved, the others keep their fields
  induction s.incidents with
  | nil => rfl
  | cons j rest ih =>
    simp only [List.map_cons, List.filter_cons]
    by_cases hj : j.id = i.id <;> by_cases hg : j.guide = guide <;> by_cases hig : i.guide = guide <;>
      cases hr : j.resolved <;> simp_all [Incident.closed]

/-- Another open incident than `x` among the guide's, as the resolution checks it. -/
theorem any_open_other (s : Store) (guide x : Int) :
    ((s.incidentsOf guide).any fun j => j.id != x && !j.resolved) =
      (s.openIncidents guide).any (· != x) := by
  simp only [openIncidents, List.any_map, List.any_filter]
  congr 1
  funext j
  cases j.resolved <;> simp [Bool.and_comm]

/-- An incident kept out of a write of another id is still there. -/
theorem mem_withIncident_of_ne {s : Store} {i j : Incident} (hj : j ∈ s.incidents)
    (hid : j.id ≠ i.id) : j ∈ (s.withIncident i).incidents := by
  simp only [withIncident, List.mem_map]
  exact ⟨j, hj, by simp [hid]⟩

/-- The incidents agree with the guides: a held guide has an open incident, and every incident is
recorded as its resolution says. -/
structure IncidentsAgree (s : Store) : Prop where
  held_open : ∀ g ∈ s.guides, g.state = .incident → s.openIncidents g.id ≠ []
  recorded : ∀ i ∈ s.incidents, i.Recorded

end Store

/-- Only the calls that write incidents hold a guide. -/
theorem Rewrites.state_ne_incident {now : Instant} {op : Operation} {g g' : Guide}
    (hr : Rewrites now op g g') (hw : op.writesIncidents = false) : g'.state ≠ .incident := by
  cases hr <;> simp_all [Operation.writesIncidents]

namespace Store.Consistent

variable {s : Store}

/-- Two stored incidents with one id are one incident. -/
theorem incident_eq_of_id (hs : s.Consistent) {i j : Incident} (hi : i ∈ s.incidents)
    (hj : j ∈ s.incidents) (hid : j.id = i.id) : j = i := by
  have hnodup : (s.incidents.map Incident.id).Nodup := by
    rw [hs.incident_ids]
    exact (idsUpTo_sorted _).imp (fun h => Int.ne_of_lt h)
  exact List.inj_on_of_nodup_map hnodup hj hi hid

/-- A stored incident is the one its id finds. -/
theorem incident?_of_mem (hs : s.Consistent) {i : Incident} (hi : i ∈ s.incidents) :
    s.incident? i.id = some i := by
  cases hfind : s.incident? i.id with
  | none =>
      unfold Store.incident? at hfind
      have hmissed := List.find?_eq_none.mp hfind i hi
      simp at hmissed
  | some j =>
      obtain ⟨hj, hid⟩ := Store.incident?_some hfind
      rw [hs.incident_eq_of_id hi hj hid]

theorem openIncidents_nodup (hs : s.Consistent) (guide : Int) : (s.openIncidents guide).Nodup := by
  have hnodup : (s.incidents.map Incident.id).Nodup := by
    rw [hs.incident_ids]
    exact (idsUpTo_sorted _).imp (fun h => Int.ne_of_lt h)
  exact hnodup.sublist (((List.filter_sublist).trans List.filter_sublist).map Incident.id)

end Store.Consistent

namespace Store.IncidentsAgree

variable {s s' : Store} {d : Directory} {now : Instant}

/-- A call that writes no incident keeps them all, and holds no guide. -/
theorem quiet (ha : s.IncidentsAgree) {op : Operation} (hw : op.writesIncidents = false)
    (hok : (op.perform ⟨d, now⟩).run s = .ok ((), s')) : s'.IncidentsAgree := by
  rcases perform_ok_shape hok with ⟨-, rfl⟩ | ⟨-, ⟨-, hreg⟩ | ⟨g, g', hr⟩⟩
  · exact ha
  · -- a registered guide is created, not held
    obtain ⟨-, draft, -, user, note, rfl⟩ := hreg
    refine ⟨fun h hh hheld => ?_, ha.recorded⟩
    simp only [withEntry_guides, List.mem_append, List.mem_singleton] at hh
    rcases hh with hh | rfl
    · exact ha.held_open h hh hheld
    · simp [GuideDraft.toGuide] at hheld
  · have hinc : s'.incidents = s.incidents := by
      rcases hr.incidents with h | ⟨hw', -⟩ | ⟨hw', -⟩
      · exact h
      · rw [hw] at hw'
        cases hw'
      · rw [hw] at hw'
        cases hw'
    refine ⟨fun h hh hheld => ?_, fun i hi => ha.recorded i (hinc ▸ hi)⟩
    rw [openIncidents_congr hinc]
    rcases hr.mem_guides hh with rfl | ⟨hh, -⟩
    · exact absurd hheld (hr.rewrites.state_ne_incident hw)
    · exact ha.held_open h hh hheld

/-- A report adds an open incident of the guide it holds. -/
theorem reported (ha : s.IncidentsAgree) {gid kind reporter : Int} {description : String}
    (hok : ((Operation.report gid kind description reporter).perform ⟨d, now⟩).run s =
      .ok ((), s')) : s'.IncidentsAgree := by
  simp only [Operation.perform] at hok
  obtain ⟨_, hrun⟩ := Tx.discard_ok.mp hok
  obtain ⟨g, hg, -, kind', text, note, hs'⟩ := report_ok hrun
  have hadded : s'.incidents = s.incidents ++ [⟨s.incidents.length + 1, g.id, kind', text,
      reporter, false, none, none, none, now⟩] := by
    rw [hs']
    rfl
  have hinc := openIncidents_append hadded
  refine ⟨fun h hh hheld => ?_, fun i hi => ?_⟩
  · rw [hinc]
    rw [hs'] at hh
    rcases mem_withGuide hh with rfl | ⟨hh, -⟩
    · simp
    · simp [ha.held_open h hh hheld]
  · simp only [hs', withEntry_incidents, withGuide_incidents, List.mem_append,
      List.mem_singleton] at hi
    rcases hi with hi | rfl
    · exact ha.recorded i hi
    · exact Or.inr ⟨rfl, rfl, rfl, rfl⟩

end Store.IncidentsAgree

/-- What a successful resolution of incident `iid` does, read in the store it ran on.  It closes the
open incident `i` found under that id and rewrites the guide `g` of `i` as a guide `G` of the same
id: a held guide goes back to assigned exactly when the delivery is rescheduled or no other
incident of it is open, and every other guide keeps its state.  A held guide has a courier, which
is what the return also asks for. -/
theorem resolve_effect {s s' : Store} {d : Directory} {now : Instant} (hco : s.Coherent)
    {iid resolver : Int} {params : Resolution}
    (hok : ((Operation.resolve iid params resolver).perform ⟨d, now⟩).run s = .ok ((), s')) :
    ∃ i g G text user, s.incident? iid = some i ∧ i.resolved = false ∧ s.guide? i.guide = some g ∧
      s'.incidents = (s.withIncident (i.closed text user now)).incidents ∧
      s'.guides = (s.withGuide G).guides ∧ G.id = g.id ∧
      G.state = if g.state == .incident &&
          (params.reschedule || !(s.openIncidents g.id).any (· != i.id)) then .assigned
        else g.state := by
  simp only [Operation.perform] at hok
  obtain ⟨_, hrun⟩ := Tx.discard_ok.mp hok
  obtain ⟨i, hi, hopen, text, user, -, -, g, hg, g₁, hg₁, note, hcase⟩ := resolve_ok hrun
  obtain ⟨hgmem, -⟩ := Store.guide?_some hg
  -- handed over or not, the guide keeps its id and state, and a held one has a courier
  have hkeep : g₁.id = g.id ∧ g₁.state = g.state ∧
      (g.state = .incident → g₁.courier.isSome = true) := by
    rcases hg₁ with ⟨-, hsame⟩ | ⟨c, -, -, coordinator, courier, contract, commission, -, -, -, rfl⟩
    · rw [hsame]
      exact ⟨rfl, rfl, fun hheld =>
        (hco g hgmem).courier_of_requires (by simp [hheld, GuideState.requiresCourier])⟩
    · simp
  -- the test of the resolution, read in the store where `i` is already closed
  have hreturns : returnsToAssigned (s.withIncident (i.closed text user.id now)) g₁ i
      params.reschedule = (g.state == .incident &&
        (params.reschedule || !(s.openIncidents g.id).any (· != i.id))) := by
    unfold returnsToAssigned
    rw [Store.any_open_other, hkeep.1, Store.openIncidents_withIncident_closed, List.any_filter,
      hkeep.2.1]
    by_cases hheld : g.state = .incident
    · simp [hheld, hkeep.2.2 hheld, Bool.and_self]
    · simp [beq_eq_false_iff_ne.mpr hheld]
  rcases hcase with ⟨hret, hs'⟩ | ⟨hstay, hs'⟩
  · refine ⟨i, g, arrival g₁ .assigned now, text, user.id, hi, hopen, hg, by rw [hs']; rfl,
      by rw [hs']; rfl, by simp [hkeep.1], ?_⟩
    rw [hreturns] at hret
    simp [hret]
  · refine ⟨i, g, { g₁ with updatedAt := now }, text, user.id, hi, hopen, hg, by rw [hs']; rfl,
      by rw [hs']; rfl, hkeep.1, ?_⟩
    rw [hreturns] at hstay
    simp [hstay, hkeep.2.1]

namespace Store.IncidentsAgree

variable {s s' : Store} {d : Directory} {now : Instant}

/-- A resolution closes its incident, and keeps the guide held only while another incident of it
is open; the incidents of other guides are not touched, since incident ids are distinct. -/
theorem resolved (hc : s.Consistent) (hco : s.Coherent) (ha : s.IncidentsAgree)
    {iid resolver : Int} {params : Resolution}
    (hok : ((Operation.resolve iid params resolver).perform ⟨d, now⟩).run s = .ok ((), s')) :
    s'.IncidentsAgree := by
  obtain ⟨i, g, G, text, user, hi, -, hg, hinc, hguides, hGid, hGstate⟩ := resolve_effect hco hok
  obtain ⟨himem, -⟩ := incident?_some hi
  obtain ⟨-, hgid⟩ := guide?_some hg
  have hopen : ∀ guide, s'.openIncidents guide = (s.openIncidents guide).filter (· != i.id) :=
    fun guide => by rw [openIncidents_congr hinc, openIncidents_withIncident_closed]
  refine ⟨fun h hh hheld => ?_, fun j hj => ?_⟩
  · rw [hguides] at hh
    rw [hopen]
    rcases mem_withGuide hh with rfl | ⟨hh, hne⟩
    · -- the guide of the incident is still held: the resolution found another one open
      rw [hGid]
      by_cases hgheld : g.state = .incident
      · rw [hGstate] at hheld
        simp only [hgheld, beq_self_eq_true, Bool.true_and] at hheld
        split at hheld
        · cases hheld
        · rename_i hstays
          simp only [Bool.or_eq_true, Bool.not_eq_true', not_or, Bool.not_eq_false] at hstays
          obtain ⟨x, hx, hother⟩ := List.any_eq_true.mp hstays.2
          exact List.ne_nil_of_mem (List.mem_filter.mpr ⟨hx, by simpa using hother⟩)
      · rw [hGstate] at hheld
        simp [hgheld] at hheld
    · -- another guide: its open incident is not the one closed
      obtain ⟨x, hx⟩ := List.exists_mem_of_ne_nil _ (ha.held_open h hh hheld)
      obtain ⟨j, hj, -, hjguide, rfl⟩ := mem_openIncidents.mp hx
      have hji : j.id ≠ i.id := by
        intro hid
        apply hne
        rw [hGid, hgid, ← hjguide, hc.incident_eq_of_id himem hj hid]
      exact List.ne_nil_of_mem (List.mem_filter.mpr ⟨hx, by simpa using hji⟩)
  · rw [hinc] at hj
    rcases mem_withIncident hj with rfl | hj
    · exact Incident.closed_recorded _ _ _ _
    · exact ha.recorded j hj

/-- The step lemma: every call keeps the incidents in agreement with the guides, on a store whose
records are consistent and whose guides are coherent. -/
theorem after (hc : s.Consistent) (hco : s.Coherent) (ha : s.IncidentsAgree) (d : Directory)
    (now : Instant) (op : Operation) : (s.after d now op).IncidentsAgree := by
  rcases after_cases d s now op with hsame | hok
  · rw [hsame]
    exact ha
  cases hw : op.writesIncidents
  · exact ha.quiet hw hok
  · cases op
    case report => exact ha.reported hok
    case resolve => exact ha.resolved hc hco hok
    all_goals simp [Operation.writesIncidents] at hw

theorem empty : Store.IncidentsAgree {} := ⟨fun _ hg => (nomatch hg), fun _ hi => (nomatch hi)⟩

/-- The run lemma: consistency, coherence and the agreement of incidents hold together along every
run from a store where they hold. -/
theorem run (d : Directory) :
    ∀ (steps : List (Instant × Operation)) {s : Store}, s.Consistent → s.Coherent →
      s.IncidentsAgree →
      (s.run d steps).Consistent ∧ (s.run d steps).Coherent ∧ (s.run d steps).IncidentsAgree
  | [], _, hc, hco, ha => ⟨hc, hco, ha⟩
  | (now, op) :: rest, _, hc, hco, ha =>
      run d rest (Consistent.preserved.after hc d now op) (coherent_preserved.after hco d now op)
        (ha.after hc hco d now op)

end Store.IncidentsAgree

namespace Store

variable {s : Store} {d : Directory} {now : Instant}

/-- A resolved incident stays as it is after any call: a report only adds an incident, and a
resolution closes an open one, whose id no other incident shares. -/
theorem resolved_kept (hc : s.Consistent) {i : Incident} (hi : i ∈ s.incidents)
    (hres : i.resolved = true) (op : Operation) : i ∈ (s.after d now op).incidents := by
  rcases after_shape d s now op with hsame | hreg | ⟨g, g', hr⟩
  · rwa [hsame]
  · obtain ⟨-, draft, -, user, note, hafter⟩ := hreg
    rw [hafter]
    exact hi
  · rcases hr.incidents with h | ⟨-, j, -, -, h⟩ | ⟨-, j, hj, -, hopen, text, user, h⟩
    · rwa [h]
    · rw [h]
      exact List.mem_append_left _ hi
    · rw [h]
      apply mem_withIncident_of_ne hi
      intro hid
      rw [← hc.incident_eq_of_id hj hi hid, hres] at hopen
      cases hopen

/-- Once resolved, an incident never changes again, along any run. -/
theorem run_resolved_kept (d : Directory) {i : Incident} (hres : i.resolved = true) :
    ∀ (steps : List (Instant × Operation)) {s : Store}, s.Consistent → i ∈ s.incidents →
      i ∈ (s.run d steps).incidents
  | [], _, _, hi => hi
  | (now, op) :: rest, _, hc, hi =>
      run_resolved_kept d hres rest (Consistent.preserved.after hc d now op)
        (resolved_kept hc hi hres op)

/-- A report succeeds only on an assigned, picked-up, in-transit or held guide, and leaves it held
with one more open incident, the last one reported. -/
theorem report_holds {gid kind reporter : Int} {description : String}
    (h : (Operation.report gid kind description reporter).succeeds d now s = true) :
    ∃ g g', s.guide? gid = some g ∧
      (g.state = .assigned ∨ g.state = .pickedUp ∨ g.state = .inTransit ∨ g.state = .incident) ∧
      (s.after d now (.report gid kind description reporter)).guide? gid = some g' ∧
      g'.state = .incident ∧
      (s.after d now (.report gid kind description reporter)).openIncidents gid =
        s.openIncidents gid ++ [(s.incidents.length : Int) + 1] := by
  obtain ⟨s', hok⟩ := Operation.succeeds_iff.mp h
  rw [after_of_ok hok]
  simp only [Operation.perform] at hok
  obtain ⟨_, hrun⟩ := Tx.discard_ok.mp hok
  obtain ⟨g, hg, hs, kind', text, note, hs'⟩ := report_ok hrun
  obtain ⟨-, rfl⟩ := guide?_some hg
  refine ⟨g, arrival g .incident now, hg, hs, ?_, by simp, ?_⟩
  · have hG : s.guide? (arrival g .incident now).id = some g := by simpa using hg
    rw [guide?_replaced hG (t := s') (by rw [hs']; rfl), if_pos (by simp)]
  · rw [openIncidents_append (i := ⟨s.incidents.length + 1, g.id, kind', text, reporter, false,
      none, none, none, now⟩) (by rw [hs']; rfl)]
    simp

/-- A resolution of an incident of a held guide sends the guide back to assigned when the delivery
is rescheduled or no other of its incidents is open, and keeps it held otherwise; it takes the
incident out of the open ones. -/
theorem resolve_held (hco : s.Coherent) {iid resolver : Int} {params : Resolution}
    (h : (Operation.resolve iid params resolver).succeeds d now s = true) {i : Incident}
    {g : Guide} (hi : s.incident? iid = some i) (hg : s.guide? i.guide = some g)
    (hheld : g.state = .incident) :
    ∃ G, (s.after d now (.resolve iid params resolver)).guide? g.id = some G ∧
      G.state = (if params.reschedule || !(s.openIncidents g.id).any (· != i.id) then .assigned
        else .incident) ∧
      ∀ guide, (s.after d now (.resolve iid params resolver)).openIncidents guide =
        (s.openIncidents guide).filter (· != i.id) := by
  obtain ⟨s', hok⟩ := Operation.succeeds_iff.mp h
  rw [after_of_ok hok]
  obtain ⟨i', g', G, text, user, hi', -, hg', hinc, hguides, hGid, hGstate⟩ := resolve_effect hco hok
  rw [hi] at hi'
  cases hi'
  rw [hg] at hg'
  cases hg'
  refine ⟨G, ?_, ?_, fun guide => ?_⟩
  · have hG : s.guide? G.id = some g := by rw [hGid, (guide?_some hg).2]; exact hg
    rw [guide?_replaced hG hguides, if_pos hGid.symm]
  · rw [hGstate]
    simp [hheld]
  · rw [openIncidents_congr hinc, openIncidents_withIncident_closed]

end Store

/-- The incident a call resolves, when it resolves one without rescheduling the delivery. -/
def Operation.resolvesWithoutReschedule : Operation → Option Int
  | .resolve incident params _ => if params.reschedule then none else some incident
  | _ => none

theorem Operation.resolvesWithoutReschedule_eq_some {op : Operation} {x : Int} :
    op.resolvesWithoutReschedule = some x ↔
      ∃ params resolver, op = .resolve x params resolver ∧ params.reschedule = false := by
  cases op <;> simp [resolvesWithoutReschedule, and_comm]

/-- The state of the guide of id `guide` after each call of a run. -/
def Store.stateAlong (d : Directory) (guide : Int) :
    Store → List (Instant × Operation) → List (Option GuideState)
  | _, [] => []
  | s, (now, op) :: rest =>
      ((s.after d now op).guide? guide).map Guide.state :: stateAlong d guide (s.after d now op) rest

/-- Resolving the open incidents of a held guide, each once, in any order and never rescheduling:
the guide stays held after each resolution but the last, and is assigned after the last one.  The
induction is on the resolutions; its invariant is that the ones left are the open incidents. -/
theorem Store.stateAlong_resolving (d : Directory) (gid : Int) :
    ∀ (steps : List (Instant × Operation)) {s : Store} {g : Guide},
      s.Consistent → s.Coherent → s.IncidentsAgree →
      s.guide? gid = some g → g.state = .incident →
      (∀ step ∈ steps, step.2.resolvesWithoutReschedule.isSome = true) →
      (steps.filterMap (·.2.resolvesWithoutReschedule)).Perm (s.openIncidents gid) →
      s.allSucceed d steps = true →
      s.stateAlong d gid steps = List.replicate (steps.length - 1) (some .incident) ++ [some .assigned]
  | [], s, g, _, _, ha, hg, hheld, _, hperm, _ => by
    -- a held guide has an open incident left to resolve
    obtain ⟨hgmem, rfl⟩ := guide?_some hg
    exact absurd (List.Perm.nil_eq hperm).symm (ha.held_open g hgmem hheld)
  | (now, op) :: rest, s, g, hc, hco, ha, hg, hheld, hall, hperm, hok => by
    obtain ⟨x, hx⟩ := Option.isSome_iff_exists.mp (hall (now, op) List.mem_cons_self)
    obtain ⟨params, resolver, rfl, hplain⟩ := Operation.resolvesWithoutReschedule_eq_some.mp hx
    simp only [List.filterMap_cons, hx] at hperm
    simp only [allSucceed, Bool.and_eq_true] at hok
    -- the first resolution is of an open incident of the guide
    obtain ⟨j, hj, -, hjguide, rfl⟩ := mem_openIncidents.mp (hperm.mem_iff.mp List.mem_cons_self)
    obtain ⟨-, rfl⟩ := guide?_some hg
    obtain ⟨G, hG, hGstate, hopen⟩ := resolve_held hco hok.1 (hc.incident?_of_mem hj)
      (by rw [hjguide]; exact hg) hheld
    have hrest : (rest.filterMap (·.2.resolvesWithoutReschedule)).Perm
        ((s.openIncidents g.id).filter (· != j.id)) := by
      rw [← (hc.openIncidents_nodup g.id).erase_eq_filter]
      have herase := hperm.erase j.id
      rwa [List.erase_cons_head] at herase
    have ih := stateAlong_resolving d g.id rest (Consistent.preserved.after hc d now _)
      (coherent_preserved.after hco d now _) (ha.after hc hco d now _) hG
    simp only [stateAlong, hG, Option.map_some]
    rw [hplain, Bool.false_or] at hGstate
    rcases rest with _ | ⟨step, rest⟩
    · -- the last resolution: no other incident of the guide is open
      have hnone : (s.openIncidents g.id).filter (· != j.id) = [] := (List.Perm.nil_eq hrest).symm
      have hother : (s.openIncidents g.id).any (· != j.id) = false :=
        List.any_eq_false.mpr (List.filter_eq_nil_iff.mp hnone)
      rw [hGstate, hother]
      rfl
    · -- another incident of the guide stays open, so it stays held
      obtain ⟨x, hx⟩ := Option.isSome_iff_exists.mp (hall step (by simp))
      have hxmem : x ∈ (s.openIncidents g.id).filter (· != j.id) :=
        hrest.mem_iff.mp (List.mem_filterMap.mpr ⟨step, List.mem_cons_self, hx⟩)
      have hother : (s.openIncidents g.id).any (· != j.id) = true :=
        List.any_eq_true.mpr ⟨x, List.mem_filter.mp hxmem⟩
      have hstays : G.state = .incident := by
        rw [hGstate, hother]
        rfl
      rw [ih hstays (fun st hst => hall st (List.mem_cons_of_mem _ hst)) (by rw [hopen]; exact hrest)
        hok.2, hstays]
      simp [List.replicate_succ]

/-- Incidents and the held state agree in every store a run reaches.  A held guide has an open
incident.  An incident is resolved exactly when its resolution, resolver and moment are recorded,
and once resolved it stays as it is along any further run.  A report succeeds only on an assigned,
picked-up, in-transit or held guide, and leaves it held.  Resolving an incident of a held guide
sends it back to assigned exactly when the delivery is rescheduled or no other incident of it is
open, and keeps it held otherwise.  So resolving the open incidents of a held guide, each once and
never rescheduling, in any order, keeps it held until the last one, which sends it back. -/
theorem incidents_agree_with_held_guides (d : Directory) (steps : List (Instant × Operation)) :
    let s := Store.run d {} steps
    (∀ g ∈ s.guides, g.state = .incident → s.openIncidents g.id ≠ []) ∧
    (∀ i ∈ s.incidents,
      (i.resolved = true ↔ i.resolution.isSome ∧ i.resolvedBy.isSome ∧ i.resolvedAt.isSome)) ∧
    (∀ i ∈ s.incidents, i.resolved = true →
      ∀ more : List (Instant × Operation), i ∈ (s.run d more).incidents) ∧
    (∀ (now : Instant) (gid kind reporter : Int) (description : String),
      (Operation.report gid kind description reporter).succeeds d now s = true →
      ∃ g g', s.guide? gid = some g ∧
        (g.state = .assigned ∨ g.state = .pickedUp ∨ g.state = .inTransit ∨ g.state = .incident) ∧
        (s.after d now (.report gid kind description reporter)).guide? gid = some g' ∧
        g'.state = .incident) ∧
    (∀ (now : Instant) (iid resolver : Int) (params : Resolution) (i : Incident) (g : Guide),
      s.incident? iid = some i → s.guide? i.guide = some g → g.state = .incident →
      (Operation.resolve iid params resolver).succeeds d now s = true →
      ∃ G, (s.after d now (.resolve iid params resolver)).guide? g.id = some G ∧
        G.state = if params.reschedule || !(s.openIncidents g.id).any (· != i.id) then .assigned
          else .incident) ∧
    (∀ (g : Guide) (more : List (Instant × Operation)), g ∈ s.guides → g.state = .incident →
      (∀ step ∈ more, step.2.resolvesWithoutReschedule.isSome = true) →
      (more.filterMap (·.2.resolvesWithoutReschedule)).Perm (s.openIncidents g.id) →
      s.allSucceed d more = true →
      s.stateAlong d g.id more =
        List.replicate (more.length - 1) (some .incident) ++ [some .assigned]) := by
  intro s
  obtain ⟨hc, hco, ha⟩ := Store.IncidentsAgree.run d steps Store.Consistent.empty
    Store.coherent_empty Store.IncidentsAgree.empty
  refine ⟨ha.held_open, fun i hi => (ha.recorded i hi).resolved_iff,
    fun i hi hres more => Store.run_resolved_kept d hres more hc hi,
    fun now gid kind reporter description h => ?_, fun now iid resolver params i g hi hg hheld h => ?_,
    fun g more hg hheld hall hperm hok =>
      Store.stateAlong_resolving d g.id more hc hco ha (hc.guide?_of_mem hg) hheld hall hperm hok⟩
  · obtain ⟨g, g', hg, hs, hg', hstate, -⟩ := Store.report_holds h
    exact ⟨g, g', hg, hs, hg', hstate⟩
  · obtain ⟨G, hG, hstate, -⟩ := Store.resolve_held hco h hi hg hheld
    exact ⟨G, hG, hstate⟩

/-- A coordinator, a courier with a contract in force, a business and one kind of incident. -/
def heldDirectory : Directory :=
  { users := [⟨2, "Coordinación", "coordinacion@correo.co", .coordinator, true⟩,
      ⟨7, "Mensajero A", "a@correo.co", .courier, true⟩],
    businesses := [⟨11, "Negocio", "negocio@correo.co", none, true⟩],
    contracts := [⟨1, 7, Decimal.hundred, ⟨2020, 1, 1⟩, none, true⟩],
    incidentKinds := [⟨1, "Dirección errada", none⟩] }

/-- A guide registered, assigned, and held by two incidents. -/
def heldRun : List (Instant × Operation) :=
  [(⟨1700000000, 0⟩, .create ⟨11, 1, Decimal.hundred,
      ⟨"Ana", "3001234567", "Calle 1", "Cali", "Valle"⟩, none⟩ 2),
    (⟨1700000100, 0⟩, .assign 1 7 2 none),
    (⟨1700000200, 0⟩, .report 1 1 "Portería cerrada" 7),
    (⟨1700000300, 0⟩, .report 1 1 "Cliente ausente" 7)]

/-- Both incidents resolved, the later one first, without rescheduling. -/
def heldResolutions : List (Instant × Operation) :=
  [(⟨1700000400, 0⟩, .resolve 2 ⟨"Llamada hecha", none, false⟩ 2),
    (⟨1700000500, 0⟩, .resolve 1 ⟨"Portería abierta", none, false⟩ 2)]

set_option maxRecDepth 20000 in
/-- The guide stays held after the first resolution and is assigned after the second. -/
theorem held_guide_returns_at_last_resolution :
    (Store.run heldDirectory {} heldRun).stateAlong heldDirectory
        ((Store.run heldDirectory {} heldRun).guides.head (by decide)).id heldResolutions =
      [some .incident, some .assigned] :=
  ((incidents_agree_with_held_guides heldDirectory heldRun).2.2.2.2.2 _ heldResolutions
    (List.head_mem _) (by decide) (by decide) (by decide) (by decide)).trans (by decide)

end Waybill
