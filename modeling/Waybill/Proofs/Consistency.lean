import Waybill.Proofs.Calls
import Waybill.Proofs.Batch
import Mathlib.Data.List.Nodup
/-!
How the store's records agree with each other.  The store hands out ids by counting, so the
guides, the history, the incidents and the cancellations each carry the ids `1, …, n` in the
order they were written.  Every history line, incident and cancellation names a stored guide,
no two guides share a number, and a guide is cancelled exactly when a cancellation names it,
one of the guide's own business, and no guide is named by two.  The store checks little of this
itself: it follows from how the services call it, and every run keeps it.
-/
namespace Waybill

open Service

/-- The ids `1, 2, …, n`, in order. -/
def idsUpTo : Nat → List Int
  | 0 => []
  | n + 1 => idsUpTo n ++ [(n : Int) + 1]

theorem mem_idsUpTo {x : Int} : ∀ {n : Nat}, x ∈ idsUpTo n ↔ 1 ≤ x ∧ x ≤ n
  | 0 => by simp only [idsUpTo, List.not_mem_nil, false_iff]; omega
  | n + 1 => by
      rw [idsUpTo, List.mem_append, List.mem_singleton, mem_idsUpTo]
      omega

/-- Counted ids increase strictly. -/
theorem idsUpTo_sorted : ∀ n : Nat, (idsUpTo n).Pairwise (· < ·)
  | 0 => List.Pairwise.nil
  | n + 1 => by
      rw [idsUpTo, List.pairwise_append]
      refine ⟨idsUpTo_sorted n, List.pairwise_singleton _ _, ?_⟩
      intro x hx y hy
      rw [mem_idsUpTo] at hx
      rw [List.mem_singleton.mp hy]
      omega

/-- A record written under the next id keeps a list of records counted. -/
theorem counted_append {α : Type} {l : List α} {x : α} {id : α → Int}
    (hl : l.map id = idsUpTo l.length) (hx : id x = l.length + 1) :
    (l ++ [x]).map id = idsUpTo (l ++ [x]).length := by
  simp [hl, hx, idsUpTo]

namespace Store

theorem mem_withIncident {s : Store} {i j : Incident} (hj : j ∈ (s.withIncident i).incidents) :
    j = i ∨ j ∈ s.incidents := by
  simp only [withIncident, List.mem_map] at hj
  obtain ⟨old, hold, rfl⟩ := hj
  by_cases hid : old.id = i.id
  · exact Or.inl (by simp [hid])
  · exact Or.inr (by simpa [hid] using hold)

@[simp] theorem map_id_withIncident (s : Store) (i : Incident) :
    (s.withIncident i).incidents.map Incident.id = s.incidents.map Incident.id := by
  simp only [withIncident, List.map_map]
  apply List.map_congr_left
  intro j _
  by_cases hid : j.id = i.id <;> simp [hid]

end Store

/-- The records of the store agree with each other. -/
structure Store.Consistent (s : Store) : Prop where
  guide_ids : s.guides.map Guide.id = idsUpTo s.guides.length
  history_ids : s.history.map HistoryEntry.id = idsUpTo s.history.length
  incident_ids : s.incidents.map Incident.id = idsUpTo s.incidents.length
  cancellation_ids : s.cancellations.map Cancellation.id = idsUpTo s.cancellations.length
  history_guides : ∀ e ∈ s.history, e.guide ∈ s.guides.map Guide.id
  incident_guides : ∀ i ∈ s.incidents, i.guide ∈ s.guides.map Guide.id
  cancellation_guides : ∀ c ∈ s.cancellations, c.guide ∈ s.guides.map Guide.id
  numbers_nodup : (s.guides.map Guide.number).Nodup
  cancelled_once : s.CancelledOnce
  cancelled_iff : ∀ g ∈ s.guides,
    g.state = .cancelled ↔ g.id ∈ s.cancellations.map Cancellation.guide
  cancellation_business : ∀ c ∈ s.cancellations, ∀ g ∈ s.guides,
    c.guide = g.id → c.business = g.business

namespace Store.Consistent

variable {s s' : Store}

theorem empty : Store.Consistent {} := by
  constructor <;> simp [idsUpTo, Store.CancelledOnce]

/-- Two stored guides with one id are one guide. -/
theorem eq_of_id (hs : s.Consistent) {g h : Guide} (hg : g ∈ s.guides) (hh : h ∈ s.guides)
    (hid : h.id = g.id) : h = g := by
  have hnodup : (s.guides.map Guide.id).Nodup := by
    rw [hs.guide_ids]
    exact (idsUpTo_sorted _).imp (fun h => Int.ne_of_lt h)
  exact List.inj_on_of_nodup_map hnodup hh hg hid

/-- A stored guide is the one its id finds. -/
theorem guide?_of_mem (hs : s.Consistent) {g : Guide} (hg : g ∈ s.guides) :
    s.guide? g.id = some g := by
  cases hfind : s.guide? g.id with
  | none =>
      unfold Store.guide? at hfind
      have hmissed := List.find?_eq_none.mp hfind g hg
      simp at hmissed
  | some h =>
      obtain ⟨hh, hid⟩ := Store.guide?_some hfind
      rw [hs.eq_of_id hg hh hid]

/-- The next guide id is not in use. -/
theorem next_id_fresh (hs : s.Consistent) :
    (s.guides.length : Int) + 1 ∉ s.guides.map Guide.id := by
  rw [hs.guide_ids, mem_idsUpTo]
  omega

theorem registered {now : Instant} {op : Operation} (hs : s.Consistent)
    (hr : Registered now op s s') : s'.Consistent := by
  obtain ⟨-, draft, hfresh, user, note, rfl⟩ := hr
  have hnumber : ∀ h ∈ s.guides, h.number ≠ draft.number := by
    simpa [Store.hasNumber] using hfresh
  -- every id in use stays in use
  have hold : ∀ x ∈ s.guides.map Guide.id,
      x ∈ (s.guides ++ [draft.toGuide (s.guides.length + 1) now]).map Guide.id := by
    intro x hx
    simp only [List.map_append, List.mem_append]
    exact Or.inl hx
  constructor
  · simp [hs.guide_ids, idsUpTo, GuideDraft.toGuide]
  · exact counted_append hs.history_ids rfl
  · exact hs.incident_ids
  · exact hs.cancellation_ids
  · -- the new line names the new guide
    intro e he
    simp only [Store.withEntry_history, List.mem_append, List.mem_singleton] at he
    rcases he with he | rfl
    · exact hold _ (hs.history_guides e he)
    · simp [GuideDraft.toGuide]
  · exact fun i hi => hold _ (hs.incident_guides i hi)
  · exact fun c hc => hold _ (hs.cancellation_guides c hc)
  · simpa [List.nodup_append, GuideDraft.toGuide] using ⟨hs.numbers_nodup, hnumber⟩
  · exact hs.cancelled_once
  · -- the new guide is created, and no cancellation names an id not yet in use
    intro g hg
    simp only [Store.withEntry_guides, List.mem_append, List.mem_singleton] at hg
    rcases hg with hg | rfl
    · exact hs.cancelled_iff g hg
    · simp only [GuideDraft.toGuide, reduceCtorEq, false_iff]
      intro hmem
      obtain ⟨c, hc, hcg⟩ := List.mem_map.mp hmem
      have hnext : c.guide = (s.guides.length : Int) + 1 := hcg
      exact hs.next_id_fresh (hnext ▸ hs.cancellation_guides c hc)
  · intro c hc g hg hcg
    simp only [Store.withEntry_guides, List.mem_append, List.mem_singleton] at hg
    rcases hg with hg | rfl
    · exact hs.cancellation_business c hc g hg hcg
    · have hnext : c.guide = (s.guides.length : Int) + 1 := hcg
      exact absurd (hnext ▸ hs.cancellation_guides c hc) hs.next_id_fresh

section Rewrote

variable {now : Instant} {op : Operation} {g g' : Guide}

/-- A rewrite keeps the incidents counted and each naming a stored guide: it adds one of its
guide's under the next id, or closes one in place. -/
theorem rewrote_incidents (hs : s.Consistent) (hr : Rewrote now op s s' g g') :
    s'.incidents.map Incident.id = idsUpTo s'.incidents.length ∧
      ∀ j ∈ s'.incidents, j.guide ∈ s.guides.map Guide.id := by
  have hgid : g.id ∈ s.guides.map Guide.id :=
    List.mem_map_of_mem (Store.guide?_some hr.stored).1
  rcases hr.incidents with h | ⟨-, i, hig, hiid, h⟩ | ⟨-, i, hi, -, -, resolution, resolver, h⟩ <;>
    rw [h]
  · exact ⟨hs.incident_ids, hs.incident_guides⟩
  · refine ⟨counted_append hs.incident_ids hiid, fun j hj => ?_⟩
    rcases List.mem_append.mp hj with hj | hj
    · exact hs.incident_guides j hj
    · rw [List.mem_singleton.mp hj, hig]
      exact hgid
  · -- the closed incident keeps its id and its guide
    refine ⟨?_, fun j hj => ?_⟩
    · rw [Store.map_id_withIncident]
      simpa [Store.withIncident] using hs.incident_ids
    · rcases Store.mem_withIncident hj with rfl | hj
      · exact hs.incident_guides i hi
      · exact hs.incident_guides j hj

/-- A rewrite keeps the cancellations counted, each naming a stored guide of its own business,
one to a guide and exactly for the cancelled guides: it adds its guide's as the guide enters
cancelled, or leaves the cancellations alone and the guide cancelled or not as it was. -/
theorem rewrote_cancellations (hs : s.Consistent) (hr : Rewrote now op s s' g g') :
    s'.cancellations.map Cancellation.id = idsUpTo s'.cancellations.length ∧
    (∀ c ∈ s'.cancellations, c.guide ∈ s.guides.map Guide.id) ∧ s'.CancelledOnce ∧
    (∀ h ∈ s'.guides, h.state = .cancelled ↔ h.id ∈ s'.cancellations.map Cancellation.guide) ∧
    ∀ c ∈ s'.cancellations, ∀ h ∈ s'.guides, c.guide = h.id → c.business = h.business := by
  obtain ⟨hid, -, hbusiness⟩ := hr.rewrites.keeps
  have hg : g ∈ s.guides := (Store.guide?_some hr.stored).1
  -- the rewrite keeps every guide's business, so the old cancellations still agree with them
  have hold : ∀ c ∈ s.cancellations, ∀ h ∈ s'.guides, c.guide = h.id →
      c.business = h.business := by
    intro c hc h hh hch
    rcases hr.mem_guides hh with rfl | ⟨hh, -⟩
    · rw [hbusiness]
      exact hs.cancellation_business c hc g hg (hch.trans hid)
    · exact hs.cancellation_business c hc h hh hch
  unfold Store.CancelledOnce
  rcases hr.cancellations with ⟨hsame, hkept⟩ | ⟨hlive, hcancelled, -, draft, hguide, hdraft, hnew⟩
  · rw [hsame]
    refine ⟨hs.cancellation_ids, hs.cancellation_guides, hs.cancelled_once, ?_, hold⟩
    intro h hh
    rcases hr.mem_guides hh with rfl | ⟨hh, -⟩
    · rw [hkept, hs.cancelled_iff g hg, hid]
    · exact hs.cancelled_iff h hh
  · -- the guide was not cancelled, so no cancellation named it yet
    have hfresh : ∀ c ∈ s.cancellations, c.guide ≠ draft.guide := by
      intro c hc hcg
      apply hlive
      rw [hs.cancelled_iff g hg, ← hguide, ← hcg]
      exact List.mem_map_of_mem hc
    rw [hnew]
    refine ⟨counted_append hs.cancellation_ids rfl, ?_, ?_, ?_, ?_⟩
    · intro c hc
      rcases List.mem_append.mp hc with hc | hc
      · exact hs.cancellation_guides c hc
      · rw [List.mem_singleton.mp hc]
        show draft.guide ∈ _
        rw [hguide]
        exact List.mem_map_of_mem hg
    · simpa [List.nodup_append, CancellationDraft.toCancellation] using
        ⟨hs.cancelled_once, hfresh⟩
    · intro h hh
      rw [List.map_append, List.mem_append]
      rcases hr.mem_guides hh with rfl | ⟨hh, hne⟩
      · simp [hcancelled, CancellationDraft.toCancellation, hguide, hid]
      · simp [CancellationDraft.toCancellation, hguide, hne, hs.cancelled_iff h hh]
    · intro c hc h hh hch
      rcases List.mem_append.mp hc with hc | hc
      · exact hold c hc h hh hch
      · -- the new cancellation names the rewritten guide and carries its business
        rw [List.mem_singleton.mp hc] at hch ⊢
        rcases hr.mem_guides hh with rfl | ⟨hh, hne⟩
        · rw [hbusiness]
          exact hdraft
        · exact absurd (hch.symm.trans hguide) hne

theorem rewrote (hs : s.Consistent) (hr : Rewrote now op s s' g g') : s'.Consistent := by
  obtain ⟨hid, hnumber, -⟩ := hr.rewrites.keeps
  have hg : g ∈ s.guides := (Store.guide?_some hr.stored).1
  -- the guides keep their ids and their numbers
  have hids : s'.guides.map Guide.id = s.guides.map Guide.id := by
    rw [hr.guides, Store.map_id_withGuide]
  have hlength : s'.guides.length = s.guides.length := by
    rw [← List.length_map Guide.id, hids, List.length_map]
  have hnumbers : s'.guides.map Guide.number = s.guides.map Guide.number := by
    rw [hr.guides]
    apply Store.map_withGuide
    intro h hh hhid
    rw [hs.eq_of_id hg hh (hhid.trans hid), hnumber]
  obtain ⟨user, note, -, hhistory⟩ := hr.history
  obtain ⟨hincident_ids, hincident_guides⟩ := rewrote_incidents hs hr
  obtain ⟨hcancellation_ids, hcancellation_guides, honce, hcancelled, hcancellation_business⟩ :=
    rewrote_cancellations hs hr
  refine ⟨?_, ?_, hincident_ids, hcancellation_ids, ?_, hids ▸ hincident_guides,
    hids ▸ hcancellation_guides, hnumbers ▸ hs.numbers_nodup, honce, hcancelled,
    hcancellation_business⟩
  · rw [hids, hlength]
    exact hs.guide_ids
  · rw [hhistory]
    exact counted_append hs.history_ids rfl
  · -- the new history line names the rewritten guide
    intro e he
    rw [hhistory, List.mem_append, List.mem_singleton] at he
    rw [hids]
    rcases he with he | rfl
    · exact hs.history_guides e he
    · exact List.mem_map_of_mem hg

end Rewrote

theorem preserved : Preserved Store.Consistent := ⟨registered, rewrote⟩

end Store.Consistent

/-- Every store a run leaves is consistent. -/
theorem Store.run_consistent (d : Directory) (steps : List (Instant × Operation)) :
    (Store.run d {} steps).Consistent :=
  Store.Consistent.preserved.run d steps Store.Consistent.empty

/-- The records of every store a run leaves agree with each other.  A guide is cancelled exactly
when one cancellation names it, no guide is named by two (and no batch of raw store calls, from any
store where this holds, changes that), and a cancellation is of its guide's business.  Every
history line, incident and cancellation names a stored guide.  No two guides share a number.  The
guides, history lines, incidents and cancellations carry the ids `1, …, n` in the order they were
written, so history ids increase. -/
theorem run_store_consistent (d : Directory) (steps : List (Instant × Operation)) :
    let s := Store.run d {} steps
    (∀ g ∈ s.guides,
      g.state = .cancelled ↔ (s.cancellations.map Cancellation.guide).count g.id = 1) ∧
    s.CancelledOnce ∧
    (∀ (now : Instant) (s₀ s₁ : Store) (calls answers : List Json), s₀.CancelledOnce →
      Batch.run now s₀ calls = .ok (s₁, answers) → s₁.CancelledOnce) ∧
    (∀ c ∈ s.cancellations, ∀ g ∈ s.guides, c.guide = g.id → c.business = g.business) ∧
    (∀ e ∈ s.history, e.guide ∈ s.guides.map Guide.id) ∧
    (∀ i ∈ s.incidents, i.guide ∈ s.guides.map Guide.id) ∧
    (∀ c ∈ s.cancellations, c.guide ∈ s.guides.map Guide.id) ∧
    (s.guides.map Guide.number).Nodup ∧
    s.guides.map Guide.id = idsUpTo s.guides.length ∧
    s.history.map HistoryEntry.id = idsUpTo s.history.length ∧
    s.incidents.map Incident.id = idsUpTo s.incidents.length ∧
    s.cancellations.map Cancellation.id = idsUpTo s.cancellations.length ∧
    (s.history.map HistoryEntry.id).Pairwise (· < ·) := by
  intro s
  have hc : s.Consistent := Store.run_consistent d steps
  refine ⟨?_, hc.cancelled_once, fun _ _ _ _ _ hs₀ hbatch => Batch.run_cancelledOnce hs₀ hbatch,
    hc.cancellation_business, hc.history_guides, hc.incident_guides, hc.cancellation_guides,
    hc.numbers_nodup, hc.guide_ids, hc.history_ids, hc.incident_ids, hc.cancellation_ids, ?_⟩
  · -- a cancellation names a cancelled guide, and none is named twice
    intro g hg
    rw [hc.cancelled_iff g hg]
    constructor
    · exact List.count_eq_one_of_mem hc.cancelled_once
    · intro hone
      exact List.count_pos_iff.mp (by omega)
  · rw [hc.history_ids]
    exact idsUpTo_sorted _

end Waybill
