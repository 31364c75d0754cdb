import Waybill.Proofs.Consistency
import Mathlib.Data.List.Chain
/-!
A guide's history tells its life.  Read in the order it was written, the history of a guide
opens with its registration, goes from line to line along an edge of the state table or stays
where it was, and ends in the state the guide is in now.  Every call that changes a guide writes
exactly one line, for that guide, and reads and failed calls write none.  When the calls come in
time order, the history read back by time and then by id is the history as it was written.
-/
namespace Waybill

open Service

/-- One history line may follow another: the guide stayed where it was, or moved along an edge
of the state table. -/
def GuideState.Follows (a b : GuideState) : Prop := b = a ∨ a.canMove b = true

/-- Every rewrite keeps the guide's state or moves it along an edge of the table. -/
theorem Rewrites.follows {now : Instant} {op : Operation} {g g' : Guide}
    (hr : Rewrites now op g g') : g.state.Follows g'.state := by
  unfold GuideState.Follows
  cases hr with
  | reassign _ _ _ hs | resolveStayHanded _ _ _ hs =>
      rcases hs with hs | hs <;> simp [hs, GuideState.canMove, GuideState.targets]
  | cancel _ _ hs => rcases hs with hs | hs <;> simp [hs, GuideState.canMove, GuideState.targets]
  | report hs =>
      rcases hs with hs | hs | hs | hs <;> simp [hs, GuideState.canMove, GuideState.targets]
  | _ => simp_all [GuideState.canMove, GuideState.targets]

/-- A history, in the order it was written, that tells how its guide came to `state`: it opens
in created, each line follows the one before, and the last is in `state`. -/
structure Ledger (entries : List HistoryEntry) (state : GuideState) : Prop where
  opens : entries.head?.map HistoryEntry.state = some .created
  follows : (entries.map HistoryEntry.state).IsChain GuideState.Follows
  closes : entries.getLast?.map HistoryEntry.state = some state

namespace Ledger

variable {entries : List HistoryEntry} {state : GuideState} {e : HistoryEntry}

theorem single (he : e.state = .created) : Ledger [e] .created :=
  ⟨by simp [he], List.isChain_singleton _, by simp [he]⟩

/-- A line that follows the last one extends the ledger. -/
theorem append (hl : Ledger entries state) (hfollows : state.Follows e.state) :
    Ledger (entries ++ [e]) e.state where
  opens := by
    obtain ⟨opens, -, -⟩ := hl
    cases entries with
    | nil => simp at opens
    | cons first rest => simpa using opens
  follows := by
    rw [List.map_append]
    refine hl.follows.append (List.isChain_singleton _) ?_
    intro x hx y hy
    -- the last line written is in the guide's state
    have hlast : x = state := by
      rw [List.getLast?_map] at hx
      simpa [hl.closes] using hx.symm
    have hnext : e.state = y := by simpa using hy
    rw [hlast, ← hnext]
    exact hfollows
  closes := by simp

end Ledger

namespace Store

/-- The written history of a guide after one more line. -/
theorem writtenHistoryOf_of_history {s s' : Store} {e : HistoryEntry}
    (h : s'.history = s.history ++ [e]) (id : Int) :
    s'.writtenHistoryOf id = s.writtenHistoryOf id ++ if e.guide = id then [e] else [] := by
  by_cases he : e.guide = id <;> simp [writtenHistoryOf, h, List.filter_append, he]

/-- Every stored guide's history tells its life. -/
def Ledgered (s : Store) : Prop := ∀ g ∈ s.guides, Ledger (s.writtenHistoryOf g.id) g.state

/-- A consistent store whose guides' histories tell their lives stays so.  Consistency is what
makes a registered guide's history start empty: no line names an id not yet in use. -/
theorem ledgered_preserved : Preserved fun s => s.Consistent ∧ s.Ledgered where
  registered := by
    rintro now op s s' ⟨hc, hl⟩ hr
    refine ⟨hc.registered hr, ?_⟩
    obtain ⟨-, draft, -, user, note, rfl⟩ := hr
    intro g hg
    rw [writtenHistoryOf_of_history (s := s) rfl]
    simp only [withEntry_guides, List.mem_append, List.mem_singleton] at hg
    rcases hg with hg | rfl
    · have hne : (s.guides.length : Int) + 1 ≠ g.id := by
        intro heq
        exact hc.next_id_fresh (heq ▸ List.mem_map_of_mem hg)
      simpa [hne] using hl g hg
    · have hempty : s.writtenHistoryOf (s.guides.length + 1) = [] := by
        simp only [writtenHistoryOf, List.filter_eq_nil_iff, beq_iff_eq]
        intro e he heq
        exact hc.next_id_fresh (heq ▸ hc.history_guides e he)
      have hid : (draft.toGuide (s.guides.length + 1) now).id = s.guides.length + 1 := rfl
      rw [hid, hempty, if_pos rfl, List.nil_append]
      exact Ledger.single rfl
  rewrote := by
    rintro now op s s' g g' ⟨hc, hl⟩ hr
    refine ⟨hc.rewrote hr, ?_⟩
    obtain ⟨user, note, -, hhistory⟩ := hr.history
    have hg : g ∈ s.guides := (guide?_some hr.stored).1
    intro h hh
    rw [writtenHistoryOf_of_history hhistory]
    rcases hr.mem_guides hh with rfl | ⟨hh, hne⟩
    · -- the rewritten guide's history gains the one line in its new state
      rw [hr.rewrites.keeps.1, if_pos rfl]
      exact (hl g hg).append hr.rewrites.follows
    · rw [if_neg (Ne.symm hne), List.append_nil]
      exact hl h hh

/-- Every store a run leaves is consistent and its guides' histories tell their lives. -/
theorem run_ledgered (d : Directory) (steps : List (Instant × Operation)) :
    (Store.run d {} steps).Consistent ∧ (Store.run d {} steps).Ledgered :=
  ledgered_preserved.run d steps ⟨Consistent.empty, fun _ hg => nomatch hg⟩

/-- What one call does to the history: a read or a failed call writes nothing, and a call that
changes a guide writes one line for the guide it works on, at its own moment. -/
theorem after_history (d : Directory) (s : Store) (now : Instant) (op : Operation) :
    ((op.isRead = true ∨ ∀ s', (op.perform ⟨d, now⟩).run s ≠ .ok ((), s')) →
      (s.after d now op).history = s.history) ∧
    (op.isRead = false → (∃ s', (op.perform ⟨d, now⟩).run s = .ok ((), s')) →
      ∃ e : HistoryEntry, op.subject s = some e.guide ∧ e.createdAt = now ∧
        (s.after d now op).history = s.history ++ [e]) := by
  constructor
  · rintro (hread | hfailed)
    · rcases after_cases d s now op with hsame | hok
      · rw [hsame]
      · rcases perform_ok_shape hok with ⟨-, hsame⟩ | ⟨hwrite, -⟩
        · rw [hsame]
        · rw [hread] at hwrite
          exact absurd hwrite Bool.noConfusion
    · rw [after_of_error hfailed]
  · rintro hwrite ⟨s', hok⟩
    rw [after_of_ok hok]
    rcases perform_ok_shape hok with ⟨hread, -⟩ | ⟨-, ⟨-, hregistered⟩ | ⟨g, g', hrewrote⟩⟩
    · rw [hwrite] at hread
      exact absurd hread Bool.noConfusion
    · obtain ⟨hsubject, draft, -, user, note, rfl⟩ := hregistered
      exact ⟨_, hsubject, rfl, rfl⟩
    · obtain ⟨user, note, -, hhistory⟩ := hrewrote.history
      exact ⟨_, hrewrote.subject, rfl, hhistory⟩

/-- The lines one call writes are all stamped with its moment. -/
theorem after_history_stamped (d : Directory) (s : Store) (now : Instant) (op : Operation) :
    ∃ added : List HistoryEntry, (s.after d now op).history = s.history ++ added ∧
      ∀ e ∈ added, e.createdAt = now := by
  by_cases hwrite : op.isRead = false ∧ ∃ s', (op.perform ⟨d, now⟩).run s = .ok ((), s')
  · obtain ⟨e, -, he, hhistory⟩ := (after_history d s now op).2 hwrite.1 hwrite.2
    exact ⟨[e], hhistory, by simpa using he⟩
  · have hnone : op.isRead = true ∨ ∀ s', (op.perform ⟨d, now⟩).run s ≠ .ok ((), s') := by
      by_cases hread : op.isRead = true
      · exact Or.inl hread
      · exact Or.inr fun s' hok => hwrite ⟨by simpa using hread, s', hok⟩
    exact ⟨[], by simpa using (after_history d s now op).1 hnone, by simp⟩

end Store

namespace Instant

theorem le_iff {a b : Instant} :
    a ≤ b ↔ ¬ (b.secs < a.secs ∨ (b.secs = a.secs ∧ b.nanos < a.nanos)) := Iff.rfl

theorem le_refl (t : Instant) : t ≤ t := by
  rw [le_iff]
  omega

theorem le_trans {a b c : Instant} (hab : a ≤ b) (hbc : b ≤ c) : a ≤ c := by
  rw [le_iff] at *
  omega

end Instant

namespace Store

/-- The history is written in time order along a run whose moments do not go back: each call
stamps its lines with a moment no earlier than any line already written.  The run is taken from
a store whose lines are no later than `t`, the moment before the first call. -/
theorem run_history_chronological (d : Directory) :
    ∀ (steps : List (Instant × Operation)) (s : Store) (t : Instant),
      s.history.Pairwise (fun a b => a.createdAt ≤ b.createdAt) →
      (∀ e ∈ s.history, e.createdAt ≤ t) → (t :: steps.map Prod.fst).IsChain (· ≤ ·) →
      (s.run d steps).history.Pairwise (fun a b => a.createdAt ≤ b.createdAt)
  | [], _, _, hsorted, _, _ => hsorted
  | (now, op) :: rest, s, t, hsorted, hbound, hchain => by
      rw [List.map_cons, List.isChain_cons_cons] at hchain
      obtain ⟨hnow, hrest⟩ := hchain
      obtain ⟨added, hhistory, hstamped⟩ := after_history_stamped d s now op
      -- every line written so far is no later than `now`, and the new lines are at `now`
      have hold : ∀ e ∈ s.history, e.createdAt ≤ now := fun e he => Instant.le_trans (hbound e he) hnow
      apply run_history_chronological d rest (s.after d now op) now
      · rw [hhistory, List.pairwise_append]
        refine ⟨hsorted, ?_, ?_⟩
        · refine List.pairwise_of_forall_mem_list fun a ha b hb => ?_
          rw [hstamped a ha, hstamped b hb]
          exact Instant.le_refl now
        · intro a ha b hb
          rw [hstamped b hb]
          exact hold a ha
      · intro e he
        rw [hhistory, List.mem_append] at he
        rcases he with he | he
        · exact hold e he
        · rw [hstamped e he]
          exact Instant.le_refl now
      · exact hrest

/-- A guide's history read back by time and id is its history as written, when the history was
written in time order and under increasing ids. -/
theorem historyOf_eq_written {s : Store} (hc : s.Consistent)
    (hsorted : s.history.Pairwise (fun a b => a.createdAt ≤ b.createdAt)) (id : Int) :
    s.historyOf id = s.writtenHistoryOf id := by
  have hids : s.history.Pairwise (fun a b => a.id < b.id) := by
    have h := idsUpTo_sorted s.history.length
    rw [← hc.history_ids, List.pairwise_map] at h
    exact h
  unfold historyOf writtenHistoryOf
  apply List.mergeSort_of_pairwise
  apply List.Pairwise.filter
  refine (hsorted.and hids).imp ?_
  rintro a b ⟨hle, hlt⟩
  rw [Instant.le_iff] at hle
  simp only [Bool.or_eq_true, Bool.and_eq_true, decide_eq_true_eq, beq_iff_eq]
  omega

end Store

/-- The history ledger agrees with the guides along every run: each stored guide's history, in
the order it was written, opens in created, moves along the state table and ends in the guide's
state; from the store a run leaves, a call that changes a guide writes exactly one line, for the
guide it works on, and a read or a failed call writes none; and when the run's moments do not go
back, reading a guide's history returns it as written. -/
theorem run_history_ledger (d : Directory) (steps : List (Instant × Operation)) :
    let s := Store.run d {} steps
    (∀ g ∈ s.guides, Ledger (s.writtenHistoryOf g.id) g.state) ∧
    (∀ now op, op.isRead = false → (∃ s', (op.perform ⟨d, now⟩).run s = .ok ((), s')) →
      ∃ e : HistoryEntry, op.subject s = some e.guide ∧
        (s.after d now op).history = s.history ++ [e]) ∧
    (∀ now op, (op.isRead = true ∨ ∀ s', (op.perform ⟨d, now⟩).run s ≠ .ok ((), s')) →
      (s.after d now op).history = s.history) ∧
    ((steps.map Prod.fst).IsChain (· ≤ ·) →
      ∀ g ∈ s.guides, (Service.history g.id).run s = .ok (s.writtenHistoryOf g.id, s)) := by
  intro s
  obtain ⟨hc, hl⟩ := Store.run_ledgered d steps
  refine ⟨hl, ?_, fun now op => (Store.after_history d s now op).1, ?_⟩
  · intro now op hwrite hok
    obtain ⟨e, hsubject, -, hhistory⟩ := (Store.after_history d s now op).2 hwrite hok
    exact ⟨e, hsubject, hhistory⟩
  · intro hchain g hg
    -- a run that starts at its first moment writes its history in time order
    have hsorted : s.history.Pairwise (fun a b => a.createdAt ≤ b.createdAt) := by
      cases steps with
      | nil => exact List.Pairwise.nil
      | cons first rest =>
          refine Store.run_history_chronological d _ {} first.1 List.Pairwise.nil
            (fun _ he => nomatch he) ?_
          rw [List.map_cons, List.isChain_cons_cons]
          exact ⟨Instant.le_refl _, hchain⟩
    rw [← Store.historyOf_eq_written hc hsorted]
    exact history_ok.mpr ⟨⟨g, hc.guide?_of_mem hg⟩, rfl, rfl⟩

end Waybill
