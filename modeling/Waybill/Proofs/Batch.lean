import Waybill.Proofs.Transaction
import Waybill.Console.Batch
/-!
Raw store calls keep every guide to at most one cancellation.  A batch runs the store's own
calls one after the other on a copy of the store, and publishes the copy only when it commits.
Of those calls only `insertCancellation` adds a cancellation, and it refuses a guide that already
has one; so whatever a batch asks for, committed or not, no guide ends up with two.
-/
namespace Waybill

/-- No two cancellations name one guide. -/
def Store.CancelledOnce (s : Store) : Prop := (s.cancellations.map Cancellation.guide).Nodup

/-- A store transaction that, whenever it succeeds, keeps `P` of the store. -/
def Tx.Keeps {α : Type} (P : Store → Prop) (tx : Tx α) : Prop :=
  ∀ s a s', P s → tx.run s = .ok (a, s') → P s'

namespace Tx.Keeps

variable {P : Store → Prop} {α β : Type}

theorem pure (a : α) : (Pure.pure a : Tx α).Keeps P := by
  intro s b s' hs h
  cases h
  exact hs

theorem get : (MonadState.get : Tx Store).Keeps P := by
  intro s b s' hs h
  cases h
  exact hs

theorem bind {x : Tx α} {f : α → Tx β} (hx : x.Keeps P) (hf : ∀ a, (f a).Keeps P) :
    (x >>= f).Keeps P := by
  intro s b s' hs h
  obtain ⟨a, s₁, h₁, h₂⟩ := Tx.bind_ok.mp h
  exact hf a s₁ b s' (hx s a s₁ hs h₁) h₂

/-- A transaction that leaves the cancellations alone keeps them one to a guide. -/
theorem of_cancellations {tx : Tx α}
    (h : ∀ s a s', tx.run s = .ok (a, s') → s'.cancellations = s.cancellations) :
    tx.Keeps Store.CancelledOnce := by
  intro s a s' hs hrun
  unfold Store.CancelledOnce
  rw [h s a s' hrun]
  exact hs

end Tx.Keeps

namespace Tx

theorem insertGuide_keeps (draft : GuideDraft) (moment : Instant) :
    (insertGuide draft moment).Keeps Store.CancelledOnce :=
  Keeps.of_cancellations fun s a s' h => by
    rw [insertGuide_run] at h
    cases h
    rfl

theorem updateGuide_keeps (g : Guide) : (updateGuide g).Keeps Store.CancelledOnce :=
  Keeps.of_cancellations fun _ _ _ h => by
    rw [(updateGuide_ok.mp h).2]
    rfl

theorem appendHistory_keeps (guide : Int) (state : GuideState) (user : Int) (note : String)
    (moment : Instant) : (appendHistory guide state user note moment).Keeps Store.CancelledOnce :=
  Keeps.of_cancellations fun s a s' h => by
    rw [appendHistory_run] at h
    cases h
    rfl

theorem insertIncident_keeps (guide kind : Int) (description : String) (reportedBy : Int)
    (moment : Instant) :
    (insertIncident guide kind description reportedBy moment).Keeps Store.CancelledOnce :=
  Keeps.of_cancellations fun s a s' h => by
    rw [insertIncident_run] at h
    cases h
    rfl

theorem updateIncident_keeps (i : Incident) : (updateIncident i).Keeps Store.CancelledOnce :=
  Keeps.of_cancellations fun _ _ _ h => by
    rw [(updateIncident_ok.mp h).2]
    rfl

/-- The one raw call that adds a cancellation refuses a guide that has one. -/
theorem insertCancellation_keeps (draft : CancellationDraft) :
    (insertCancellation draft).Keeps Store.CancelledOnce := by
  intro s c s' hs h
  obtain ⟨hfree, rfl, rfl⟩ := insertCancellation_ok.mp h
  have hnew : ∀ c ∈ s.cancellations, c.guide ≠ draft.guide := by
    simpa using hfree
  simpa [Store.CancelledOnce, List.nodup_append, CancellationDraft.toCancellation] using
    ⟨hs, hnew⟩

end Tx

namespace Batch

open Tx

/-- A batch call that keeps `P` of the working store. -/
def Call.Keeps (P : Store → Prop) : Call → Prop
  | .run tx => tx.Keeps P
  | .commit => True

theorem updateGuide_keeps (id : Int) (state : Option GuideState) (courier : Option Int)
    (observations : Option String) :
    (updateGuide id state courier observations).Keeps Store.CancelledOnce := by
  refine Keeps.bind Keeps.get fun s => ?_
  split
  · intro s₁ a s₂ _ h
    cases h
  · exact Keeps.bind (Tx.updateGuide_keeps _) fun _ => Keeps.pure _

theorem updateIncident_keeps (id : Int) (resolved : Option Bool) (resolution : Option String) :
    (updateIncident id resolved resolution).Keeps Store.CancelledOnce := by
  refine Keeps.bind Keeps.get fun s => ?_
  split
  · intro s₁ a s₂ _ h
    cases h
  · exact Keeps.bind (Tx.updateIncident_keeps _) fun _ => Keeps.pure _

theorem except_bind_ok {ε α β : Type} {x : Except ε α} {f : α → Except ε β} {b : β}
    (h : x >>= f = .ok b) : ∃ a, x = .ok a ∧ f a = .ok b := by
  cases x with
  | error e => cases h
  | ok a => exact ⟨a, rfl, h⟩

/-- Every call a batch reads is one of the store's own calls, or the commit: each keeps every
guide to at most one cancellation. -/
theorem readCall_keeps {now : Instant} {j : Json} {c : Call} (h : readCall now j = .ok c) :
    c.Keeps Store.CancelledOnce := by
  unfold readCall at h
  obtain ⟨op, -, h⟩ := except_bind_ok h
  split at h
  all_goals repeat (obtain ⟨_, -, h⟩ := except_bind_ok h)
  -- the reads and lookups
  case h_1 | h_2 | h_3 | h_7 | h_8 | h_13 | h_15 =>
    cases h
    exact Keeps.bind Keeps.get fun _ => Keeps.pure _
  case h_4 =>
    cases h
    exact Keeps.bind (insertGuide_keeps _ _) fun _ => Keeps.pure _
  case h_5 =>
    cases h
    exact updateGuide_keeps _ _ _ _
  case h_6 =>
    cases h
    exact Keeps.bind (appendHistory_keeps _ _ _ _ _) fun _ => Keeps.pure _
  case h_9 =>
    cases h
    exact Keeps.pure _
  case h_10 =>
    split at h
    cases h
    exact Keeps.bind Keeps.get fun _ => Keeps.pure _
  case h_11 =>
    cases h
    exact Keeps.bind (insertCancellation_keeps _) fun _ => Keeps.pure _
  case h_12 =>
    cases h
    exact Keeps.bind (insertIncident_keeps _ _ _ _ _) fun _ => Keeps.pure _
  case h_14 =>
    cases h
    exact updateIncident_keeps _ _ _
  case h_16 =>
    cases h
    trivial
  case h_17 => cases h

/-- Every call of a list read without a fault comes from one of the arguments. -/
theorem mem_of_mapM_ok {ε α β : Type} {f : α → Except ε β} :
    ∀ {l : List α} {bs : List β}, l.mapM f = .ok bs → ∀ b ∈ bs, ∃ a ∈ l, f a = .ok b
  | [], bs, h => by
      rw [List.mapM_nil] at h
      cases h
      simp
  | a :: l, bs, h => by
      rw [List.mapM_cons] at h
      obtain ⟨b, hb, h⟩ := except_bind_ok h
      obtain ⟨bs', hbs', h⟩ := except_bind_ok h
      cases h
      intro b' hb'
      rcases List.mem_cons.mp hb' with rfl | hb'
      · exact ⟨a, List.mem_cons_self, hb⟩
      · obtain ⟨a', ha', hfa'⟩ := mem_of_mapM_ok hbs' b' hb'
        exact ⟨a', List.mem_cons_of_mem _ ha', hfa'⟩

variable {P : Store → Prop}

/-- One call of a batch keeps `P` of the working copy and of what was published: a change writes
only the copy, the commit publishes a copy that has `P`, and a committed unit refuses the call. -/
theorem Call.unit_keeps {c : Call} (hc : c.Keeps P) {w w' : Work} {r : Except Fault Json}
    (hw : P w.working) (hp : ∀ p, w.published = some p → P p) (h : c.unit.runIn w = (r, w')) :
    P w'.working ∧ ∀ p, w'.published = some p → P p := by
  cases hpublished : w.published with
  | some q =>
    have hrefused : c.unit.runIn w = (.error (.internal "unit of work already committed"), w) := by
      cases c with
      | run tx => exact Uow.exec_runIn_closed tx hpublished
      | commit => simp only [Call.unit, Uow.runIn_bind, Uow.commit_runIn_closed hpublished]
    rw [hrefused] at h
    cases h
    exact ⟨hw, hp⟩
  | none =>
    cases c with
    | run tx =>
      rw [Call.unit, Uow.exec_runIn tx hpublished] at h
      cases hrun : tx.run w.working with
      | ok result =>
        rw [hrun] at h
        cases h
        exact ⟨hc _ _ _ hw hrun, hp⟩
      | error f =>
        rw [hrun] at h
        cases h
        exact ⟨hw, hp⟩
    | commit =>
      simp only [Call.unit, Uow.runIn_bind, Uow.commit_runIn hpublished, Uow.runIn_pure] at h
      cases h
      exact ⟨hw, fun p hp' => Option.some.inj hp' ▸ hw⟩

/-- Running calls that each keep `P` keeps it of the working copy and of what was published:
the induction follows `runCalls` call by call. -/
theorem runCalls_keeps :
    ∀ (calls : List Call) (w : Work) (answers : List Json), (∀ c ∈ calls, c.Keeps P) →
      P w.working → (∀ p, w.published = some p → P p) →
      P (runCalls calls w answers).1.working ∧
        ∀ p, (runCalls calls w answers).1.published = some p → P p
  | [], _, _, _, hw, hp => ⟨hw, hp⟩
  | c :: rest, w, answers, hcalls, hw, hp => by
      have hrest : ∀ c ∈ rest, c.Keeps P := fun c hc => hcalls c (List.mem_cons_of_mem _ hc)
      unfold runCalls
      rcases hstep : c.unit.runIn w with ⟨r, w'⟩
      obtain ⟨hw', hp'⟩ := Call.unit_keeps (hcalls c List.mem_cons_self) hw hp hstep
      cases r
      · exact runCalls_keeps rest w' _ hrest hw' hp'
      · exact runCalls_keeps rest w' _ hrest hw' hp'

/-- A batch of raw calls, committed or not, leaves every guide with at most one cancellation. -/
theorem run_cancelledOnce {now : Instant} {s s' : Store} {calls answers : List Json}
    (hs : s.CancelledOnce) (h : Batch.run now s calls = .ok (s', answers)) : s'.CancelledOnce := by
  unfold Batch.run at h
  obtain ⟨read, hread, h⟩ := except_bind_ok h
  have hkeeps : ∀ c ∈ read, c.Keeps Store.CancelledOnce := by
    intro c hc
    obtain ⟨j, -, hj⟩ := mem_of_mapM_ok hread c hc
    exact readCall_keeps hj
  obtain ⟨-, hpublished⟩ := runCalls_keeps read { working := s } [] hkeeps hs (by simp)
  cases hw : runCalls read { working := s } [] with
  | mk w answers' =>
      rw [hw] at h hpublished
      cases h
      cases hp : w.published with
      | none => simpa [hp] using hs
      | some p => simpa [hp] using hpublished p hp

end Batch

end Waybill
