import Waybill.Proofs.Gate
/-!
Who may do what to a guide.  Every call but a read is made by a user, and a call that succeeds
was made by a user entitled to it: accepting or refusing an assignment, picking a guide up,
setting out and delivering are done by the courier who holds the guide; handing a guide to a
courier is done by an active coordinator or administrator, who becomes the guide's coordinator;
a guide loses its courier only when that courier refuses it; and the history line a call writes
names the user who made it.  None of this depends on how the store was reached, so it holds at
every step of every run.
-/
namespace Waybill

open Service

/-- Whether the call is one only the courier holding the guide may make: accepting or refusing
the assignment, picking the guide up, setting out, delivering. -/
def Operation.byHolder : Operation → Bool
  | .accept .. | .reject .. | .pickUp .. | .setOut .. | .deliver .. => true
  | _ => false

/-- A rewrite by a call only the holder may make found the guide with the calling courier. -/
theorem Rewrites.held_by_actor {now : Instant} {op : Operation} {g g' : Guide}
    (hr : Rewrites now op g g') (hholder : op.byHolder = true) :
    ∃ c, op.actor = some c ∧ g.courier = some c := by
  cases hr <;> simp_all [Operation.byHolder, Operation.actor]

/-- Only a refusal takes a guide's courier away, and it names the courier that held the guide.
Every other rewrite keeps the courier, or hands the guide to a new one. -/
theorem Rewrites.courier_cleared {now : Instant} {op : Operation} {g g' : Guide}
    (hr : Rewrites now op g g') (hheld : g.courier.isSome = true) (hcleared : g'.courier = none) :
    ∃ guide courier reason, op = .reject guide courier reason ∧ g.courier = some courier := by
  cases hr
  case reject guide courier reason _ hheld' _ => exact ⟨guide, courier, reason, rfl, hheld'⟩
  all_goals simp_all

section Calls

variable {d : Directory} {now : Instant} {op : Operation} {s s' : Store} {u : Int}

/-- A call only the holder may make succeeds only on a stored guide the caller holds. -/
theorem byHolder_ok (hu : op.actor = some u) (hholder : op.byHolder = true)
    (hok : (op.perform ⟨d, now⟩).run s = .ok ((), s')) :
    ∃ g, op.subject s = some g.id ∧ s.guide? g.id = some g ∧ g.courier = some u := by
  have hcreate : ∀ request user, op ≠ .create request user := by
    rintro request user rfl
    simp [Operation.byHolder] at hholder
  have hread : op.isRead = false := by
    cases op <;> simp_all [Operation.byHolder, Operation.isRead]
  obtain ⟨g, g', hr⟩ := perform_ok_rewrote hcreate hread hok
  obtain ⟨c, hc, hcourier⟩ := hr.rewrites.held_by_actor hholder
  rw [hu, Option.some.injEq] at hc
  exact ⟨g, hr.subject, hr.stored, hc ▸ hcourier⟩

/-- A call that takes a stored guide's courier away is that courier's refusal of the guide. -/
theorem courier_cleared_ok (hu : op.actor = some u)
    (hok : (op.perform ⟨d, now⟩).run s = .ok ((), s')) {id : Int} {g g' : Guide}
    (hg : s.guide? id = some g) (hg' : s'.guide? id = some g') (hheld : g.courier.isSome = true)
    (hcleared : g'.courier = none) :
    ∃ reason, op = .reject id u reason ∧ g.courier = some u := by
  rw [← Store.after_of_ok hok] at hg'
  rcases Store.after_guide? d now op hg with hsame | ⟨g'', hr, hg''⟩
  · -- the guide is as it was, so it still has its courier
    rw [hsame, Option.some.injEq] at hg'
    subst hg'
    simp [hcleared] at hheld
  · rw [hg'', Option.some.injEq] at hg'
    subst hg'
    obtain ⟨guide, courier, reason, rfl, hcourier⟩ := hr.rewrites.courier_cleared hheld hcleared
    have hsubject := hr.subject
    simp only [Operation.subject, Option.some.injEq] at hsubject
    simp only [Operation.actor, Option.some.injEq] at hu
    obtain ⟨-, hid⟩ := Store.guide?_some hg
    subst hu
    exact ⟨reason, by rw [hsubject, hid], hcourier⟩

/-- A call made by a user that succeeds writes one history line, in that user's name. -/
theorem history_by_actor (hu : op.actor = some u) (hok : (op.perform ⟨d, now⟩).run s = .ok ((), s')) :
    ∃ e : HistoryEntry, s'.history = s.history ++ [e] ∧ e.user = u := by
  rcases perform_ok_shape hok with ⟨hread, -⟩ | ⟨-, ⟨⟨request, user, rfl⟩, -⟩ | ⟨g, g', hr⟩⟩
  · -- reads are made by nobody
    cases op <;> simp [Operation.isRead, Operation.actor] at hread hu
  · simp only [Operation.perform] at hok
    obtain ⟨_, hrun⟩ := Tx.discard_ok.mp hok
    obtain ⟨draft, -, -, note, rfl⟩ := create_ok hrun
    simp only [Operation.actor, Option.some.injEq] at hu
    exact ⟨_, rfl, hu⟩
  · obtain ⟨user, note, hactor, hhistory⟩ := hr.history
    rw [hu, Option.some.injEq] at hactor
    exact ⟨_, hhistory, hactor.symm⟩

end Calls

/-- Authority over every call.  Take any store, in particular any store a run reaches, and any
call made by user `u` that succeeds on it.  (a) If only the holder may make it (accepting or
refusing the assignment, picking up, setting out, delivering), the guide it works on was stored
with courier `u`.  (b) If it hands the guide to a courier `c` (assigning, reassigning, resolving an
incident with a new courier), `u` exists, is active and is a coordinator or an administrator, and
the guide is stored with courier `c` and coordinator `u`.  (c) If it takes a stored guide's
courier away, it is the refusal of that guide by `u`, who held it.  (d) It writes exactly one
history line, in the name of `u`. -/
theorem successful_calls_respect_authority (d : Directory) (now : Instant) (op : Operation)
    (s s' : Store) {u : Int} (hu : op.actor = some u)
    (hok : (op.perform ⟨d, now⟩).run s = .ok ((), s')) :
    (op.byHolder = true →
      ∃ g, op.subject s = some g.id ∧ s.guide? g.id = some g ∧ g.courier = some u) ∧
    (∀ c, op.handsTo = some c → d.Coordinates u ∧
      ∃ id g', op.subject s = some id ∧ s'.guide? id = some g' ∧ g'.courier = some c ∧
        g'.coordinator = some u) ∧
    (∀ id g g', s.guide? id = some g → s'.guide? id = some g' → g.courier.isSome = true →
      g'.courier = none → ∃ reason, op = .reject id u reason ∧ g.courier = some u) ∧
    ∃ e : HistoryEntry, s'.history = s.history ++ [e] ∧ e.user = u := by
  refine ⟨fun hholder => byHolder_ok hu hholder hok, fun c hc => ?_,
    fun id g g' hg hg' hheld hcleared => courier_cleared_ok hu hok hg hg' hheld hcleared,
    history_by_actor hu hok⟩
  obtain ⟨id, hsubject, g, g', x, -, hg', hadmitted, hhanded⟩ := handsTo_ok hu hc hok
  exact ⟨hadmitted.coordinates, id, g', hsubject, hg', hhanded.courier_eq, hhanded.coordinator_eq⟩

/-- The coordinator who assigns the guide may coordinate, and the history line of the assignment
is written in the coordinator's name. -/
theorem coordinator_assignment_authorised :
    twoCouriersDirectory.Coordinates 2 ∧ ∃ e : HistoryEntry,
      (oneGuideStore.after twoCouriersDirectory ⟨1700000000, 0⟩ (.assign 1 7 2 none)).history =
        oneGuideStore.history ++ [e] ∧ e.user = 2 :=
  have h := successful_calls_respect_authority twoCouriersDirectory ⟨1700000000, 0⟩
    (.assign 1 7 2 none) oneGuideStore
    (oneGuideStore.after twoCouriersDirectory ⟨1700000000, 0⟩ (.assign 1 7 2 none)) rfl (by rfl)
  ⟨(h.2.1 7 rfl).1, h.2.2.2⟩

end Waybill
