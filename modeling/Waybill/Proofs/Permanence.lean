import Waybill.Proofs.Finality
import Waybill.Proofs.Incidents
/-!
What a guide keeps for good.  Its id, number, business, branch, price, recipient and creation
moment are written once, when it is registered; its pickup, delivery and cancellation dates are
stamped by the first arrival only; its observations grow by stamped lines and are never cut; and
no call removes a guide.  So a guide that was once picked up keeps its pickup date through every
later reassignment, refusal and incident, and every cancel of it is refused for that date, whatever
state it is in again.
-/
namespace Waybill

open Service

/-- A trail of observations that only grows: once there is one it stays, and a trail with
something besides blanks stays at the front of every later one. -/
structure Trail.Grows (old new : Option String) : Prop where
  kept : old.isSome = true → new.isSome = true
  front : ∀ o, old = some o → isBlankText o = false → ∃ rest, new = some (o ++ rest)

namespace Trail.Grows

theorem refl (trail : Option String) : Trail.Grows trail trail :=
  ⟨id, fun o ho _ => ⟨"", by simp [ho]⟩⟩

/-- Text with something besides blanks keeps it whatever follows. -/
theorem not_blank_append {o : String} (ho : isBlankText o = false) (rest : String) :
    isBlankText (o ++ rest) = false := by
  simp only [isBlankText, String.toList_append, List.all_append, Bool.and_eq_false_iff] at ho ⊢
  exact Or.inl ho

theorem trans {a b c : Option String} (hab : Trail.Grows a b) (hbc : Trail.Grows b c) :
    Trail.Grows a c := by
  refine ⟨fun ha => hbc.kept (hab.kept ha), fun o ho hblank => ?_⟩
  obtain ⟨rest, hb⟩ := hab.front o ho hblank
  obtain ⟨rest', hc⟩ := hbc.front (o ++ rest) hb (not_blank_append hblank rest)
  exact ⟨rest ++ rest', by rw [hc, String.append_assoc]⟩

/-- One more stamped line follows a trail with something besides blanks, and replaces one without. -/
theorem extendTrail (existing : Option String) (label note : String) (moment : Instant) :
    Trail.Grows existing (some (Guide.extendTrail existing label note moment)) := by
  refine ⟨fun _ => rfl, fun o ho hblank => ?_⟩
  subst ho
  exact ⟨"\n" ++ ("[" ++ moment.minuteStamp ++ "] " ++ label ++ ": " ++ note),
    by simp [Guide.extendTrail, hblank, String.append_assoc]⟩

/-- A cancellation's reason and notes only add to the trail. -/
theorem cancelTrail (existing : Option String) (reason : String) (notes : Option String)
    (moment : Instant) :
    Trail.Grows existing (some (Guide.cancelTrail existing reason notes moment)) := by
  have hfirst := extendTrail existing "Cancelación" reason moment
  cases notes with
  | none => exact hfirst
  | some n => exact hfirst.trans (extendTrail _ "Notas de cancelación" n moment)

end Trail.Grows

/-- What a guide keeps from one moment of its life to any later one: what identifies it, its price,
its recipient and its creation moment stay; its pickup, delivery and cancellation dates stay once
set; and its observations only grow. -/
structure Guide.Retains (g g' : Guide) : Prop where
  id : g'.id = g.id
  number : g'.number = g.number
  business : g'.business = g.business
  branch : g'.branch = g.branch
  basePrice : g'.basePrice = g.basePrice
  recipient : g'.recipient = g.recipient
  createdAt : g'.createdAt = g.createdAt
  pickedUpAt : ∀ t, g.pickedUpAt = some t → g'.pickedUpAt = some t
  deliveredAt : ∀ t, g.deliveredAt = some t → g'.deliveredAt = some t
  cancelledAt : ∀ t, g.cancelledAt = some t → g'.cancelledAt = some t
  observations : Trail.Grows g.observations g'.observations

namespace Guide.Retains

theorem refl (g : Guide) : g.Retains g :=
  ⟨rfl, rfl, rfl, rfl, rfl, rfl, rfl, fun _ h => h, fun _ h => h, fun _ h => h, .refl _⟩

theorem trans {g g' g'' : Guide} (h₁ : g.Retains g') (h₂ : g'.Retains g'') : g.Retains g'' where
  id := h₂.id.trans h₁.id
  number := h₂.number.trans h₁.number
  business := h₂.business.trans h₁.business
  branch := h₂.branch.trans h₁.branch
  basePrice := h₂.basePrice.trans h₁.basePrice
  recipient := h₂.recipient.trans h₁.recipient
  createdAt := h₂.createdAt.trans h₁.createdAt
  pickedUpAt t ht := h₂.pickedUpAt t (h₁.pickedUpAt t ht)
  deliveredAt t ht := h₂.deliveredAt t (h₁.deliveredAt t ht)
  cancelledAt t ht := h₂.cancelledAt t (h₁.cancelledAt t ht)
  observations := h₁.observations.trans h₂.observations

end Guide.Retains

/-- An arrival keeps a guide's record: it stamps a date only where none was set. -/
theorem Guide.retains_arrival (g : Guide) (target : GuideState) (moment : Instant) :
    g.Retains (arrival g target moment) where
  id := by simp
  number := by simp
  business := by simp
  branch := by simp
  basePrice := by simp
  recipient := by simp
  createdAt := by simp
  pickedUpAt t ht := by simp [ht]
  deliveredAt t ht := by simp [ht]
  cancelledAt t ht := by simp [ht]
  observations := by simpa using .refl _

/-- Handing a guide over changes who holds it, at what commission and whether it was accepted,
and keeps its record. -/
theorem Guide.retains_handOver (g : Guide) (courier coordinator : Int) (commission : Decimal) :
    g.Retains (handOver g courier coordinator commission) :=
  ⟨rfl, rfl, rfl, rfl, rfl, rfl, rfl, fun _ h => h, fun _ h => h, fun _ h => h, .refl _⟩

/-- Every way a call rewrites a guide keeps its record.  The one call that touches the
observations is a cancellation, and it only adds its reason and notes to them. -/
theorem Rewrites.retains {now : Instant} {op : Operation} {g g' : Guide}
    (hr : Rewrites now op g g') : g.Retains g' := by
  cases hr with
  | accept | resolveStay | resolveStayHanded =>
      exact ⟨rfl, rfl, rfl, rfl, rfl, rfl, rfl, fun _ h => h, fun _ h => h, fun _ h => h, .refl _⟩
  | assign c k x | reassign c k x | resolveReturnHanded c k x =>
      exact (g.retains_handOver c k x).trans (Guide.retains_arrival _ _ _)
  | reject =>
      refine Guide.Retains.trans ?_ (Guide.retains_arrival _ _ _)
      exact ⟨rfl, rfl, rfl, rfl, rfl, rfl, rfl, fun _ h => h, fun _ h => h, fun _ h => h, .refl _⟩
  | cancel observations _ _ htrail =>
      obtain ⟨text, notes, rfl⟩ := htrail
      -- the cancellation first writes its trail, and then the guide arrives in cancelled
      refine Guide.Retains.trans ?_ (Guide.retains_arrival _ _ _)
      exact ⟨rfl, rfl, rfl, rfl, rfl, rfl, rfl, fun _ h => h, fun _ h => h, fun _ h => h,
        .cancelTrail _ _ _ _⟩
  | _ => exact Guide.retains_arrival _ _ _

namespace Store

variable {d : Directory}

/-- One call keeps every stored guide, and keeps its record. -/
theorem after_retains (now : Instant) (op : Operation) {s : Store} {id : Int} {g : Guide}
    (hg : s.guide? id = some g) : ∃ g', (s.after d now op).guide? id = some g' ∧ g.Retains g' := by
  rcases after_guide? d now op hg with hsame | ⟨g', hr, hg'⟩
  · exact ⟨g, hsame, .refl g⟩
  · exact ⟨g', hg', hr.rewrites.retains⟩

/-- The run lemma: along any run every stored guide stays stored and keeps its record. -/
theorem run_retains (d : Directory) :
    ∀ (steps : List (Instant × Operation)) {s : Store} {id : Int} {g : Guide},
      s.guide? id = some g → ∃ g', (s.run d steps).guide? id = some g' ∧ g.Retains g'
  | [], _, _, g, hg => ⟨g, hg, .refl g⟩
  | (now, op) :: rest, _, _, _, hg => by
    obtain ⟨g₁, hg₁, h₁⟩ := after_retains (d := d) now op hg
    obtain ⟨g₂, hg₂, h₂⟩ := run_retains d rest hg₁
    exact ⟨g₂, hg₂, h₁.trans h₂⟩

/-- A guide of a consistent, coherent store with a pickup date has no cancellation: a cancelled
guide was never picked up, and only cancelled guides are named by a cancellation. -/
theorem cancellationOf?_of_picked {s : Store} (hc : s.Consistent) (hco : s.Coherent) {g : Guide}
    (hg : g ∈ s.guides) (hpicked : g.pickedUpAt.isSome = true) : s.cancellationOf? g.id = none := by
  have hlive : g.state ≠ .cancelled := fun hcancelled => by
    simp [(hco g hg).cancelled_unpicked hcancelled] at hpicked
  unfold cancellationOf?
  rw [List.find?_eq_none]
  intro c hc' hnamed
  exact hlive ((hc.cancelled_iff g hg).mpr
    (List.mem_map.mpr ⟨c, hc', by simpa using hnamed⟩))

end Store

/-- A cancel of a stored guide that has no cancellation but has a pickup date is refused for the
pickup, before any other check on the guide. -/
theorem cancel_after_pickup {env : Env} {gid kind user : Int} {reason : String}
    {notes : Option String} {s : Store} {g : Guide} (hg : s.guide? gid = some g)
    (hfree : s.cancellationOf? g.id = none) (hpicked : g.pickedUpAt.isSome = true) :
    (cancel env gid kind reason user notes).run s = .error (.cancelAfterPickup g.id) := by
  simp [cancel, StateT.run_bind, Tx.loadGuide_run, hg, Tx.except_ok_bind, Tx.except_error_bind,
    hfree, hpicked]

/-- What a guide keeps for good, along every run.  Take a guide of a store a run leaves.  Along any
further run it stays stored; its id, number, business, branch, base price, recipient and creation
moment never change; its pickup, delivery and cancellation dates never change once set; and its
observations only grow, with what they held, when not blank, kept at their front.  So once a guide
is picked up, every later cancel of it is refused as cancelled after pickup, whatever state it is in
again (created or assigned, after an incident, a reassignment and a refusal), and it never reaches
cancelled. -/
theorem guides_keep_their_record (d : Directory) (steps more : List (Instant × Operation))
    {g : Guide} (hg : g ∈ (Store.run d {} steps).guides) :
    let s := (Store.run d {} steps).run d more
    (∃ g', s.guide? g.id = some g' ∧ g.Retains g') ∧
    (g.state = .pickedUp → ∃ g', s.guide? g.id = some g' ∧ g'.state ≠ .cancelled ∧
      ∀ (now : Instant) (kind user : Int) (reason : String) (notes : Option String),
        ((Operation.cancel g.id kind reason user notes).perform ⟨d, now⟩).run s =
          .error (.cancelAfterPickup g.id)) := by
  intro s
  have hstored : (Store.run d {} steps).guide? g.id = some g :=
    (Store.run_consistent d steps).guide?_of_mem hg
  obtain ⟨g', hg', hkeeps⟩ := Store.run_retains d more hstored
  refine ⟨⟨g', hg', hkeeps⟩, fun hpickedUp => ⟨g', hg', ?_⟩⟩
  -- the store reached is itself reached from the empty store, so it is consistent and coherent
  have hc := Store.run_consistent d (steps ++ more)
  have hco := Store.coherent_preserved.run d (steps ++ more) Store.coherent_empty
  rw [Store.run_append] at hc hco
  have hg'mem : g' ∈ s.guides := (Store.guide?_some hg').1
  -- the pickup stamped a date, and the date stays
  obtain ⟨t, ht⟩ := Option.isSome_iff_exists.mp
    ((Store.coherent_preserved.run d steps Store.coherent_empty g hg).carried
      (Or.inl hpickedUp)).1
  have hpicked : g'.pickedUpAt.isSome = true := by simp [hkeeps.pickedUpAt t ht]
  refine ⟨fun hcancelled => ?_, fun now kind user reason notes => ?_⟩
  · simp [(hco g' hg'mem).cancelled_unpicked hcancelled] at hpicked
  · have hfree := Store.cancellationOf?_of_picked hc hco hg'mem hpicked
    simp only [Operation.perform]
    rw [Tx.discard_error, cancel_after_pickup hg' hfree hpicked, hkeeps.id]

/-- A guide registered, assigned, accepted and picked up. -/
def pickedRun : List (Instant × Operation) :=
  [(⟨1700000000, 0⟩, .create ⟨11, 1, Decimal.hundred,
      ⟨"Ana", "3001234567", "Calle 1", "Cali", "Valle"⟩, none⟩ 2),
    (⟨1700000100, 0⟩, .assign 1 7 2 none),
    (⟨1700000200, 0⟩, .accept 1 7 none),
    (⟨1700000300, 0⟩, .pickUp 1 7 none)]

/-- The picked-up guide held by an incident, which is resolved with the delivery rescheduled, so the
guide is assigned again. -/
def reassignedAfterPickup : List (Instant × Operation) :=
  [(⟨1700000400, 0⟩, .report 1 1 "Portería cerrada" 7),
    (⟨1700000500, 0⟩, .resolve 1 ⟨"Nueva cita", none, true⟩ 2)]

set_option maxRecDepth 20000 in
/-- The guide is picked up; once it is assigned again, every cancel of it is refused for the
pickup. -/
theorem picked_guide_cancel_refused :
    let g := (Store.run heldDirectory {} pickedRun).guides.head (by decide)
    g.state = .pickedUp ∧
      ∀ (now : Instant) (kind user : Int) (reason : String) (notes : Option String),
        ((Operation.cancel g.id kind reason user notes).perform ⟨heldDirectory, now⟩).run
            ((Store.run heldDirectory {} pickedRun).run heldDirectory reassignedAfterPickup) =
          .error (.cancelAfterPickup g.id) := by
  intro g
  have hpicked : g.state = .pickedUp := by decide
  obtain ⟨-, -, -, hrefused⟩ := (guides_keep_their_record heldDirectory pickedRun
    reassignedAfterPickup (List.head_mem _)).2 hpicked
  exact ⟨hpicked, hrefused⟩

end Waybill
