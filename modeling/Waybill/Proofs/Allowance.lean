import Waybill.Proofs.Edges
import Waybill.Proofs.Calendar
/-!
Free cancellations.  A business's loyalty level grants it a number of free cancellations a month;
every cancellation the business asks for itself while some are left costs nothing, and each one
after that charges the level's penalty percentage of the guide's commission, which is paid on to
the courier.  A customer's cancellation charges nothing, pays the courier the whole commission and
is not counted.  The store is locked for the whole cancellation, so cancellations that arrive
together are counted one after the other: along any order of them, the first ones, as many as the
allowance has left, are free and the others are not.
-/
namespace Waybill

open Service

namespace Money

/-- The free cancellations a month a loyalty level grants: never negative, none without a level. -/
def allowance (level : Option LoyaltyLevel) : Int :=
  match level with
  | some l => max l.freeCancellations 0
  | none => 0

/-- The share of the commission a loyalty level charges for a business's own cancellation, nothing
without a level. -/
def penaltyRate (level : Option LoyaltyLevel) : Decimal :=
  match level with
  | some l => l.penalty
  | none => 0

/-- What a business's own cancellation past its allowance charges: the level's penalty rate of the
commission, charged to the business and paid on to the courier alike. -/
def charge (commission : Decimal) (level : Option LoyaltyLevel) : Except Fault Penalty :=
  match percentOf commission (penaltyRate level) with
  | .ok v => .ok ⟨v, v, false⟩
  | .error e => .error e

theorem penalty_customer (commission : Decimal) (level : Option LoyaltyLevel) (used : Int) :
    penalty commission .customer level used = .ok ⟨0, commission, false⟩ := rfl

/-- A business's own cancellation is free while it made fewer than its allowance; after that it
charges the penalty rate of the commission, and the courier is paid the same. -/
theorem penalty_business_ok {commission : Decimal} {level : Option LoyaltyLevel} {used : Int}
    {p : Penalty} :
    penalty commission .business level used = .ok p ↔
      (used < allowance level ∧ p = ⟨0, 0, true⟩) ∨
      (allowance level ≤ used ∧ ∃ v, percentOf commission (penaltyRate level) = .ok v ∧
        p = ⟨v, v, false⟩) := by
  have hsplit : penalty commission .business level used =
      if allowance level ≤ used then charge commission level else .ok ⟨0, 0, true⟩ := by
    cases level <;> rfl
  rw [hsplit]
  by_cases hused : allowance level ≤ used
  · cases hv : percentOf commission (penaltyRate level) with
    | error e =>
        simp only [hused, ↓reduceIte, charge, hv, reduceCtorEq, false_iff]
        -- no free cancellation is left, and the penalty cannot be computed
        rintro (⟨hlt, -⟩ | ⟨-, v, hv', -⟩)
        · omega
        · cases hv'
    | ok v =>
        simp only [hused, ↓reduceIte, charge, hv, Except.ok.injEq, true_and]
        constructor
        · intro h
          exact Or.inr ⟨v, rfl, h.symm⟩
        · rintro (⟨hlt, -⟩ | ⟨w, hw, rfl⟩)
          · omega
          · cases hw
            rfl
  · simp only [hused, ↓reduceIte, Except.ok.injEq, false_and, or_false]
    constructor
    · intro h
      exact ⟨by omega, h.symm⟩
    · rintro ⟨-, rfl⟩
      rfl

end Money

namespace Cancellation

/-- What the penalty rule stores in cancellation `c` of a guide with commission `commission`, for a
business of loyalty level `level` that made `used` cancellations of its own in the month window.  A
customer's cancellation charges nothing and pays the courier the commission.  A business's own is
free while `used` is below the allowance, and otherwise charges the level's percentage of the
commission and pays the courier the same. -/
def Priced (c : Cancellation) (commission : Decimal) (level : Option LoyaltyLevel) (used : Nat) :
    Prop :=
  match c.initiator with
  | .customer => c.charged = 0 ∧ c.courierPayment = commission
  | .business =>
      ((used : Int) < Money.allowance level ∧ c.charged = 0 ∧ c.courierPayment = 0) ∨
      (Money.allowance level ≤ used ∧
        Money.percentOf commission (Money.penaltyRate level) = .ok c.charged ∧
        c.courierPayment = c.charged)

theorem priced_of_penalty {c : Cancellation} {commission : Decimal} {level : Option LoyaltyLevel}
    {used : Nat} {free : Bool}
    (h : Money.penalty commission c.initiator level used = .ok ⟨c.charged, c.courierPayment, free⟩) :
    c.Priced commission level used := by
  unfold Priced
  cases hi : c.initiator with
  | customer =>
      simp only [hi, Money.penalty_customer, Except.ok.injEq, Money.Penalty.mk.injEq] at h
      exact ⟨h.1.symm, h.2.1.symm⟩
  | business =>
      rw [hi, Money.penalty_business_ok] at h
      simp only [Money.Penalty.mk.injEq] at h
      rcases h with ⟨hlt, hcharged, hpaid, -⟩ | ⟨hle, v, hv, hcharged, hpaid, -⟩
      · exact Or.inl ⟨hlt, hcharged, hpaid⟩
      · exact Or.inr ⟨hle, hcharged ▸ hv, hpaid.trans hcharged.symm⟩

end Cancellation

namespace Store

/-- The cancellations a business asked for itself in the month window of `now`: the count a
cancellation at `now` checks against the allowance. -/
def usedThisMonth (s : Store) (business : Int) (now : Instant) : Nat :=
  s.businessCancellations business (Instant.monthBounds now).1 (Instant.monthBounds now).2

/-- The cancellations a business asked for itself that were made in the UTC calendar month of
`now`. -/
def ownCancellationsInMonth (s : Store) (business : Int) (now : Instant) : Nat :=
  (s.cancellations.filter fun c =>
    c.business == business && c.initiator == .business &&
      (c.createdAt.date.year == now.date.year && c.createdAt.date.month == now.date.month)).length

/-- The window count is the calendar count, when the month and the next begin within the
supported years. -/
theorem usedThisMonth_eq_calendar {now : Instant} (hstart : now.date.monthStart.isValid = true)
    (hnext : now.date.nextMonthStart.isValid = true) (s : Store) (business : Int) :
    s.usedThisMonth business now = s.ownCancellationsInMonth business now := by
  unfold usedThisMonth businessCancellations ownCancellationsInMonth
  congr 1
  apply List.filter_congr
  intro c _
  have hwindow := Instant.mem_monthBounds_iff hstart hnext c.createdAt
  rw [Bool.eq_iff_iff]
  simp only [Bool.and_eq_true, decide_eq_true_eq, beq_iff_eq, and_assoc, hwindow]

/-- One more cancellation adds one to the count of a window exactly when the business asked for
it itself, for business `b`, at a moment in the window. -/
theorem businessCancellations_of_append {s s' : Store} {c : Cancellation}
    (h : s'.cancellations = s.cancellations ++ [c]) (b : Int) (start finish : Instant) :
    s'.businessCancellations b start finish = s.businessCancellations b start finish +
      if c.business = b ∧ c.initiator = .business ∧ start ≤ c.createdAt ∧ c.createdAt < finish
      then 1 else 0 := by
  unfold businessCancellations
  rw [h, List.filter_append, List.length_append]
  congr 1
  simp only [List.filter_cons, List.filter_nil, Bool.and_eq_true, decide_eq_true_eq, beq_iff_eq,
    and_assoc]
  split <;> simp_all

/-- A call keeps the business of every stored guide: the guide of each id it finds is still
found, of the same business. -/
theorem after_keeps_business (d : Directory) (s : Store) (now : Instant) (op : Operation)
    {id : Int} {g : Guide} (hg : s.guide? id = some g) :
    ∃ g', (s.after d now op).guide? id = some g' ∧ g'.business = g.business := by
  rcases after_shape d s now op with hsame | ⟨-, draft, -, user, note, hafter⟩ | ⟨g₀, g₀', hr⟩
  · exact ⟨g, by rw [hsame, hg], rfl⟩
  · -- a registered guide goes behind every guide already stored
    refine ⟨g, ?_, rfl⟩
    rw [hafter]
    unfold guide? at hg ⊢
    rw [withEntry_guides, List.find?_append, hg]
    rfl
  · obtain ⟨-, -, hbusiness⟩ := hr.rewrites.keeps
    rw [hr.guide?_eq]
    by_cases hsame : id = g₀.id
    · -- the rewritten guide is the one found before, under its business
      rw [if_pos hsame]
      rw [hsame, hr.stored] at hg
      cases hg
      exact ⟨g₀', rfl, hbusiness⟩
    · rw [if_neg hsame]
      exact ⟨g, hg, rfl⟩

end Store

/-- What a successful cancellation stores, read off the store it ran on: one cancellation of the
guide's business, made at the call's moment, that carries who asked for it and what the penalty
rule gives for the business's own cancellations in the month window of the call.  It adds one to
the count of a window exactly when the business asked for it itself, at a moment of the window. -/
theorem cancel_records {d : Directory} {s : Store} {now : Instant} {gid kindId : Int}
    {reason : String} {user : Int} {notes : Option String}
    (h : (Operation.cancel gid kindId reason user notes).succeeds d now s = true) :
    ∃ g kind c, s.guide? gid = some g ∧ d.cancellationKind? kindId = some kind ∧
      (s.after d now (.cancel gid kindId reason user notes)).cancellations =
        s.cancellations ++ [c] ∧
      c.business = g.business ∧ c.initiator = kind.initiator ∧ c.createdAt = now ∧
      c.Priced (g.commission.getD 0) (d.levelOf? g.business) (s.usedThisMonth g.business now) ∧
      ∀ b start finish,
        (s.after d now (.cancel gid kindId reason user notes)).businessCancellations b start finish =
          s.businessCancellations b start finish +
            if c.business = b ∧ c.initiator = .business ∧ start ≤ now ∧ now < finish then 1 else 0 := by
  obtain ⟨s', hrun⟩ := Operation.succeeds_iff.mp h
  rw [Store.after_of_ok hrun]
  obtain ⟨_, hcancel⟩ := Tx.discard_ok.mp hrun
  obtain ⟨g, hg, -, -, -, draft, -, hbusiness, hat, ⟨kind, penalty, hkind, hinitiator, hpenalty,
    hcharged, hpaid⟩, text, -, note, rfl⟩ := cancel_ok hcancel
  refine ⟨g, kind, draft.toCancellation (s.cancellations.length + 1), hg, hkind, rfl, hbusiness,
    hinitiator, hat, ?_, fun b start finish => ?_⟩
  · apply Cancellation.priced_of_penalty
    simp only [CancellationDraft.toCancellation, hcharged, hpaid, hinitiator]
    exact hpenalty
  · rw [Store.businessCancellations_of_append rfl]
    simp only [CancellationDraft.toCancellation, hat]

/-- A cancellation, asked for by business `b` itself, of a guide of `b` stored in `s`. -/
def Operation.cancelsFor (d : Directory) (s : Store) (b : Int) : Operation → Bool
  | .cancel gid kindId _ _ _ =>
      (s.guide? gid).any (·.business == b) &&
        (d.cancellationKind? kindId).any (·.initiator == .business)
  | _ => false

/-- Guides keep their business, so a cancellation for `b` stays one after any call. -/
theorem Operation.cancelsFor_after {d : Directory} {s : Store} {b : Int} {op : Operation}
    (hfor : op.cancelsFor d s b = true) (now : Instant) (op' : Operation) :
    op.cancelsFor d (s.after d now op') b = true := by
  cases op
  case cancel gid kindId reason user notes =>
    simp only [cancelsFor, Bool.and_eq_true, Option.any_eq_true, beq_iff_eq] at hfor ⊢
    obtain ⟨⟨g, hg, hb⟩, hkind⟩ := hfor
    obtain ⟨g', hg', hb'⟩ := Store.after_keeps_business d s now op' hg
    exact ⟨⟨g', hg', hb'.trans hb⟩, hkind⟩
  all_goals simp [cancelsFor] at hfor

/-- A successful cancellation for `b`, made at a moment of window `w`, adds one to the count of
`b`'s own cancellations in `w`. -/
theorem cancel_counts {d : Directory} {s : Store} {now : Instant} {op : Operation} {b : Int}
    {w : Instant × Instant} (hfor : op.cancelsFor d s b = true) (hok : op.succeeds d now s = true)
    (hin : w.1 ≤ now ∧ now < w.2) :
    (s.after d now op).businessCancellations b w.1 w.2 = s.businessCancellations b w.1 w.2 + 1 := by
  cases op
  case cancel gid kindId reason user notes =>
    simp only [Operation.cancelsFor, Bool.and_eq_true, Option.any_eq_true, beq_iff_eq] at hfor
    obtain ⟨⟨g₀, hg₀, hb⟩, kind₀, hkind₀, hinit⟩ := hfor
    obtain ⟨g, kind, c, hg, hkind, -, hbusiness, hinitiator, -, -, hcount⟩ := cancel_records hok
    -- the guide and the kind the call found are the ones the hypothesis names
    have hgg : g = g₀ := Option.some.inj (hg.symm.trans hg₀)
    have hkk : kind = kind₀ := Option.some.inj (hkind.symm.trans hkind₀)
    subst hgg hkk
    rw [hcount, if_pos ⟨hbusiness.trans hb, hinitiator.trans hinit, hin⟩]
  all_goals simp [Operation.cancelsFor] at hfor

namespace Store

/-- The count `usedThisMonth` of business `b` just before each call of a run: what the penalty
rule of each cancellation along the run reads. -/
def usedAlong (d : Directory) (b : Int) : Store → List (Instant × Operation) → List Nat
  | _, [] => []
  | s, (now, op) :: rest => s.usedThisMonth b now :: usedAlong d b (s.after d now op) rest

/-- Successful cancellations for `b`, all made at moments of one month window `w`, read the counts
`u, u + 1, …` one after the other, whatever their order, and leave the window holding `u + n`. -/
theorem usedAlong_of_cancels {d : Directory} {b : Int} {w : Instant × Instant}
    {steps : List (Instant × Operation)} :
    ∀ {s : Store}, (∀ step ∈ steps, step.2.cancelsFor d s b = true) →
      (∀ step ∈ steps, Instant.monthBounds step.1 = w ∧ w.1 ≤ step.1 ∧ step.1 < w.2) →
      s.allSucceed d steps = true →
      s.usedAlong d b steps = List.range' (s.businessCancellations b w.1 w.2) steps.length ∧
        (s.run d steps).businessCancellations b w.1 w.2 =
          s.businessCancellations b w.1 w.2 + steps.length := by
  -- induction on the run; the cancellations keep naming guides of `b` in the stores it passes
  induction steps with
  | nil => intro s _ _ _; exact ⟨rfl, rfl⟩
  | cons step rest ih =>
    obtain ⟨now, op⟩ := step
    intro s hfor hwin hok
    simp only [allSucceed, Bool.and_eq_true] at hok
    obtain ⟨hwnow, hin⟩ := hwin (now, op) List.mem_cons_self
    have hcount := cancel_counts (hfor (now, op) List.mem_cons_self) hok.1 hin
    obtain ⟨ihused, ihcount⟩ := ih (s := s.after d now op)
      (fun step hstep => Operation.cancelsFor_after (hfor step (List.mem_cons_of_mem _ hstep)) now op)
      (fun step hstep => hwin step (List.mem_cons_of_mem _ hstep)) hok.2
    constructor
    · rw [usedAlong, usedThisMonth, hwnow, ihused, hcount, List.length_cons, List.range'_succ]
    · rw [run, ihcount, hcount, List.length_cons]
      omega

end Store

/-- Of the counts `u, u + 1, …, u + n - 1`, the ones below `k` are the first `max 0 (min n (k - u))`. -/
theorem range'_below (k : Int) (n : Nat) :
    ∀ u : Nat, (List.range' u n).map (fun used : Nat => decide ((used : Int) < k)) =
      List.replicate (max 0 (min (n : Int) (k - u))).toNat true ++
        List.replicate (n - (max 0 (min (n : Int) (k - u))).toNat) false := by
  induction n with
  | zero =>
    intro u
    have hm : (max 0 (min ((0 : Nat) : Int) (k - u))).toNat = 0 := by omega
    rw [hm]
    rfl
  | succ n ih =>
    intro u
    rw [List.range'_succ, List.map_cons, ih (u + 1)]
    by_cases hu : (u : Int) < k
    · -- `u` is free, and one fewer of the rest are
      have hm : (max 0 (min ((n + 1 : Nat) : Int) (k - u))).toNat =
          (max 0 (min (n : Int) (k - (u + 1 : Nat)))).toNat + 1 := by omega
      rw [hm, List.replicate_succ, decide_eq_true hu]
      simp only [List.cons_append, Nat.add_sub_add_right]
    · -- no count from `u` on is free
      have hm : (max 0 (min ((n + 1 : Nat) : Int) (k - u))).toNat = 0 := by omega
      have hm' : (max 0 (min (n : Int) (k - (u + 1 : Nat)))).toNat = 0 := by omega
      rw [hm, hm', decide_eq_false hu]
      simp [List.replicate_succ]

/-- Free cancellations, in any order of the calls.  Each successful cancellation stores what the
penalty rule gives for the business's own cancellations counted in the month window of its moment,
and it counts in a window only when the business asked for it itself.  That window is the UTC
calendar month whenever the month and the next begin within the supported years.  Successful
cancellations for one business, all in one such month that already holds `u` of its own, leave
free the first `max 0 (min n (k - u))` of them and no other, in whatever order they run, `k` being
the allowance of the business's loyalty level. -/
theorem cancellations_share_allowance :
    (∀ (d : Directory) (s : Store) (now : Instant) (gid kindId : Int) (reason : String)
        (user : Int) (notes : Option String),
      (Operation.cancel gid kindId reason user notes).succeeds d now s = true →
      ∃ g kind c, s.guide? gid = some g ∧ d.cancellationKind? kindId = some kind ∧
        (s.after d now (.cancel gid kindId reason user notes)).cancellations =
          s.cancellations ++ [c] ∧
        c.business = g.business ∧ c.initiator = kind.initiator ∧ c.createdAt = now ∧
        c.Priced (g.commission.getD 0) (d.levelOf? g.business) (s.usedThisMonth g.business now) ∧
        ∀ b start finish,
          (s.after d now (.cancel gid kindId reason user notes)).businessCancellations b start
              finish =
            s.businessCancellations b start finish +
              if c.business = b ∧ c.initiator = .business ∧ start ≤ now ∧ now < finish then 1
              else 0) ∧
    (∀ (s : Store) (b : Int) (now : Instant), now.date.monthStart.isValid = true →
      now.date.nextMonthStart.isValid = true →
      s.usedThisMonth b now = s.ownCancellationsInMonth b now) ∧
    (∀ (d : Directory) (b : Int) (s : Store) (t : Instant) (steps : List (Instant × Operation)),
      t.date.monthStart.isValid = true → t.date.nextMonthStart.isValid = true →
      (∀ step ∈ steps, step.2.cancelsFor d s b = true ∧
        step.1.date.year = t.date.year ∧ step.1.date.month = t.date.month) →
      s.allSucceed d steps = true →
      (s.usedAlong d b steps).map
          (fun used : Nat => decide ((used : Int) < Money.allowance (d.levelOf? b))) =
        List.replicate (max 0 (min (steps.length : Int)
            (Money.allowance (d.levelOf? b) - s.ownCancellationsInMonth b t))).toNat true ++
          List.replicate (steps.length - (max 0 (min (steps.length : Int)
            (Money.allowance (d.levelOf? b) - s.ownCancellationsInMonth b t))).toNat) false ∧
      (s.run d steps).ownCancellationsInMonth b t = s.ownCancellationsInMonth b t + steps.length) := by
  refine ⟨fun d s now gid kindId reason user notes h => cancel_records h,
    fun s b now hstart hnext => Store.usedThisMonth_eq_calendar hstart hnext s b, ?_⟩
  intro d b s t steps hstart hnext hsteps hok
  -- every call of the run falls in the window of `t`, which is `t`'s calendar month
  obtain ⟨hused, hcount⟩ := Store.usedAlong_of_cancels (w := Instant.monthBounds t)
    (fun step hstep => (hsteps step hstep).1)
    (fun step hstep => ⟨Instant.monthBounds_of_sameMonth hstart hnext (hsteps step hstep).2,
      (Instant.mem_monthBounds_iff hstart hnext step.1).mpr (hsteps step hstep).2⟩) hok
  have hcal := Store.usedThisMonth_eq_calendar hstart hnext
  rw [← hcal s b, ← hcal (s.run d steps) b]
  refine ⟨?_, hcount⟩
  rw [hused]
  exact range'_below _ _ _

/-- A directory with one business, of a loyalty level with two free cancellations a month. -/
def twoFreeDirectory : Directory :=
  { users := [⟨4, "Tienda", "tienda@correo.co", .business, true⟩],
    businesses := [⟨11, "Negocio", "negocio@correo.co", some 2, true⟩],
    levels := [⟨2, "Oro", 0, Decimal.hundred, 2⟩],
    cancellationKinds := [⟨1, "Sin existencias", .business⟩] }

/-- Three created guides of that business. -/
def threeGuidesStore : Store :=
  { guides := [1, 2, 3].map fun id => GuideDraft.toGuide
      ⟨"GU-" ++ toString id, 11, 1, Decimal.hundred,
        ⟨"Ana", "3001234567", "Calle 1", "Cali", "Valle"⟩, none⟩ id ⟨0, 0⟩ }

set_option maxRecDepth 10000 in
/-- Three cancellations in one month by a business with two free ones: the first two are free. -/
theorem two_free_of_three_cancellations :
    threeGuidesStore.allSucceed twoFreeDirectory
        [(⟨1700000000, 0⟩, .cancel 3 1 "Sin existencias" 4 none),
          (⟨1700000100, 0⟩, .cancel 1 1 "Sin existencias" 4 none),
          (⟨1700000200, 0⟩, .cancel 2 1 "Sin existencias" 4 none)] = true ∧
      (threeGuidesStore.usedAlong twoFreeDirectory 11
          [(⟨1700000000, 0⟩, .cancel 3 1 "Sin existencias" 4 none),
            (⟨1700000100, 0⟩, .cancel 1 1 "Sin existencias" 4 none),
            (⟨1700000200, 0⟩, .cancel 2 1 "Sin existencias" 4 none)]).map
        (fun used : Nat => decide ((used : Int) < Money.allowance (twoFreeDirectory.levelOf? 11))) =
        [true, true, false] :=
  ⟨by decide, (cancellations_share_allowance.2.2 twoFreeDirectory 11 threeGuidesStore
    ⟨1700000000, 0⟩ _ (by decide) (by decide) (by decide) (by decide)).1.trans (by decide)⟩

end Waybill
