import Waybill.Proofs.Outcomes
/-!
The gate every hand-over passes.  Assigning a guide, reassigning it, and resolving an incident
with a new courier all check, in this order, that the acting user may coordinate, that the courier
exists, has the courier role and is active, that the courier has a contract in force on the day of
the call, and that the guide's price and the contract's rate give a commission.  The contract is
the one in force that started last, and among contracts that started on the same day the one added
last (`activeContract?_eq_some`).  A call that passes the gate leaves its guide with the courier,
the coordinator and the commission, waiting for the courier to accept; a call that reaches the gate
and fails it fails with the first check that does not pass.
-/
namespace Waybill

open Service

theorem Date.le_iff_dayNumber {a b : Date} : a ≤ b ↔ a.dayNumber ≤ b.dayNumber := Iff.rfl

theorem Decimal.not_lt {a b : Decimal} : ¬ a < b ↔ b ≤ a := by
  change ¬ (a.aligned b).1 < (a.aligned b).2 ↔ (b.aligned a).1 ≤ (b.aligned a).2
  rw [Int.not_lt]
  simp only [Decimal.aligned, max_comm b.scale a.scale]

namespace Contract

/-- `c` is the latest-starting contract of `l`, the last one among equal starts: it stands in `l`
after contracts that start no later than it does, and before contracts that start earlier. -/
def LatestIn (c : Contract) (l : List Contract) : Prop :=
  ∃ before after, l = before ++ c :: after ∧ (∀ x ∈ before, x.start ≤ c.start) ∧
    ∀ x ∈ after, ¬ c.start ≤ x.start

theorem not_latestIn_nil (c : Contract) : ¬ c.LatestIn [] := by
  rintro ⟨before, after, h, -⟩
  simp at h

/-- The latest of a list that starts with `a` is `a`, when the rest starts earlier, or the latest
of the rest, when it starts no earlier than `a`. -/
theorem latestIn_cons {a c : Contract} {l : List Contract} :
    c.LatestIn (a :: l) ↔
      (c = a ∧ ∀ x ∈ l, ¬ a.start ≤ x.start) ∨ (a.start ≤ c.start ∧ c.LatestIn l) := by
  constructor
  · rintro ⟨before, after, hl, hbefore, hafter⟩
    cases before with
    | nil =>
        obtain ⟨rfl, rfl⟩ := List.cons.inj hl
        exact Or.inl ⟨rfl, hafter⟩
    | cons b before =>
        obtain ⟨rfl, rfl⟩ := List.cons.inj hl
        exact Or.inr ⟨hbefore _ (by simp), before, after, rfl,
          fun x hx => hbefore x (by simp [hx]), hafter⟩
  · rintro (⟨rfl, hl⟩ | ⟨ha, before, after, rfl, hbefore, hafter⟩)
    · exact ⟨[], l, rfl, by simp, hl⟩
    · refine ⟨a :: before, after, rfl, ?_, hafter⟩
      simpa [ha] using hbefore

theorem LatestIn.mem {c : Contract} {l : List Contract} (h : c.LatestIn l) : c ∈ l := by
  obtain ⟨before, after, rfl, -⟩ := h
  simp

/-- The latest contract of a list starts no earlier than any of them. -/
theorem LatestIn.le {c : Contract} {l : List Contract} (h : c.LatestIn l) :
    ∀ x ∈ l, x.start ≤ c.start := by
  obtain ⟨before, after, rfl, hbefore, hafter⟩ := h
  intro x hx
  simp only [List.mem_append, List.mem_cons] at hx
  rcases hx with hx | rfl | hx
  · exact hbefore x hx
  · exact Date.le_iff_dayNumber.mpr (Int.le_refl _)
  · have := hafter x hx
    rw [Date.le_iff_dayNumber] at this ⊢
    omega

/-- Folding `Directory.laterStart` over a list from a first contract finds the latest of them
all.  The induction is on the list, with the contract found so far standing in for everything
before it. -/
theorem foldl_laterStart : ∀ (l : List Contract) (b c : Contract),
    l.foldl Directory.laterStart b = c ↔ c.LatestIn (b :: l)
  | [], b, c => by
      simp only [List.foldl_nil, latestIn_cons, List.not_mem_nil, false_imp_iff, imp_true_iff,
        and_true, not_latestIn_nil, and_false, or_false]
      exact eq_comm
  | y :: l, b, c => by
      rw [List.foldl_cons, foldl_laterStart l, Directory.laterStart]
      split_ifs with hlater
      · -- `y` starts no earlier than `b`, which drops out
        rw [latestIn_cons (a := b)]
        constructor
        · intro h
          have hyc := Date.le_iff_dayNumber.mp (h.le y (by simp))
          exact Or.inr ⟨Date.le_iff_dayNumber.mpr (by omega), h⟩
        · rintro (⟨-, hearlier⟩ | ⟨-, h⟩)
          · exact absurd (Date.le_iff_dayNumber.mpr hlater) (hearlier y (by simp))
          · exact h
      · -- `y` starts earlier than `b`, so `y` is never the latest and `b` stays ahead of it
        have hy : ¬ b.start ≤ y.start := by rw [Date.le_iff_dayNumber]; omega
        rw [latestIn_cons (a := b), latestIn_cons (a := b), latestIn_cons (a := y)]
        constructor
        · rintro (⟨rfl, hl⟩ | ⟨hb, h⟩)
          · exact Or.inl ⟨rfl, by simpa [hy] using hl⟩
          · refine Or.inr ⟨hb, Or.inr ⟨?_, h⟩⟩
            rw [Date.le_iff_dayNumber] at hb ⊢
            omega
        · rintro (⟨rfl, hl⟩ | ⟨hb, ⟨rfl, -⟩ | ⟨-, h⟩⟩)
          · exact Or.inl ⟨rfl, fun x hx => hl x (by simp [hx])⟩
          · exact absurd hb hy
          · exact Or.inr ⟨hb, h⟩

end Contract

namespace Directory

/-- The courier's contracts in force on `day`, in the order they were added. -/
def inForce (d : Directory) (courier : Int) (day : Date) : List Contract :=
  d.contracts.filter (fun c => c.courier == courier && c.inForceOn day)

/-- The contract the directory answers for a courier and a day is the latest-starting of the
courier's contracts in force, the last added among those that started on the same day. -/
theorem activeContract?_eq_some {d : Directory} {courier : Int} {day : Date} {c : Contract} :
    d.activeContract? courier day = some c ↔ c.LatestIn (d.inForce courier day) := by
  unfold activeContract?
  split
  · rename_i hnil
    rw [inForce, hnil]
    simp only [reduceCtorEq, false_iff]
    exact Contract.not_latestIn_nil c
  · rename_i b rest hcons
    rw [inForce, hcons, Option.some.injEq, Contract.foldl_laterStart]

/-- The directory answers no contract exactly when none of the courier's is in force. -/
theorem activeContract?_eq_none {d : Directory} {courier : Int} {day : Date} :
    d.activeContract? courier day = none ↔
      ∀ x ∈ d.contracts, x.courier = courier → x.inForceOn day = false := by
  unfold activeContract?
  split
  · rename_i hnil
    simp only [List.filter_eq_nil_iff, Bool.and_eq_true, beq_iff_eq, not_and,
      Bool.not_eq_true] at hnil
    exact iff_of_true rfl hnil
  · rename_i b rest hcons
    simp only [reduceCtorEq, false_iff, not_forall, Bool.not_eq_false]
    have hmem : b ∈ d.contracts.filter (fun c => c.courier == courier && c.inForceOn day) := by
      simp [hcons]
    simp only [List.mem_filter, Bool.and_eq_true, beq_iff_eq] at hmem
    exact ⟨b, hmem.1, hmem.2.1, hmem.2.2⟩

/-- The user may coordinate: it exists, is active, and is a coordinator or an administrator. -/
def Coordinates (d : Directory) (id : Int) : Prop :=
  ∃ u, d.user? id = some u ∧ u.active = true ∧ (u.role = .coordinator ∨ u.role = .administrator)

/-- The user may carry guides: it exists, is active, and has the courier role. -/
def Carries (d : Directory) (id : Int) : Prop :=
  ∃ u, d.user? id = some u ∧ u.active = true ∧ u.role = .courier

end Directory

theorem User.canCoordinate_iff {u : User} :
    u.canCoordinate = true ↔
      u.active = true ∧ (u.role = .coordinator ∨ u.role = .administrator) := by
  simp [User.canCoordinate]

/-- What a hand-over needs of the directory on the day of the call: a coordinator who may
coordinate, a courier who may carry guides, and the courier's contract, the one in force that
started last, whose rate lies from 0 to 100 and gives `commission` on a price that is not
negative. -/
structure Admitted (d : Directory) (day : Date) (coordinator courier : Int)
    (price commission : Decimal) : Prop where
  coordinates : d.Coordinates coordinator
  carries : d.Carries courier
  contract : ∃ c : Contract, c.LatestIn (d.inForce courier day) ∧ 0 ≤ price ∧ 0 ≤ c.rate ∧
    c.rate ≤ Decimal.hundred ∧ Money.percentOf price c.rate = .ok commission

/-- Why the directory refuses a hand-over on the day of the call, with the fault it is refused
with.  The checks run in order, so each refusal comes with the checks before it passed: the
coordinator is looked up and must be an active coordinator or administrator; then the courier is
looked up, must have the courier role and be active; then a contract of the courier must be in
force; then the price must not be negative, the rate of the latest contract must lie from 0 to
100, and the commission must not overflow. -/
inductive Refusal (d : Directory) (day : Date) (operation : String) (k c : Int) (price : Decimal) :
    Fault → Prop
  | noCoordinator (hk : d.user? k = none) :
      Refusal d day operation k c price (Fault.missing "User" k)
  | notCoordinator (u : User) (hk : d.user? k = some u)
      (hno : ¬ (u.active = true ∧ (u.role = .coordinator ∨ u.role = .administrator))) :
      Refusal d day operation k c price
        (Fault.refused operation "user is not an active coordinator")
  | noCourier (hk : d.Coordinates k) (hc : d.user? c = none) :
      Refusal d day operation k c price (Fault.missing "Courier" c)
  | notCourier (u : User) (hk : d.Coordinates k) (hc : d.user? c = some u)
      (hrole : u.role ≠ .courier) :
      Refusal d day operation k c price
        (.courierIneligible ("user " ++ toString c ++ " does not have the courier role"))
  | inactiveCourier (u : User) (hk : d.Coordinates k) (hc : d.user? c = some u)
      (hrole : u.role = .courier) (hinactive : u.active = false) :
      Refusal d day operation k c price
        (.courierIneligible ("courier " ++ toString c ++ " is not active"))
  | noContract (hk : d.Coordinates k) (hc : d.Carries c)
      (hnone : ∀ x ∈ d.contracts, x.courier = c → x.inForceOn day = false) :
      Refusal d day operation k c price (.noActiveContract c)
  | negativePrice (x : Contract) (hk : d.Coordinates k) (hc : d.Carries c)
      (hx : x.LatestIn (d.inForce c day)) (hprice : price < 0) :
      Refusal d day operation k c price (Fault.rule "base_price" "must not be negative")
  | rateOutOfRange (x : Contract) (hk : d.Coordinates k) (hc : d.Carries c)
      (hx : x.LatestIn (d.inForce c day)) (hprice : 0 ≤ price)
      (hrate : x.rate < 0 ∨ Decimal.hundred < x.rate) :
      Refusal d day operation k c price
        (Fault.rule "commission_percentage" "must be between 0 and 100")
  | overflow (x : Contract) (hk : d.Coordinates k) (hc : d.Carries c)
      (hx : x.LatestIn (d.inForce c day)) (hprice : 0 ≤ price) (hlow : 0 ≤ x.rate)
      (hhigh : x.rate ≤ Decimal.hundred) (hover : Money.percentOf? price x.rate = none) :
      Refusal d day operation k c price Money.productOverflow

namespace Service

/-- The checks of a hand-over, in the order each service that hands a guide over makes them: the
coordinator, the courier with the contract in force, and the commission on the guide's price. -/
def handOverCheck (env : Env) (operation : String) (coordinator courier : Int) (price : Decimal) :
    Except Fault (User × User × Contract × Decimal) := do
  let k ← requireCoordinator env coordinator operation
  let (c, contract) ← eligibleCourier env courier
  let x ← Money.commission price contract.rate
  pure (k, c, contract, x)

theorem courier_ok {id : Int} {found : Option User} {u : User}
    (h : Eligibility.courier id found = .ok u) :
    found = some u ∧ u.role = .courier ∧ u.active = true := by
  unfold Eligibility.courier at h
  split at h
  · cases h
  · rename_i user
    by_cases hrole : user.isCourier = true <;> by_cases hactive : user.active = true <;>
      simp [hrole, hactive] at h
    subst h
    exact ⟨rfl, by simpa [User.isCourier] using hrole, hactive⟩

/-- An eligible courier is a user of the directory with the courier role who is active, and its
contract is the latest-starting of its contracts in force on the day of the call. -/
theorem eligibleCourier_ok {env : Env} {id : Int} {courier : User} {contract : Contract}
    (h : eligibleCourier env id = .ok (courier, contract)) :
    env.directory.user? id = some courier ∧ courier.role = .courier ∧ courier.active = true ∧
      contract.LatestIn (env.directory.inForce id env.now.date) := by
  cases hu : Eligibility.courier id (env.directory.user? id) with
  | error f => simp only [eligibleCourier, hu, Tx.except_error_bind, reduceCtorEq] at h
  | ok u =>
      cases hc : env.directory.activeContract? id env.now.date with
      | none =>
          simp only [eligibleCourier, hu, hc, Eligibility.contract, Tx.except_ok_bind,
            Tx.except_error_bind, reduceCtorEq] at h
      | some x =>
          have hx := hc
          rw [Directory.activeContract?_eq_some] at hx
          have hmem := hx.mem
          simp only [Directory.inForce, List.mem_filter] at hmem
          simp only [eligibleCourier, hu, hc, Eligibility.contract, hmem, ↓reduceIte,
            Tx.except_ok_bind, Tx.except_pure, Except.ok.injEq, Prod.mk.injEq] at h
          obtain ⟨rfl, rfl⟩ := h
          obtain ⟨hfound, hrole, hactive⟩ := courier_ok hu
          exact ⟨hfound, hrole, hactive, hx⟩

/-- A commission is given only on a price that is not negative, at a rate from 0 to 100. -/
theorem commission_ok {price rate x : Decimal} (h : Money.commission price rate = .ok x) :
    0 ≤ price ∧ 0 ≤ rate ∧ rate ≤ Decimal.hundred ∧ Money.percentOf price rate = .ok x := by
  unfold Money.commission at h
  by_cases hprice : price < 0
  · simp [FieldCheck.nonNegative, FieldCheck.passes, hprice] at h
  · by_cases hrate : rate < 0 ∨ Decimal.hundred < rate
    · simp [FieldCheck.nonNegative, FieldCheck.percentage, FieldCheck.passes, hprice, hrate] at h
    · simp only [FieldCheck.nonNegative, FieldCheck.percentage, FieldCheck.passes, hprice, hrate,
        ↓reduceIte, Bool.not_true, Bool.false_eq_true] at h
      rw [not_or, Decimal.not_lt, Decimal.not_lt] at hrate
      exact ⟨Decimal.not_lt.mp hprice, hrate.1, hrate.2, h⟩

/-- Passing the three checks of a hand-over is what the directory admits. -/
theorem admitted_of_ok {env : Env} {operation : String} {k c : Int} {price x : Decimal}
    {coordinator courier : User} {contract : Contract}
    (hk : requireCoordinator env k operation = .ok coordinator)
    (hc : eligibleCourier env c = .ok (courier, contract))
    (hx : Money.commission price contract.rate = .ok x) :
    Admitted env.directory env.now.date k c price x ∧ coordinator.id = k ∧ courier.id = c := by
  obtain ⟨hfound, hid, hcan⟩ := requireCoordinator_ok hk
  obtain ⟨hcourier, hrole, hactive, hlatest⟩ := eligibleCourier_ok hc
  obtain ⟨hprice, hlow, hhigh, hpercent⟩ := commission_ok hx
  exact ⟨⟨⟨coordinator, hfound, User.canCoordinate_iff.mp hcan⟩,
    ⟨courier, hcourier, hactive, hrole⟩, ⟨contract, hlatest, hprice, hlow, hhigh, hpercent⟩⟩,
    hid, Directory.user?_id hcourier⟩

end Service

section Refused

variable {d : Directory} {now : Instant} {operation : String} {k c : Int}

theorem requireCoordinator_of_coordinates (now : Instant) (operation : String)
    (hk : d.Coordinates k) :
    ∃ u, requireCoordinator ⟨d, now⟩ k operation = .ok u := by
  obtain ⟨u, hu, hcan⟩ := hk
  have hcan' : u.canCoordinate = true := User.canCoordinate_iff.mpr hcan
  exact ⟨u, by simp [requireCoordinator, requireUser, hu, hcan', Tx.except_ok_bind]⟩

theorem eligibleCourier_of_latest {x : Contract} (hc : d.Carries c)
    (hx : x.LatestIn (d.inForce c now.date)) :
    ∃ u, eligibleCourier ⟨d, now⟩ c = .ok (u, x) := by
  obtain ⟨u, hu, hactive, hrole⟩ := hc
  have hmem := hx.mem
  simp only [Directory.inForce, List.mem_filter] at hmem
  refine ⟨u, ?_⟩
  simp [eligibleCourier, Eligibility.courier, Eligibility.contract, hu, hactive, hrole,
    User.isCourier, Directory.activeContract?_eq_some.mpr hx, hmem, Tx.except_ok_bind]

/-- Once the coordinator passes, the checks fail with the courier's refusal. -/
theorem handOverCheck_of_courier (hk : d.Coordinates k) {price : Decimal} {f : Fault}
    (hc : eligibleCourier ⟨d, now⟩ c = .error f) :
    handOverCheck ⟨d, now⟩ operation k c price = .error f := by
  obtain ⟨v, hv⟩ := requireCoordinator_of_coordinates now operation hk
  simp [handOverCheck, hv, hc, Tx.except_ok_bind, Tx.except_error_bind]

/-- Once the coordinator and the courier pass, the checks fail with the commission's refusal. -/
theorem handOverCheck_of_commission (hk : d.Coordinates k) (hc : d.Carries c) {x : Contract}
    (hx : x.LatestIn (d.inForce c now.date)) {price : Decimal} {f : Fault}
    (hf : Money.commission price x.rate = .error f) :
    handOverCheck ⟨d, now⟩ operation k c price = .error f := by
  obtain ⟨v, hv⟩ := requireCoordinator_of_coordinates now operation hk
  obtain ⟨u, hu⟩ := eligibleCourier_of_latest hc hx
  simp [handOverCheck, hv, hu, hf, Tx.except_ok_bind, Tx.except_error_bind]

/-- Each refusal is the fault the checks of a hand-over fail with. -/
theorem Refusal.check {price : Decimal} {f : Fault}
    (hr : Refusal d now.date operation k c price f) :
    handOverCheck ⟨d, now⟩ operation k c price = .error f := by
  cases hr with
  | noCoordinator hk =>
      simp [handOverCheck, requireCoordinator, requireUser, hk, Tx.except_error_bind]
  | notCoordinator u hk hno =>
      have hcan : u.canCoordinate = false :=
        Bool.eq_false_iff.mpr fun h => hno (User.canCoordinate_iff.mp h)
      simp [handOverCheck, requireCoordinator, requireUser, hk, hcan, Tx.except_ok_bind,
        Tx.except_error_bind]
  | noCourier hk hc =>
      exact handOverCheck_of_courier hk (by simp [eligibleCourier, Eligibility.courier, hc,
        Tx.except_error_bind])
  | notCourier u hk hc hrole =>
      exact handOverCheck_of_courier hk (by simp [eligibleCourier, Eligibility.courier, hc,
        hrole, User.isCourier, Tx.except_error_bind])
  | inactiveCourier u hk hc hrole hinactive =>
      exact handOverCheck_of_courier hk (by simp [eligibleCourier, Eligibility.courier, hc,
        hrole, hinactive, User.isCourier, Tx.except_error_bind])
  | noContract hk hc hnone =>
      obtain ⟨u, hu, hactive, hrole⟩ := hc
      exact handOverCheck_of_courier hk (by simp [eligibleCourier, Eligibility.courier,
        Eligibility.contract, hu, hactive, hrole, User.isCourier,
        Directory.activeContract?_eq_none.mpr hnone, Tx.except_ok_bind, Tx.except_error_bind])
  | negativePrice x hk hc hx hprice =>
      exact handOverCheck_of_commission hk hc hx (by simp [Money.commission,
        FieldCheck.nonNegative, FieldCheck.passes, hprice])
  | rateOutOfRange x hk hc hx hprice hrate =>
      have hnonneg : ¬ price < 0 := Decimal.not_lt.mpr hprice
      exact handOverCheck_of_commission hk hc hx (by simp [Money.commission,
        FieldCheck.nonNegative, FieldCheck.percentage, FieldCheck.passes, hnonneg, hrate])
  | overflow x hk hc hx hprice hlow hhigh hover =>
      have hnonneg : ¬ price < 0 := Decimal.not_lt.mpr hprice
      have hrate : ¬ (x.rate < 0 ∨ Decimal.hundred < x.rate) := by
        rw [not_or, Decimal.not_lt, Decimal.not_lt]
        exact ⟨hlow, hhigh⟩
      exact handOverCheck_of_commission hk hc hx (by simp [Money.commission,
        FieldCheck.nonNegative, FieldCheck.percentage, FieldCheck.passes, hnonneg, hrate,
        Money.percentOf, hover])

end Refused

namespace Service

/-- A hand-over check that fails, fails at one of its three checks, the ones before it passed. -/
theorem handOverCheck_error {env : Env} {operation : String} {k c : Int} {price : Decimal}
    {f : Fault} (h : handOverCheck env operation k c price = .error f) :
    requireCoordinator env k operation = .error f ∨
      ∃ u, requireCoordinator env k operation = .ok u ∧ (eligibleCourier env c = .error f ∨
        ∃ courier contract, eligibleCourier env c = .ok (courier, contract) ∧
          Money.commission price contract.rate = .error f) := by
  unfold handOverCheck at h
  cases hk : requireCoordinator env k operation with
  | error e =>
      simp only [hk, Tx.except_error_bind, Except.error.injEq] at h
      exact Or.inl (h ▸ rfl)
  | ok u =>
      refine Or.inr ⟨u, rfl, ?_⟩
      cases hc : eligibleCourier env c with
      | error e =>
          simp only [hk, hc, Tx.except_ok_bind, Tx.except_error_bind, Except.error.injEq] at h
          exact Or.inl (h ▸ rfl)
      | ok p =>
          obtain ⟨courier, contract⟩ := p
          refine Or.inr ⟨courier, contract, rfl, ?_⟩
          cases hx : Money.commission price contract.rate with
          | error e =>
              simp only [hk, hc, hx, Tx.except_ok_bind, Tx.except_error_bind,
                Except.error.injEq] at h
              rw [h]
          | ok x => simp only [hk, hc, hx, Tx.except_ok_bind, Tx.except_pure, reduceCtorEq] at h

/-- An assignment of a created guide that fails the hand-over check fails with its fault. -/
theorem assign_refused {env : Env} {gid c k : Int} {observations : Option String} {s : Store}
    {g : Guide} {f : Fault} (hg : s.guide? gid = some g) (hs : g.state = .created)
    (hf : handOverCheck env "assign courier" k c g.basePrice = .error f) :
    (assign env gid c k observations).run s = .error f := by
  rcases handOverCheck_error hf with hk | ⟨u, hk, hc | ⟨courier, contract, hc, hx⟩⟩
  · simp [assign, StateT.run_bind, Tx.loadGuide_run, hg, requireState, hs, check, hk,
      Tx.except_ok_bind, Tx.except_error_bind]
  · simp [assign, StateT.run_bind, Tx.loadGuide_run, hg, requireState, hs, check, hk, hc,
      Tx.except_ok_bind, Tx.except_error_bind]
  · simp [assign, StateT.run_bind, Tx.loadGuide_run, hg, requireState, hs, check, hk, hc, hx,
      Tx.except_ok_bind, Tx.except_error_bind]

/-- A reassignment with a reason, of an assigned or held guide to a courier who does not already
hold it assigned, that fails the hand-over check fails with its fault. -/
theorem reassign_refused {env : Env} {gid c k : Int} {reasonText reason : String} {s : Store}
    {g : Guide} {f : Fault} (hreason : FieldCheck.requireText "reason" reasonText = .ok reason)
    (hg : s.guide? gid = some g) (hs : g.state = .assigned ∨ g.state = .incident)
    (hother : ¬ (g.state = .assigned ∧ g.courier = some c))
    (hf : handOverCheck env "reassign courier" k c g.basePrice = .error f) :
    (reassign env gid c reasonText k).run s = .error f := by
  rcases handOverCheck_error hf with hk | ⟨u, hk, hc | ⟨courier, contract, hc, hx⟩⟩
  · simp [reassign, StateT.run_bind, check, hreason, Tx.loadGuide_run, hg, requireState,
      hs, hother, hk, Tx.except_ok_bind, Tx.except_error_bind]
  · simp [reassign, StateT.run_bind, check, hreason, Tx.loadGuide_run, hg, requireState,
      hs, hother, hk, hc, Tx.except_ok_bind, Tx.except_error_bind]
  · simp [reassign, StateT.run_bind, check, hreason, Tx.loadGuide_run, hg, requireState,
      hs, hother, hk, hc, hx, Tx.except_ok_bind, Tx.except_error_bind]

theorem reassignForIncident_refused {env : Env} {g : Guide} {resolver : User} {c : Int}
    {s : Store} {f : Fault} (hs : g.state = .assigned ∨ g.state = .incident)
    (hf : handOverCheck env "reassign courier while resolving incident" resolver.id c g.basePrice =
      .error f) :
    (reassignForIncident env g resolver c).run s = .error f := by
  rcases handOverCheck_error hf with hk | ⟨u, hk, hc | ⟨courier, contract, hc, hx⟩⟩
  · simp [reassignForIncident, StateT.run_bind, requireState, hs, check, hk,
      Tx.except_error_bind]
  · simp [reassignForIncident, StateT.run_bind, requireState, hs, check, hk, hc,
      Tx.except_error_bind]
  · simp [reassignForIncident, requireState, hs, check, hk, hc, hx]

/-- A resolution of an open incident with a text, naming a new courier for an assigned or held
guide, that fails the hand-over check fails with its fault. -/
theorem resolve_refused {env : Env} {iid k c : Int} {params : Resolution} {s : Store}
    {i : Incident} {resolution : String} {g : Guide} {f : Fault}
    (hi : s.incident? iid = some i) (hopen : i.resolved = false)
    (htext : FieldCheck.requireText "resolution" params.text = .ok resolution)
    (hg : s.guide? i.guide = some g) (hs : g.state = .assigned ∨ g.state = .incident)
    (hc : params.newCourier = some c)
    (hf : handOverCheck env "reassign courier while resolving incident" k c g.basePrice =
      .error f) :
    (resolve env iid params k).run s = .error f := by
  cases hu : requireUser env k with
  | error e =>
      -- an unknown resolver is refused before the guide is read, with the fault the check gives
      have he : e = f := by
        simpa [handOverCheck, requireCoordinator, hu, Tx.except_error_bind] using hf
      subst he
      simp [resolve, StateT.run_bind, hi, hopen, check, htext, hu, Tx.except_ok_bind,
        Tx.except_error_bind]
  | ok u =>
      obtain ⟨-, rfl⟩ := requireUser_ok hu
      have hrun := reassignForIncident_refused (s := s) hs hf
      simp [resolve, StateT.run_bind, hi, hopen, check, htext, hu, Tx.loadGuide_run, hg, hc,
        hrun, Tx.except_ok_bind, Tx.except_error_bind]

end Service

/-- The guide is with `courier`, handed over by `coordinator` at `commission`, and waits for the
courier to accept it. -/
structure Guide.HandedTo (g : Guide) (courier coordinator : Int) (commission : Decimal) : Prop where
  courier_eq : g.courier = some courier
  coordinator_eq : g.coordinator = some coordinator
  commission_eq : g.commission = some commission
  accepted_eq : g.accepted = false
  acceptedAt_eq : g.acceptedAt = none

theorem Guide.handedTo_handOver (g : Guide) (c k : Int) (x : Decimal) :
    (handOver g c k x).HandedTo c k x :=
  ⟨rfl, rfl, rfl, rfl, rfl⟩

/-- Stamping an arrival keeps who holds a guide and at what commission. -/
theorem Guide.HandedTo.arrival {g : Guide} {c k : Int} {x : Decimal} (h : g.HandedTo c k x)
    (t : GuideState) (m : Instant) : (arrival g t m).HandedTo c k x := by
  obtain ⟨hc, hk, hx, ha, hat⟩ := h
  exact ⟨by simp [hc], by simp [hk], by simp [hx], by simp [ha], by simp [hat]⟩

/-- A call handed guide `id` of store `s` to courier `c` on behalf of coordinator `k`, leaving
store `s'`: the guide was stored, the directory admitted the hand-over on the day of the call at
some commission, and the guide is stored handed to `c` by `k` at that commission. -/
def HandedOver (d : Directory) (now : Instant) (s s' : Store) (id k c : Int) : Prop :=
  ∃ g g' x, s.guide? id = some g ∧ s'.guide? id = some g' ∧
    Admitted d now.date k c g.basePrice x ∧ g'.HandedTo c k x

/-- Storing a rewrite of the guide found under an id makes the id find the rewrite. -/
theorem Store.guide?_of_rewrite {s t : Store} {id : Int} {g G : Guide} (hg : s.guide? id = some g)
    (hid : G.id = g.id) (hguides : t.guides = (s.withGuide G).guides) : t.guide? id = some G := by
  obtain ⟨-, rfl⟩ := guide?_some hg
  rw [guide?_replaced (hid ▸ hg) hguides, if_pos hid.symm]

namespace Service

theorem assign_handsOver {env : Env} {gid c k : Int} {observations : Option String}
    {s s' : Store} {r : Guide × List Notice}
    (h : (assign env gid c k observations).run s = .ok (r, s')) :
    HandedOver env.directory env.now s s' gid k c := by
  obtain ⟨g, hg, -, coordinator, courier, contract, x, hk, hc, hx, note, rfl⟩ := assign_ok h
  obtain ⟨hadmitted, rfl, rfl⟩ := admitted_of_ok hk hc hx
  exact ⟨g, _, x, hg, Store.guide?_of_rewrite hg (by simp) rfl, hadmitted,
    (Guide.handedTo_handOver g _ _ x).arrival _ _⟩

theorem reassign_handsOver {env : Env} {gid c : Int} {reasonText : String} {k : Int}
    {s s' : Store} {r : Guide × List Notice}
    (h : (reassign env gid c reasonText k).run s = .ok (r, s')) :
    HandedOver env.directory env.now s s' gid k c := by
  obtain ⟨g, hg, -, -, coordinator, courier, contract, x, hk, hc, hx, note, rfl⟩ := reassign_ok h
  obtain ⟨hadmitted, rfl, rfl⟩ := admitted_of_ok hk hc hx
  exact ⟨g, _, x, hg, Store.guide?_of_rewrite hg (by simp) rfl, hadmitted,
    (Guide.handedTo_handOver g _ _ x).arrival _ _⟩

/-- A resolution that names a new courier hands the guide of its incident over, whether the guide
goes back to assigned or stays held. -/
theorem resolve_handsOver {env : Env} {iid k c : Int} {params : Resolution} {s s' : Store}
    {r : (Incident × Guide) × List Notice} (h : (resolve env iid params k).run s = .ok (r, s'))
    (hc : params.newCourier = some c) :
    ∃ i, s.incident? iid = some i ∧ HandedOver env.directory env.now s s' i.guide k c := by
  obtain ⟨i, hi, -, resolution, resolver, -, hresolver, g, hg, g₁, hhanded, note, hcase⟩ :=
    resolve_ok h
  obtain ⟨-, rfl⟩ := requireUser_ok hresolver
  rcases hhanded with ⟨hnone, -⟩ | ⟨c', hc', -, coordinator, courier, contract, x, hk, he, hx, rfl⟩
  · rw [hc] at hnone
    cases hnone
  rw [hc, Option.some.injEq] at hc'
  subst hc'
  obtain ⟨hadmitted, hkid, rfl⟩ := admitted_of_ok hk he hx
  have hhanded : (handOver g courier.id coordinator.id x).HandedTo courier.id resolver.id x := by
    rw [← hkid]
    exact Guide.handedTo_handOver g courier.id coordinator.id x
  have hg' : (s.withIncident (i.closed resolution resolver.id env.now)).guide? i.guide = some g :=
    hg
  refine ⟨i, hi, ?_⟩
  rcases hcase with ⟨-, rfl⟩ | ⟨-, rfl⟩
  · exact ⟨g, _, x, hg, Store.guide?_of_rewrite hg' (by simp) rfl, hadmitted,
      hhanded.arrival _ _⟩
  · exact ⟨g, _, x, hg, Store.guide?_of_rewrite hg' (by simp) rfl, hadmitted,
      ⟨hhanded.courier_eq, hhanded.coordinator_eq, hhanded.commission_eq, hhanded.accepted_eq,
        hhanded.acceptedAt_eq⟩⟩

end Service

/-- The courier a call hands its guide to: the one an assignment or a reassignment names, or the
new courier of a resolution that names one. -/
def Operation.handsTo : Operation → Option Int
  | .assign _ courier _ _ | .reassign _ courier _ _ => some courier
  | .resolve _ params _ => params.newCourier
  | _ => none

/-- A hand-over call whose own preconditions hold in store `s`, on the stored guide `g`, with the
operation its refusals name: an assignment finds its guide created; a reassignment has a reason,
finds its guide assigned or held, and does not name the courier an assigned guide already has; a
resolution finds its incident open, has a text, and finds the incident's guide assigned or held. -/
inductive HandOverReady (s : Store) : Operation → Guide → String → Prop
  | assign {guide courier coordinator : Int} {observations : Option String} {g : Guide}
      (hg : s.guide? guide = some g) (hs : g.state = .created) :
      HandOverReady s (.assign guide courier coordinator observations) g "assign courier"
  | reassign {guide courier coordinator : Int} {reasonText reason : String} {g : Guide}
      (hreason : FieldCheck.requireText "reason" reasonText = .ok reason)
      (hg : s.guide? guide = some g) (hs : g.state = .assigned ∨ g.state = .incident)
      (hother : ¬ (g.state = .assigned ∧ g.courier = some courier)) :
      HandOverReady s (.reassign guide courier reasonText coordinator) g "reassign courier"
  | resolve {incident resolver : Int} {params : Resolution} {i : Incident} {resolution : String}
      {g : Guide} (hi : s.incident? incident = some i) (hopen : i.resolved = false)
      (htext : FieldCheck.requireText "resolution" params.text = .ok resolution)
      (hg : s.guide? i.guide = some g) (hs : g.state = .assigned ∨ g.state = .incident) :
      HandOverReady s (.resolve incident params resolver) g
        "reassign courier while resolving incident"

section Gate

variable {d : Directory} {now : Instant} {s : Store} {op : Operation} {k c : Int}

/-- A hand-over call that succeeds handed its guide over as the directory admits. -/
theorem handsTo_ok (hk : op.actor = some k) (hc : op.handsTo = some c) {s' : Store}
    (hok : (op.perform ⟨d, now⟩).run s = .ok ((), s')) :
    ∃ id, op.subject s = some id ∧ HandedOver d now s s' id k c := by
  cases op <;> simp only [Operation.handsTo, reduceCtorEq] at hc <;>
    simp only [Operation.actor, Option.some.injEq] at hk <;>
    simp only [Operation.perform] at hok <;> obtain ⟨_, hrun⟩ := Tx.discard_ok.mp hok
  case assign =>
    rw [Option.some.injEq] at hc
    subst hk hc
    exact ⟨_, rfl, assign_handsOver hrun⟩
  case reassign =>
    rw [Option.some.injEq] at hc
    subst hk hc
    exact ⟨_, rfl, reassign_handsOver hrun⟩
  case resolve =>
    subst hk
    obtain ⟨i, hi, hhanded⟩ := resolve_handsOver hrun hc
    exact ⟨i.guide, by simp [Operation.subject, hi], hhanded⟩

/-- A hand-over call whose own preconditions hold fails with the directory's refusal. -/
theorem handsTo_refused (hk : op.actor = some k) (hc : op.handsTo = some c) {g : Guide}
    {operation : String} {f : Fault} (hready : HandOverReady s op g operation)
    (hrefusal : Refusal d now.date operation k c g.basePrice f) :
    (op.perform ⟨d, now⟩).run s = .error f := by
  have hcheck := hrefusal.check
  cases hready <;> simp only [Operation.perform, Tx.discard_error] <;>
    simp only [Operation.actor, Operation.handsTo, Option.some.injEq] at hk hc
  case assign hg hs =>
    subst hk hc
    exact assign_refused hg hs hcheck
  case reassign hreason hg hs hother =>
    subst hk hc
    exact reassign_refused hreason hg hs hother hcheck
  case resolve hi hopen htext hg hs =>
    subst hk
    exact resolve_refused hi hopen htext hg hs hc hcheck

end Gate

/-- The assignment gate.  Take any store and any call that hands a guide to courier `c` on behalf
of user `k`: an assignment, a reassignment, or a resolution naming a new courier.  If it succeeds,
the directory admitted the hand-over on the day of the call: `k` exists, is active and is a
coordinator or an administrator; `c` exists, is active and has the courier role; and the
latest-starting of `c`'s contracts in force that day (the last added among equal starts) has a
rate from 0 to 100 that gives the commission on the guide's price.  The guide is then stored with
courier `c`, coordinator `k`, that commission, and its assignment not accepted.  And when the
call's own preconditions hold, a hand-over the directory refuses fails with the fault of the first
check that does not pass, in the order of `Refusal`. -/
theorem handOver_gate (d : Directory) (now : Instant) (s : Store) {op : Operation} {k c : Int}
    (hk : op.actor = some k) (hc : op.handsTo = some c) :
    (∀ s', (op.perform ⟨d, now⟩).run s = .ok ((), s') →
      ∃ id, op.subject s = some id ∧ HandedOver d now s s' id k c) ∧
    ∀ g operation f, HandOverReady s op g operation →
      Refusal d now.date operation k c g.basePrice f → (op.perform ⟨d, now⟩).run s = .error f :=
  ⟨fun _ hok => handsTo_ok hk hc hok,
    fun _ _ _ hready hrefusal => handsTo_refused hk hc hready hrefusal⟩

/-- A courier may not assign guides: the assignment is refused as the act of a user who is not an
active coordinator. -/
theorem courier_cannot_assign :
    ((Operation.assign 1 8 7 none).perform ⟨twoCouriersDirectory, ⟨1700000000, 0⟩⟩).run
        oneGuideStore =
      .error (Fault.refused "assign courier" "user is not an active coordinator") :=
  (handOver_gate twoCouriersDirectory ⟨1700000000, 0⟩ oneGuideStore rfl rfl).2 _ _ _
    (.assign rfl rfl) (.notCoordinator _ rfl (by decide))

end Waybill
