import PrepaidLedger.Proofs.Engine.Change

/-! The arithmetic of the ledger in signed words of fixed width. Each function is computed once
more, step by step, with every result checked against its word. Amounts in bounds fail no check,
whatever the rates are. -/

namespace PrepaidLedger

def int64? (n : Int) : Option Int := if Json.minInt64 ≤ n ∧ n ≤ Json.maxInt64 then some n else none

def int128? (n : Int) : Option Int :=
  if -170141183460469231731687303715884105728 ≤ n ∧
    n ≤ 170141183460469231731687303715884105727 then some n else none

theorem int64?_eq_some {n : Int} (h₀ : Json.minInt64 ≤ n) (h₁ : n ≤ Json.maxInt64) :
    int64? n = some n := if_pos ⟨h₀, h₁⟩

theorem int128?_eq_some {n : Int} (h₀ : -170141183460469231731687303715884105728 ≤ n)
    (h₁ : n ≤ 170141183460469231731687303715884105727) : int128? n = some n := if_pos ⟨h₀, h₁⟩

def IsInt64 (n : Int) : Prop := Json.minInt64 ≤ n ∧ n ≤ Json.maxInt64

instance (n : Int) : Decidable (IsInt64 n) := inferInstanceAs (Decidable (_ ∧ _))

def IsInt32 (n : Int) : Prop := -2147483648 ≤ n ∧ n ≤ 2147483647

instance (n : Int) : Decidable (IsInt32 n) := inferInstanceAs (Decidable (_ ∧ _))

theorem InBounds.isInt64 {n : Int} (h : InBounds n) : IsInt64 n := by
  have hmax : maxSafeAmount = 9007199254740991 := rfl
  have hmin64 : Json.minInt64 = -9223372036854775808 := rfl
  have hmax64 : Json.maxInt64 = 9223372036854775807 := rfl
  obtain ⟨h₀, h₁⟩ := h
  exact ⟨by omega, by omega⟩

theorem int64?_of_abs {n : Int} (h : n.natAbs ≤ 2 * maxSafeAmount) : int64? n = some n := by
  have hmax : maxSafeAmount = 9007199254740991 := rfl
  have hmin64 : Json.minInt64 = -9223372036854775808 := rfl
  have hmax64 : Json.maxInt64 = 9223372036854775807 := rfl
  exact int64?_eq_some (by omega) (by omega)

/-! ## Fees -/

structure FeeRule.Stored (r : FeeRule) : Prop where
  bps : r.bps < 4294967296
  flat_ge : Json.minInt64 ≤ r.flat
  flat_le : r.flat ≤ Json.maxInt64

structure FeeSchedule.Stored (f : FeeSchedule) : Prop where
  deposit : f.deposit.Stored
  decline : f.decline.Stored

theorem FeeSchedule.Stored.rule {f : FeeSchedule} (h : f.Stored) (kind : FeeKind) :
    (f.rule kind).Stored := by
  cases kind with
  | deposit => exact h.deposit
  | decline => exact h.decline

def FeeRule.roundedInWords? (r : FeeRule) (amount : Int) : Option Int := do
  let share ← int128? (max amount 0 * r.bps)
  let raised ← int128? (share + basisPoints / 2)
  let total ← int128? (raised / basisPoints + max r.flat 0)
  return min total Json.maxInt64

theorem FeeRule.roundedInWords?_eq {r : FeeRule} (hr : r.Stored) {amount : Int}
    (ha : IsInt64 amount) : r.roundedInWords? amount = some (r.rounded amount) := by
  have hamount : amount ≤ 9223372036854775807 := ha.2
  have hflat : r.flat ≤ 9223372036854775807 := hr.flat_le
  have hbps : (r.bps : Int) ≤ 4294967295 := by
    have := hr.bps
    omega
  have hshare₀ : 0 ≤ max amount 0 * (r.bps : Int) :=
    Int.mul_nonneg (Int.le_max_right ..) (Int.natCast_nonneg _)
  have hshare₁ : max amount 0 * (r.bps : Int) ≤ 9223372036854775807 * 4294967295 :=
    Int.mul_le_mul (by omega) hbps (Int.natCast_nonneg _) (by omega)
  unfold roundedInWords? rounded share basisPoints
  generalize max amount 0 * (r.bps : Int) = share at hshare₀ hshare₁
  have hproduct : int128? share = some share := int128?_eq_some (by omega) (by omega)
  have hraised : int128? (share + 10000 / 2) = some (share + 10000 / 2) :=
    int128?_eq_some (by omega) (by omega)
  have htotal : int128? ((share + 10000 / 2) / 10000 + max r.flat 0) =
      some ((share + 10000 / 2) / 10000 + max r.flat 0) := int128?_eq_some (by omega) (by omega)
  simp only [hproduct, hraised, htotal, Option.bind_eq_bind, Option.bind_some, Option.pure_def]

theorem FeeSchedule.quote_bounds (f : FeeSchedule) (kind : FeeKind) (amount : Int) :
    0 ≤ (f.quote kind amount).fee ∧ (f.quote kind amount).fee ≤ Json.maxInt64 := by
  have hrounded : (f.rule kind).rounded amount ≤ Json.maxInt64 := Int.min_le_right ..
  have hmax : Json.maxInt64 = 9223372036854775807 := rfl
  unfold quote
  dsimp only
  split <;> split_ifs <;> simp only [FeeQuote.free] <;> omega

/-! ## Amounts -/

def Tolerance.changeInWords? (stored incoming : Int) : Option (Option Int) :=
  if stored = 0 then some none
  else do
    let difference ← int128? (incoming - stored)
    let distance ← int128? difference.natAbs
    let base ← int128? stored.natAbs
    let scaled ← int128? (distance * basisPoints)
    let raised ← int128? (scaled + base)
    let dividend ← int128? (raised - 1)
    return some (dividend / base)

theorem Tolerance.changeInWords?_eq {stored incoming : Int} (hs : IsInt64 stored)
    (hi : IsInt64 incoming) :
    changeInWords? stored incoming = some (relativeChange? stored incoming) := by
  have hmin64 : Json.minInt64 = -9223372036854775808 := rfl
  have hmax64 : Json.maxInt64 = 9223372036854775807 := rfl
  obtain ⟨hs₀, hs₁⟩ := hs
  obtain ⟨hi₀, hi₁⟩ := hi
  unfold changeInWords? relativeChange?
  split
  · rfl
  have hdifference : int128? (incoming - stored) = some (incoming - stored) :=
    int128?_eq_some (by omega) (by omega)
  unfold basisPoints
  dsimp only
  generalize hd : ((incoming - stored).natAbs : Int) = distance
  generalize hb : (stored.natAbs : Int) = base
  have hdistance : int128? distance = some distance := int128?_eq_some (by omega) (by omega)
  have hbase : int128? base = some base := int128?_eq_some (by omega) (by omega)
  have hscaled : int128? (distance * 10000) = some (distance * 10000) :=
    int128?_eq_some (by omega) (by omega)
  have hraised : int128? (distance * 10000 + base) = some (distance * 10000 + base) :=
    int128?_eq_some (by omega) (by omega)
  have hdividend : int128? (distance * 10000 + base - 1) = some (distance * 10000 + base - 1) :=
    int128?_eq_some (by omega) (by omega)
  simp only [hdifference, hd, hdistance, hbase, hscaled, hraised, hdividend, Option.bind_eq_bind,
    Option.bind_some, Option.pure_def]

/-! ## Movements -/

def spendDeltaInWords? (existing : Option Snapshot) (incoming : Snapshot) : Option Int :=
  match existing, incoming.status with
  | none, .pending => int64? (-incoming.amount)
  | none, .successful => int64? (-incoming.amount)
  | some held, .successful =>
    if held.status = .pending then int64? (held.amount - incoming.amount) else some 0
  | _, _ => some (spendDelta existing incoming)

theorem spendDeltaInWords?_eq {existing : Option Snapshot} {incoming : Snapshot}
    (he : ∀ held, existing = some held → InBounds held.amount) (hi : InBounds incoming.amount) :
    spendDeltaInWords? existing incoming = some (spendDelta existing incoming) := by
  have hmax : maxSafeAmount = 9007199254740991 := rfl
  obtain ⟨hi₀, hi₁⟩ := hi
  have hnegated : int64? (-incoming.amount) = some (-incoming.amount) := int64?_of_abs (by omega)
  unfold spendDeltaInWords? spendDelta
  cases existing with
  | none => cases incoming.status <;> first | exact hnegated | rfl
  | some held =>
    obtain ⟨hh₀, hh₁⟩ := he held rfl
    have hsettled : int64? (held.amount - incoming.amount) =
        some (held.amount - incoming.amount) := int64?_of_abs (by omega)
    cases incoming.status with
    | successful =>
      dsimp only
      split
      · exact hsettled
      · rfl
    | _ => rfl

def depositCreditInWords? (amount fee : Int) : Option (Except EngineError Int) :=
  match ensureSafeAmount amount with
  | .error e => some (.error e)
  | .ok amount =>
    if fee < 0 then some (.error (.invalidAmount (.negativeFee fee)))
    else do
      let credit ← int64? (amount - fee)
      return if credit ≤ 0 then .error (.nonPositiveCredit amount fee) else .ok credit

theorem depositCreditInWords?_eq {amount fee : Int} (hfee : fee ≤ Json.maxInt64) :
    depositCreditInWords? amount fee = some (depositCredit amount fee) := by
  have hmax : maxSafeAmount = 9007199254740991 := rfl
  have hmax64 : Json.maxInt64 = 9223372036854775807 := rfl
  have hmin64 : Json.minInt64 = -9223372036854775808 := rfl
  unfold depositCreditInWords? depositCredit ensureSafeAmount
  by_cases hnegative : amount < 0
  · rw [if_pos hnegative]
  rw [if_neg hnegative]
  by_cases hlarge : maxSafeAmount < amount
  · rw [if_pos hlarge]
  rw [if_neg hlarge]
  dsimp only
  by_cases hfee₀ : fee < 0
  · rw [if_pos hfee₀, if_pos hfee₀]
  have hcredit : int64? (amount - fee) = some (amount - fee) :=
    int64?_eq_some (by omega) (by omega)
  rw [if_neg hfee₀, if_neg hfee₀, hcredit]
  rfl

def balanceTransitionInWords? (before after : Option Int) (current delta : Int) :
    Option (Int × Int) := do
  let next := after.getD current
  let derived ← int64? (next - delta)
  return (before.getD derived, next)

theorem balanceTransitionInWords?_eq {before after : Option Int} {current delta : Int}
    (ha : ∀ balance ∈ after, InBounds balance) (hc : InBounds current)
    (hd : delta.natAbs ≤ maxSafeAmount) :
    balanceTransitionInWords? before after current delta =
      some (balanceTransition before after current delta) := by
  have hnext : InBounds (after.getD current) := by
    cases after with
    | none => exact hc
    | some balance => exact ha balance rfl
  obtain ⟨h₀, h₁⟩ := hnext
  have hderived : int64? (after.getD current - delta) = some (after.getD current - delta) :=
    int64?_of_abs (by omega)
  unfold balanceTransitionInWords? balanceTransition
  dsimp only
  rw [hderived]
  rfl

end PrepaidLedger
