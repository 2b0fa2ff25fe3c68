import Mathlib.Tactic.ByContra
import Mathlib.Tactic.SplitIfs
import PrepaidLedger.Engine.Delivery

/-! The terms of collateral under fees that the provider charges. A fee that rounds to nothing is
charged as one unit, so a deposit is free only where its rule asks for nothing at all. -/

namespace PrepaidLedger

def FeeRule.IsFree (r : FeeRule) : Prop := r.bps = 0 ∧ r.flat ≤ 0

namespace FeeSchedule

variable {f : FeeSchedule} {amount : Int}

theorem quote_deposit_eq (h : f.settlement = .providerCharge) :
    f.quote .deposit amount =
      if 0 < f.deposit.rounded amount then ⟨f.deposit.rounded amount, true⟩
      else if f.deposit.isPositive amount then ⟨1, true⟩
      else .free := by
  unfold quote settlementOf rule
  dsimp only
  rw [h]

theorem fee_of_isFree (h : f.settlement = .providerCharge) (hfree : f.deposit.IsFree) :
    (f.quote .deposit amount).fee = 0 := by
  have hshare : f.deposit.share amount = 0 := by
    rw [FeeRule.share, hfree.1]
    exact Int.mul_zero _
  have hrounded : ¬ 0 < f.deposit.rounded amount := by
    unfold FeeRule.rounded
    rw [hshare, Int.max_eq_right hfree.2]
    decide
  have hpositive : f.deposit.isPositive amount = false := by
    unfold FeeRule.isPositive
    rw [hshare]
    simpa using hfree.2
  rw [quote_deposit_eq h, if_neg hrounded, hpositive]
  rfl

theorem isFree_of_fee (h : f.settlement = .providerCharge) (hamount : 0 < amount)
    (hfee : ¬ 0 < (f.quote .deposit amount).fee) : f.deposit.IsFree := by
  rw [quote_deposit_eq h] at hfee
  split_ifs at hfee with hrounded hpositive
  · exact absurd hrounded hfee
  · exact absurd Int.one_pos hfee
  · have hnone : ¬ 0 < f.deposit.share amount ∧ ¬ 0 < f.deposit.flat := by
      unfold FeeRule.isPositive at hpositive
      simpa using hpositive
    refine ⟨?_, Int.not_lt.mp hnone.2⟩
    have hshare := hnone.1
    unfold FeeRule.share at hshare
    rw [Int.max_eq_left (Int.le_of_lt hamount)] at hshare
    by_contra hbps
    exact hshare (Int.mul_pos hamount (by omega))

end FeeSchedule

namespace Posting

variable {fees : FeeSchedule} {status : LineStatus} {amount credit : Int} {fee : FeeQuote}

theorem depositCredit_eq_ok {fee : Int} (h : depositCredit amount fee = .ok credit) :
    credit = amount - fee ∧ 0 ≤ fee ∧ fee < amount := by
  unfold depositCredit ensureSafeAmount at h
  split_ifs at h
  dsimp only at h
  split_ifs at h
  obtain rfl := Except.ok.inj h
  exact ⟨rfl, by omega, by omega⟩

theorem credit_of_alive (h : collateralTerms fees status amount = .ok (fee, credit))
    (hstatus : status = .pending ∨ status = .successful) :
    fee = fees.quote .deposit amount ∧ depositCredit amount fee.fee = .ok credit := by
  have hquote : (depositCredit amount (fees.quote .deposit amount).fee).map
      (fun credit => (fees.quote .deposit amount, credit)) = .ok (fee, credit) := by
    rcases hstatus with rfl | rfl <;> exact h
  cases hcredit : depositCredit amount (fees.quote .deposit amount).fee with
  | error e =>
    rw [hcredit] at hquote
    cases hquote
  | ok n =>
    rw [hcredit] at hquote
    obtain ⟨rfl, rfl⟩ := Prod.mk.inj (Except.ok.inj hquote)
    exact ⟨rfl, hcredit⟩

theorem terms_of_alive (h : collateralTerms fees status amount = .ok (fee, credit))
    (hstatus : status = .pending ∨ status = .successful) :
    fee = fees.quote .deposit amount ∧ credit = amount - fee.fee ∧ 0 < amount := by
  obtain ⟨hfee, hcredit⟩ := credit_of_alive h hstatus
  obtain ⟨hn, h₀, h₁⟩ := depositCredit_eq_ok hcredit
  exact ⟨hfee, hn, by omega⟩

theorem fee_bounds_of_alive (h : collateralTerms fees status amount = .ok (fee, credit))
    (hstatus : status = .pending ∨ status = .successful) : 0 ≤ fee.fee ∧ fee.fee < amount :=
  (depositCredit_eq_ok (credit_of_alive h hstatus).2).2

theorem terms_of_failed (h : collateralTerms fees status amount = .ok (fee, credit))
    (hstatus : status = .declined ∨ status = .canceled) : fee = .free := by
  rcases hstatus with rfl | rfl <;> exact (Prod.mk.inj (Except.ok.inj h)).1.symm

theorem fee_of_terms (hcharge : fees.settlement = .providerCharge)
    (h : collateralTerms fees status amount = .ok (fee, credit)) (hfree : fees.deposit.IsFree) :
    fee.fee = 0 := by
  cases status with
  | pending =>
    rw [(terms_of_alive h (.inl rfl)).1]
    exact FeeSchedule.fee_of_isFree hcharge hfree
  | successful =>
    rw [(terms_of_alive h (.inr rfl)).1]
    exact FeeSchedule.fee_of_isFree hcharge hfree
  | declined =>
    rw [terms_of_failed h (.inl rfl)]
    rfl
  | canceled =>
    rw [terms_of_failed h (.inr rfl)]
    rfl

end Posting
end PrepaidLedger
