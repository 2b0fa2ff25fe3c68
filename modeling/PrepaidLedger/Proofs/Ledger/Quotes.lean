import Mathlib.Algebra.Order.Round
import Mathlib.Data.Rat.Floor
import Mathlib.Tactic.Linarith
import PrepaidLedger.Proofs.Ledger.Words

/-! Quoted fees. A fee is the exact one rounded half up, kept within its word, and never nothing
where something is charged; it does not fall when the amount rises. -/

namespace PrepaidLedger

/-! ## The exact fee -/

namespace FeeRule

variable {r : FeeRule} {amount amount' : Int}

def exactFee (r : FeeRule) (amount : Int) : ℚ :=
  ((max amount 0 * r.bps : ℤ) : ℚ) / 10000 + (max r.flat 0 : ℤ)

def halfUp (r : FeeRule) (amount : Int) : Int :=
  ⌊((max amount 0 * r.bps + 5000 : ℤ) : ℚ) / 10000⌋ + max r.flat 0

theorem halfUp_eq (r : FeeRule) (amount : Int) :
    r.halfUp amount = (r.share amount + 5000) / 10000 + max r.flat 0 := by
  have hfloor : ⌊((r.share amount + 5000 : ℤ) : ℚ) / 10000⌋ = (r.share amount + 5000) / 10000 :=
    Rat.floor_intCast_div_natCast (r.share amount + 5000) 10000
  rw [← hfloor]
  rfl

theorem rounded_eq_min_halfUp : r.rounded amount = min (r.halfUp amount) Json.maxInt64 := by
  rw [halfUp_eq]
  rfl

theorem abs_halfUp_sub_exactFee_le : |(r.halfUp amount : ℚ) - r.exactFee amount| ≤ 1 / 2 := by
  have hround : r.halfUp amount =
      round (((max amount 0 * r.bps : ℤ) : ℚ) / 10000) + max r.flat 0 := by
    rw [halfUp, round_eq]
    congr 2
    push_cast
    ring
  have hnear := abs_sub_round (((max amount 0 * r.bps : ℤ) : ℚ) / 10000)
  rw [abs_sub_comm] at hnear
  rw [hround, exactFee]
  push_cast at hnear ⊢
  rwa [add_sub_add_right_eq_sub]

theorem share_nonneg : 0 ≤ r.share amount :=
  Int.mul_nonneg (Int.le_max_right ..) (Int.natCast_nonneg _)

theorem share_mono (h : amount ≤ amount') : r.share amount ≤ r.share amount' :=
  Int.mul_le_mul_of_nonneg_right (by omega) (Int.natCast_nonneg _)

theorem halfUp_mono (h : amount ≤ amount') : r.halfUp amount ≤ r.halfUp amount' := by
  have hshare : r.share amount ≤ r.share amount' := share_mono h
  rw [halfUp_eq, halfUp_eq]
  omega

theorem halfUp_nonneg : 0 ≤ r.halfUp amount := by
  have hshare : 0 ≤ r.share amount := share_nonneg
  rw [halfUp_eq]
  omega

theorem isPositive_iff_of_halfUp (h : r.halfUp amount = 0) :
    r.isPositive amount = true ↔ 0 < max amount 0 * (r.bps : Int) := by
  have hshare : 0 ≤ r.share amount := share_nonneg
  have hflat : ¬ 0 < r.flat := by
    rw [halfUp_eq] at h
    omega
  unfold isPositive
  rw [decide_eq_true_iff, or_iff_left hflat]
  rfl

end FeeRule

/-! ## What is charged -/

namespace FeeSchedule

variable {f : FeeSchedule} {kind : FeeKind} {amount amount' : Int}

def Charges (f : FeeSchedule) (kind : FeeKind) : Prop :=
  kind = .decline ∨ f.settlement = .providerCharge

instance (f : FeeSchedule) (kind : FeeKind) : Decidable (f.Charges kind) :=
  inferInstanceAs (Decidable (_ ∨ _))

theorem charges_iff : f.Charges kind ↔ f.settlementOf kind = .providerCharge := by
  cases kind with
  | deposit => exact or_iff_right (by decide)
  | decline => exact iff_of_true (.inl rfl) rfl

/-- The exact fee rounded and kept within its word, and one unit where that is nothing but a share
is owed and charged. -/
def dueFee (f : FeeSchedule) (kind : FeeKind) (amount : Int) : Int :=
  let fee := min ((f.rule kind).halfUp amount) Json.maxInt64
  if fee = 0 ∧ 0 < max amount 0 * (f.rule kind).bps ∧ f.Charges kind then 1 else fee

theorem dueFee_of_pos (h : 0 < (f.rule kind).rounded amount) :
    f.dueFee kind amount = (f.rule kind).rounded amount := by
  rw [FeeRule.rounded_eq_min_halfUp] at h ⊢
  exact if_neg fun hnone => h.ne' hnone.1

theorem dueFee_of_not_pos (h : ¬ 0 < (f.rule kind).rounded amount) :
    f.dueFee kind amount =
      if (f.rule kind).isPositive amount = true ∧ f.Charges kind then 1 else 0 := by
  have hmax : Json.maxInt64 = 9223372036854775807 := rfl
  have hhalfUp : (f.rule kind).halfUp amount = 0 := by
    have hnonneg : 0 ≤ (f.rule kind).halfUp amount := FeeRule.halfUp_nonneg
    rw [FeeRule.rounded_eq_min_halfUp] at h
    omega
  have hnone : min (0 : Int) Json.maxInt64 = 0 := rfl
  unfold dueFee
  simp only [hhalfUp, hnone, FeeRule.isPositive_iff_of_halfUp hhalfUp, true_and]

theorem quote_eq (f : FeeSchedule) (kind : FeeKind) (amount : Int) :
    f.quote kind amount =
      ⟨f.dueFee kind amount, decide (0 < f.dueFee kind amount ∧ f.Charges kind)⟩ := by
  unfold quote
  dsimp only
  cases hsettlement : f.settlementOf kind with
  | providerCharge =>
    have hcharges : f.Charges kind := charges_iff.mpr hsettlement
    by_cases hpos : 0 < (f.rule kind).rounded amount
    · simp [dueFee_of_pos hpos, hcharges, hpos]
    · rw [dueFee_of_not_pos hpos]
      cases (f.rule kind).isPositive amount <;> simp [hcharges, hpos, FeeQuote.free]
  | inline =>
    have hkept : ¬ f.Charges kind := by simp [charges_iff, hsettlement]
    by_cases hpos : 0 < (f.rule kind).rounded amount
    · simp [dueFee_of_pos hpos, hkept, hpos]
    · simp [dueFee_of_not_pos hpos, hkept, hpos, FeeQuote.free]

theorem dueFee_mono (h : amount ≤ amount') : f.dueFee kind amount ≤ f.dueFee kind amount' := by
  have hhalfUp : (f.rule kind).halfUp amount ≤ (f.rule kind).halfUp amount' := FeeRule.halfUp_mono h
  have hnonneg : 0 ≤ (f.rule kind).halfUp amount := FeeRule.halfUp_nonneg
  have hshare : max amount 0 * ((f.rule kind).bps : Int) ≤ max amount' 0 * (f.rule kind).bps :=
    FeeRule.share_mono h
  have hmax : Json.maxInt64 = 9223372036854775807 := rfl
  unfold dueFee
  -- Where the lesser amount is raised to one unit, the greater is too, or comes to one by itself.
  by_cases hcharges : f.Charges kind
  · simp only [hcharges, and_true]
    split_ifs <;> omega
  · simp only [hcharges, and_false, if_false]
    omega

/-! ## In words -/

def quoteInWords? (f : FeeSchedule) (kind : FeeKind) (amount : Int) : Option FeeQuote := do
  let rounded ← (f.rule kind).roundedInWords? amount
  match f.settlementOf kind with
  | .providerCharge =>
    if 0 < rounded then return ⟨rounded, true⟩
    else if (f.rule kind).isPositive amount then return ⟨1, true⟩
    else return .free
  | .inline => if 0 < rounded then return ⟨rounded, false⟩ else return .free

theorem quoteInWords?_eq (hf : f.Stored) (ha : IsInt64 amount) :
    f.quoteInWords? kind amount = some (f.quote kind amount) := by
  unfold quoteInWords? quote
  rw [FeeRule.roundedInWords?_eq (hf.rule kind) ha]
  dsimp only
  cases f.settlementOf kind <;> simp only [Option.bind_eq_bind, Option.bind_some, Option.pure_def] <;>
    split_ifs <;> rfl

end FeeSchedule

/-- Whatever the schedule and the amount, the fee quoted is the exact one rounded half up, at least
one unit where something is charged and at most the greatest of its word; it is charged where it is
something, unless deposits keep theirs back; the rounding moves it by half a unit at most; it rises
with the amount; and nothing on the way to it leaves its word. -/
theorem quote_rounds_half_up {f : FeeSchedule} (hf : f.Stored) (kind : FeeKind) {amount : Int}
    (ha : IsInt64 amount) :
    (f.quote kind amount).fee = f.dueFee kind amount ∧
      ((f.quote kind amount).requiresCharge = true ↔
        0 < (f.quote kind amount).fee ∧ f.Charges kind) ∧
      (f.quote kind amount).settledOnWrite = !(f.quote kind amount).requiresCharge ∧
      |((f.rule kind).halfUp amount : ℚ) - (f.rule kind).exactFee amount| ≤ 1 / 2 ∧
      (∀ amount', amount ≤ amount' → (f.quote kind amount).fee ≤ (f.quote kind amount').fee) ∧
      f.quoteInWords? kind amount = some (f.quote kind amount) := by
  refine ⟨?_, ?_, rfl, FeeRule.abs_halfUp_sub_exactFee_le, fun amount' h => ?_,
    FeeSchedule.quoteInWords?_eq hf ha⟩
  · rw [FeeSchedule.quote_eq]
  · rw [FeeSchedule.quote_eq, decide_eq_true_iff]
  · rw [FeeSchedule.quote_eq, FeeSchedule.quote_eq]
    exact FeeSchedule.dueFee_mono h

/-- Not half a unit is owed for a decline, which is charged as one although deposits keep their fees
back; and the greatest fee of a deposit stays in its word. -/
theorem least_and_greatest_fee :
    let f : FeeSchedule := ⟨⟨4294967295, Json.maxInt64⟩, ⟨1, Json.minInt64⟩, .inline⟩
    f.Stored ∧ IsInt64 4999 ∧ IsInt64 Json.maxInt64 ∧
      (f.quote .decline 4999).fee = 1 ∧ (f.quote .decline 4999).requiresCharge = true ∧
      (f.quote .decline 4999).fee ≤ (f.quote .decline Json.maxInt64).fee ∧
      (f.quote .deposit Json.maxInt64).fee = Json.maxInt64 ∧
      (f.quote .deposit Json.maxInt64).settledOnWrite = true ∧
      f.quoteInWords? .deposit Json.maxInt64 = some (f.quote .deposit Json.maxInt64) := by
  intro f
  have hf : f.Stored := ⟨⟨by decide, by decide, by decide⟩, ⟨by decide, by decide, by decide⟩⟩
  have hsmall : IsInt64 4999 := by decide
  have hlarge : IsInt64 Json.maxInt64 := by decide
  obtain ⟨hleast, hcharged, -, -, hmono, -⟩ := quote_rounds_half_up hf .decline hsmall
  obtain ⟨hgreatest, hkept, hsettled, -, -, hwords⟩ := quote_rounds_half_up hf .deposit hlarge
  have hone : (f.quote .decline 4999).fee = 1 := hleast.trans (by decide +kernel)
  have huncharged : (f.quote .deposit Json.maxInt64).requiresCharge = false :=
    Bool.eq_false_iff.mpr fun hc => absurd (hkept.mp hc).2 (by decide)
  refine ⟨hf, hsmall, hlarge, hone, ?_, hmono _ (by decide), hgreatest.trans (by decide +kernel),
    ?_, hwords⟩
  · exact hcharged.mpr ⟨hone ▸ Int.one_pos, .inl rfl⟩
  · rw [hsettled, huncharged]
    rfl

end PrepaidLedger
