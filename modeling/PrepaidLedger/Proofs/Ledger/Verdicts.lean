import PrepaidLedger.Proofs.Ledger.Filing
import PrepaidLedger.Proofs.Ledger.Words

/-! Every verdict on a repeated reference belongs to one of five separate cases. The tolerance in
them is the exact ratio of change and stored amount, although a rounded quotient is compared. -/

namespace PrepaidLedger

/-! ## The exact tolerance -/

def Tolerance.Admits (t : Tolerance) (stored incoming : Int) : Prop :=
  (stored = 0 ∧ incoming = 0) ∨
    (stored ≠ 0 ∧ (incoming - stored).natAbs * basisPoints ≤ t.bps * stored.natAbs)

instance (t : Tolerance) (stored incoming : Int) : Decidable (t.Admits stored incoming) :=
  inferInstanceAs (Decidable (_ ∨ _))

theorem ceil_div_le_iff {n base bound : Int} (hbase : 0 < base) :
    (n + base - 1) / base ≤ bound ↔ n ≤ bound * base := by
  have hsucc : (bound + 1) * base = bound * base + base := by rw [Int.add_mul, Int.one_mul]
  rw [← Int.lt_add_one_iff, Int.ediv_lt_iff_lt_mul hbase, hsucc]
  omega

theorem Tolerance.within_iff_admits {t : Tolerance} {stored incoming : Int} :
    t.within stored incoming = true ↔ t.Admits stored incoming := by
  unfold within relativeChange? Admits
  by_cases h : stored = 0
  · simp [h]
  · have hbase : (0 : Int) < stored.natAbs := by omega
    rw [if_neg h]
    simp only [decide_eq_true_eq, ceil_div_le_iff hbase, h, ne_eq, not_false_eq_true, false_and,
      true_and, false_or]

/-! ## The cases -/

section Cases

variable (t : Tolerance) (stored incoming : Snapshot)

def Concludes : Prop :=
  stored.status = .pending ∧ incoming.status.isTerminal ∧ t.Admits stored.amount incoming.amount

def Repeats : Prop :=
  stored.status = incoming.status ∧ t.Admits stored.amount incoming.amount

def LeavesEnd : Prop := stored.status.isTerminal ∧ stored.status ≠ incoming.status

def DeclinesUnheld : Prop :=
  stored.amount = 0 ∧ incoming.amount ≠ 0 ∧ incoming.status = .declined ∧
    (stored.status = .pending ∨ stored.status = .declined)

/-- When a verdict is due. A contradicting amount is what remains. -/
def Verdict.DueOver : Verdict → Prop
  | .proceed => Concludes t stored incoming
  | .duplicate => Repeats t stored incoming
  | .reject .invalidStatusTransition => LeavesEnd stored incoming
  | .reject .invalidAmountForDeclined => DeclinesUnheld stored incoming
  | .reject .amountMismatch => ¬ Concludes t stored incoming ∧ ¬ Repeats t stored incoming ∧
      ¬ LeavesEnd stored incoming ∧ ¬ DeclinesUnheld stored incoming
  | .reject _ => False

end Cases

def Verdict.Due (t : Tolerance) : Option Snapshot → Snapshot → Verdict → Prop
  | none, _, v => v = .proceed
  | some stored, incoming, v => v.DueOver t stored incoming

variable {t : Tolerance} {existing : Option Snapshot} {stored incoming : Snapshot} {v : Verdict}

theorem DeclinesUnheld.not_admits (h : DeclinesUnheld stored incoming) :
    ¬ t.Admits stored.amount incoming.amount := by
  rintro (⟨-, hincoming⟩ | ⟨hstored, -⟩)
  · exact h.2.1 hincoming
  · exact hstored h.1

theorem LineStatus.isTerminal_iff {s : LineStatus} : s.isTerminal = true ↔ s ≠ .pending := by
  cases s <;> decide

theorem pending_or_same_of_not_leavesEnd (h : ¬ LeavesEnd stored incoming) :
    stored.status = .pending ∨ stored.status = incoming.status := by
  by_contra hneither
  rw [not_or] at hneither
  exact h ⟨LineStatus.isTerminal_iff.mpr hneither.1, hneither.2⟩

theorem not_admits_of_rest (hconcludes : ¬ Concludes t stored incoming)
    (hrepeats : ¬ Repeats t stored incoming) (hleaves : ¬ LeavesEnd stored incoming) :
    ¬ t.Admits stored.amount incoming.amount := by
  -- An admitted change either concludes or repeats, unless it leaves an end.
  intro hadmits
  have hdiffer : stored.status ≠ incoming.status := fun he => hrepeats ⟨he, hadmits⟩
  have hpending : stored.status = .pending :=
    (pending_or_same_of_not_leavesEnd hleaves).resolve_right hdiffer
  refine hconcludes ⟨hpending, LineStatus.isTerminal_iff.mpr fun he => ?_, hadmits⟩
  exact hdiffer (hpending.trans he.symm)

theorem Verdict.DueOver.validateTransition_eq (h : v.DueOver t stored incoming) :
    validateTransition (some stored) incoming t = v := by
  unfold validateTransition
  simp only [Bool.not_eq_true', ← Bool.not_eq_true, Tolerance.within_iff_admits]
  cases v with
  | proceed =>
    obtain ⟨hpending, hends, hadmits⟩ := h
    have hdiffer : stored.status ≠ incoming.status := fun he =>
      LineStatus.isTerminal_iff.mp hends (he.symm.trans hpending)
    have hopen : ¬ stored.status.isTerminal = true := fun he =>
      LineStatus.isTerminal_iff.mp he hpending
    have hheld : ¬ (stored.amount = 0 ∧ incoming.status = .declined ∧ incoming.amount ≠ 0) :=
      fun ⟨hzero, hdeclined, hmore⟩ =>
        DeclinesUnheld.not_admits ⟨hzero, hmore, hdeclined, .inl hpending⟩ hadmits
    rw [if_neg fun hr => hdiffer hr.1, if_neg fun hl => hopen hl.1, if_neg hheld,
      if_neg fun hn => hn hadmits]
  | duplicate => exact if_pos h
  | reject r =>
    cases r with
    | invalidStatusTransition =>
      rw [if_neg fun hr => h.2 hr.1]
      exact if_pos h
    | invalidAmountForDeclined =>
      obtain ⟨hzero, hmore, hdeclined, hstatus⟩ := id h
      have hstays : ¬ (stored.status.isTerminal = true ∧ stored.status ≠ incoming.status) :=
        fun ⟨hends, hdiffer⟩ => hstatus.elim (LineStatus.isTerminal_iff.mp hends)
          fun hend => hdiffer (hend.trans hdeclined.symm)
      rw [if_neg fun hr => DeclinesUnheld.not_admits h hr.2, if_neg hstays,
        if_pos ⟨hzero, hdeclined, hmore⟩]
    | amountMismatch =>
      obtain ⟨hconcludes, hrepeats, hleaves, hdeclines⟩ := h
      have hadmits := not_admits_of_rest hconcludes hrepeats hleaves
      have hheld : ¬ (stored.amount = 0 ∧ incoming.status = .declined ∧ incoming.amount ≠ 0) :=
        fun ⟨hzero, hdeclined, hmore⟩ => hdeclines ⟨hzero, hmore, hdeclined,
          (pending_or_same_of_not_leavesEnd hleaves).imp_right fun he => he.trans hdeclined⟩
      exact (if_neg hrepeats).trans ((if_neg hleaves).trans ((if_neg hheld).trans (if_pos hadmits)))
    | _ => exact h.elim

theorem exists_dueOver (t : Tolerance) (stored incoming : Snapshot) :
    ∃ v : Verdict, v.DueOver t stored incoming := by
  by_cases hconcludes : Concludes t stored incoming
  · exact ⟨.proceed, hconcludes⟩
  by_cases hrepeats : Repeats t stored incoming
  · exact ⟨.duplicate, hrepeats⟩
  by_cases hleaves : LeavesEnd stored incoming
  · exact ⟨.reject .invalidStatusTransition, hleaves⟩
  by_cases hdeclines : DeclinesUnheld stored incoming
  · exact ⟨.reject .invalidAmountForDeclined, hdeclines⟩
  · exact ⟨.reject .amountMismatch, hconcludes, hrepeats, hleaves, hdeclines⟩

theorem validateTransition_eq_iff_due :
    validateTransition existing incoming t = v ↔ v.Due t existing incoming := by
  cases existing with
  | none => exact eq_comm
  | some stored =>
    refine ⟨fun h => ?_, Verdict.DueOver.validateTransition_eq⟩
    obtain ⟨v', hv'⟩ := exists_dueOver t stored incoming
    rw [← h, hv'.validateTransition_eq]
    exact hv'

/-! ## In words -/

def Tolerance.withinInWords? (t : Tolerance) (stored incoming : Int) : Option Bool := do
  match ← changeInWords? stored incoming with
  | some change => return change ≤ (← int128? t.bps)
  | none => return incoming = 0

def Tolerance.isLargeInWords? (t : Tolerance) (stored incoming : Int) : Option Bool := do
  match ← changeInWords? stored incoming with
  | some change => return (← int128? t.bps) < (← int128? (change * 2))
  | none => return false

def validateTransitionInWords? (existing : Option Snapshot) (incoming : Snapshot) (t : Tolerance) :
    Option Verdict :=
  match existing with
  | none => some .proceed
  | some stored => do
    let within ← t.withinInWords? stored.amount incoming.amount
    if stored.status = incoming.status ∧ within then return .duplicate
    else if stored.status.isTerminal ∧ stored.status ≠ incoming.status then
      return .reject .invalidStatusTransition
    else if stored.amount = 0 ∧ incoming.status = .declined ∧ incoming.amount ≠ 0 then
      return .reject .invalidAmountForDeclined
    else if !within then return .reject .amountMismatch
    else
      let _ ← t.isLargeInWords? stored.amount incoming.amount
      return .proceed

def Tolerance.Stored (t : Tolerance) : Prop := t.bps < 4294967296

instance (t : Tolerance) : Decidable t.Stored := inferInstanceAs (Decidable (_ < _))

theorem Tolerance.withinInWords?_eq (ht : t.Stored) {stored incoming : Int}
    (hs : IsInt64 stored) (hi : IsInt64 incoming) :
    t.withinInWords? stored incoming = some (t.within stored incoming) := by
  have hbps : int128? t.bps = some (t.bps : Int) := by
    have hlt : t.bps < 4294967296 := ht
    exact int128?_eq_some (by omega) (by omega)
  unfold withinInWords? within
  rw [changeInWords?_eq hs hi]
  cases relativeChange? stored incoming with
  | none => rfl
  | some change => simp only [Option.bind_eq_bind, Option.bind_some, hbps, Option.pure_def]

theorem Tolerance.relativeChange?_bounds {stored incoming change : Int} (hs : IsInt64 stored)
    (hi : IsInt64 incoming) (h : relativeChange? stored incoming = some change) :
    0 ≤ change ∧ change ≤ 18446744073709551615 * 10000 := by
  -- The quotient of the least stored amount and the greatest distance.
  have hmin64 : Json.minInt64 = -9223372036854775808 := rfl
  have hmax64 : Json.maxInt64 = 9223372036854775807 := rfl
  obtain ⟨hs₀, hs₁⟩ := hs
  obtain ⟨hi₀, hi₁⟩ := hi
  unfold relativeChange? basisPoints at h
  split_ifs at h with hzero
  dsimp only at h
  cases h
  have hdistance₀ : (0 : Int) ≤ (incoming - stored).natAbs := Int.natCast_nonneg _
  have hdistance₁ : ((incoming - stored).natAbs : Int) ≤ 18446744073709551615 := by omega
  have hbase : (0 : Int) < stored.natAbs := by omega
  generalize ((incoming - stored).natAbs : Int) = distance at *
  generalize (stored.natAbs : Int) = base at *
  exact ⟨Int.ediv_nonneg (by omega) (by omega), (ceil_div_le_iff hbase).mpr (by omega)⟩

theorem Tolerance.isLargeInWords?_isSome (ht : t.Stored) {stored incoming : Int}
    (hs : IsInt64 stored) (hi : IsInt64 incoming) :
    (t.isLargeInWords? stored incoming).isSome := by
  have hbps : int128? t.bps = some (t.bps : Int) := by
    have hlt : t.bps < 4294967296 := ht
    exact int128?_eq_some (by omega) (by omega)
  unfold isLargeInWords?
  rw [changeInWords?_eq hs hi]
  cases h : relativeChange? stored incoming with
  | none => rfl
  | some change =>
    obtain ⟨h₀, h₁⟩ := relativeChange?_bounds hs hi h
    have hdouble : int128? (change * 2) = some (change * 2) :=
      int128?_eq_some (by omega) (by omega)
    simp only [Option.bind_eq_bind, Option.bind_some, hbps, hdouble, Option.pure_def,
      Option.isSome_some]

theorem validateTransitionInWords?_eq (ht : t.Stored)
    (hs : ∀ stored, existing = some stored → IsInt64 stored.amount) (hi : IsInt64 incoming.amount) :
    validateTransitionInWords? existing incoming t =
      some (validateTransition existing incoming t) := by
  cases existing with
  | none => rfl
  | some stored =>
    have hstored : IsInt64 stored.amount := hs stored rfl
    obtain ⟨large, hlarge⟩ :=
      Option.isSome_iff_exists.mp (Tolerance.isLargeInWords?_isSome ht hstored hi)
    unfold validateTransitionInWords? validateTransition
    simp only [Tolerance.withinInWords?_eq ht hstored hi, hlarge, Option.bind_eq_bind,
      Option.bind_some, Option.pure_def]
    split_ifs <;> rfl

/-- Whatever two snapshots of 64 bits and the tolerance are, the verdict is the one that is due by
the exact tolerance, and nothing on the way to it leaves its word. -/
theorem verdict_by_exact_tolerance (ht : t.Stored)
    (hs : ∀ stored, existing = some stored → IsInt64 stored.amount)
    (hi : IsInt64 incoming.amount) :
    (∀ v, validateTransition existing incoming t = v ↔ v.Due t existing incoming) ∧
      validateTransitionInWords? existing incoming t =
        some (validateTransition existing incoming t) :=
  ⟨fun _ => validateTransition_eq_iff_due, validateTransitionInWords?_eq ht hs hi⟩

theorem widest_change_admitted :
    IsInt64 Json.minInt64 ∧ IsInt64 Json.maxInt64 ∧
      validateTransition (some ⟨.pending, Json.minInt64⟩) ⟨.successful, Json.maxInt64⟩
        ⟨4294967295⟩ = .proceed ∧
      validateTransitionInWords? (some ⟨.pending, Json.minInt64⟩) ⟨.successful, Json.maxInt64⟩
        ⟨4294967295⟩ = some .proceed := by
  -- From one end of the word to the other: with the greatest tolerance the change is
  -- accepted.
  have hmin : IsInt64 Json.minInt64 := by decide
  have hmax : IsInt64 Json.maxInt64 := by decide
  have hwidest : (⟨4294967295⟩ : Tolerance).Stored := by decide
  have hstored : ∀ stored, some (⟨.pending, Json.minInt64⟩ : Snapshot) = some stored →
      IsInt64 stored.amount := fun stored h => Option.some.inj h ▸ hmin
  have hincoming : IsInt64 (⟨.successful, Json.maxInt64⟩ : Snapshot).amount := hmax
  have hverdict := verdict_by_exact_tolerance hwidest hstored hincoming
  have hproceed := (hverdict.1 .proceed).mpr ⟨rfl, rfl, by decide⟩
  exact ⟨hmin, hmax, hproceed, hverdict.2.trans (congrArg some hproceed)⟩

end PrepaidLedger
