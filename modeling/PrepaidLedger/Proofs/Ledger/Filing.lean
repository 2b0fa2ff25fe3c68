import PrepaidLedger.Proofs.Engine.Aftermath
import PrepaidLedger.Proofs.Engine.Change

/-! Where the line of a committed delivery is filed. Lines stand under two names, and as long as
neither is given twice a commit changes the line of one reference and of no other. -/

namespace PrepaidLedger

/-! ## Which events go through -/

theorem Tolerance.eq_zero_of_within_zero {t : Tolerance} {n : Int} (h : t.within 0 n = true) :
    n = 0 := by
  simpa [within, relativeChange?] using h

theorem Tolerance.within_self (t : Tolerance) (n : Int) : t.within n n = true := by
  unfold within relativeChange?
  by_cases h : n = 0
  · simp [h]
  · have hbase : ((0 : Int) * basisPoints + n.natAbs - 1) / n.natAbs = 0 :=
      Int.ediv_eq_zero_of_lt (by omega) (by omega)
    simp only [if_neg h, Int.sub_self, Int.natAbs_zero, Int.natCast_zero, hbase]
    simp

theorem LineStatus.isTerminal_eq_false {s : LineStatus} : s.isTerminal = false ↔ s = .pending := by
  cases s <;> decide

theorem validateTransition_eq_proceed {existing : Option Snapshot} {incoming : Snapshot}
    {t : Tolerance} :
    validateTransition existing incoming t = .proceed ↔
      ∀ stored, existing = some stored → stored.status = .pending ∧ incoming.status ≠ .pending ∧
        t.within stored.amount incoming.amount = true := by
  cases existing with
  | none => exact iff_of_true rfl nofun
  | some stored =>
    have hsome : (∀ x, some stored = some x → x.status = .pending ∧ incoming.status ≠ .pending ∧
        t.within x.amount incoming.amount = true) ↔ stored.status = .pending ∧
        incoming.status ≠ .pending ∧ t.within stored.amount incoming.amount = true := by
      simp
    rw [hsome]
    unfold validateTransition
    dsimp only
    constructor
    · intro h
      split_ifs at h with hsame hterminal hzero hwithin
      have hw : t.within stored.amount incoming.amount = true := by simpa using hwithin
      have hne : stored.status ≠ incoming.status := fun he => hsame ⟨he, hw⟩
      have hpending : stored.status = .pending := by
        refine LineStatus.isTerminal_eq_false.mp ?_
        simpa [hne] using hterminal
      exact ⟨hpending, fun he => hne (hpending.trans he.symm), hw⟩
    · rintro ⟨hpending, hne, hw⟩
      -- Nothing but nothing is within the tolerance of nothing, so a decline of another amount
      -- over it does not get this far.
      have hzero : ¬ (stored.amount = 0 ∧ incoming.status = .declined ∧ incoming.amount ≠ 0) := by
        rintro ⟨h₀, -, hamount⟩
        rw [h₀] at hw
        exact hamount (Tolerance.eq_zero_of_within_zero hw)
      rw [if_neg fun h => hne (h.1.symm.trans hpending), if_neg, if_neg hzero, if_neg]
      · simp [hw]
      · rw [hpending]
        simp [LineStatus.isTerminal]

theorem Tables.pending_of_proceeds {s : Settings} {t : Tables} {p : Posting} {l : Line}
    (h : t.verdictOn s p = .proceed) (hl : t.storedFor p = some l) :
    l.status = .pending ∧ p.status ≠ .pending := by
  have hproceed := validateTransition_eq_proceed.mp h l.snapshot (by rw [hl]; rfl)
  exact ⟨hproceed.1, hproceed.2.1⟩

/-! ## Names of lines -/

def RowId.IsBefore (n : Nat) : RowId → Prop
  | .assigned _ => True
  | .numbered batch _ => batch < n

theorem RowId.IsBefore.mono {m n : Nat} {id : RowId} (h : id.IsBefore m) (hmn : m ≤ n) :
    id.IsBefore n := by
  cases id with
  | assigned u => exact trivial
  | numbered batch item => exact Nat.lt_of_lt_of_le h hmn

/-- No two lines share an identity or a reference, and new numbers are new. -/
structure Tables.Keyed (t : Tables) : Prop where
  ids : (t.lines.map Line.id).Nodup
  references : (t.lines.map Line.reference).Nodup
  numbered : ∀ l ∈ t.lines, l.id.IsBefore t.batches

namespace Tables

variable {s : Settings} {t : Tables} {d : Delivery} {p : Posting} {card : Card} {owner : CardUser}
  {l : Line}

theorem keyed_of_no_lines (h : t.lines = []) : t.Keyed := by
  constructor <;> simp [h]

theorem lineOf_of_new (h : t.storedFor p = none) :
    t.lineOf p card owner =
      (p.newLine card owner (t.movementOf p card)).toLine (.numbered t.batches 0) t.now := by
  unfold lineOf
  rw [h]

theorem balances_lineOf (hmoved : t.deltaOf p ≠ 0) :
    (t.lineOf p card owner).balanceBefore = some card.balance ∧
      (t.lineOf p card owner).balanceAfter = some (card.balance + t.deltaOf p) := by
  have hmoved' : (t.movementOf p card).delta ≠ 0 := hmoved
  unfold lineOf
  cases t.storedFor p with
  | none => exact ⟨rfl, rfl⟩
  | some l =>
    unfold Posting.linePatch LinePatch.apply
    rw [if_pos hmoved', if_pos hmoved']
    exact ⟨rfl, rfl⟩

theorem lineOf_of_stored (hids : (t.lines.map Line.id).Nodup) (h : t.storedFor p = some l) :
    t.lineOf p card owner =
      { (p.linePatch (t.movementOf p card)).apply l with updatedAt := t.now } := by
  have hl : t.line? l.id = some l := rowOf?_of_mem hids (mem_of_rowOf? h)
  unfold lineOf
  rw [h]
  dsimp only
  rw [hl, Option.getD_some]

theorem Keyed.lineOf_of_stored (hk : t.Keyed) (h : t.storedFor p = some l) :
    t.lineOf p card owner =
      { (p.linePatch (t.movementOf p card)).apply l with updatedAt := t.now } :=
  Tables.lineOf_of_stored hk.ids h

theorem reference_lineOf (hids : (t.lines.map Line.id).Nodup) :
    (t.lineOf p card owner).reference = p.reference := by
  cases h : t.storedFor p with
  | none =>
    rw [lineOf_of_new h]
    rfl
  | some l =>
    rw [lineOf_of_stored hids h]
    exact (key_of_rowOf? h : l.reference = p.reference)

theorem Keyed.reference_lineOf (hk : t.Keyed) :
    (t.lineOf p card owner).reference = p.reference := Tables.reference_lineOf hk.ids

theorem Keyed.status_lineOf (hk : t.Keyed) : (t.lineOf p card owner).status = p.status := by
  cases h : t.storedFor p with
  | none =>
    rw [lineOf_of_new h]
    rfl
  | some l =>
    rw [hk.lineOf_of_stored h]
    rfl

theorem Keyed.amount_lineOf (hk : t.Keyed) : (t.lineOf p card owner).amount = p.amount := by
  cases h : t.storedFor p with
  | none =>
    rw [lineOf_of_new h]
    rfl
  | some l =>
    rw [hk.lineOf_of_stored h]
    rfl

theorem Keyed.fee_lineOf_of_stored (hk : t.Keyed) (h : t.storedFor p = some l) :
    (t.lineOf p card owner).fee = if 0 < p.fee.fee then p.fee.fee else l.fee := by
  rw [hk.lineOf_of_stored h]
  unfold Posting.linePatch LinePatch.apply
  dsimp only
  split <;> rfl

theorem Keyed.home_lineOf_of_stored (hk : t.Keyed) (h : t.storedFor p = some l) :
    (t.lineOf p card owner).id = l.id ∧ (t.lineOf p card owner).cardId = l.cardId ∧
      (t.lineOf p card owner).kind = l.kind := by
  rw [hk.lineOf_of_stored h]
  exact ⟨rfl, rfl, rfl⟩

theorem Keyed.cardId_lineOf (hk : t.Keyed) :
    (t.lineOf p card owner).cardId = ((t.storedFor p).map (·.cardId)).getD card.id := by
  cases h : t.storedFor p with
  | none =>
    rw [lineOf_of_new h]
    rfl
  | some l => exact (hk.home_lineOf_of_stored h).2.1

theorem id_ne_fresh (hnumbered : ∀ l ∈ t.lines, l.id.IsBefore t.batches) :
    ∀ l ∈ t.lines, l.id ≠ .numbered t.batches 0 := by
  intro l hl he
  have hbefore := hnumbered l hl
  rw [he] at hbefore
  exact Nat.lt_irrefl _ hbefore

theorem Keyed.id_ne_fresh (hk : t.Keyed) : ∀ l ∈ t.lines, l.id ≠ .numbered t.batches 0 :=
  Tables.id_ne_fresh hk.numbered

theorem line?_lineOf (hids : (t.lines.map Line.id).Nodup)
    (hnumbered : ∀ l ∈ t.lines, l.id.IsBefore t.batches) :
    t.line? (t.lineOf p card owner).id = t.storedFor p := by
  cases h : t.storedFor p with
  | none =>
    rw [lineOf_of_new h]
    exact rowOf?_eq_none.mpr (id_ne_fresh hnumbered)
  | some l =>
    rw [lineOf_of_stored hids h]
    exact rowOf?_of_mem hids (mem_of_rowOf? h)

theorem Keyed.line?_lineOf (hk : t.Keyed) :
    t.line? (t.lineOf p card owner).id = t.storedFor p := Tables.line?_lineOf hk.ids hk.numbered

theorem Keyed.fits_lineOf (hk : t.Keyed) :
    Fits Line.id Line.reference (t.lineOf p card owner) t.lines := by
  cases h : t.storedFor p with
  | none =>
    rw [lineOf_of_new h]
    exact fits_of_new hk.id_ne_fresh h
  | some l =>
    rw [hk.lineOf_of_stored h]
    exact fits_of_stored hk.ids hk.references (mem_of_rowOf? h) rfl rfl

theorem Keyed.isBefore_lineOf (hk : t.Keyed) :
    (t.lineOf p card owner).id.IsBefore (t.batches + 1) := by
  cases h : t.storedFor p with
  | none =>
    rw [lineOf_of_new h]
    exact Nat.lt_succ_self t.batches
  | some l =>
    rw [hk.lineOf_of_stored h]
    exact (hk.numbered l (mem_of_rowOf? h)).mono (Nat.le_succ _)

/-! ## After a commit -/

theorem Keyed.apply (hk : t.Keyed) : (t.apply (t.changeOf s p card owner)).Keyed where
  ids := (fits_self _ _).nodup_putRow hk.ids
  references := hk.fits_lineOf.nodup_putRow hk.references
  numbered l hl := by
    rcases mem_of_mem_putRow hl with rfl | hl
    · exact hk.isBefore_lineOf
    · exact (hk.numbered l hl).mono (Nat.le_succ _)

theorem Keyed.lineByRef?_apply (hk : t.Keyed) (reference : String) :
    (t.apply (t.changeOf s p card owner)).lineByRef? reference =
      if p.reference = reference then some (t.lineOf p card owner)
      else t.lineByRef? reference := by
  have hfits : Fits Line.id Line.reference (t.lineOf p card owner) t.lines := hk.fits_lineOf
  have hput := hfits.rowOf?_putRow reference
  rw [hk.reference_lineOf] at hput
  exact hput

theorem Carries.map_balance_apply (h : t.Carries s d card owner) (id : Uuid) :
    ((t.apply (t.changeOf s d.posting card owner)).card? id).map (·.balance) =
      (t.card? id).map fun c => c.balance + if d.cardId = id then t.deltaOf d.posting else 0 := by
  have hid : card.id = d.cardId := key_of_rowOf? h.card_eq
  change (rowOf? Card.id id (putRow Card.id (t.cardOf s d.posting card).card t.cards)).map _ = _
  rw [rowOf?_putRow, id_cardOf, hid]
  by_cases hd : d.cardId = id
  · rw [if_pos hd, if_pos hd, ← hd, h.card_eq]
    exact congrArg some (balance_cardOf ..)
  · rw [if_neg hd, if_neg hd]
    simp only [Int.add_zero]
    rfl

/-! ## After quiet changes -/

theorem Keyed.quiet {t' : Tables} (hk : t.Keyed) (h : t.Quiet t') : t'.Keyed where
  ids := by
    rw [h.map_lines fun l l' hl => by rw [hl]]
    exact hk.ids
  references := by
    rw [h.map_lines fun l l' hl => by rw [hl]]
    exact hk.references
  numbered l hl := by
    obtain ⟨l₀, hl₀, hsettles⟩ := exists_of_forall₂ h.lines hl
    rw [hsettles]
    exact (hk.numbered l₀ hl₀).mono h.batches

end Tables
end PrepaidLedger
