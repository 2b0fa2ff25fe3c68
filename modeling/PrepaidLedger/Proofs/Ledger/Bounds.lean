import PrepaidLedger.Proofs.Engine.CardLocks
import PrepaidLedger.Proofs.Ledger.Terms
import PrepaidLedger.Proofs.Ledger.Words
import PrepaidLedger.Proofs.Specimen

/-! Nothing leaves its bounds. Amounts are checked where they are read and balances where they are
written; what is computed between the two then fits into the words it is computed in. -/

namespace PrepaidLedger

theorem inBounds_of_toMinorUnits {raw : Binary64} {amount : Int}
    (h : toMinorUnits raw = .ok amount) : InBounds amount := by
  unfold toMinorUnits at h
  split at h
  · split at h
    · cases h
    dsimp only at h
    split at h
    · cases h
    split at h
    · cases h
    next hlarge =>
      obtain rfl := Except.ok.inj h
      exact ⟨Int.natCast_nonneg _, Int.not_lt.mp hlarge⟩
  · cases h

/-! ## What is stored -/

structure FiguresInBounds (amount fee : Int) (before after : Option Int) : Prop where
  amount : InBounds amount
  fee : 0 ≤ fee
  before : ∀ balance ∈ before, InBounds balance
  after : ∀ balance ∈ after, InBounds balance

def Line.KeepsBounds (l : Line) : Prop :=
  FiguresInBounds l.amount l.fee l.balanceBefore l.balanceAfter

def Entry.KeepsBounds (e : Entry) : Prop :=
  FiguresInBounds e.amount e.fee e.balanceBefore e.balanceAfter

structure Posting.KeepsBounds (p : Posting) : Prop where
  amount : InBounds p.amount
  fee : 0 ≤ p.fee.fee

structure Applied.KeepsBounds (a : Applied) : Prop where
  line : a.line.KeepsBounds
  card : InBounds a.card.balance
  delta : a.delta.natAbs ≤ maxSafeAmount

structure Tables.BalancesInBounds (t : Tables) : Prop where
  cards : ∀ c ∈ t.cards, InBounds c.balance
  cardUsers : ∀ u ∈ t.cardUsers, InBounds u.balance

structure Tables.KeepsBounds (t : Tables) : Prop where
  cards : ∀ c ∈ t.cards, InBounds c.balance
  cardUsers : ∀ u ∈ t.cardUsers, InBounds u.balance
  lines : ∀ l ∈ t.lines, l.KeepsBounds
  journal : ∀ e ∈ t.journal, e.KeepsBounds

structure World.KeepsBounds (w : World Memory) : Prop where
  tables : w.store.tables.KeepsBounds
  deferred : ∀ a ∈ w.deferred, a.KeepsBounds

theorem LedgerEvent.Posts.keepsBounds {ev : LedgerEvent} {s : Settings} {t : Tables}
    {reference : String} {card : Card} {owner : CardUser} {p : Posting}
    (h : ev.Posts s t reference card owner p) : p.KeepsBounds := by
  refine ⟨inBounds_of_toMinorUnits h.amount_eq, ?_⟩
  cases ev with
  | spend e =>
    have hp : Posting.ofSpend s reference p.amount card e = p := Except.ok.inj h.posting_eq
    rw [← hp]
    change 0 ≤ (if _ then s.fees.quote .decline p.amount else .free : FeeQuote).fee
    split
    · exact (s.fees.quote_bounds .decline p.amount).1
    · exact Int.le_refl 0
  | collateral e =>
    have hterms := h.terms rfl
    cases hstatus : p.status with
    | pending | successful => exact (Posting.fee_bounds_of_alive hterms (by simp [hstatus])).1
    | declined | canceled =>
      rw [Posting.terms_of_failed hterms (by simp [hstatus])]
      exact Int.le_refl 0

namespace Tables

variable {s : Settings} {t t' : Tables} {reference : String} {ev : LedgerEvent} {d : Delivery}
  {p : Posting} {card : Card} {owner : CardUser}

/-! ## Balances -/

theorem BalancesInBounds.apply (h : t.BalancesInBounds) (hc : t.Carries s d card owner) :
    (t.apply (t.changeOf s d.posting card owner)).BalancesInBounds where
  cards c hmem := by
    rcases mem_of_mem_putRow hmem with rfl | hmem
    · change InBounds (t.cardOf s d.posting card).card.balance
      rw [balance_cardOf]
      exact ⟨hc.cardBalance_nonneg, hc.cardBalance_le⟩
    · exact h.cards c hmem
  cardUsers u hmem := by
    rcases mem_of_mem_putRow hmem with rfl | hmem
    · exact ⟨hc.ownerBalance_nonneg, hc.ownerBalance_le⟩
    · exact h.cardUsers u hmem

theorem BalancesInBounds.steady (h : t.BalancesInBounds) (hsteady : t.Steady t') :
    t'.BalancesInBounds where
  cards c' hc' := by
    obtain ⟨c, hc, hsame⟩ := exists_of_forall₂ hsteady.cards hc'
    rw [hsame.balance]
    exact h.cards c hc
  cardUsers u' hu' := by
    obtain ⟨u, hu, hsame⟩ := exists_of_forall₂ hsteady.cardUsers hu'
    rw [hsame.balance]
    exact h.cardUsers u hu

theorem KeepsBounds.balances (h : t.KeepsBounds) : t.BalancesInBounds := ⟨h.cards, h.cardUsers⟩

/-! ## What a commit writes -/

theorem mem_orElse {a b : Option Int} {n : Int} (h : n ∈ (a <|> b)) : n ∈ a ∨ n ∈ b := by
  cases a with
  | none => exact .inr h
  | some m => exact .inl h

theorem KeepsBounds.lineOf (h : t.KeepsBounds) (hp : p.KeepsBounds)
    (hbefore : InBounds card.balance) (hafter : InBounds (card.balance + t.deltaOf p)) :
    (t.lineOf p card owner).KeepsBounds := by
  -- A patched row keeps its own figures where the patch brings none.
  unfold Tables.lineOf
  cases hl : t.storedFor p with
  | none =>
    refine ⟨hp.amount, hp.fee, ?_, ?_⟩
    · rintro _ ⟨⟩
      exact hbefore
    · rintro _ ⟨⟩
      exact hafter
  | some l =>
    have hmem : l ∈ t.lines := mem_of_rowOf? hl
    have hrow : ((t.line? l.id).getD l).KeepsBounds := by
      cases hr : t.line? l.id with
      | none => exact h.lines l hmem
      | some r => exact h.lines r (mem_of_rowOf? hr)
    refine ⟨hp.amount, ?_, fun balance hb => ?_, fun balance hb => ?_⟩
    · change 0 ≤ (if 0 < p.fee.fee then some p.fee.fee else none).getD _
      split
      · exact hp.fee
      · exact hrow.fee
    · rcases mem_orElse hb with hb | hb
      · change balance ∈ (if _ then some card.balance else none : Option Int) at hb
        split at hb
        · obtain rfl := Option.some.inj hb
          exact hbefore
        · cases hb
      · exact hrow.before balance hb
    · rcases mem_orElse hb with hb | hb
      · change balance ∈ (if _ then some (card.balance + t.deltaOf p) else none : Option Int) at hb
        split at hb
        · obtain rfl := Option.some.inj hb
          exact hafter
        · cases hb
      · exact hrow.after balance hb

theorem KeepsBounds.entryOf (h : t.KeepsBounds) (hp : p.KeepsBounds)
    (hl : (t.lineOf p card owner).KeepsBounds) : (t.entryOf p card owner).KeepsBounds := by
  unfold Tables.entryOf
  dsimp only
  cases he : t.entryByRef? p.reference with
  | none => exact ⟨hp.amount, hl.fee, hl.before, hl.after⟩
  | some e =>
    have hmem : e ∈ t.journal := mem_of_rowOf? he
    have hrow : ((t.entry? e.id).getD e).KeepsBounds := by
      cases hr : t.entry? e.id with
      | none => exact h.journal e hmem
      | some r => exact h.journal r (mem_of_rowOf? hr)
    refine ⟨hp.amount, hl.fee, fun balance hb => ?_, fun balance hb => ?_⟩
    · exact (mem_orElse hb).elim (hl.before balance) (hrow.before balance)
    · exact (mem_orElse hb).elim (hl.after balance) (hrow.after balance)

theorem KeepsBounds.applied (h : t.KeepsBounds) (hc : ev.Commits s t reference d card owner) :
    (t.changeOf s d.posting card owner).applied.KeepsBounds := by
  obtain ⟨_, _, hposts, -⟩ := LedgerEvent.delivery_eq_ok.mp hc.delivery_eq
  have hbefore : InBounds card.balance := h.cards card (mem_of_rowOf? hc.carries.card_eq)
  have hafter : InBounds (card.balance + t.deltaOf d.posting) :=
    ⟨hc.carries.cardBalance_nonneg, hc.carries.cardBalance_le⟩
  refine ⟨h.lineOf hposts.keepsBounds hbefore hafter, ?_, ?_⟩
  · change InBounds (t.cardOf s d.posting card).card.balance
    rw [balance_cardOf]
    exact hafter
  -- The movement lies between two balances in bounds.
  · change (t.deltaOf d.posting).natAbs ≤ maxSafeAmount
    obtain ⟨hb₀, hb₁⟩ := hbefore
    obtain ⟨ha₀, ha₁⟩ := hafter
    omega

theorem KeepsBounds.apply (h : t.KeepsBounds) (hc : ev.Commits s t reference d card owner) :
    (t.apply (t.changeOf s d.posting card owner)).KeepsBounds := by
  obtain ⟨_, _, hposts, -⟩ := LedgerEvent.delivery_eq_ok.mp hc.delivery_eq
  have happlied := h.applied hc
  have hbalances := h.balances.apply hc.carries
  refine ⟨hbalances.cards, hbalances.cardUsers, fun l hmem => ?_, fun e hmem => ?_⟩
  · rcases mem_of_mem_putRow hmem with rfl | hmem
    · exact happlied.line
    · exact h.lines l hmem
  · rcases mem_of_mem_putRow hmem with rfl | hmem
    · exact h.entryOf hposts.keepsBounds happlied.line
    · exact h.journal e hmem

theorem KeepsBounds.steady (h : t.KeepsBounds) (hsteady : t.Steady t') : t'.KeepsBounds where
  cards := (h.balances.steady hsteady).cards
  cardUsers := (h.balances.steady hsteady).cardUsers
  lines l' hl' := by
    obtain ⟨l, hl, hsettles⟩ := exists_of_forall₂ hsteady.lines hl'
    have hkeeps := h.lines l hl
    rw [hsettles]
    exact ⟨hkeeps.amount, hkeeps.fee, hkeeps.before, hkeeps.after⟩
  journal e he := h.journal e (hsteady.journal ▸ he)

end Tables

/-! ## What is computed -/

structure LedgerEvent.StaysInWords (ev : LedgerEvent) (s : Settings) (t : Tables)
    (reference : String) (amount : Int) : Prop where
  fee : ∀ kind, (s.fees.rule kind).roundedInWords? amount = some ((s.fees.rule kind).rounded amount)
  credit : depositCreditInWords? amount (s.fees.quote .deposit amount).fee =
    some (depositCredit amount (s.fees.quote .deposit amount).fee)
  change : ∀ l, t.lineByRef? reference = some l → Tolerance.changeInWords? l.amount amount =
    some (Tolerance.relativeChange? l.amount amount)
  delta : spendDeltaInWords? ((t.lineByRef? reference).map (·.snapshot)) ⟨ev.status, amount⟩ =
    some (spendDelta ((t.lineByRef? reference).map (·.snapshot)) ⟨ev.status, amount⟩)

def Applied.AnnouncedInWords (a : Applied) : Prop :=
  balanceTransitionInWords? a.line.balanceBefore a.line.balanceAfter a.card.balance a.delta =
    some (balanceTransition a.line.balanceBefore a.line.balanceAfter a.card.balance a.delta)

theorem Applied.KeepsBounds.announcedInWords {a : Applied} (h : a.KeepsBounds) :
    a.AnnouncedInWords := balanceTransitionInWords?_eq h.line.after h.card h.delta

theorem Tables.KeepsBounds.staysInWords {s : Settings} {t : Tables} (h : t.KeepsBounds)
    (hfees : s.fees.Stored) {ev : LedgerEvent} {amount : Int}
    (hamount : toMinorUnits ev.rawAmount = .ok amount) (reference : String) :
    ev.StaysInWords s t reference amount := by
  have hbounds : InBounds amount := inBounds_of_toMinorUnits hamount
  have hstored : ∀ l, t.lineByRef? reference = some l → InBounds l.amount :=
    fun l hl => (h.lines l (mem_of_rowOf? hl)).amount
  refine ⟨fun kind => ?_, ?_, fun l hl => ?_, ?_⟩
  · exact FeeRule.roundedInWords?_eq (hfees.rule kind) hbounds.isInt64
  · exact depositCreditInWords?_eq (s.fees.quote_bounds .deposit amount).2
  · exact Tolerance.changeInWords?_eq (hstored l hl).isInt64 hbounds.isInt64
  · refine spendDeltaInWords?_eq (fun held hheld => ?_) hbounds
    obtain ⟨l, hl, rfl⟩ := Option.map_eq_some_iff.mp hheld
    exact hstored l hl

/-! ## Runs -/

theorem World.KeepsBounds.run {s : Settings} {w : World Memory} (h : w.KeepsBounds)
    (turn : Turn) : (turn.run s w).KeepsBounds where
  tables := by
    rcases turn.tables_run s w with hsteady | ⟨reference, ev, -, d, card, owner, hc, hsteady⟩
    · exact h.tables.steady hsteady
    · exact (h.tables.apply hc).steady hsteady
  deferred a ha := by
    rcases turn.deferred_run s w a ha with ha | ⟨reference, ev, d, card, owner, -, hc, rfl⟩
    · exact h.deferred a ha
    · exact h.tables.applied hc

theorem World.KeepsBounds.after {s : Settings} {w : World Memory} (h : w.KeepsBounds)
    (turns : List Turn) : (w.after s turns).KeepsBounds := by
  induction turns generalizing w with
  | nil => exact h
  | cons turn rest ih => exact ih (h.run turn)

/-- Wherever a run stands, all balances, amounts and snapshots are in bounds and no fee is negative,
and whatever comes next computes nothing that does not fit. -/
theorem amounts_keep_bounds (s : Settings) (hfees : s.fees.Stored) {w : World Memory}
    (hw : w.KeepsBounds) (turns : List Turn) :
    let w' := w.after s turns
    w'.store.tables.KeepsBounds ∧
      (∀ reference (ev : LedgerEvent) amount, toMinorUnits ev.rawAmount = .ok amount →
        ev.StaysInWords s w'.store.tables reference amount) ∧
      (∀ reference (ev : LedgerEvent) d card owner,
        ev.Commits s w'.store.tables reference d card owner →
          (w'.store.tables.changeOf s d.posting card owner).applied.AnnouncedInWords) ∧
      ∀ a ∈ w'.deferred, a.AnnouncedInWords := by
  intro w'
  have h : w'.KeepsBounds := hw.after turns
  refine ⟨h.tables, fun reference ev amount hamount => ?_,
    fun reference ev d card owner hc => ?_, fun a ha => ?_⟩
  · exact h.tables.staysInWords hfees hamount reference
  · exact (h.tables.applied hc).announcedInWords
  · exact (h.deferred a ha).announcedInWords

theorem held_spend_keeps_bounds :
    let w := Specimen.world.after Specimen.settings [Specimen.spendTurn "t" "first" "pending" 20]
    Specimen.settings.fees.Stored ∧ Specimen.world.KeepsBounds ∧
      w.store.tables.cards.map (·.balance) = [0, 30] ∧
      (w.store.tables.lineByRef? "t").map (·.amount) = some 20 ∧ w.store.tables.KeepsBounds ∧
      (LedgerEvent.spend (Specimen.spendEvent "first" .completed 21)).StaysInWords
        Specimen.settings w.store.tables "t" 21 := by
  intro w
  have hfees : Specimen.settings.fees.Stored :=
    ⟨⟨by decide, by decide, by decide⟩, ⟨by decide, by decide, by decide⟩⟩
  have hbounds : Specimen.world.KeepsBounds := by
    refine ⟨⟨by decide, by decide, ?_, ?_⟩, ?_⟩
    · exact fun l hl => absurd hl List.not_mem_nil
    · exact fun e he => absurd he List.not_mem_nil
    · exact fun a ha => absurd ha List.not_mem_nil
  obtain ⟨hkeeps, hwords, -, -⟩ := amounts_keep_bounds Specimen.settings hfees hbounds
    [Specimen.spendTurn "t" "first" "pending" 20]
  exact ⟨hfees, hbounds, rfl, rfl, hkeeps, hwords "t" _ 21 rfl⟩

end PrepaidLedger
