import PrepaidLedger.Proofs.Ledger.Conservation
import PrepaidLedger.Proofs.Ledger.Journal
import PrepaidLedger.Proofs.Ledger.PendingDeposit

/-! What a deposit that has arrived was credited, and the fee its line shows. The credit is the
amount less the fee that is quoted for it. The line shows that fee too, but for deposits that were
on their way at another amount: where the fee is kept back and rounds to nothing, the line keeps the
fee that was quoted for the earlier amount. -/

namespace PrepaidLedger

/-- The line shows the fee of the amount that was on its way, since none is quoted for the amount
that arrived. -/
structure Line.KeepsFee (s : Settings) (l : Line) : Prop where
  inline : s.fees.settlement = .inline
  unquoted : (s.fees.quote .deposit l.amount).fee = 0
  held : ∃ held, s.tolerance.within held l.amount = true ∧
    l.fee = (s.fees.quote .deposit held).fee

structure Line.Credited (s : Settings) (l : Line) : Prop where
  balances : ∃ before after, l.balanceBefore = some before ∧ l.balanceAfter = some after ∧
    after - before = l.amount - (s.fees.quote .deposit l.amount).fee
  fee : l.fee = (s.fees.quote .deposit l.amount).fee ∨ l.KeepsFee s

def Line.CreditedIfArrived (s : Settings) (l : Line) : Prop :=
  l.kind = .deposit → l.status = .successful → l.Credited s

theorem Line.CreditedIfArrived.settles {s : Settings} {l l' : Line} (h : l.CreditedIfArrived s)
    (hl : l.SettlesTo l') : l'.CreditedIfArrived s := by
  rw [hl]
  intro hkind hstatus
  obtain ⟨hbalances, hfee⟩ := h hkind hstatus
  exact ⟨hbalances, hfee.imp_right fun ⟨hinline, hnone, hheld⟩ => ⟨hinline, hnone, hheld⟩⟩

theorem Line.OnTerms.fee_eq {s : Settings} {l : Line} (hterms : l.OnTerms s)
    (hkind : l.kind = .deposit) (hpending : l.status = .pending) :
    l.fee = (s.fees.quote .deposit l.amount).fee := by
  obtain ⟨fee, credit, hterms, hfee⟩ := hterms hkind hpending
  rw [hfee, (Posting.terms_of_alive hterms (.inl rfl)).1]

theorem FeeSchedule.quote_eq_of_unquoted {f : FeeSchedule} {amount : Int} (held : Int)
    (hcharge : f.settlement = .providerCharge) (hamount : 0 < amount)
    (hfee : ¬ 0 < (f.quote .deposit amount).fee) :
    (f.quote .deposit held).fee = (f.quote .deposit amount).fee := by
  have hfree := isFree_of_fee hcharge hamount hfee
  rw [fee_of_isFree hcharge hfree, fee_of_isFree hcharge hfree]

namespace Tables

variable {s : Settings} {t t' : Tables} {p : Posting} {card : Card} {owner : CardUser}
  {reference : String} {ev : LedgerEvent} {d : Delivery} {posted : String → LineKind → Prop}

theorem delta_of_arrival (hp : p.Continues s (t.storedFor p)) (hkind : p.kind = .deposit)
    (hstatus : p.status = .successful) :
    t.deltaOf p = p.amount - (s.fees.quote .deposit p.amount).fee ∧ t.deltaOf p ≠ 0 := by
  have hterms := hp.terms hkind
  rw [hstatus] at hterms
  obtain ⟨hquote, hcredit, -⟩ := Posting.terms_of_alive hterms (.inr rfl)
  have hbounds := Posting.fee_bounds_of_alive hterms (.inr rfl)
  have hdelta : t.deltaOf p = p.credit := by
    unfold deltaOf Posting.delta
    rw [hkind]
    unfold depositDelta Posting.snapshot
    cases h : t.storedFor p with
    | none => simp [hstatus]
    | some l => simp [hstatus, Line.snapshot, (hp.pending l h).1]
  rw [hdelta, ← hquote]
  exact ⟨hcredit, by omega⟩

theorem fee_lineOf_of_arrival (hk : t.Keyed) (hterms : t.PendingOnTerms s)
    (hp : p.Continues s (t.storedFor p)) (hproceeds : t.verdictOn s p = .proceed)
    (hkind : p.kind = .deposit) (hstatus : p.status = .successful) :
    (t.lineOf p card owner).fee = (s.fees.quote .deposit p.amount).fee ∨
      (t.lineOf p card owner).KeepsFee s := by
  have hamount : (t.lineOf p card owner).amount = p.amount := hk.amount_lineOf
  have harrived := hp.terms hkind
  rw [hstatus] at harrived
  obtain ⟨hquote, -, hpositive⟩ := Posting.terms_of_alive harrived (.inr rfl)
  have hbounds := Posting.fee_bounds_of_alive harrived (.inr rfl)
  cases h : t.storedFor p with
  | none =>
    rw [lineOf_of_new h, ← hquote]
    exact .inl rfl
  | some l =>
    have hfee : (t.lineOf p card owner).fee = if 0 < p.fee.fee then p.fee.fee else l.fee :=
      hk.fee_lineOf_of_stored h
    by_cases hcharged : 0 < p.fee.fee
    · rw [if_pos hcharged, hquote] at hfee
      exact .inl hfee
    -- Nothing is quoted, so the patch leaves the fee of the pending line. A provider's rule that
    -- quotes nothing for one amount quotes nothing for any; a share kept back may round to nothing.
    rw [if_neg hcharged, (hterms l (mem_of_rowOf? h)).fee_eq ((hp.kind_eq l h).trans hkind)
      (hp.pending l h).1] at hfee
    have hnone : (s.fees.quote .deposit p.amount).fee = 0 := by
      rw [← hquote]
      omega
    cases hsettlement : s.fees.settlement with
    | providerCharge =>
      rw [FeeSchedule.quote_eq_of_unquoted l.amount hsettlement hpositive (by omega)] at hfee
      exact .inl hfee
    | inline =>
      have hwithin : s.tolerance.within l.amount p.amount = true :=
        (validateTransition_eq_proceed.mp hproceeds l.snapshot (by rw [h]; rfl)).2.2
      rw [← hamount] at hnone hwithin
      exact .inr ⟨hsettlement, hnone, l.amount, hwithin, hfee⟩

theorem credited_lineOf (hk : t.Keyed) (hterms : t.PendingOnTerms s)
    (hp : p.Continues s (t.storedFor p)) (hproceeds : t.verdictOn s p = .proceed) :
    (t.lineOf p card owner).CreditedIfArrived s := by
  intro hkind hstatus
  rw [kind_lineOf hp hk] at hkind
  rw [hk.status_lineOf] at hstatus
  obtain ⟨hdelta, hmoved⟩ := delta_of_arrival hp hkind hstatus
  obtain ⟨hbefore, hafter⟩ : (t.lineOf p card owner).balanceBefore = some card.balance ∧
      (t.lineOf p card owner).balanceAfter = some (card.balance + t.deltaOf p) :=
    balances_lineOf hmoved
  constructor
  · refine ⟨_, _, hbefore, hafter, ?_⟩
    rw [hk.amount_lineOf, ← hdelta]
    omega
  · rw [hk.amount_lineOf]
    exact fee_lineOf_of_arrival hk hterms hp hproceeds hkind hstatus

/-! ## Credits over a run -/

structure Explained (s : Settings) (posted : String → LineKind → Prop) (t : Tables) : Prop where
  keyed : t.Keyed
  kinds : ∀ l ∈ t.lines, posted l.reference l.kind
  terms : t.PendingOnTerms s
  credited : ∀ l ∈ t.lines, l.CreditedIfArrived s

theorem Explained.steady (ht : t.Explained s posted) (h : t.Steady t') :
    t'.Explained s posted where
  keyed := ht.keyed.quiet h.quiet
  kinds := h.quiet.kinds ht.kinds
  terms := ht.terms.quiet h.quiet
  credited l' hl' := by
    obtain ⟨l, hl, hsettles⟩ := exists_of_forall₂ h.lines hl'
    exact (ht.credited l hl).settles hsettles

theorem Explained.commit (hone : OneKind posted) (ht : t.Explained s posted)
    (hposted : posted reference ev.kind) (h : ev.Commits s t reference d card owner) :
    (t.apply (t.changeOf s d.posting card owner)).Explained s posted := by
  have hprepares := LedgerEvent.prepares_of_delivery h.delivery_eq
  have hcontinues := continues_of_kinds hone ht.kinds hposted hprepares
  refine ⟨ht.keyed.apply, kinds_apply ht.keyed ht.kinds hposted hprepares hcontinues,
    ht.terms.commit ht.keyed h, fun l hl => ?_⟩
  rcases mem_of_mem_putRow hl with rfl | hl
  · exact credited_lineOf ht.keyed ht.terms hcontinues h.carries.proceeds
  · exact ht.credited l hl

end Tables

theorem World.explained_after {s : Settings} {posted : String → LineKind → Prop}
    (hone : Tables.OneKind posted) {w : World Memory} (hempty : w.store.tables.lines = [])
    (turns : List Turn)
    (hposted : ∀ reference kind, Posted turns reference kind → posted reference kind) :
    (w.after s turns).store.tables.Explained s posted := by
  have hstart : w.store.tables.Explained s posted := by
    refine ⟨Tables.keyed_of_no_lines hempty, ?_, ?_, ?_⟩
    · simp [hempty]
    · simp [Tables.PendingOnTerms, hempty]
    · simp [hempty]
  exact after_holds (fun t t' ht h => ht.steady h)
    (fun t reference ev d card owner ht hp h => ht.commit hone hp h) hstart turns hposted

/-- At any point of any run in which no reference is used for spends and collateral alike, a deposit
that has arrived was credited its amount less the fee quoted for it, and the journal shows its line.
The fee on the line explains the credit exactly if it is that fee; it can only be another where fees
are kept back, none is quoted for what arrived, and one was for what was on its way. -/
theorem recorded_fee_explains_credit_iff (s : Settings) {w : World Memory}
    (hempty : w.store.tables.lines = []) (hjournal : w.store.tables.JournalKeyed)
    {turns : List Turn}
    (hone : ∀ reference, ¬ (Posted turns reference .spend ∧ Posted turns reference .deposit)) :
    ∀ past, past <+: turns → ∀ l ∈ (w.after s past).store.tables.lines,
      l.kind = .deposit → l.status = .successful →
        ∃ before after entry, l.balanceBefore = some before ∧ l.balanceAfter = some after ∧
          (w.after s past).store.tables.entryByRef? l.reference = some entry ∧ entry.Shows l ∧
          after - before = l.amount - (s.fees.quote .deposit l.amount).fee ∧
          (after - before = l.amount - l.fee ↔ l.fee = (s.fees.quote .deposit l.amount).fee) ∧
          (l.fee = (s.fees.quote .deposit l.amount).fee ∨ l.KeepsFee s) := by
  rintro past ⟨rest, rfl⟩ l hl hkind hstatus
  have hposted : ∀ reference kind, Posted past reference kind →
      Posted (past ++ rest) reference kind := by
    rintro reference kind ⟨turn, hturn, hp⟩
    exact ⟨turn, List.mem_append_left rest hturn, hp⟩
  have hexplained := World.explained_after (s := s) hone hempty past hposted
  have hjournaled := World.journaled_after (s := s) (Tables.keyed_of_no_lines hempty)
    (hjournal.journaled_of_no_lines hempty) past
  obtain ⟨⟨before, after, hbefore, hafter, hcredit⟩, hfee⟩ := hexplained.credited l hl hkind hstatus
  obtain ⟨entry, hentry, hshows⟩ := hjournaled.shows l hl
  refine ⟨before, after, entry, hbefore, hafter, hentry, hshows, hcredit, ?_, hfee⟩
  constructor <;> intro <;> omega

theorem credit_of_arrived_collateral :
    let turns := [Specimen.collateralTurn "t" .completed 40]
    let t := (Specimen.world.after Specimen.settings turns).store.tables
    ∃ l ∈ t.lines, ∃ before after entry, l.balanceBefore = some before ∧
      l.balanceAfter = some after ∧ t.entryByRef? l.reference = some entry ∧ entry.Shows l ∧
      after - before = 40 - 1 ∧ l.amount = 40 ∧ l.fee = 1 := by
  -- Collateral arrives at once, and its fee is left to be charged.
  intro turns t
  let l := Specimen.tables.lineOf (Specimen.deposit .completed 40 ⟨1, true⟩)
    (Specimen.card 2 "second" 30) (Specimen.owner 50)
  have hl : l ∈ t.lines := by
    have hafter : Specimen.world.after Specimen.settings turns =
        Specimen.deposited Specimen.settings .completed 40 ⟨1, true⟩ :=
      Specimen.after_collateralTurn rfl rfl rfl rfl
    change l ∈ (Specimen.world.after Specimen.settings turns).store.tables.lines
    rw [hafter]
    exact List.mem_singleton_self l
  have hposts : ∀ turn ∈ turns, turn.posts? = some ("t", .deposit) := by
    intro turn hturn
    obtain rfl := List.mem_singleton.mp hturn
    rfl
  obtain ⟨before, after, entry, hbefore, hafter, hentry, hshows, hcredit, -⟩ :=
    recorded_fee_explains_credit_iff Specimen.settings (w := Specimen.world) rfl
      (Tables.journalKeyed_of_no_entries rfl) (not_posted_both_of_posts hposts) turns
      List.prefix_rfl l hl rfl rfl
  exact ⟨l, hl, before, after, entry, hbefore, hafter, hentry, hshows, hcredit, rfl, rfl⟩

namespace Specimen

def keptBack : Settings := .standard ⟨⟨100, 0⟩, .none, .inline⟩

def reduced : List Turn := [collateralTurn "t" .pending 50, collateralTurn "t" .completed 49]

def onItsWayReduced : World Memory := deposited keptBack .pending 50 ⟨1, false⟩

theorem lands_reduced :
    (LedgerEvent.collateral (collateral .completed 49)).Lands keptBack
      onItsWayReduced.store.tables (fun _ => none) "t" (card 2 "second" 30) (owner 50)
      (deposit .completed 49 .free) := by
  have hl : onItsWayReduced.store.tables.lineByRef? "t" =
      some (tables.lineOf (deposit .pending 50 ⟨1, false⟩) (card 2 "second" 30) (owner 50)) := rfl
  have hparties : (LedgerEvent.collateral (collateral .completed 49)).parties
      onItsWayReduced.store.tables = .ok (card 2 "second" 30, owner 50) :=
    LedgerEvent.parties_collateral rfl rfl (by decide +kernel) rfl (by decide)
      (by decide +kernel)
  refine ⟨⟨rfl, hparties, rfl⟩, fun l hl' => ?_, rfl, rfl⟩
  obtain rfl := Option.some.inj (hl.symm.trans hl')
  exact ⟨rfl, rfl, (by decide : LineStatus.successful ≠ .pending), by decide +kernel⟩

theorem after_reduced :
    world.after keptBack reduced =
      let c := onItsWayReduced.store.tables.changeOf keptBack (deposit .completed 49 .free)
        (card 2 "second" 30) (owner 50)
      ((startEffects keptBack c.applied).runIn (Memory.backend fun _ => none) refusing
        (onItsWayReduced.resting (onItsWayReduced.store.tables.apply c))).2 := by
  have hfirst : world.after keptBack [collateralTurn "t" .pending 50] = onItsWayReduced :=
    after_collateralTurn rfl rfl rfl rfl
  have hdistinct : onItsWayReduced.store.tables.Distinct := by
    rw [← hfirst]
    exact World.distinct_after distinct_tables keptBack _
  have hsecond : (collateralTurn "t" .completed 49).ledgerEvent? =
      some ("t", .collateral (collateral .completed 49)) := rfl
  change (collateralTurn "t" .completed 49).run keptBack
    (world.after keptBack [collateralTurn "t" .pending 50]) = _
  rw [hfirst]
  exact lands_reduced.run_turn hsecond hdistinct

end Specimen

/-- Fees are kept back: a deposit on its way is quoted one unit, arrives one unit lower, within the
tolerance, and is quoted nothing. It is credited in full and still shows the fee. -/
theorem kept_fee_differs_from_credit :
    let t := (Specimen.world.after Specimen.keptBack Specimen.reduced).store.tables
    (∀ reference, ¬ (Posted Specimen.reduced reference .spend ∧
      Posted Specimen.reduced reference .deposit)) ∧
    ∃ l ∈ t.lines, l.kind = .deposit ∧ l.status = .successful ∧ l.amount = 49 ∧ l.fee = 1 ∧
      ∃ before after, l.balanceBefore = some before ∧ l.balanceAfter = some after ∧
        after - before = 49 ∧ after - before ≠ l.amount - l.fee := by
  intro t
  let l := Specimen.onItsWayReduced.store.tables.lineOf (Specimen.deposit .completed 49 .free)
    (Specimen.card 2 "second" 30) (Specimen.owner 50)
  have hposts : ∀ turn ∈ Specimen.reduced, turn.posts? = some ("t", .deposit) := by
    intro turn hturn
    rcases List.mem_pair.mp hturn with rfl | rfl <;> rfl
  have hl : l ∈ t.lines := by
    change l ∈ (Specimen.world.after Specimen.keptBack Specimen.reduced).store.tables.lines
    rw [Specimen.after_reduced]
    exact List.mem_singleton_self l
  exact ⟨not_posted_both_of_posts hposts, l, hl, rfl, rfl, rfl, rfl, 30, 79, rfl, rfl, rfl,
    by decide⟩

end PrepaidLedger
