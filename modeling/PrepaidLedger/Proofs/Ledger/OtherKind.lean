import PrepaidLedger.Proofs.Ledger.Landing

/-! Spends and collateral under one reference. Whether an event may act on a stored line is decided
by status and amount, and what it moves by its own kind, so that a pending line of either kind is
finished by an event of the other. -/

namespace PrepaidLedger

/-- No balance has moved, the line is as it was, and no fee has been asked for. -/
structure World.Spares (reference : String) (w w' : World Memory) : Prop where
  cards : ∀ id, (w'.store.tables.card? id).map (·.balance) =
    (w.store.tables.card? id).map (·.balance)
  cardUsers : ∀ id, (w'.store.tables.cardUser? id).map (·.balance) =
    (w.store.tables.cardUser? id).map (·.balance)
  line : w'.store.tables.lineByRef? reference = w.store.tables.lineByRef? reference
  charges : w'.charges = w.charges

theorem World.Untouched.spares {w w' : World Memory} (h : w.Untouched Memory.tables w')
    (reference : String) : w.Spares reference w' where
  cards id := by
    rw [Tables.card?, h.rows.cards]
    rfl
  cardUsers id := by
    rw [Tables.cardUser?, h.rows.cardUsers]
    rfl
  line := by
    rw [Tables.lineByRef?, h.rows.lines]
    rfl
  charges := by
    rw [World.charges, h.outbound]
    rfl

/-- At any point of any run, an event of the other kind spares everything exactly if it does not
land. If it lands, the line was pending, and it is finished under its own kind. The failure of a
spend gives back what a pending deposit has never taken, and collateral is credited in full beside
what a spend holds. -/
theorem other_kind_spared_iff (s : Settings) {w₀ : World Memory} (hk : w₀.store.tables.Keyed)
    (hd : w₀.store.tables.Distinct) (turns : List Turn) {reference : String} {l : Line}
    (hl : (w₀.after s turns).store.tables.lineByRef? reference = some l) {ev : LedgerEvent}
    (hother : ev.kind ≠ l.kind) (refusal : LockKey → Option LockError) (C : Collaborators) :
    let w := w₀.after s turns
    let r := (ev.apply s reference).runIn (Memory.backend refusal) C w
    (w.Spares reference r.2 ↔
      ¬ ∃ card owner p, ev.Lands s w.store.tables refusal reference card owner p) ∧
    ∀ card owner p, ev.Lands s w.store.tables refusal reference card owner p →
      l.status = .pending ∧ ev.status ≠ .pending ∧ ∃ a l', r.1 = .ok (.ok a) ∧
        (l.kind = .deposit →
          a.delta = if ev.status = .successful then l.amount - p.amount else l.amount) ∧
        (l.kind = .spend →
          a.delta = if ev.status = .successful then p.amount - p.fee.fee else 0) ∧
        w.store.tables.Shifts r.2.store.tables l.cardId owner.id a.delta ∧
        r.2.store.tables.lineByRef? reference = some l' ∧ l'.kind = l.kind ∧
        l'.cardId = l.cardId ∧ l'.status = ev.status ∧ l'.amount = p.amount ∧
        r.2.charges = w.charges ++ if s.effects = .inline ∧ a.line.feeDue then
          [.ofLine a.line a.cardUser.providerRef] else [] := by
  intro w r
  have hk' : w.store.tables.Keyed := World.keyed_after hk s turns
  have hd' : w.store.tables.Distinct := World.distinct_after hd s turns
  refine ⟨⟨?_, fun h => ?_⟩, fun card owner p h => ?_⟩
  · rintro hspares ⟨card, owner, p, h⟩
    obtain ⟨-, hpending, hfinal, -⟩ := h.line l hl
    obtain ⟨l', hl', -, -, hstatus, -⟩ := h.finishes (C := C) hd' hk' hl
    rw [hspares.line, hl] at hl'
    obtain rfl := Option.some.inj hl'
    exact hfinal (hstatus.symm.trans hpending)
  · refine (LedgerEvent.untouched_of_not_lands hd' fun card owner p hp => ?_).spares reference
    exact h ⟨card, owner, p, hp⟩
  · obtain ⟨hcardId, hpending, hfinal, -⟩ := h.line l hl
    obtain ⟨l', hl', hkind', hcardId', hstatus', hamount'⟩ := h.finishes (C := C) hd' hk' hl
    rw [← h.posts.status_eq]
    refine ⟨hpending, hfinal, (w.store.tables.changeOf s p card owner).applied, l', ?_, ?_, ?_, ?_,
      hl', hkind', hcardId', hstatus', hamount', h.charges_after hd'⟩
    · exact congrArg Prod.fst (h.runIn_apply hd')
    · intro hdeposit
      refine h.posts.delta_of_spend hl hpending hfinal ?_
      cases hev : ev.kind with
      | spend => rfl
      | deposit => exact absurd (hev.trans hdeposit.symm) hother
    · intro hspend
      refine h.posts.delta_of_deposit hl hpending hfinal ?_
      cases hev : ev.kind with
      | spend => exact absurd (hev.trans hspend.symm) hother
      | deposit => rfl
    · rw [hcardId]
      exact h.shifts hd'

theorem declined_spend_over_pending_deposit :
    let w := Specimen.world.after Specimen.settings [Specimen.collateralTurn "t" .pending 40]
    let ev := LedgerEvent.spend (Specimen.spendEvent "second" .declined 40)
    let r := (ev.apply Specimen.settings "t").runIn (Memory.backend fun _ => none)
      Specimen.refusing w
    ∃ a, r.1 = .ok (.ok a) ∧ a.delta = 40 ∧
      w.store.tables.Shifts r.2.store.tables ⟨2⟩ ⟨5⟩ a.delta := by
  -- Collateral is on its way, and then a spend of its reference is declined.
  intro w ev r
  have hw : w = Specimen.deposited Specimen.settings .pending 40 ⟨1, true⟩ := Specimen.onItsWay_eq
  have hl : w.store.tables.lineByRef? "t" = some Specimen.pendingLine := Specimen.line_onItsWay
  have hlands : ev.Lands Specimen.settings w.store.tables (fun _ => none) "t"
      (Specimen.card 2 "second" 30) (Specimen.owner 50)
        (.ofSpend Specimen.settings "t" 40 (Specimen.card 2 "second" 30)
          (Specimen.spendEvent "second" .declined 40)) := by
    refine ⟨⟨rfl, ?_, rfl⟩, fun l hl' => ?_, rfl, ?_⟩
    · rw [hw]
      rfl
    · obtain rfl := Option.some.inj (hl.symm.trans hl')
      exact ⟨rfl, rfl, (by decide : LineStatus.declined ≠ .pending), Tolerance.within_self _ 40⟩
    · rw [hw]
      rfl
  have hother : ev.kind ≠ .deposit := nofun
  obtain ⟨-, hlanded⟩ := other_kind_spared_iff Specimen.settings (Tables.keyed_of_no_lines rfl)
    Specimen.distinct_tables [Specimen.collateralTurn "t" .pending 40] hl hother (fun _ => none)
    Specimen.refusing
  obtain ⟨-, -, a, -, ha, hdelta, -, hshifts, -⟩ := hlanded _ _ _ hlands
  exact ⟨a, ha, hdelta rfl, hshifts⟩

/-- The card is credited what its pending deposit never debited, and the deposit is closed as
declined. -/
theorem declined_spend_credits_pending_deposit :
    let w := Specimen.world.after Specimen.settings [Specimen.collateralTurn "t" .pending 40]
    let ev := LedgerEvent.spend (Specimen.spendEvent "second" .declined 40)
    let r := (ev.apply Specimen.settings "t").runIn (Memory.backend fun _ => none)
      Specimen.refusing w
    w.store.tables.lines.map (fun l => (l.kind, l.status)) = [(.deposit, .pending)] ∧
      w.store.tables.cards.map (·.balance) = [20, 30] ∧
      r.2.store.tables.lines.map (fun l => (l.kind, l.status)) = [(.deposit, .declined)] ∧
      r.2.store.tables.cards.map (·.balance) = [20, 70] ∧ ¬ w.Spares "t" r.2 := by
  intro w ev r
  have hw : w = Specimen.deposited Specimen.settings .pending 40 ⟨1, true⟩ := Specimen.onItsWay_eq
  have hbefore : (w.store.tables.card? ⟨2⟩).map (·.balance) = some 30 := by
    rw [hw]
    rfl
  have hr : r = (ev.apply Specimen.settings "t").runIn (Memory.backend fun _ => none)
      Specimen.refusing (Specimen.deposited Specimen.settings .pending 40 ⟨1, true⟩) := by
    rw [← hw]
  have hafter : (r.2.store.tables.card? ⟨2⟩).map (·.balance) = some 70 := by
    rw [hr]
    rfl
  refine ⟨?_, ?_, ?_, ?_, fun hspares => ?_⟩
  · rw [hw]
    rfl
  · rw [hw]
    rfl
  · rw [hr]
    rfl
  · rw [hr]
    rfl
  · have hsame := hspares.cards ⟨2⟩
    rw [hafter, hbefore] at hsame
    cases hsame

end PrepaidLedger
