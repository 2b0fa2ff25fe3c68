import PrepaidLedger.Proofs.Ledger.Landing

/-! The balance of a card-user mirrors its cards. The two rows are written by different calls, and
what they differ by at the start they differ by for ever. -/

namespace PrepaidLedger

namespace Tables

def cardTotal (t : Tables) (id : Uuid) : Int :=
  ((t.cards.filter (·.cardUserId = id)).map (·.balance)).sum

def excess? (t : Tables) (id : Uuid) : Option Int :=
  (t.cardUser? id).map fun u => u.balance - t.cardTotal id

variable {s : Settings} {t t' : Tables} {d : Delivery} {card : Card} {owner : CardUser}

theorem cardTotal_eq (t : Tables) (id : Uuid) :
    t.cardTotal id = (t.cards.map fun c => if c.cardUserId = id then c.balance else 0).sum := by
  unfold cardTotal
  induction t.cards with
  | nil => rfl
  | cons c rest ih => by_cases hc : c.cardUserId = id <;> simp [hc, ih]

theorem Steady.cardTotal (h : t.Steady t') (id : Uuid) : t'.cardTotal id = t.cardTotal id := by
  rw [cardTotal_eq, cardTotal_eq]
  refine congrArg List.sum (map_eq_of_forall₂ (fun c c' hc => ?_) h.cards)
  rw [hc.cardUserId, hc.balance]

theorem Steady.excess? (h : t.Steady t') (id : Uuid) : t'.excess? id = t.excess? id := by
  have howner := h.map_ownerBalance id
  unfold Tables.excess?
  rw [h.cardTotal id]
  cases hu : t.cardUser? id <;> cases hu' : t'.cardUser? id <;> simp_all

theorem Carries.cardTotal_apply (h : t.Carries s d card owner) (id : Uuid) :
    (t.apply (t.changeOf s d.posting card owner)).cardTotal id =
      t.cardTotal id + if card.cardUserId = id then t.deltaOf d.posting else 0 := by
  -- The card counts for its own card-user and for no other.
  have hsame : card.SameAccount (t.cardOf s d.posting card).card := sameAccount_cardOf
  have hcard : rowOf? Card.id (t.cardOf s d.posting card).card.id t.cards = some card := by
    rw [hsame.id, show card.id = d.cardId from key_of_rowOf? h.card_eq]
    exact h.card_eq
  rw [cardTotal_eq, cardTotal_eq]
  change ((putRow Card.id (t.cardOf s d.posting card).card t.cards).map _).sum = _
  rw [sum_putRow, hcard, hsame.cardUserId, balance_cardOf]
  by_cases hid : card.cardUserId = id
  · simp only [hid, if_true, Option.map_some, Option.getD_some]
    omega
  · simp [hid]

theorem Carries.excess?_apply (h : t.Carries s d card owner) (hown : card.cardUserId = owner.id)
    (id : Uuid) : (t.apply (t.changeOf s d.posting card owner)).excess? id = t.excess? id := by
  have howner := h.map_ownerBalance_apply id
  have hid : card.cardUserId = d.cardUserId := hown.trans (key_of_rowOf? h.owner_eq)
  unfold excess?
  rw [h.cardTotal_apply id, hid]
  generalize (t.apply (t.changeOf s d.posting card owner)).cardUser? id = u'? at howner ⊢
  cases hu : t.cardUser? id with
  | none =>
    rw [hu] at howner
    rw [Option.map_eq_none_iff.mp howner]
    rfl
  | some u =>
    rw [hu] at howner
    obtain ⟨u', rfl, hu'⟩ := Option.map_eq_some_iff.mp howner
    dsimp only at hu'
    rw [Option.map_some, Option.map_some, hu']
    exact congrArg some (by omega)

end Tables

/-! ## Parties that belong together -/

namespace LedgerEvent

variable {s : Settings} {t : Tables} {reference : String} {ev : LedgerEvent} {card : Card}
  {owner : CardUser} {d : Delivery}

def Resolves (ev : LedgerEvent) (t : Tables) (card : Card) (owner : CardUser) : Prop :=
  match ev with
  | .spend e => t.cardByRef? e.cardRef = some card ∧ t.namedOwner? e card = some owner
  | .collateral e => t.collateralOwner? e = some owner ∧ t.primaryCard? owner.id = some card

theorem Resolves.parties_eq (h : ev.Resolves t card owner) :
    ev.parties t = (ensureOwner card owner).map fun _ => (card, owner) := by
  cases ev with
  | spend e =>
    change t.spendParties e = _
    unfold Tables.spendParties
    rw [h.1]
    dsimp only
    rw [h.2]
  | collateral e =>
    change t.collateralParties e = _
    unfold Tables.collateralParties
    rw [h.1]
    dsimp only
    rw [h.2]

theorem parties_eq_ok :
    ev.parties t = .ok (card, owner) ↔
      ev.Resolves t card owner ∧ card.cardUserId = owner.id ∧ card.userId = owner.userId := by
  rw [← ensureOwner_eq_ok]
  cases ev with
  | spend e => exact Tables.spendParties_eq_ok.trans (and_assoc (c := _)).symm
  | collateral e => exact Tables.collateralParties_eq_ok.trans (and_assoc (c := _)).symm

theorem Commits.posts (h : ev.Commits s t reference d card owner) (hd : t.Distinct) :
    ev.Posts s t reference card owner d.posting := by
  have hlands : ev.Lands s t (fun _ => none) reference card owner d.posting :=
    .of_commits h hd rfl
  exact hlands.posts

theorem run_of_strangers {w : World Memory} {turn : Turn}
    (hturn : turn.ledgerEvent? = some (reference, ev))
    (hresolves : ev.Resolves w.store.tables card owner)
    (hown : ¬ (card.cardUserId = owner.id ∧ card.userId = owner.userId)) :
    turn.run s w = w := by
  rw [Turn.run_of_ledgerEvent? hturn, runIn_apply]
  unfold delivery
  rw [hresolves.parties_eq]
  cases toMinorUnits ev.rawAmount with
  | error cause => rfl
  | ok amount =>
    cases hensure : ensureOwner card owner with
    | error r => rfl
    | ok u => exact absurd (ensureOwner_eq_ok.mp hensure) hown

end LedgerEvent

/-! ## Over a run -/

theorem World.excess?_after {w : World Memory} (hd : w.store.tables.Distinct) (s : Settings)
    (turns : List Turn) (id : Uuid) :
    (w.after s turns).store.tables.excess? id = w.store.tables.excess? id := by
  let P (t : Tables) : Prop := t.Distinct ∧ t.excess? id = w.store.tables.excess? id
  have hsteady : ∀ t t', P t → t.Steady t' → P t' := by
    rintro t t' ⟨hd, he⟩ h
    exact ⟨hd.of_sameAccounts (.of_steady h), (h.excess? id).trans he⟩
  have hcommit : ∀ t reference (ev : LedgerEvent) d card owner, P t →
      ev.Commits s t reference d card owner →
        P (t.apply (t.changeOf s d.posting card owner)) := by
    rintro t reference ev d card owner ⟨hd, he⟩ h
    obtain ⟨-, hown, -⟩ := LedgerEvent.parties_eq_ok.mp (h.posts hd).parties_eq
    exact ⟨hd.of_sameAccounts h.carries.sameAccounts,
      (h.carries.excess?_apply hown id).trans he⟩
  exact (after_invariant hsteady hcommit ⟨hd, rfl⟩ turns).2

theorem Turn.steady_or_shifts (s : Settings) {w : World Memory} (hd : w.store.tables.Distinct)
    (turn : Turn) :
    w.store.tables.Steady (turn.run s w).store.tables ∨
      ∃ reference ev card owner delta, turn.ledgerEvent? = some (reference, ev) ∧
        ev.Resolves w.store.tables card owner ∧
        card.cardUserId = owner.id ∧ card.userId = owner.userId ∧
        w.store.tables.Shifts (turn.run s w).store.tables card.id owner.id delta := by
  rcases turn.tables_run s w with h | ⟨reference, ev, hev, d, card, owner, hcommits, h⟩
  · exact .inl h
  · right
    have hposts := hcommits.posts hd
    obtain ⟨hresolves, hid, huser⟩ := LedgerEvent.parties_eq_ok.mp hposts.parties_eq
    exact ⟨reference, ev, card, owner, w.store.tables.deltaOf d.posting, hev, hresolves, hid,
      huser, hcommits.carries.shifts h⟩

/-- Over any run the card-users hold what they held beyond their cards at the start. No event moves
a card and not its own card-user by the same, or the other way round, and an event for a card and a
card-user that do not belong together moves neither. -/
theorem card_users_mirror_cards (s : Settings) {w : World Memory}
    (hd : w.store.tables.Distinct) (turns : List Turn) :
    let w' := w.after s turns
    (∀ id, w'.store.tables.excess? id = w.store.tables.excess? id) ∧
    ∀ turn : Turn,
      (w'.store.tables.Steady (turn.run s w').store.tables ∨
        ∃ reference ev card owner delta, turn.ledgerEvent? = some (reference, ev) ∧
          ev.Resolves w'.store.tables card owner ∧
          card.cardUserId = owner.id ∧ card.userId = owner.userId ∧
          w'.store.tables.Shifts (turn.run s w').store.tables card.id owner.id delta) ∧
      ∀ reference ev card owner, turn.ledgerEvent? = some (reference, ev) →
        ev.Resolves w'.store.tables card owner →
        ¬ (card.cardUserId = owner.id ∧ card.userId = owner.userId) → turn.run s w' = w' := by
  intro w'
  refine ⟨World.excess?_after hd s turns, fun turn => ⟨?_, ?_⟩⟩
  · exact turn.steady_or_shifts s (World.distinct_after hd s turns)
  · rintro reference ev card owner hturn hresolves hown
    exact LedgerEvent.run_of_strangers hturn hresolves hown

namespace Specimen

def stranger : CardUser := ⟨⟨6⟩, ⟨8⟩, "stranger", "approved", 7, ⟨0⟩, ⟨0⟩⟩

def shared : World Memory :=
  .ofStore (.ofTables { tables with cardUsers := [owner 50, stranger] })

def strayTurn : Turn :=
  turn "transaction" "created" (.object [("id", "u"), ("type", "spend"),
    ("spend", .object [("amount", (5 : Int)), ("cardId", "first"), ("userId", "stranger"),
      ("status", "completed")])])

def strayEvent : SpendEvent :=
  { spendEvent "first" .completed 5 with amount := .ofInt 5, userRef := some "stranger" }

end Specimen

/-- A spend takes five from the first card and from its card-user, and one more of the same card
that names another card-user takes nothing. -/
theorem spend_keeps_mirror :
    let turns := [Specimen.spendTurn "t" "first" "completed" 5]
    let w := Specimen.shared.after Specimen.settings turns
    w.store.tables.cardTotal ⟨5⟩ = 45 ∧
      (w.store.tables.cardUser? ⟨5⟩).map (·.balance) = some 45 ∧
      w.store.tables.excess? ⟨5⟩ = some 0 ∧ w.store.tables.excess? ⟨6⟩ = some 7 ∧
      Specimen.strayTurn.run Specimen.settings w = w := by
  intro turns w
  have hdistinct : Specimen.shared.store.tables.Distinct := ⟨by decide, by decide⟩
  obtain ⟨hexcess, hturns⟩ := card_users_mirror_cards Specimen.settings hdistinct turns
  refine ⟨rfl, rfl, hexcess ⟨5⟩, hexcess ⟨6⟩, ?_⟩
  have hevent : Specimen.strayTurn.ledgerEvent? = some ("u", .spend Specimen.strayEvent) := rfl
  refine (hturns Specimen.strayTurn).2 "u" (.spend Specimen.strayEvent)
    (Specimen.card 1 "first" 15) Specimen.stranger hevent ⟨rfl, rfl⟩ ?_
  decide

end PrepaidLedger
