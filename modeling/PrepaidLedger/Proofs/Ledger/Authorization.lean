import Mathlib.Algebra.Order.BigOperators.Group.List
import Mathlib.Algebra.Order.Group.Int
import PrepaidLedger.Proofs.Ledger.Bounds
import PrepaidLedger.Proofs.Ledger.Hold
import PrepaidLedger.Proofs.Ledger.Mirror

/-! What an authorization says is what becomes of the spend. It looks at the card alone, and the
spend is taken from the card-user as well: that the two agree rests on card-users that hold at least
what their cards hold together, and on a store that keeps the balances as they are written. -/

namespace PrepaidLedger

/-! ## Ledgers that can pay -/

/-- Every card-user can pay for all its cards at once. -/
structure Tables.Solvent (t : Tables) : Prop extends t.BalancesInBounds where
  distinct : t.Distinct
  covered : ∀ u ∈ t.cardUsers, t.cardTotal u.id ≤ u.balance

namespace Tables

variable {s : Settings} {t t' : Tables} {reference : String} {ev : LedgerEvent} {d : Delivery}
  {card : Card} {owner : CardUser}

theorem covered_iff (hd : t.Distinct) :
    (∀ u ∈ t.cardUsers, t.cardTotal u.id ≤ u.balance) ↔ ∀ id, ∀ n ∈ t.excess? id, 0 ≤ n := by
  constructor
  · intro hcovered id n hn
    obtain ⟨u, hu, rfl⟩ := Option.map_eq_some_iff.mp hn
    obtain rfl : u.id = id := key_of_rowOf? hu
    have hle := hcovered u (mem_of_rowOf? hu)
    omega
  · intro hexcess u hu
    have hfound : t.cardUser? u.id = some u := rowOf?_of_mem hd.cardUsers hu
    have hle := hexcess u.id (u.balance - t.cardTotal u.id) (Option.map_eq_some_iff.mpr
      ⟨u, hfound, rfl⟩)
    omega

theorem BalancesInBounds.le_cardTotal (h : t.BalancesInBounds) (hcard : card ∈ t.cards) :
    card.balance ≤ t.cardTotal card.cardUserId := by
  refine List.single_le_sum (fun balance hbalance => ?_) card.balance ?_
  · obtain ⟨c, hc, rfl⟩ := List.mem_map.mp hbalance
    exact (h.cards c (List.mem_of_mem_filter hc)).1
  · exact List.mem_map_of_mem (List.mem_filter.mpr ⟨hcard, by simp⟩)

theorem Solvent.le_owner (h : t.Solvent) (hcard : card ∈ t.cards) (howner : owner ∈ t.cardUsers)
    (hown : card.cardUserId = owner.id) : card.balance ≤ owner.balance :=
  calc card.balance ≤ t.cardTotal card.cardUserId := h.le_cardTotal hcard
    _ = t.cardTotal owner.id := by rw [hown]
    _ ≤ owner.balance := h.covered owner howner

end Tables

theorem World.solvent_after {w : World Memory} (h : w.store.tables.Solvent) (s : Settings)
    (turns : List Turn) : (w.after s turns).store.tables.Solvent := by
  have hdistinct := World.distinct_after h.distinct s turns
  have hbounds : (w.after s turns).store.tables.BalancesInBounds := by
    refine after_invariant (fun t t' ht hsteady => ?_)
      (fun t reference ev d card owner ht hcommits => ?_) h.toBalancesInBounds turns
    · exact ht.steady hsteady
    · exact ht.apply hcommits.carries
  refine ⟨hbounds, hdistinct, (Tables.covered_iff hdistinct).mpr fun id => ?_⟩
  rw [World.excess?_after h.distinct s turns id]
  exact (Tables.covered_iff h.distinct).mp h.covered id

theorem World.balanceSkew_after (s : Settings) (w : World Memory) (turns : List Turn) :
    (w.after s turns).store.tables.balanceSkew = w.store.tables.balanceSkew := by
  refine after_invariant (P := fun t => t.balanceSkew = w.store.tables.balanceSkew)
    (fun t t' ht hsteady => ?_) (fun t reference ev d card owner ht _ => ?_) rfl turns
  · exact hsteady.balanceSkew.trans ht
  · exact ht

/-! ## What is answered -/

namespace Tables

variable {t : Tables} {e : SpendEvent} {card : Card}

theorem authorizeAmount_eq_ok {status : CardStatus} {balance amount : Int} :
    authorizeAmount status balance amount = .ok () ↔ status = .active ∧ amount ≤ balance := by
  unfold authorizeAmount
  split_ifs <;> simp_all

theorem authorizeAmount_insufficient {status : CardStatus} {balance amount : Int} :
    authorizeAmount status balance amount = .error .insufficientBalance ↔
      status = .active ∧ balance < amount := by
  unfold authorizeAmount
  split_ifs <;> simp_all

theorem spendParties_ne_insufficient :
    t.spendParties e ≠ .error .insufficientBalance := by
  intro h
  unfold spendParties at h
  split at h
  · cases h
  next card _ =>
  split at h
  · cases h
  next owner _ =>
  cases hown : ensureOwner card owner with
  | ok u =>
    rw [hown] at h
    cases h
  | error r =>
    rw [hown] at h
    obtain rfl : r = .insufficientBalance := Except.error.inj h
    cases ensureOwner_eq_error hown

theorem parties_of_authorization {answer : Except Rejection Card}
    (h : t.authorization e = .ok answer)
    (hanswer : ∀ r, answer = .error r → r = .insufficientBalance) :
    ∃ amount card owner, toMinorUnits e.amount = .ok amount ∧
      t.spendParties e = .ok (card, owner) ∧
      answer = (authorizeAmount card.status card.balance amount).map fun _ => card := by
  unfold authorization at h
  split at h
  · cases h
  next amount hamount =>
  split at h
  next r hr =>
    obtain rfl := Except.ok.inj h
    obtain rfl := hanswer r rfl
    exact absurd hr spendParties_ne_insufficient
  next card owner hparties =>
    exact ⟨amount, card, owner, hamount, hparties, (Except.ok.inj h).symm⟩

theorem parties_of_approval (h : t.authorization e = .ok (.ok card)) :
    ∃ amount owner, toMinorUnits e.amount = .ok amount ∧
      t.spendParties e = .ok (card, owner) ∧ card.status = .active ∧ amount ≤ card.balance := by
  obtain ⟨amount, c, owner, hamount, hparties, hanswer⟩ := parties_of_authorization h nofun
  cases hok : authorizeAmount c.status c.balance amount with
  | error r =>
    rw [hok] at hanswer
    cases hanswer
  | ok u =>
    rw [hok] at hanswer
    obtain rfl : card = c := Except.ok.inj hanswer
    exact ⟨amount, owner, hamount, hparties, authorizeAmount_eq_ok.mp hok⟩

theorem parties_of_shortage (h : t.authorization e = .ok (.error .insufficientBalance)) :
    ∃ amount card owner, toMinorUnits e.amount = .ok amount ∧
      t.spendParties e = .ok (card, owner) ∧ card.balance < amount := by
  obtain ⟨amount, card, owner, hamount, hparties, hanswer⟩ :=
    parties_of_authorization h fun _ hr => (Except.error.inj hr).symm
  cases hok : authorizeAmount card.status card.balance amount with
  | error r =>
    rw [hok] at hanswer
    obtain rfl : .insufficientBalance = r := Except.error.inj hanswer
    exact ⟨amount, card, owner, hamount, hparties, (authorizeAmount_insufficient.mp hok).2⟩
  | ok u =>
    rw [hok] at hanswer
    cases hanswer

end Tables

/-! ## What becomes of the spend -/

namespace LedgerEvent

variable {s : Settings} {t : Tables} {refusal : LockKey → Option LockError} {reference : String}
  {ev : LedgerEvent} {e : SpendEvent} {card : Card} {owner : CardUser} {p : Posting}

theorem Posts.result_eq_error (h : ev.Posts s t reference card owner p) (hd : t.Distinct)
    (hnew : t.lineByRef? reference = none) (hfails : t.checkBalances p card owner ≠ .ok ())
    (refusal : LockKey → Option LockError) :
    ∃ cause, ev.result s refusal reference t = .error cause := by
  have hstored : t.storedFor p = none := h.storedFor_eq.trans hnew
  have hproceed : t.verdictOn s p = .proceed := by
    unfold Tables.verdictOn
    rw [hstored]
    rfl
  have hscreen : t.screen s card owner p = .ok ⟨card.id, card.userId, owner.id, p⟩ := by
    refine Tables.screen_eq_ok.mpr ⟨rfl, fun l hl => ?_, hproceed⟩
    rw [hstored] at hl
    cases hl
  unfold result
  rw [h.delivery_eq, hscreen]
  dsimp only
  cases refusal _ with
  | some e => exact ⟨_, rfl⟩
  | none =>
    dsimp only
    unfold Tables.change
    rw [h.card_eq hd, h.owner_eq hd]
    dsimp only
    rw [Verdict.dismissal?_eq_none.mpr hproceed]
    cases hchecks : t.checkBalances p card owner with
    | error cause => exact ⟨cause, rfl⟩
    | ok u => exact absurd hchecks hfails

theorem posts_spend {amount : Int} (hamount : toMinorUnits e.amount = .ok amount)
    (hparties : t.spendParties e = .ok (card, owner)) (s : Settings) (reference : String)
    (status : SpendStatus) :
    (spend { e with status := status }).Posts s t reference card owner
      (.ofSpend s reference amount card { e with status := status }) := ⟨hamount, hparties, rfl⟩

theorem Posts.deltaOf_taken (h : (spend e).Posts s t reference card owner p)
    (hnew : t.lineByRef? reference = none) (htaken : e.status = .pending ∨ e.status = .completed) :
    t.deltaOf p = -p.amount := by
  have hstatus : p.status = e.status.toLine := h.status_eq
  have hdelta : p.delta none = spendDelta none p.snapshot := by
    unfold Posting.delta
    rw [h.kind_eq]
    rfl
  rw [h.deltaOf_new hnew, hdelta]
  unfold spendDelta Posting.snapshot
  rw [hstatus]
  rcases htaken with htaken | htaken
  · rw [htaken]
    rfl
  · rw [htaken]
    rfl

theorem Posts.lands_of_covered (h : (spend e).Posts s t reference card owner p)
    (hsolvent : t.Solvent) (hexact : t.balanceSkew = 0) (hnew : t.lineByRef? reference = none)
    (htaken : e.status = .pending ∨ e.status = .completed) (hcovered : p.amount ≤ card.balance)
    (hgranted : refusal (.ofTransaction card.userId reference card.id) = none) :
    (spend e).Lands s t refusal reference card owner p := by
  obtain ⟨hcard, howner, hown⟩ := mem_of_parties h.parties_eq
  have hle : card.balance ≤ owner.balance :=
    hsolvent.le_owner hcard howner (ensureOwner_eq_ok.mp hown).1
  have hamount : InBounds p.amount := inBounds_of_toMinorUnits h.amount_eq
  have hcard_max : card.balance ≤ maxSafeAmount := (hsolvent.cards card hcard).2
  have howner_max : owner.balance ≤ maxSafeAmount := (hsolvent.cardUsers owner howner).2
  have hpositive : 0 ≤ p.amount := hamount.1
  refine ⟨h, fun l hl => ?_, hgranted, ?_⟩
  · rw [hnew] at hl
    cases hl
  · rw [Tables.checkBalances_eq_ok, h.deltaOf_taken hnew htaken]
    exact ⟨⟨by omega, by omega⟩, ⟨by omega, by omega⟩, hexact⟩

end LedgerEvent

structure Applied.Takes (a : Applied) (t : Tables) (amount : Int) : Prop where
  delta : a.delta = -amount
  card_nonneg : 0 ≤ a.card.balance
  owner_nonneg : 0 ≤ a.cardUser.balance
  card_stored : (t.card? a.card.id).map (·.balance) = some a.card.balance
  owner_stored : (t.cardUser? a.cardUser.id).map (·.balance) = some a.cardUser.balance

namespace LedgerEvent

variable {s : Settings} {w : World Memory} {refusal : LockKey → Option LockError}
  {reference : String} {e : SpendEvent} {card : Card} {owner : CardUser} {p : Posting}

theorem Lands.takes (h : (spend e).Lands s w.store.tables refusal reference card owner p)
    (hd : w.store.tables.Distinct) (hnew : w.store.tables.lineByRef? reference = none)
    (htaken : e.status = .pending ∨ e.status = .completed) (C : Collaborators) :
    (w.store.tables.changeOf s p card owner).applied.Takes
      (((spend e).apply s reference).runIn (Memory.backend refusal) C w).2.store.tables
      p.amount := by
  have hdelta : w.store.tables.deltaOf p = -p.amount := h.posts.deltaOf_taken hnew htaken
  obtain ⟨hcard, howner, -⟩ := Tables.checkBalances_eq_ok.mp h.balances
  have hshifts := h.shifts (C := C) hd
  refine ⟨hdelta, ?_, howner.1, ?_, ?_⟩
  · change 0 ≤ (w.store.tables.cardOf s p card).card.balance
    rw [Tables.balance_cardOf]
    exact hcard.1
  · change Option.map _ (Tables.card? _ (w.store.tables.cardOf s p card).card.id) =
      some (w.store.tables.cardOf s p card).card.balance
    rw [Tables.id_cardOf, Tables.balance_cardOf, hshifts.cards, h.posts.card_eq hd, if_pos rfl]
    rfl
  · change Option.map _ (Tables.cardUser? _ owner.id) = _
    rw [hshifts.cardUsers, h.posts.owner_eq hd, if_pos rfl]
    rfl

end LedgerEvent

/-- On a ledger that can pay, and that keeps balances as they are written, a spend that is approved
can be held or made right away, and one that is refused for want of balance can not. To ask changes
nothing. -/
theorem authorization_foretells_application (s : Settings) {w : World Memory}
    (hsolvent : w.store.tables.Solvent) (hexact : w.store.tables.balanceSkew = 0)
    (turns : List Turn) (e : SpendEvent) {reference : String}
    (hnew : (w.after s turns).store.tables.lineByRef? reference = none)
    (refusal : LockKey → Option LockError) (C : Collaborators) :
    let w' := w.after s turns
    let asked := (authorizeSpend e).runIn (Memory.backend refusal) C w'
    let made (status : SpendStatus) :=
      (applySpend s reference { e with status := status }).runIn (Memory.backend refusal) C w'
    asked.2 = w' ∧
      ∀ status, status = .pending ∨ status = .completed →
        (∀ card, asked.1 = .ok (.ok card) →
          refusal (.ofTransaction card.userId reference card.id) = none →
          ∃ a amount, (made status).1 = .ok (.ok a) ∧ toMinorUnits e.amount = .ok amount ∧
            a.card.id = card.id ∧ a.Takes (made status).2.store.tables amount) ∧
        (asked.1 = .ok (.error .insufficientBalance) →
          (∃ cause, (made status).1 = .error cause) ∧
            w'.Untouched Memory.tables (made status).2) := by
  intro w' asked made
  have hasked : asked = (w'.store.tables.authorization e, w') :=
    Task.runIn_authorizeSpend refusal C w' e
  have hsolvent' : w'.store.tables.Solvent := World.solvent_after hsolvent s turns
  have hexact' : w'.store.tables.balanceSkew = 0 := (w.balanceSkew_after s turns).trans hexact
  rw [hasked]
  refine ⟨rfl, fun status hstatus => ⟨fun card happroved hgranted => ?_, fun hshort => ?_⟩⟩
  · obtain ⟨amount, owner, hamount, hparties, -, hcovered⟩ := Tables.parties_of_approval happroved
    have hposts := LedgerEvent.posts_spend hamount hparties s reference status
    have hlands := hposts.lands_of_covered hsolvent' hexact' hnew hstatus hcovered hgranted
    refine ⟨_, amount, congrArg Prod.fst (hlands.runIn_apply (C := C) hsolvent'.distinct), hamount,
      Tables.id_cardOf .., ?_⟩
    exact hlands.takes hsolvent'.distinct hnew hstatus C
  · obtain ⟨amount, card, owner, hamount, hparties, hless⟩ := Tables.parties_of_shortage hshort
    have hposts := LedgerEvent.posts_spend hamount hparties s reference status
    have hfails : w'.store.tables.checkBalances (.ofSpend s reference amount card
        { e with status := status }) card owner ≠ .ok () := by
      rw [ne_eq, Tables.checkBalances_eq_ok, hposts.deltaOf_taken hnew hstatus]
      rintro ⟨⟨hnonneg, -⟩, -⟩
      change 0 ≤ card.balance + -amount at hnonneg
      omega
    obtain ⟨cause, hcause⟩ := hposts.result_eq_error hsolvent'.distinct hnew hfails refusal
    have hresult : (made status).1 = .error cause :=
      (LedgerEvent.result_eq _ s refusal C reference w').trans hcause
    refine ⟨⟨cause, hresult⟩, ?_⟩
    rcases LedgerEvent.runIn_apply_cases refusal C s w' reference
      (.spend { e with status := status }) with ⟨-, -, huntouched⟩ | ⟨d, c, u, -, happlied⟩
    · exact huntouched
    · have hok := (congrArg Prod.fst happlied).symm.trans hresult
      cases hok

theorem Specimen.solvent_tables : Specimen.tables.Solvent :=
  ⟨⟨by decide, by decide⟩, Specimen.distinct_tables, by decide⟩

/-- A hold has left fifteen on the first card. Fifteen are approved and made, and of sixteen neither
is the case. -/
theorem fifteen_approved_and_made :
    let w := Specimen.world.after Specimen.settings [Specimen.spendTurn "t" "first" "pending" 5]
    let asked (amount : Nat) := ((authorizeSpend (Specimen.spendEvent "first" .reversed amount)).runIn
      (Memory.backend fun _ => none) Specimen.refusing w).1
    let made (amount : Nat) := (applySpend Specimen.settings "u"
      (Specimen.spendEvent "first" .completed amount)).runIn
        (Memory.backend fun _ => none) Specimen.refusing w
    Specimen.world.store.tables.Solvent ∧ Specimen.world.store.tables.balanceSkew = 0 ∧
      w.store.tables.lineByRef? "u" = none ∧
      (∃ card a, asked 15 = .ok (.ok card) ∧ (made 15).1 = .ok (.ok a) ∧
        a.delta = -15 ∧ 0 ≤ a.card.balance ∧ 0 ≤ a.cardUser.balance) ∧
      asked 16 = .ok (.error .insufficientBalance) ∧ (∃ cause, (made 16).1 = .error cause) ∧
      w.Untouched Memory.tables (made 16).2 := by
  intro w asked made
  have hnew : w.store.tables.lineByRef? "u" = none := rfl
  have hasked : asked 16 = .ok (.error .insufficientBalance) := rfl
  obtain ⟨card, hcard⟩ : ∃ card, asked 15 = .ok (.ok card) := ⟨_, rfl⟩
  have hfifteen := (authorization_foretells_application Specimen.settings
    (w := Specimen.world) Specimen.solvent_tables rfl
    [Specimen.spendTurn "t" "first" "pending" 5] (Specimen.spendEvent "first" .reversed 15) hnew
    (fun _ => none) Specimen.refusing).2 .completed (.inr rfl)
  obtain ⟨a, amount, ha, hamount, -, htakes⟩ := hfifteen.1 card hcard rfl
  obtain rfl : 15 = amount := Except.ok.inj hamount
  have hsixteen := (authorization_foretells_application Specimen.settings
    (w := Specimen.world) Specimen.solvent_tables rfl
    [Specimen.spendTurn "t" "first" "pending" 5] (Specimen.spendEvent "first" .reversed 16) hnew
    (fun _ => none) Specimen.refusing).2 .completed (.inr rfl)
  obtain ⟨hcause, huntouched⟩ := hsixteen.2 hasked
  exact ⟨Specimen.solvent_tables, rfl, hnew,
    ⟨card, a, hcard, ha, htakes.delta, htakes.card_nonneg, htakes.owner_nonneg⟩, hasked, hcause,
    huntouched⟩

/-- A store that writes one more on a card than it is told to approves twenty, and can not make
them: the card is read back and the spend undone. -/
theorem approved_spend_not_verified :
    let tables := { Specimen.tables with balanceSkew := 1 }
    let w : World Memory := .ofStore (.ofTables tables)
    let made (status : SpendStatus) := ((applySpend Specimen.settings "t"
      (Specimen.spendEvent "first" status 20)).runIn
        (Memory.backend fun _ => none) Specimen.refusing w).1
    tables.Solvent ∧ tables.lineByRef? "t" = none ∧
      ((authorizeSpend (Specimen.spendEvent "first" .pending 20)).runIn
        (Memory.backend fun _ => none) Specimen.refusing w).1 =
          .ok (.ok (Specimen.card 1 "first" 20)) ∧
      made .pending = .error (.unverified .card ⟨1⟩ 0 (some 1)) ∧
      made .completed = .error (.unverified .card ⟨1⟩ 0 (some 1)) := by
  intro tables w made
  have hsolvent : tables.Solvent :=
    ⟨⟨Specimen.solvent_tables.cards, Specimen.solvent_tables.cardUsers⟩,
      ⟨Specimen.distinct_tables.cards, Specimen.distinct_tables.cardUsers⟩,
      Specimen.solvent_tables.covered⟩
  exact ⟨hsolvent, rfl, rfl, rfl, rfl⟩

end PrepaidLedger
