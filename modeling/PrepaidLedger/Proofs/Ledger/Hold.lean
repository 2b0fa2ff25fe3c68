import PrepaidLedger.Proofs.Card.Declines
import PrepaidLedger.Proofs.Ledger.Bounds
import PrepaidLedger.Proofs.Ledger.Parties

/-! An amount is held and the hold comes to an end. Both together leave every account as the end
alone leaves it. -/

namespace PrepaidLedger

/-! ## What one event leaves behind -/

def Card.standing (c : Card) : Int × CardStatus × Int := (c.balance, c.status, c.declineCount)

/-- The posting is on its line, and its card and its card-user alone have been moved. -/
structure Tables.Ends (s : Settings) (t : Tables) (p : Posting) (card : Card) (owner : CardUser)
    (t' : Tables) : Prop where
  cards : ∀ id, (t'.card? id).map Card.standing =
    if card.id = id then some (t.cardOf s p card).card.standing
    else (t.card? id).map Card.standing
  cardUsers : ∀ id, (t'.cardUser? id).map (·.balance) =
    if owner.id = id then some (owner.balance + t.deltaOf p)
    else (t.cardUser? id).map (·.balance)
  line : (t'.lineByRef? p.reference).map (·.snapshot) = some p.snapshot

namespace Tables

variable {s : Settings} {t t' : Tables} {p p' : Posting} {card card' : Card} {owner : CardUser}

theorem deltaOf_of_new (h : t.lineByRef? p.reference = none) : t.deltaOf p = p.delta none := by
  unfold deltaOf storedFor
  rw [h]
  rfl

theorem standing_cardOf (hcounts : p'.countsDecline = p.countsDecline)
    (hresets : p'.resetsDeclines = p.resetsDeclines) (hstatus : card'.status = card.status)
    (hcount : card'.declineCount = card.declineCount)
    (hbalance : card'.balance + t'.deltaOf p' = card.balance + t.deltaOf p) :
    (t'.cardOf s p' card').card.standing = (t.cardOf s p card).card.standing := by
  have hcount' : (t'.cardOf s p' card').card.declineCount =
      (t.cardOf s p card).card.declineCount := by
    rw [declineCount_cardOf, declineCount_cardOf, hcounts, hresets, hcount]
  unfold Card.standing
  rw [balance_cardOf, balance_cardOf, hbalance, status_cardOf, status_cardOf, hcount', hcounts,
    hstatus]

theorem Settles.ends (hk : t.Keyed)
    (h : (t.apply (t.changeOf s p card owner)).Settles t') : t.Ends s p card owner t' where
  cards id := by
    rw [card?_of_written h.cards_eq]
    split <;> rfl
  cardUsers id := by
    have howner : t'.cardUser? id =
        if owner.id = id then some (t.ownerOf p owner) else t.cardUser? id := by
      unfold Tables.cardUser?
      rw [h.others]
      exact rowOf?_putRow _ id t.cardUsers
    rw [howner]
    split <;> rfl
  line := by
    have hline : (t.apply (t.changeOf s p card owner)).lineByRef? p.reference =
        some (t.lineOf p card owner) := (hk.lineByRef?_apply p.reference).trans (if_pos rfl)
    obtain ⟨l, hl, hsettles⟩ := h.quiet.line_after hline
    have hsnapshot : l.snapshot = p.snapshot := by
      rw [hsettles]
      unfold Line.snapshot Posting.snapshot
      dsimp only
      rw [hk.status_lineOf, hk.amount_lineOf]
    rw [hl]
    exact congrArg some hsnapshot

theorem Ends.standing_eq (h : t.Ends s p card owner t') {c : Card}
    (hc : t'.card? card.id = some c) : c.standing = (t.cardOf s p card).card.standing := by
  have hstanding := h.cards card.id
  rw [hc, if_pos rfl] at hstanding
  exact Option.some.inj hstanding

theorem Ends.balance_eq (h : t.Ends s p card owner t') {u : CardUser}
    (hu : t'.cardUser? owner.id = some u) : u.balance = owner.balance + t.deltaOf p := by
  have hbalance := h.cardUsers owner.id
  rw [hu, if_pos rfl] at hbalance
  exact Option.some.inj hbalance

end Tables

/-! ## Holding an amount and ending the hold -/

def Settings.Covers (s : Settings) (kind : LineKind) (amount balance : Int) : Prop :=
  match kind with
  | .spend => amount ≤ balance
  | .deposit =>
    let credit := amount - (s.fees.quote .deposit amount).fee
    0 < credit ∧ balance + credit ≤ maxSafeAmount

instance (s : Settings) (kind : LineKind) (amount balance : Int) :
    Decidable (s.Covers kind amount balance) :=
  match kind with
  | .spend => inferInstanceAs (Decidable (_ ≤ _))
  | .deposit => inferInstanceAs (Decidable (_ ∧ _))

theorem Posting.depositCredit_of_pos {amount fee : Int} (hamount : InBounds amount)
    (hfee : 0 ≤ fee) (h : 0 < amount - fee) : depositCredit amount fee = .ok (amount - fee) := by
  obtain ⟨hnonneg, hle⟩ := hamount
  unfold depositCredit ensureSafeAmount
  rw [if_neg (Int.not_lt.mpr hnonneg), if_neg (Int.not_lt.mpr hle)]
  dsimp only
  rw [if_neg (Int.not_lt.mpr hfee), if_neg (Int.not_le.mpr h)]

theorem Posting.delta_of_hold {q p : Posting} (hkind : q.kind = p.kind)
    (hhold : q.status = .pending) (hfinal : p.status ≠ .pending) (hamount : q.amount = p.amount) :
    q.delta none + p.delta (some q.snapshot) = p.delta none := by
  unfold delta snapshot
  rw [hkind, hhold, hamount]
  cases p.kind with
  | spend =>
    unfold spendDelta
    cases hstatus : p.status with
    | pending => exact absurd hstatus hfinal
    | successful =>
      change -p.amount + (p.amount - p.amount) = -p.amount
      omega
    | _ =>
      change -p.amount + p.amount = 0
      omega
  | deposit =>
    unfold depositDelta
    cases hstatus : p.status with
    | pending => exact absurd hstatus hfinal
    | successful => exact Int.zero_add p.credit
    | _ => rfl

namespace LedgerEvent

structure Closes (final hold : LedgerEvent) (amount : Int) : Prop where
  hold_status : hold.status = .pending
  final_status : final.status.isTerminal = true
  kind_eq : hold.kind = final.kind
  hold_amount : toMinorUnits hold.rawAmount = .ok amount
  final_amount : toMinorUnits final.rawAmount = .ok amount

theorem Closes.status_ne {final hold : LedgerEvent} {amount : Int} (h : final.Closes hold amount) :
    final.status ≠ .pending := by
  intro hpending
  have hterminal := h.final_status
  rw [LineStatus.isTerminal_eq_false.mpr hpending] at hterminal
  cases hterminal

variable {s : Settings} {t : Tables} {reference : String} {ev : LedgerEvent} {card : Card}
  {owner : CardUser} {p : Posting} {amount : Int}

theorem exists_posting (hamount : InBounds amount)
    (hcredit : ev.kind = .deposit → 0 < amount - (s.fees.quote .deposit amount).fee)
    (reference : String) (card : Card) : ∃ p, ev.posting s reference amount card = .ok p := by
  cases ev with
  | spend e => exact ⟨_, rfl⟩
  | collateral e =>
    have halive : (depositCredit amount (s.fees.quote .deposit amount).fee).map
        (fun credit => (s.fees.quote .deposit amount, credit)) =
          .ok (s.fees.quote .deposit amount, amount - (s.fees.quote .deposit amount).fee) := by
      rw [Posting.depositCredit_of_pos hamount (s.fees.quote_bounds .deposit amount).1
        (hcredit rfl)]
      rfl
    obtain ⟨terms, hterms⟩ : ∃ terms,
        Posting.collateralTerms s.fees e.status.toLine amount = .ok terms := by
      cases e.status.toLine with
      | pending => exact ⟨_, halive⟩
      | successful => exact ⟨_, halive⟩
      | declined => exact ⟨_, rfl⟩
      | canceled => exact ⟨_, rfl⟩
    change ∃ p, Posting.ofCollateral s reference amount card e = .ok p
    unfold Posting.ofCollateral
    dsimp only
    rw [hterms]
    exact ⟨_, rfl⟩

theorem exists_posts (hamount : toMinorUnits ev.rawAmount = .ok amount)
    (hparties : ev.parties t = .ok (card, owner)) {balance : Int}
    (hcovers : s.Covers ev.kind amount balance) (reference : String) :
    ∃ p, ev.Posts s t reference card owner p ∧ p.amount = amount := by
  have hcredit (hkind : ev.kind = .deposit) :
      0 < amount - (s.fees.quote .deposit amount).fee := by
    rw [hkind] at hcovers
    exact hcovers.1
  obtain ⟨p, hp⟩ := exists_posting (inBounds_of_toMinorUnits hamount) hcredit reference card
  have hp_amount : p.amount = amount := (facts_of_posting hp).2.2.2
  subst hp_amount
  exact ⟨p, ⟨hamount, hparties, hp⟩, rfl⟩

theorem Posts.inBounds_new (h : ev.Posts s t reference card owner p) {balance : Int}
    (hbounds : InBounds balance) (hcovers : s.Covers ev.kind p.amount balance) :
    InBounds (balance + p.delta none) := by
  have hamount : InBounds p.amount := inBounds_of_toMinorUnits h.amount_eq
  obtain ⟨hnonneg, hle⟩ := hbounds
  have hkept : InBounds (balance + 0) := by
    rw [Int.add_zero]
    exact ⟨hnonneg, hle⟩
  unfold Posting.delta Posting.snapshot
  rw [h.kind_eq]
  cases hkind : ev.kind with
  | spend =>
    rw [hkind] at hcovers
    have htaken : InBounds (balance + -p.amount) := by
      have hcovers : p.amount ≤ balance := hcovers
      have hpositive := hamount.1
      exact ⟨by omega, by omega⟩
    unfold spendDelta
    cases p.status with
    | pending => exact htaken
    | successful => exact htaken
    | _ => exact hkept
  | deposit =>
    rw [hkind] at hcovers
    obtain ⟨hcredit, hroom⟩ := hcovers
    unfold depositDelta
    cases hstatus : p.status with
    | successful =>
      have hterms := h.terms hkind
      rw [hstatus] at hterms
      obtain ⟨hfee, hp, -⟩ := Posting.terms_of_alive hterms (.inr rfl)
      rw [hfee] at hp
      change InBounds (balance + p.credit)
      rw [hp]
      exact ⟨by omega, hroom⟩
    | _ => exact hkept

theorem Posts.deltaOf_new (h : ev.Posts s t reference card owner p)
    (hnew : t.lineByRef? reference = none) : t.deltaOf p = p.delta none :=
  Tables.deltaOf_of_new (by rw [h.reference_eq, hnew])

end LedgerEvent

/-! ## Two events that come in on a new reference -/

/-- A ledger that waits for a hold and its end, and can take either of them. -/
structure Tables.Awaits (s : Settings) (t : Tables) (reference : String)
    (hold final : LedgerEvent) (amount : Int) (card : Card) (owner : CardUser) : Prop where
  distinct : t.Distinct
  keyed : t.Keyed
  skew : t.balanceSkew = 0
  new : t.lineByRef? reference = none
  closes : final.Closes hold amount
  hold_parties : hold.parties t = .ok (card, owner)
  final_parties : final.parties t = .ok (card, owner)
  card_bounds : InBounds card.balance
  card_covers : s.Covers final.kind amount card.balance
  owner_bounds : InBounds owner.balance
  owner_covers : s.Covers final.kind amount owner.balance

structure Tables.Holds (s : Settings) (t : Tables) (q : Posting) (card : Card) (owner : CardUser)
    (t' : Tables) : Prop where
  ends : t.Ends s q card owner t'
  parties : t.SameParties t'
  keyed : t'.Keyed
  distinct : t'.Distinct
  skew : t'.balanceSkew = 0
  line : ∃ l, t'.lineByRef? q.reference = some l ∧ l.cardId = card.id ∧ l.snapshot = q.snapshot
  card_eq : ∀ c, t'.card? card.id = some c → c.balance = card.balance + q.delta none ∧
    c.status = card.status ∧ c.declineCount = card.declineCount
  owner_eq : ∀ u, t'.cardUser? owner.id = some u → u.balance = owner.balance + q.delta none

namespace LedgerEvent

variable {s : Settings} {t t' : Tables} {reference : String} {ev hold final : LedgerEvent}
  {card : Card} {owner : CardUser} {q p : Posting} {amount : Int}

theorem Posts.spares_declines (h : ev.Posts s t reference card owner q)
    (hstatus : ev.status = .pending) : q.countsDecline = false ∧ q.resetsDeclines = false := by
  obtain ⟨hcounts, hresets⟩ := h.declines_eq
  rw [hcounts, hresets]
  cases ev with
  | spend e =>
    have hpending : e.status.toLine = .pending := hstatus
    unfold countsDecline resetsDeclines
    simp [hpending]
  | collateral e => exact ⟨rfl, rfl⟩

theorem Posts.status_of_hold (h : ev.Posts s t reference card owner q)
    (hstatus : ev.status = .pending) :
    (t.cardOf s q card).card.status = card.status ∧
      (t.cardOf s q card).card.declineCount = card.declineCount := by
  obtain ⟨hcounts, hresets⟩ := h.spares_declines hstatus
  rw [Tables.status_cardOf, Tables.declineCount_cardOf, hcounts, hresets]
  simp

theorem Posts.sameParties_of_hold (h : ev.Posts s t reference card owner q)
    (hstatus : ev.status = .pending) (hd : t.Distinct)
    (hsettles : (t.apply (t.changeOf s q card owner)).Settles t') : t.SameParties t' where
  cards := by
    have hcard : rowOf? Card.id (t.cardOf s q card).card.id t.cards = some card := by
      rw [Tables.id_cardOf]
      exact h.card_eq hd
    rw [hsettles.cards_eq]
    exact forall₂_putRow Card.SameStanding.refl hcard
      ⟨Tables.sameAccount_cardOf, (h.status_of_hold hstatus).1⟩
  cardUsers := by
    have howner : rowOf? CardUser.id (t.ownerOf q owner).id t.cardUsers = some owner :=
      h.owner_eq hd
    rw [hsettles.others]
    exact forall₂_putRow CardUser.SameAccount.refl howner ⟨rfl, rfl, rfl, rfl⟩
  addresses := by
    rw [hsettles.others]
    rfl

theorem Posts.holds (h : ev.Posts s t reference card owner q) (hstatus : ev.status = .pending)
    (hd : t.Distinct) (hk : t.Keyed) (hskew : t.balanceSkew = 0)
    (hnew : t.lineByRef? reference = none)
    (hsettles : (t.apply (t.changeOf s q card owner)).Settles t') : t.Holds s q card owner t' := by
  have hends : t.Ends s q card owner t' := hsettles.ends hk
  have hparties : t.SameParties t' := h.sameParties_of_hold hstatus hd hsettles
  refine ⟨hends, hparties, hk.apply.quiet hsettles.quiet,
    hd.of_sameAccounts hparties.sameAccounts, ?_, ?_, fun c hc => ?_, fun u hu => ?_⟩
  · rw [hsettles.others]
    exact hskew
  · have hline : (t.apply (t.changeOf s q card owner)).lineByRef? q.reference =
        some (t.lineOf q card owner) := (hk.lineByRef?_apply q.reference).trans (if_pos rfl)
    obtain ⟨l, hl, hsettled⟩ := hsettles.quiet.line_after hline
    have hsnapshot := hends.line
    rw [hl] at hsnapshot
    refine ⟨l, hl, ?_, Option.some.inj hsnapshot⟩
    have hstored : t.storedFor q = none := h.storedFor_eq.trans hnew
    rw [hsettled]
    change (t.lineOf q card owner).cardId = card.id
    rw [hk.cardId_lineOf, hstored]
    rfl
  · have hstanding := hends.standing_eq hc
    obtain ⟨hkept, hkept'⟩ := h.status_of_hold hstatus
    unfold Card.standing at hstanding
    rw [Tables.balance_cardOf, h.deltaOf_new hnew, hkept, hkept'] at hstanding
    exact ⟨congrArg (·.1) hstanding, congrArg (·.2.1) hstanding, congrArg (·.2.2) hstanding⟩
  · rw [hends.balance_eq hu, h.deltaOf_new hnew]

end LedgerEvent

/-! ## What comes first, and what comes after the hold -/

namespace Tables.Awaits

variable {s : Settings} {t t' : Tables} {reference : String} {hold final : LedgerEvent}
  {amount : Int} {card : Card} {owner : CardUser} {p q : Posting}
  {refusal : LockKey → Option LockError}

theorem inBounds (h : t.Awaits s reference hold final amount card owner) {ev : LedgerEvent}
    (hkind : ev.kind = final.kind) (hamount : toMinorUnits ev.rawAmount = .ok amount)
    (hp : ev.Posts s t reference card owner p) :
    InBounds (card.balance + p.delta none) ∧ InBounds (owner.balance + p.delta none) := by
  have hp_amount : p.amount = amount := Except.ok.inj (hp.amount_eq.symm.trans hamount)
  have hcard : s.Covers ev.kind p.amount card.balance := by
    rw [hkind, hp_amount]
    exact h.card_covers
  have howner : s.Covers ev.kind p.amount owner.balance := by
    rw [hkind, hp_amount]
    exact h.owner_covers
  exact ⟨hp.inBounds_new h.card_bounds hcard, hp.inBounds_new h.owner_bounds howner⟩

theorem lands_new (h : t.Awaits s reference hold final amount card owner) {ev : LedgerEvent}
    (hkind : ev.kind = final.kind) (hamount : toMinorUnits ev.rawAmount = .ok amount)
    (hp : ev.Posts s t reference card owner p)
    (hgranted : refusal (.ofTransaction card.userId reference card.id) = none) :
    ev.Lands s t refusal reference card owner p := by
  obtain ⟨hcard, howner⟩ := h.inBounds hkind hamount hp
  refine ⟨hp, fun l hl => ?_, hgranted, ?_⟩
  · rw [h.new] at hl
    cases hl
  · rw [Tables.checkBalances_eq_ok, hp.deltaOf_new h.new]
    exact ⟨hcard, howner, h.skew⟩

theorem delta_over_hold (h : t.Awaits s reference hold final amount card owner)
    (hq : hold.Posts s t reference card owner q) (hp : final.Posts s t reference card owner p)
    {card' : Card} {owner' : CardUser} {p' : Posting}
    (hp' : final.Posts s t' reference card' owner' p')
    (hsame : ∃ metadata, p' = { p with metadata := metadata }) {l : Line}
    (hl : t'.lineByRef? reference = some l) (hsnapshot : l.snapshot = q.snapshot) :
    q.delta none + t'.deltaOf p' = p.delta none := by
  obtain ⟨metadata, rfl⟩ := hsame
  have hstored : t'.deltaOf { p with metadata := metadata } = p.delta (some q.snapshot) := by
    unfold Tables.deltaOf
    rw [hp'.storedFor_eq, hl, Option.map_some, hsnapshot]
    rfl
  have hq_amount : q.amount = amount :=
    Except.ok.inj (hq.amount_eq.symm.trans h.closes.hold_amount)
  have hp_amount : p.amount = amount :=
    Except.ok.inj (hp.amount_eq.symm.trans h.closes.final_amount)
  rw [hstored]
  refine Posting.delta_of_hold ?_ ?_ ?_ (hq_amount.trans hp_amount.symm)
  · rw [hq.kind_eq, hp.kind_eq, h.closes.kind_eq]
  · rw [hq.status_eq, h.closes.hold_status]
  · rw [hp.status_eq]
    exact h.closes.status_ne

theorem lands_held (h : t.Awaits s reference hold final amount card owner)
    (hq : hold.Posts s t reference card owner q) (hp : final.Posts s t reference card owner p)
    (hheld : t.Holds s q card owner t')
    (hgranted : refusal (.ofTransaction card.userId reference card.id) = none) :
    ∃ card' owner' p', final.Lands s t' refusal reference card' owner' p' ∧
      ∀ t'', (t'.apply (t'.changeOf s p' card' owner')).Settles t'' →
        t.Ends s p card owner t'' := by
  obtain ⟨card', owner', hparties, hc, hu⟩ :=
    LedgerEvent.parties_of_sameParties hheld.parties hp.parties_eq
  obtain ⟨p', hposting, hsame⟩ := LedgerEvent.posting_for_other_card hp.posting_eq card'
  have hamount : p'.amount = p.amount := by
    obtain ⟨metadata, rfl⟩ := hsame
    rfl
  have hp' : final.Posts s t' reference card' owner' p' :=
    ⟨hamount ▸ hp.amount_eq, hparties, hamount.symm ▸ hposting⟩
  -- The line, the card and the card-user are found as the hold has left them.
  obtain ⟨l, hl, hcardId, hsnapshot⟩ := hheld.line
  rw [hq.reference_eq] at hl
  obtain ⟨hbalance, hstatus, hcount⟩ := hheld.card_eq card' (hc.id ▸ hp'.card_eq hheld.distinct)
  have hbalance' := hheld.owner_eq owner' (hu.id ▸ hp'.owner_eq hheld.distinct)
  have hdelta := h.delta_over_hold hq hp hp' hsame hl hsnapshot
  have htotal : card'.balance + t'.deltaOf p' = card.balance + t.deltaOf p := by
    rw [hbalance, Int.add_assoc, hdelta, hp.deltaOf_new h.new]
  have htotal' : owner'.balance + t'.deltaOf p' = owner.balance + t.deltaOf p := by
    rw [hbalance', Int.add_assoc, hdelta, hp.deltaOf_new h.new]
  refine ⟨card', owner', p', ⟨hp', fun l' hl' => ?_, ?_, ?_⟩, fun t'' hsettles => ?_⟩
  · obtain rfl := Option.some.inj (hl.symm.trans hl')
    have hl_status : l.status = q.status := congrArg Snapshot.status hsnapshot
    have hl_amount : l.amount = q.amount := congrArg Snapshot.amount hsnapshot
    have hq_amount : q.amount = p'.amount := Except.ok.inj
      (hq.amount_eq.symm.trans (h.closes.hold_amount.trans
        (h.closes.final_amount.symm.trans hp'.amount_eq)))
    refine ⟨hcardId.trans hc.id.symm, ?_, ?_, ?_⟩
    · rw [hl_status, hq.status_eq, h.closes.hold_status]
    · rw [hp'.status_eq]
      exact h.closes.status_ne
    · rw [hl_amount, hq_amount]
      exact s.tolerance.within_self p'.amount
  · rw [hc.userId, hc.id]
    exact hgranted
  · obtain ⟨hcard, howner⟩ := h.inBounds rfl h.closes.final_amount hp
    rw [Tables.checkBalances_eq_ok, htotal, htotal', hp.deltaOf_new h.new]
    exact ⟨hcard, howner, hheld.skew⟩
  · have hends := hsettles.ends hheld.keyed
    obtain ⟨metadata, rfl⟩ := hsame
    refine ⟨fun id => ?_, fun id => ?_, hends.line⟩
    · rw [hends.cards, hheld.ends.cards, hc.id]
      split
      · exact congrArg some (Tables.standing_cardOf rfl rfl hstatus hcount htotal)
      · rfl
    · rw [hends.cardUsers, hheld.ends.cardUsers, hu.id, htotal']
      split <;> rfl

end Tables.Awaits
end PrepaidLedger
