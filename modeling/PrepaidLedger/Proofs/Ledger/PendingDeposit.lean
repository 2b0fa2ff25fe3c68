import PrepaidLedger.Proofs.Ledger.Landing

/-! Deposits on their way. A pending line keeps the terms it was written on, and its card and its
card-user belong together for ever. Collateral that arrives is credited to the primary card, and
only if that is still the card of the line. -/

namespace PrepaidLedger

def Line.OwnedIn (l : Line) (t : Tables) : Prop :=
  ∃ card ∈ t.cards, ∃ owner ∈ t.cardUsers, card.id = l.cardId ∧ owner.id = l.cardUserId ∧
    ensureOwner card owner = .ok ()

/-- The terms of a deposit that is on its way still hold. -/
def Line.OnTerms (s : Settings) (l : Line) : Prop :=
  l.kind = .deposit → l.status = .pending → ∃ fee credit,
    Posting.collateralTerms s.fees .pending l.amount = .ok (fee, credit) ∧ l.fee = fee.fee

def Tables.Joins (t : Tables) (cardId cardUserId : Uuid) : Prop :=
  ∃ card ∈ t.cards, ∃ owner ∈ t.cardUsers, card.id = cardId ∧ owner.id = cardUserId ∧
    ensureOwner card owner = .ok ()

theorem Line.ownedIn_iff {l : Line} {t : Tables} :
    l.OwnedIn t ↔ t.Joins l.cardId l.cardUserId := Iff.rfl

theorem Tables.Joins.of_sameAccounts {t t' : Tables} {cardId cardUserId : Uuid}
    (hjoins : t.Joins cardId cardUserId) (h : t.SameAccounts t') :
    t'.Joins cardId cardUserId := by
  obtain ⟨card, hcard, owner, howner, hcardId, hownerId, hown⟩ := hjoins
  obtain ⟨card', hcard', hc⟩ := exists_of_forall₂_left h.cards hcard
  obtain ⟨owner', howner', hu⟩ := exists_of_forall₂_left h.cardUsers howner
  refine ⟨card', hcard', owner', howner', hc.id.trans hcardId, hu.id.trans hownerId, ?_⟩
  obtain ⟨hid, huser⟩ := ensureOwner_eq_ok.mp hown
  refine ensureOwner_eq_ok.mpr ⟨?_, ?_⟩
  · rw [hc.cardUserId, hid, hu.id]
  · rw [hc.userId, huser, hu.userId]

theorem Tables.Joins.cardUserId_eq {t : Tables} (hd : t.Distinct) {cardId a b : Uuid}
    (ha : t.Joins cardId a) (hb : t.Joins cardId b) : a = b := by
  obtain ⟨card, hcard, owner, -, hcardId, rfl, hown⟩ := ha
  obtain ⟨card', hcard', owner', -, hcardId', rfl, hown'⟩ := hb
  obtain rfl : card = card' :=
    List.inj_on_of_nodup_map hd.cards hcard hcard' (hcardId.trans hcardId'.symm)
  exact (ensureOwner_eq_ok.mp hown).1.symm.trans (ensureOwner_eq_ok.mp hown').1

theorem Line.OwnedIn.of_sameAccounts {l : Line} {t t' : Tables} (hl : l.OwnedIn t)
    (h : t.SameAccounts t') : l.OwnedIn t' := Tables.Joins.of_sameAccounts hl h

namespace Tables

variable {s : Settings} {t t' : Tables} {reference : String} {ev : LedgerEvent} {d : Delivery}
  {card : Card} {owner : CardUser}

/-! ## Terms of pending deposits -/

def PendingOnTerms (s : Settings) (t : Tables) : Prop := ∀ l ∈ t.lines, l.OnTerms s

theorem PendingOnTerms.quiet (ht : t.PendingOnTerms s) (h : t.Quiet t') :
    t'.PendingOnTerms s := by
  intro l' hl' hkind hpending
  obtain ⟨l, hl, hsettles⟩ := exists_of_forall₂ h.lines hl'
  rw [hsettles] at hkind hpending ⊢
  exact ht l hl hkind hpending

theorem PendingOnTerms.commit (ht : t.PendingOnTerms s) (hk : t.Keyed)
    (h : ev.Commits s t reference d card owner) :
    (t.apply (t.changeOf s d.posting card owner)).PendingOnTerms s := by
  -- Only a new line can be pending after its commit.
  intro l hl hkind hpending
  rcases mem_of_mem_putRow hl with rfl | hl
  · change (t.lineOf d.posting card owner).kind = .deposit at hkind
    change (t.lineOf d.posting card owner).status = .pending at hpending
    rw [hk.status_lineOf] at hpending
    have hprepares := LedgerEvent.prepares_of_delivery h.delivery_eq
    cases hstored : t.storedFor d.posting with
    | some stored => exact absurd hpending (pending_of_proceeds h.carries.proceeds hstored).2
    | none =>
      change ∃ fee credit, Posting.collateralTerms s.fees .pending
        (t.lineOf d.posting card owner).amount = .ok (fee, credit) ∧
          (t.lineOf d.posting card owner).fee = fee.fee
      rw [lineOf_of_new hstored] at hkind ⊢
      have hterms := hprepares.terms (hprepares.kind_eq.symm.trans hkind)
      rw [hpending] at hterms
      exact ⟨_, _, hterms, rfl⟩
  · exact ht l hl hkind hpending

/-! ## Owners of lines -/

/-- What holds of the tables after every run that starts without lines, on distinct accounts. -/
structure Booked (s : Settings) (t : Tables) : Prop where
  keyed : t.Keyed
  distinct : t.Distinct
  -- Where balances are not kept as written, no line ever is.
  exact : ∀ l ∈ t.lines, t.balanceSkew = 0
  owned : ∀ l ∈ t.lines, l.OwnedIn t
  terms : t.PendingOnTerms s

theorem Booked.steady (hb : t.Booked s) (h : t.Steady t') : t'.Booked s where
  keyed := hb.keyed.quiet h.quiet
  distinct := hb.distinct.of_sameAccounts (.of_steady h)
  exact l' hl' := by
    obtain ⟨l, hl, -⟩ := exists_of_forall₂ h.lines hl'
    exact h.balanceSkew.trans (hb.exact l hl)
  owned l' hl' := by
    obtain ⟨l, hl, hsettles⟩ := exists_of_forall₂ h.lines hl'
    have howned := (hb.owned l hl).of_sameAccounts (.of_steady h)
    rw [hsettles]
    exact howned
  terms := hb.terms.quiet h.quiet

theorem Booked.commit (hb : t.Booked s) (h : ev.Commits s t reference d card owner) :
    (t.apply (t.changeOf s d.posting card owner)).Booked s where
  keyed := hb.keyed.apply
  distinct := hb.distinct.of_sameAccounts h.carries.sameAccounts
  exact _ _ := h.carries.exact
  owned l hl := by
    refine Line.OwnedIn.of_sameAccounts ?_ h.carries.sameAccounts
    rcases mem_of_mem_putRow hl with rfl | hl
    · change (t.lineOf d.posting card owner).OwnedIn t
      -- A stored line keeps its owners; a new one takes those of the event, who were checked.
      cases hstored : t.storedFor d.posting with
      | some stored =>
        rw [hb.keyed.lineOf_of_stored hstored]
        exact hb.owned stored (mem_of_rowOf? hstored)
      | none =>
        have hlands : ev.Lands s t (fun _ => none) reference card owner d.posting :=
          .of_commits h hb.distinct rfl
        obtain ⟨hcard, howner, hown⟩ := LedgerEvent.mem_of_parties hlands.posts.parties_eq
        rw [lineOf_of_new hstored]
        exact ⟨card, hcard, owner, howner, rfl, rfl, hown⟩
    · exact hb.owned l hl
  terms := hb.terms.commit hb.keyed h

end Tables

theorem World.booked_after (s : Settings) {w : World Memory} (hempty : w.store.tables.lines = [])
    (hd : w.store.tables.Distinct) (turns : List Turn) :
    (w.after s turns).store.tables.Booked s := by
  have hstart : w.store.tables.Booked s := by
    refine ⟨Tables.keyed_of_no_lines hempty, hd, ?_, ?_, ?_⟩
    · simp [hempty]
    · simp [hempty]
    · simp [Tables.PendingOnTerms, hempty]
  exact after_invariant (fun _ _ hb h => hb.steady h) (fun _ _ _ _ _ _ hb h => hb.commit h) hstart
    turns

/-! ## Arrival -/

structure Tables.HasRoom (t : Tables) (owner : CardUser) (credit : Int) : Prop where
  cards : ∀ card ∈ t.cards, card.cardUserId = owner.id → InBounds (card.balance + credit)
  owner : InBounds (owner.balance + credit)

structure CollateralEvent.Completes (e : CollateralEvent) (t : Tables) (l : Line)
    (owner : CardUser) : Prop where
  names : ∃ ref, e.userRef = some ref ∧ t.cardUserByRef? ref = some owner
  owns : l.cardUserId = owner.id
  completed : e.status = .completed
  amount_eq : toMinorUnits e.amount = .ok l.amount

section Arrival

variable {s : Settings} {t : Tables} {reference : String} {l : Line} {e : CollateralEvent}
  {card : Card} {owner : CardUser} {refusal : LockKey → Option LockError}

theorem Line.OnTerms.exists_posting (hterms : l.OnTerms s) (hkind : l.kind = .deposit)
    (hpending : l.status = .pending) (hstatus : e.status = .completed) (reference : String)
    (card : Card) :
    ∃ p, (LedgerEvent.collateral e).posting s reference l.amount card = .ok p ∧
      p.fee.fee = l.fee := by
  obtain ⟨fee, credit, hterms, hfee⟩ := hterms hkind hpending
  have harrived : Posting.collateralTerms s.fees e.status.toLine l.amount = .ok (fee, credit) := by
    rw [hstatus]
    exact hterms
  unfold LedgerEvent.posting Posting.ofCollateral
  dsimp only
  rw [harrived]
  exact ⟨_, rfl, hfee.symm⟩

theorem Line.OnTerms.credit_pos (hterms : l.OnTerms s) (hkind : l.kind = .deposit)
    (hpending : l.status = .pending) : 0 < l.amount - l.fee := by
  obtain ⟨fee, credit, hterms, hfee⟩ := hterms hkind hpending
  have hbounds := Posting.fee_bounds_of_alive hterms (.inl rfl)
  omega

theorem Line.OwnedIn.ensureOwner (howned : l.OwnedIn t) (hd : t.Distinct) (hcard : card ∈ t.cards)
    (howner : owner ∈ t.cardUsers) (hcardId : card.id = l.cardId)
    (hownerId : l.cardUserId = owner.id) : ensureOwner card owner = .ok () := by
  obtain ⟨card', hcard', owner', howner', hcardId', hownerId', hown⟩ := howned
  obtain rfl : card' = card :=
    List.inj_on_of_nodup_map hd.cards hcard' hcard (hcardId'.trans hcardId.symm)
  obtain rfl : owner' = owner :=
    List.inj_on_of_nodup_map hd.cardUsers howner' howner (hownerId'.trans hownerId)
  exact hown

namespace CollateralEvent.Completes

theorem settles {l' : Line} (he : e.Completes t l owner) (h : l.SettlesTo l') :
    e.Completes t l' owner := by
  rw [h]
  exact ⟨he.names, he.owns, he.completed, he.amount_eq⟩

theorem lands (he : e.Completes t l owner) (hb : t.Booked s)
    (hl : t.lineByRef? reference = some l) (hkind : l.kind = .deposit)
    (hpending : l.status = .pending) (hprimary : t.primaryCard? owner.id = some card)
    (hcard : card.id = l.cardId) (hroom : t.HasRoom owner (l.amount - l.fee))
    (hgranted : refusal (.ofTransaction owner.userId reference card.id) = none) :
    ∃ p, (LedgerEvent.collateral e).Lands s t refusal reference card owner p ∧
      t.deltaOf p = l.amount - l.fee := by
  obtain ⟨ref, huser, howner⟩ := he.names
  have hmem : l ∈ t.lines := mem_of_rowOf? hl
  obtain ⟨hcardMem, hcardOwner, -⟩ := Tables.mem_of_primaryCard? hprimary
  have hown : ensureOwner card owner = .ok () :=
    (hb.owned l hmem).ensureOwner hb.distinct hcardMem (mem_of_rowOf? howner) hcard he.owns
  obtain ⟨p, hposting, hfee⟩ :=
    (hb.terms l hmem).exists_posting hkind hpending he.completed reference card
  obtain ⟨-, -, hstatus, hamount⟩ := LedgerEvent.facts_of_posting hposting
  have hsuccess : p.status = .successful := by
    rw [hstatus, LedgerEvent.status, he.completed]
    rfl
  have hposts : (LedgerEvent.collateral e).Posts s t reference card owner p := by
    refine ⟨?_, ?_, ?_⟩
    · rw [hamount]
      exact he.amount_eq
    · rw [LedgerEvent.parties_of_primaryCard? huser howner hprimary, hown]
      rfl
    · rw [hamount]
      exact hposting
  have hfinal : p.status ≠ .pending := by
    rw [hsuccess]
    decide
  have hdelta : t.deltaOf p = l.amount - l.fee := by
    rw [hposts.delta_of_deposit hl hpending hfinal rfl, if_pos hsuccess, hamount, hfee]
  refine ⟨p, ⟨hposts, fun l' hl' => ?_, ?_, ?_⟩, hdelta⟩
  · obtain rfl := Option.some.inj (hl.symm.trans hl')
    refine ⟨hcard.symm, hpending, hfinal, ?_⟩
    rw [hamount]
    exact s.tolerance.within_self l.amount
  · rw [(ensureOwner_eq_ok.mp hown).2]
    exact hgranted
  · refine Tables.checkBalances_eq_ok.mpr ⟨?_, ?_, hb.exact l hmem⟩
    · rw [hdelta]
      exact hroom.cards card hcardMem hcardOwner
    · rw [hdelta]
      exact hroom.owner

theorem delivery_eq_unauthorized (he : e.Completes t l owner) (hterms : l.OnTerms s)
    (hl : t.lineByRef? reference = some l) (hkind : l.kind = .deposit)
    (hpending : l.status = .pending) (hprimary : t.primaryCard? owner.id = some card)
    (hcard : card.id ≠ l.cardId) :
    (LedgerEvent.collateral e).delivery s t reference =
      .ok (.error (.rejected .unauthorizedCardAccess)) := by
  obtain ⟨ref, huser, howner⟩ := he.names
  obtain ⟨p, hposting, -⟩ := hterms.exists_posting hkind hpending he.completed reference card
  have hstored : t.storedFor p = some l :=
    (Tables.storedFor_of_reference (LedgerEvent.facts_of_posting hposting).1).trans hl
  have hscreen : t.screen s card owner p = .error (.rejected .unauthorizedCardAccess) := by
    unfold Tables.screen
    rw [hstored]
    simp [Ne.symm hcard]
  unfold LedgerEvent.delivery LedgerEvent.rawAmount
  dsimp only
  rw [he.amount_eq]
  dsimp only
  rw [LedgerEvent.parties_of_primaryCard? huser howner hprimary]
  cases hown : ensureOwner card owner with
  | error r =>
    obtain rfl := ensureOwner_eq_error hown
    rfl
  | ok u =>
    dsimp only [Except.map]
    rw [hposting]
    exact congrArg Except.ok hscreen

end CollateralEvent.Completes

end Arrival

/-! ## Collateral on its way in the specimen -/

namespace Specimen

def lockedMeanwhile (cardRef : String) : World Memory :=
  onItsWay.after settings [cardTurn cardRef .locked]

theorem completes_pendingLine {cardRef : String} (h : cardRef = "first" ∨ cardRef = "second") :
    (collateral .completed 40).Completes (lockedMeanwhile cardRef).store.tables pendingLine
      (owner 50) := by
  rw [lockedMeanwhile, onItsWay_eq]
  rcases h with rfl | rfl <;> exact ⟨⟨"owner", rfl, rfl⟩, rfl, rfl, rfl⟩

theorem hasRoom_pendingLine {cardRef : String} (h : cardRef = "first" ∨ cardRef = "second") :
    (lockedMeanwhile cardRef).store.tables.HasRoom (owner 50)
      (pendingLine.amount - pendingLine.fee) := by
  rw [lockedMeanwhile, onItsWay_eq]
  rcases h with rfl | rfl <;> exact ⟨by decide +kernel, by decide +kernel⟩

theorem primaryCard_first_locked :
    (lockedMeanwhile "first").store.tables.primaryCard? ⟨5⟩ = some (card 2 "second" 30) := by
  rw [lockedMeanwhile, onItsWay_eq]
  exact Tables.primaryCard?_eq_some (by decide +kernel) rfl (by decide) (by decide +kernel)

theorem primaryCard_second_locked :
    (lockedMeanwhile "second").store.tables.primaryCard? ⟨5⟩ = some (card 1 "first" 20) := by
  rw [lockedMeanwhile, onItsWay_eq]
  exact Tables.primaryCard?_eq_some (by decide +kernel) rfl (by decide) (by decide +kernel)

end Specimen

/-- Whatever happens to other references and to the cards, collateral on its way that arrives is
credited exactly if the primary card of its owner is still, or again, the card of its line. While
any other card is the primary one it is refused, and nothing is written. -/
theorem arrival_credited_on_line_card (s : Settings) {w₀ : World Memory}
    (hempty : w₀.store.tables.lines = []) (hd : w₀.store.tables.Distinct) (past : List Turn)
    {reference : String} {l : Line}
    (hl : (w₀.after s past).store.tables.lineByRef? reference = some l)
    (hkind : l.kind = .deposit) (hpending : l.status = .pending)
    (later : List Turn) (hothers : ∀ kind, ¬ Posted later reference kind) {w : World Memory}
    (hw : (w₀.after s past).after s later = w) {e : CollateralEvent} {owner : CardUser}
    (he : e.Completes w.store.tables l owner)
    (hcards : ∃ card ∈ w.store.tables.cards, card.cardUserId = owner.id ∧ card.status ≠ .canceled)
    (hroom : w.store.tables.HasRoom owner (l.amount - l.fee))
    (refusal : LockKey → Option LockError)
    (hgranted : refusal (.ofTransaction owner.userId reference l.cardId) = none)
    (C : Collaborators) :
    let r := ((LedgerEvent.collateral e).apply s reference).runIn (Memory.backend refusal) C w
    ∃ primary, w.store.tables.primaryCard? owner.id = some primary ∧
      (primary.id = l.cardId → 0 < l.amount - l.fee ∧
        (∃ a, r.1 = .ok (.ok a) ∧ a.delta = l.amount - l.fee) ∧
        w.store.tables.Shifts r.2.store.tables primary.id owner.id (l.amount - l.fee)) ∧
      (primary.id ≠ l.cardId → r = (.ok (.error (.rejected .unauthorizedCardAccess)), w)) := by
  intro r
  have hb : w.store.tables.Booked s := by
    rw [← hw, show (w₀.after s past).after s later = w₀.after s (past ++ later) from
      (List.foldl_append ..).symm]
    exact World.booked_after s hempty hd (past ++ later)
  obtain ⟨l', hl', hsettles⟩ :=
    World.line_after_others (World.keyed_after (Tables.keyed_of_no_lines hempty) s past) hl hothers
  rw [hw] at hl'
  -- Of the line, nothing that matters here can have changed meanwhile.
  have hcardId : l'.cardId = l.cardId := by rw [hsettles]
  have hcredit : l'.amount - l'.fee = l.amount - l.fee := by rw [hsettles]
  have hkind' : l'.kind = .deposit := by rw [hsettles, hkind]
  have hpending' : l'.status = .pending := by rw [hsettles, hpending]
  have hterms := hb.terms l' (mem_of_rowOf? hl')
  have he' := he.settles hsettles
  rw [← hcardId] at hgranted ⊢
  rw [← hcredit] at hroom ⊢
  obtain ⟨card, hcard, hcardOwner, hstatus⟩ := hcards
  obtain ⟨primary, hprimary⟩ := Tables.exists_primaryCard? hcard hcardOwner hstatus
  refine ⟨primary, hprimary, fun hsame => ?_, fun hother => ?_⟩
  · obtain ⟨p, hlands, hdelta⟩ :=
      he'.lands hb hl' hkind' hpending' hprimary hsame hroom (hsame ▸ hgranted)
    have hshifts := hlands.shifts (C := C) hb.distinct
    rw [hdelta] at hshifts
    have happlied := congrArg Prod.fst (hlands.runIn_apply (C := C) hb.distinct)
    exact ⟨hterms.credit_pos hkind' hpending', ⟨_, happlied, hdelta⟩, hshifts⟩
  · have hrefused := he'.delivery_eq_unauthorized hterms hl' hkind' hpending' hprimary hother
    exact (LedgerEvent.runIn_apply refusal C s w reference _).trans (by rw [hrefused])

theorem arrival_after_lock_of_other_card :
    let w := Specimen.lockedMeanwhile "first"
    let r := ((LedgerEvent.collateral (Specimen.collateral .completed 40)).apply
      Specimen.settings "t").runIn (Memory.backend fun _ => none) Specimen.refusing w
    (∃ a, r.1 = .ok (.ok a) ∧ a.delta = 39) ∧
      w.store.tables.Shifts r.2.store.tables ⟨2⟩ ⟨5⟩ 39 := by
  -- Collateral is on its way to the second card, the first is locked, and the collateral
  -- arrives.
  intro w r
  obtain ⟨primary, hprimary, happlied, -⟩ := arrival_credited_on_line_card Specimen.settings
    (show Specimen.world.store.tables.lines = [] from rfl) Specimen.distinct_tables
    [Specimen.collateralTurn "t" .pending 40] Specimen.line_onItsWay rfl rfl
    [Specimen.cardTurn "first" .locked] (Specimen.not_posted_cardTurn _ _ "t")
    (show _ = w from rfl) (Specimen.completes_pendingLine (.inl rfl))
    ⟨_, Tables.mem_of_primaryCard? Specimen.primaryCard_first_locked⟩
    (Specimen.hasRoom_pendingLine (.inl rfl)) (fun _ => none) rfl Specimen.refusing
  obtain rfl := Option.some.inj (Specimen.primaryCard_first_locked.symm.trans hprimary)
  exact (happlied rfl).2

/-- The collateral is on its way, its own card is locked, and the collateral arrives: it is refused,
although its owner still has a card that is not canceled and there is room for the credit. -/
theorem arrival_after_lock_of_own_card_is_refused :
    let w := Specimen.lockedMeanwhile "second"
    let l := Specimen.pendingLine
    let e := Specimen.collateral .completed 40
    Specimen.onItsWay.store.tables.lineByRef? "t" = some l ∧ l.kind = .deposit ∧
      l.status = .pending ∧ (∀ kind, ¬ Posted [Specimen.cardTurn "second" .locked] "t" kind) ∧
      e.Completes w.store.tables l (Specimen.owner 50) ∧
      (∃ card ∈ w.store.tables.cards, card.cardUserId = ⟨5⟩ ∧ card.status ≠ .canceled) ∧
      w.store.tables.HasRoom (Specimen.owner 50) (l.amount - l.fee) ∧
      ((LedgerEvent.collateral e).apply Specimen.settings "t").runIn (Memory.backend fun _ => none)
        Specimen.refusing w = (.ok (.error (.rejected .unauthorizedCardAccess)), w) := by
  intro w l e
  have hprimary := Specimen.primaryCard_second_locked
  have hcompletes : e.Completes w.store.tables l (Specimen.owner 50) :=
    Specimen.completes_pendingLine (.inr rfl)
  have hl : w.store.tables.lineByRef? "t" = some l := by
    rw [show w = Specimen.lockedMeanwhile "second" from rfl, Specimen.lockedMeanwhile,
      Specimen.onItsWay_eq]
    rfl
  have hterms : l.OnTerms Specimen.settings := fun _ _ => ⟨⟨1, true⟩, 39, rfl, rfl⟩
  have hrefused := hcompletes.delivery_eq_unauthorized hterms hl rfl rfl hprimary (by decide)
  refine ⟨Specimen.line_onItsWay, rfl, rfl, Specimen.not_posted_cardTurn _ _ "t", hcompletes,
    ⟨_, Tables.mem_of_primaryCard? hprimary⟩, Specimen.hasRoom_pendingLine (.inr rfl), ?_⟩
  rw [LedgerEvent.runIn_apply, hrefused]

end PrepaidLedger
