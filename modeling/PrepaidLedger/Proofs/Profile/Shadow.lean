import PrepaidLedger.Proofs.Ledger.Landing
import PrepaidLedger.Proofs.Profile.Delivered

/-! Two ledgers that differ in what the provider decides about cards, and in no balance, count or
line. A spend takes no notice: it goes through on both or on neither, and a card that is blocked on
the one and on the other before is so after. Collateral does take notice, for it goes to the primary
card. -/

namespace PrepaidLedger

structure Card.Resembles (c c' : Card) : Prop where
  id : c'.id = c.id
  userId : c'.userId = c.userId
  cardUserId : c'.cardUserId = c.cardUserId
  providerRef : c'.providerRef = c.providerRef
  balance : c'.balance = c.balance
  declineCount : c'.declineCount = c.declineCount

def Line.Resembles (l l' : Line) : Prop := l'.cardId = l.cardId ∧ l'.snapshot = l.snapshot

def Posting.Resembles (p p' : Posting) : Prop := ∃ metadata, p' = { p with metadata := metadata }

structure Delivery.Resembles (d d' : Delivery) : Prop where
  cardId : d'.cardId = d.cardId
  userId : d'.userId = d.userId
  cardUserId : d'.cardUserId = d.cardUserId
  posting : d.posting.Resembles d'.posting

structure Tables.Resembles (t t' : Tables) : Prop where
  cards : List.Forall₂ Card.Resembles t.cards t'.cards
  cardUsers : t'.cardUsers = t.cardUsers
  lines : ∀ reference,
    Option.Rel Line.Resembles (t.lineByRef? reference) (t'.lineByRef? reference)
  balanceSkew : t'.balanceSkew = t.balanceSkew
  now : t'.now = t.now

theorem Card.Resembles.symm {c c' : Card} (h : c.Resembles c') : c'.Resembles c :=
  ⟨h.id.symm, h.userId.symm, h.cardUserId.symm, h.providerRef.symm, h.balance.symm,
    h.declineCount.symm⟩

theorem Line.Resembles.of_settles {l l' m m' : Line} (h : l.Resembles m) (hl : l.SettlesTo l')
    (hm : m.SettlesTo m') : l'.Resembles m' := by
  rw [hl, hm]
  exact h

section Symmetry

variable {t t' : Tables}

theorem rel_option_symm {α : Type} {R : α → α → Prop} (hR : ∀ a b, R a b → R b a)
    {x y : Option α} (h : Option.Rel R x y) : Option.Rel R y x := by
  cases h with
  | none => exact .none
  | some h => exact .some (hR _ _ h)

theorem Tables.Resembles.symm (h : t.Resembles t') : t'.Resembles t where
  cards := h.cards.flip.imp fun _ _ hc => hc.symm
  cardUsers := h.cardUsers.symm
  lines reference :=
    rel_option_symm (fun _ _ hl => ⟨hl.1.symm, hl.2.symm⟩) (h.lines reference)
  balanceSkew := h.balanceSkew.symm
  now := h.now.symm

end Symmetry

/-! ## What is decided alike -/

section Decisions

variable {s : Settings} {t t' : Tables} {d d' : Delivery} {p p' : Posting} {card card' : Card}
  {owner : CardUser} {reference : String}

theorem Posting.Resembles.snapshot_eq (h : p.Resembles p') : p'.snapshot = p.snapshot := by
  obtain ⟨m, rfl⟩ := h
  rfl

theorem Posting.Resembles.reference_eq (h : p.Resembles p') : p'.reference = p.reference := by
  obtain ⟨m, rfl⟩ := h
  rfl

theorem Delivery.Resembles.symm (h : d.Resembles d') : d'.Resembles d where
  cardId := h.cardId.symm
  userId := h.userId.symm
  cardUserId := h.cardUserId.symm
  posting := by
    obtain ⟨m, hm⟩ := h.posting
    exact ⟨d.posting.metadata, by rw [hm]⟩

theorem Delivery.Resembles.lockKey_eq (h : d.Resembles d') : d'.lockKey = d.lockKey := by
  unfold lockKey
  rw [h.cardId, h.userId, h.posting.reference_eq]

namespace Tables.Resembles

theorem storedFor (h : t.Resembles t') (hp : p.Resembles p') :
    Option.Rel Line.Resembles (t.storedFor p) (t'.storedFor p') := by
  unfold Tables.storedFor
  rw [hp.reference_eq]
  exact h.lines p.reference

theorem snapshotFor (h : t.Resembles t') (hp : p.Resembles p') :
    (t'.storedFor p').map (·.snapshot) = (t.storedFor p).map (·.snapshot) := by
  have hrel := h.storedFor hp
  generalize t.storedFor p = l?, t'.storedFor p' = l'? at hrel ⊢
  cases hrel with
  | none => rfl
  | some hl => exact congrArg some hl.2

theorem verdictOn_eq (h : t.Resembles t') (hp : p.Resembles p') :
    t'.verdictOn s p' = t.verdictOn s p := by
  unfold Tables.verdictOn
  rw [h.snapshotFor hp, hp.snapshot_eq]

theorem deltaOf_eq (h : t.Resembles t') (hp : p.Resembles p') : t'.deltaOf p' = t.deltaOf p := by
  unfold Tables.deltaOf
  rw [h.snapshotFor hp]
  obtain ⟨m, rfl⟩ := hp
  rfl

theorem card_of_row {κ : Type} [DecidableEq κ] {key : Card → κ}
    (hkey : ∀ c c', c.Resembles c' → key c' = key c) (h : t.Resembles t') {k : κ}
    (hc : rowOf? key k t.cards = some card) :
    ∃ card', rowOf? key k t'.cards = some card' ∧ card.Resembles card' := by
  have hrel := rowOf?_forall₂ hkey h.cards k
  rw [hc] at hrel
  generalize rowOf? key k t'.cards = c'? at hrel ⊢
  cases hrel with
  | some hcard => exact ⟨_, rfl, hcard⟩

theorem delivery_spend (h : t.Resembles t') {e : SpendEvent}
    (hd : (LedgerEvent.spend e).delivery s t reference = .ok (.ok d)) :
    ∃ d', (LedgerEvent.spend e).delivery s t' reference = .ok (.ok d') ∧ d.Resembles d' := by
  obtain ⟨card, owner, hposts, hscreen⟩ := LedgerEvent.delivery_eq_ok.mp hd
  obtain ⟨hcard, howner, hown⟩ := Tables.spendParties_eq_ok.mp hposts.parties_eq
  obtain ⟨hdelivery, hline, hproceed⟩ := Tables.screen_eq_ok.mp hscreen
  obtain ⟨card', hcard', hc⟩ := h.card_of_row (fun _ _ hc => hc.providerRef) hcard
  have howner' : t'.namedOwner? e card' = some owner := by
    rw [← howner]
    unfold Tables.namedOwner? Tables.cardUserByRef? Tables.cardUser?
    rw [h.cardUsers, hc.cardUserId]
  have hown' : ensureOwner card' owner = .ok () := by
    rw [ensureOwner_eq_ok, hc.cardUserId, hc.userId]
    exact ensureOwner_eq_ok.mp hown
  let p' : Posting := .ofSpend s reference d.posting.amount card' e
  have hp : d.posting.Resembles p' := by
    have hposting : Posting.ofSpend s reference d.posting.amount card e = d.posting :=
      Except.ok.inj hposts.posting_eq
    exact ⟨p'.metadata, by rw [← hposting]; rfl⟩
  let d' : Delivery := ⟨card'.id, card'.userId, owner.id, p'⟩
  have hd' : d.Resembles d' := by
    refine ⟨?_, ?_, ?_, hp⟩
    · rw [hdelivery]
      exact hc.id
    · rw [hdelivery]
      exact hc.userId
    · rw [hdelivery]
  refine ⟨d', LedgerEvent.delivery_eq_ok.mpr ⟨card', owner, ⟨hposts.amount_eq, ?_, rfl⟩, ?_⟩, hd'⟩
  · exact Tables.spendParties_eq_ok.mpr ⟨hcard', howner', hown'⟩
  · refine Tables.screen_eq_ok.mpr ⟨rfl, fun l' hl' => ?_, (h.verdictOn_eq hp).trans hproceed⟩
    have hrel := h.storedFor hp
    rw [hl'] at hrel
    generalize hl : t.storedFor d.posting = l? at hrel
    cases hrel with
    | some hresembles => exact (hresembles.1.trans (hline _ hl)).trans hc.id.symm

theorem carries (h : t.Resembles t') (hd : d.Resembles d') (hcarries : t.Carries s d card owner) :
    ∃ card', t'.Carries s d' card' owner ∧ card.Resembles card' := by
  obtain ⟨card', hcard', hc⟩ := h.card_of_row (fun _ _ hc => hc.id) hcarries.card_eq
  refine ⟨card', ⟨?_, ?_, (h.verdictOn_eq hd.posting).trans hcarries.proceeds, ?_, ?_, ?_, ?_, ?_⟩,
    hc⟩
  · rw [hd.cardId]
    exact hcard'
  · rw [hd.cardUserId, Tables.cardUser?, h.cardUsers]
    exact hcarries.owner_eq
  · rw [h.deltaOf_eq hd.posting, hc.balance]
    exact hcarries.cardBalance_nonneg
  · rw [h.deltaOf_eq hd.posting, hc.balance]
    exact hcarries.cardBalance_le
  · rw [h.deltaOf_eq hd.posting]
    exact hcarries.ownerBalance_nonneg
  · rw [h.deltaOf_eq hd.posting]
    exact hcarries.ownerBalance_le
  · rw [h.balanceSkew]
    exact hcarries.exact

end Tables.Resembles
end Decisions

/-! ## Shadows -/

/-- The second card looks like the first and is blocked if the first is. -/
structure Card.Shadows (c c' : Card) : Prop extends c.Resembles c' where
  blocked : c.status = .blocked → c'.status = .blocked

structure Tables.Shadows (t t' : Tables) : Prop where
  resembles : t.Resembles t'
  cards : List.Forall₂ Card.Shadows t.cards t'.cards
  keyed : t.Keyed
  keyed' : t'.Keyed

section Steps

variable {s : Settings} {t t' u u' : Tables} {d d' : Delivery} {card card' : Card}
  {owner : CardUser}

theorem DeclinePolicy.shadows_record (policy : DeclinePolicy) (h : card.Shadows card')
    (now : Timestamp) :
    (policy.record card now).card.Shadows (policy.record card' now).card := by
  rw [card_record, card_record, h.declineCount]
  refine ⟨⟨h.id, h.userId, h.cardUserId, h.providerRef, h.balance, rfl⟩, fun hblocked => ?_⟩
  dsimp only at hblocked ⊢
  by_cases hcount : policy.blockThreshold ≤ card.declineCount + 1
  · rw [if_pos hcount]
  · rw [if_neg hcount] at hblocked ⊢
    exact h.blocked hblocked

namespace Tables.Shadows

theorem cardOf (h : t.Shadows t') {p p' : Posting} (hp : p.Resembles p')
    (hcard : card.Shadows card') :
    (t.cardOf s p card).card.Shadows (t'.cardOf s p' card').card := by
  have hdelta := h.resembles.deltaOf_eq hp
  obtain ⟨m, rfl⟩ := hp
  have hmoved : (card.moved (card.balance + t.deltaOf p) p.resetsDeclines t.now).Shadows
      (card'.moved (card'.balance + t'.deltaOf { p with metadata := m }) p.resetsDeclines
        t'.now) := by
    refine ⟨⟨hcard.id, hcard.userId, hcard.cardUserId, hcard.providerRef, ?_, ?_⟩, hcard.blocked⟩
    · unfold Card.moved
      rw [hdelta, hcard.balance]
    · unfold Card.moved
      rw [hcard.declineCount]
  unfold Tables.cardOf
  dsimp only
  rw [h.resembles.now] at hmoved ⊢
  split
  · exact DeclinePolicy.shadows_record _ hmoved t.now
  · exact hmoved

theorem apply (h : t.Shadows t') (hd : d.Resembles d') (hcarries : t.Carries s d card owner)
    (hcarries' : t'.Carries s d' card' owner) :
    (t.apply (t.changeOf s d.posting card owner)).Shadows
      (t'.apply (t'.changeOf s d'.posting card' owner)) := by
  have hcard : card.Shadows card' := by
    have hrel := rowOf?_forall₂ (fun _ _ hc => hc.id) h.cards d.cardId
    have hcard' := hcarries'.card_eq
    rw [hd.cardId] at hcard'
    change Option.Rel Card.Shadows (t.card? d.cardId) (t'.card? d.cardId) at hrel
    rw [hcarries.card_eq, hcard'] at hrel
    cases hrel with
    | some hcard => exact hcard
  have hcards : List.Forall₂ Card.Shadows (t.apply (t.changeOf s d.posting card owner)).cards
      (t'.apply (t'.changeOf s d'.posting card' owner)).cards :=
    forall₂_putRow_both (fun _ _ hc => hc.id) h.cards (h.cardOf hd.posting hcard)
  have howner : t'.ownerOf d'.posting owner = t.ownerOf d.posting owner := by
    unfold Tables.ownerOf
    rw [h.resembles.deltaOf_eq hd.posting, h.resembles.now]
  have hline : (t.lineOf d.posting card owner).Resembles (t'.lineOf d'.posting card' owner) := by
    have hstored := h.resembles.storedFor hd.posting
    refine ⟨?_, ?_⟩
    · rw [h.keyed.cardId_lineOf, h.keyed'.cardId_lineOf, hcard.id]
      generalize t.storedFor d.posting = l?, t'.storedFor d'.posting = l'? at hstored ⊢
      cases hstored with
      | none => rfl
      | some hl => exact hl.1
    · unfold Line.snapshot
      rw [h.keyed.status_lineOf, h.keyed'.status_lineOf, h.keyed.amount_lineOf,
        h.keyed'.amount_lineOf]
      exact hd.posting.snapshot_eq
  refine ⟨⟨hcards.imp fun _ _ hc => hc.toResembles, ?_, fun reference => ?_,
    h.resembles.balanceSkew, h.resembles.now⟩, hcards, h.keyed.apply, h.keyed'.apply⟩
  · change putRow CardUser.id _ t'.cardUsers = putRow CardUser.id _ t.cardUsers
    rw [h.resembles.cardUsers]
    exact congrArg (putRow CardUser.id · t.cardUsers) howner
  · rw [h.keyed.lineByRef?_apply, h.keyed'.lineByRef?_apply, hd.posting.reference_eq]
    split
    · exact .some hline
    · exact h.resembles.lines reference

theorem numbered (h : t.Shadows t') : t.numbered.Shadows t'.numbered where
  resembles := ⟨h.resembles.cards, h.resembles.cardUsers, h.resembles.lines,
    h.resembles.balanceSkew, h.resembles.now⟩
  cards := h.cards
  keyed := h.keyed.quiet (.of_eq rfl rfl (Nat.le_succ _))
  keyed' := h.keyed'.quiet (.of_eq rfl rfl (Nat.le_succ _))

theorem outcome (h : t.Shadows t') (e : SpendEvent) (refusal : LockKey → Option LockError)
    (reference : String) :
    ((LedgerEvent.spend e).outcome s refusal reference t).Shadows
      ((LedgerEvent.spend e).outcome s refusal reference t') := by
  unfold LedgerEvent.outcome
  rcases hd : (LedgerEvent.spend e).delivery s t reference with cause | dismissal | d
  case ok.ok =>
    obtain ⟨d', hd', hresembles⟩ := h.resembles.delivery_spend hd
    rw [hd']
    dsimp only
    rw [hresembles.lockKey_eq]
    cases refusal d.lockKey with
    | some cause => exact h
    | none =>
      dsimp only
      rcases hc : t.change s d with cause | dismissal | c
      case ok.ok =>
        obtain ⟨card, owner, hcarries, rfl⟩ := change_eq_ok.mp hc
        obtain ⟨card', hcarries', -⟩ := h.resembles.carries hresembles hcarries
        rw [change_eq_ok.mpr ⟨card', owner, hcarries', rfl⟩]
        exact h.apply hresembles hcarries hcarries'
      all_goals
        rcases hc' : t'.change s d' with cause' | dismissal' | c'
        case ok.ok =>
          obtain ⟨card', owner, hcarries', -⟩ := change_eq_ok.mp hc'
          obtain ⟨card, hcarries, -⟩ := h.resembles.symm.carries hresembles.symm hcarries'
          rw [change_eq_ok.mpr ⟨card, owner, hcarries, rfl⟩] at hc
          cases hc
        all_goals exact h.numbered
  all_goals
    rcases hd' : (LedgerEvent.spend e).delivery s t' reference with cause' | dismissal' | d'
    case ok.ok =>
      obtain ⟨d, hd₀, -⟩ := h.resembles.symm.delivery_spend hd'
      rw [hd₀] at hd
      cases hd
    all_goals exact h

theorem settles (h : t.Shadows t') (hu : t.Settles u) (hu' : t'.Settles u') :
    u.Shadows u' := by
  have hcards : List.Forall₂ Card.Shadows u.cards u'.cards := by
    rw [hu.cards_eq, hu'.cards_eq]
    exact h.cards
  refine ⟨⟨hcards.imp fun _ _ hc => hc.toResembles, ?_, fun reference => ?_, ?_, ?_⟩, hcards,
    h.keyed.quiet hu.quiet, h.keyed'.quiet hu'.quiet⟩
  · rw [hu.others, hu'.others]
    exact h.resembles.cardUsers
  · have hrel := h.resembles.lines reference
    have hsettled := hu.quiet.rel_lineByRef? reference
    have hsettled' := hu'.quiet.rel_lineByRef? reference
    generalize t.lineByRef? reference = l, t'.lineByRef? reference = l',
      u.lineByRef? reference = m, u'.lineByRef? reference = m' at hrel hsettled hsettled' ⊢
    cases hrel with
    | none =>
      cases hsettled
      cases hsettled'
      exact .none
    | some hl =>
      cases hsettled with
      | some hm =>
        cases hsettled' with
        | some hm' => exact .some (hl.of_settles hm hm')
  · rw [hu.others, hu'.others]
    exact h.resembles.balanceSkew
  · rw [hu.others, hu'.others]
    exact h.resembles.now

end Tables.Shadows
end Steps

def IsSpend (turn : Turn) : Prop := ∃ reference e, turn.ledgerEvent? = some (reference, .spend e)

theorem World.shadows_after {turns : List Turn}
    (hspends : ∀ turn ∈ turns, IsSpend turn) (s : Settings) {w v : World Memory}
    (h : w.store.tables.Shadows v.store.tables) :
    (w.after s turns).store.tables.Shadows (v.after s turns).store.tables := by
  induction turns generalizing w v with
  | nil => exact h
  | cons turn rest ih =>
    obtain ⟨reference, e, hturn⟩ := hspends turn (List.mem_cons_self ..)
    refine ih (fun x hx => hspends x (List.mem_cons_of_mem turn hx)) ?_
    exact (h.outcome e turn.refusal reference).settles (Turn.settles_outcome hturn s w)
      (Turn.settles_outcome hturn s v)

end PrepaidLedger
