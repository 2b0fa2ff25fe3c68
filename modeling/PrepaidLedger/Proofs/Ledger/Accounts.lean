import PrepaidLedger.Proofs.Engine.Serial

/-! Cards and card-users over a run. Balances, statuses and counts change, but no card and no
card-user comes or goes, and no card changes hands. Which card of its owner is the primary one may
change with every status. -/

namespace PrepaidLedger

structure Tables.SameAccounts (t t' : Tables) : Prop where
  cards : List.Forall₂ Card.SameAccount t.cards t'.cards
  cardUsers : List.Forall₂ CardUser.SameAccount t.cardUsers t'.cardUsers

namespace Tables.SameAccounts

variable {t t' t'' : Tables}

theorem refl (t : Tables) : t.SameAccounts t where
  cards := List.forall₂_same.mpr fun c _ => .refl c
  cardUsers := List.forall₂_same.mpr fun u _ => .refl u

theorem trans (h : t.SameAccounts t') (h' : t'.SameAccounts t'') : t.SameAccounts t'' where
  cards := forall₂_trans (fun _ _ _ h h' => h.trans h') h.cards h'.cards
  cardUsers := forall₂_trans (fun _ _ _ h h' => h.trans h') h.cardUsers h'.cardUsers

theorem of_steady (h : t.Steady t') : t.SameAccounts t' where
  cards := h.cards.imp fun _ _ hc => hc.toSameAccount
  cardUsers := h.cardUsers.imp fun _ _ hu => hu.toSameAccount

theorem card_of_row {κ : Type} [DecidableEq κ] {key : Card → κ}
    (hkey : ∀ c c', c.SameAccount c' → key c' = key c) (h : t.SameAccounts t') {k : κ} {c : Card}
    (hc : rowOf? key k t.cards = some c) :
    ∃ c', rowOf? key k t'.cards = some c' ∧ c.SameAccount c' := by
  have hrel := rowOf?_forall₂ hkey h.cards k
  rw [hc] at hrel
  generalize rowOf? key k t'.cards = c'? at hrel ⊢
  cases hrel with
  | some hsame => exact ⟨_, rfl, hsame⟩

theorem cardUser_of_row {κ : Type} [DecidableEq κ] {key : CardUser → κ}
    (hkey : ∀ u u', u.SameAccount u' → key u' = key u) (h : t.SameAccounts t') {k : κ}
    {u : CardUser} (hu : rowOf? key k t.cardUsers = some u) :
    ∃ u', rowOf? key k t'.cardUsers = some u' ∧ u.SameAccount u' := by
  have hrel := rowOf?_forall₂ hkey h.cardUsers k
  rw [hu] at hrel
  generalize rowOf? key k t'.cardUsers = u'? at hrel ⊢
  cases hrel with
  | some hsame => exact ⟨_, rfl, hsame⟩

end Tables.SameAccounts

/-! ## After a commit -/

theorem DeclinePolicy.sameAccount_record (policy : DeclinePolicy) (c : Card) (now : Timestamp) :
    c.SameAccount (policy.record c now).card := by
  unfold record
  dsimp only
  split <;> exact ⟨rfl, rfl, rfl, rfl, rfl⟩

namespace Tables

variable {s : Settings} {t : Tables} {d : Delivery} {p : Posting} {card : Card} {owner : CardUser}

theorem sameAccount_cardOf : card.SameAccount (t.cardOf s p card).card := by
  have hmoved : card.SameAccount
      (card.moved (card.balance + t.deltaOf p) p.resetsDeclines t.now) :=
    ⟨rfl, rfl, rfl, rfl, rfl⟩
  unfold cardOf
  dsimp only
  split
  · exact hmoved.trans (DeclinePolicy.sameAccount_record _ _ _)
  · exact hmoved

theorem Carries.sameAccounts (h : t.Carries s d card owner) :
    t.SameAccounts (t.apply (t.changeOf s d.posting card owner)) where
  cards := by
    have hid : (t.cardOf s d.posting card).card.id = card.id := sameAccount_cardOf.id
    have hcard : rowOf? Card.id (t.cardOf s d.posting card).card.id t.cards = some card := by
      rw [hid, show card.id = d.cardId from key_of_rowOf? h.card_eq]
      exact h.card_eq
    exact forall₂_putRow Card.SameAccount.refl hcard sameAccount_cardOf
  cardUsers := by
    have hid : owner.id = d.cardUserId := key_of_rowOf? h.owner_eq
    have howner : rowOf? CardUser.id (t.ownerOf d.posting owner).id t.cardUsers = some owner := by
      rw [show (t.ownerOf d.posting owner).id = d.cardUserId from hid]
      exact h.owner_eq
    exact forall₂_putRow CardUser.SameAccount.refl howner ⟨rfl, rfl, rfl, rfl⟩

theorem Carries.map_ownerBalance_apply (h : t.Carries s d card owner) (id : Uuid) :
    ((t.apply (t.changeOf s d.posting card owner)).cardUser? id).map (·.balance) =
      (t.cardUser? id).map fun u =>
        u.balance + if d.cardUserId = id then t.deltaOf d.posting else 0 := by
  have hid : owner.id = d.cardUserId := key_of_rowOf? h.owner_eq
  change (rowOf? CardUser.id id (putRow CardUser.id (t.ownerOf d.posting owner)
    t.cardUsers)).map _ = _
  rw [rowOf?_putRow, show (t.ownerOf d.posting owner).id = d.cardUserId from hid]
  by_cases hd : d.cardUserId = id
  · rw [if_pos hd, if_pos hd, ← hd, h.owner_eq]
    rfl
  · rw [if_neg hd, if_neg hd]
    simp only [Int.add_zero]
    rfl

/-! ## Distinct accounts -/

structure Distinct (t : Tables) : Prop where
  cards : (t.cards.map Card.id).Nodup
  cardUsers : (t.cardUsers.map CardUser.id).Nodup

theorem Distinct.of_sameAccounts {t' : Tables} (hd : t.Distinct) (h : t.SameAccounts t') :
    t'.Distinct where
  cards := by
    rw [map_eq_of_forall₂ (fun _ _ hc => hc.id) h.cards]
    exact hd.cards
  cardUsers := by
    rw [map_eq_of_forall₂ (fun _ _ hu => hu.id) h.cardUsers]
    exact hd.cardUsers

/-! ## The primary card -/

theorem primaryOrder_iff {a b : Card} :
    primaryOrder a b = true ↔
      (b.status = .active ∧ a.status ≠ .active) ∨
        ((a.status = .active ↔ b.status = .active) ∧ a.createdAt.seconds ≤ b.createdAt.seconds) := by
  unfold primaryOrder
  by_cases ha : a.status = .active <;> by_cases hb : b.status = .active <;> simp [ha, hb]

theorem primaryOrder_trans {a b c : Card} (hab : primaryOrder a b = true)
    (hbc : primaryOrder b c = true) : primaryOrder a c = true := by
  rw [primaryOrder_iff] at hab hbc ⊢
  by_cases ha : a.status = .active <;> by_cases hb : b.status = .active <;>
    by_cases hc : c.status = .active <;> simp [ha, hb, hc] at hab hbc ⊢
  all_goals omega

theorem primaryOrder_total (a b : Card) : (primaryOrder a b || primaryOrder b a) = true := by
  rw [Bool.or_eq_true, primaryOrder_iff, primaryOrder_iff]
  by_cases ha : a.status = .active <;> by_cases hb : b.status = .active <;> simp [ha, hb]
  all_goals omega

theorem mem_of_primaryCard? {id : Uuid} {c : Card} (h : t.primaryCard? id = some c) :
    c ∈ t.cards ∧ c.cardUserId = id ∧ c.status ≠ .canceled := by
  have hmem := List.mem_mergeSort.mp (List.mem_of_getLast? h)
  simpa using List.mem_filter.mp hmem

theorem exists_primaryCard? {id : Uuid} {c : Card} (hc : c ∈ t.cards) (hid : c.cardUserId = id)
    (hstatus : c.status ≠ .canceled) : ∃ primary, t.primaryCard? id = some primary := by
  have hmem : c ∈ (t.cards.filter fun c => c.cardUserId = id ∧ c.status ≠ .canceled).mergeSort
      primaryOrder :=
    List.mem_mergeSort.mpr (List.mem_filter.mpr ⟨hc, by simp [hid, hstatus]⟩)
  exact ⟨_, List.getLast?_eq_some_getLast (List.ne_nil_of_mem hmem)⟩

theorem primaryCard?_eq_some {id : Uuid} {c : Card} (hc : c ∈ t.cards) (hid : c.cardUserId = id)
    (hstatus : c.status ≠ .canceled)
    (hlast : ∀ c' ∈ t.cards, c'.cardUserId = id → c'.status ≠ .canceled →
      c' = c ∨ primaryOrder c c' = false) : t.primaryCard? id = some c := by
  obtain ⟨primary, hprimary⟩ := exists_primaryCard? hc hid hstatus
  obtain ⟨hmem, hid', hstatus'⟩ := mem_of_primaryCard? hprimary
  rcases hlast primary hmem hid' hstatus' with rfl | hbefore
  · exact hprimary
  -- Any other last element has the card before it in the sorted list, against the hypothesis.
  have hsorted := @List.pairwise_mergeSort _ primaryOrder (fun _ _ _ => primaryOrder_trans)
    primaryOrder_total (t.cards.filter fun c => c.cardUserId = id ∧ c.status ≠ .canceled)
  have hc' : c ∈ (t.cards.filter fun c => c.cardUserId = id ∧ c.status ≠ .canceled).mergeSort
      primaryOrder :=
    List.mem_mergeSort.mpr (List.mem_filter.mpr ⟨hc, by simp [hid, hstatus]⟩)
  obtain ⟨before, hsplit⟩ := List.getLast?_eq_some_iff.mp hprimary
  rw [hsplit, List.pairwise_append] at hsorted
  rw [hsplit, List.mem_append, List.mem_singleton] at hc'
  rcases hc' with hc' | rfl
  · have horder := hsorted.2.2 c hc' primary (List.mem_singleton_self _)
    rw [horder] at hbefore
    cases hbefore
  · exact hprimary

end Tables

/-! ## Over a run -/

theorem World.sameAccounts_after (s : Settings) (w : World Memory) (turns : List Turn) :
    w.store.tables.SameAccounts (w.after s turns).store.tables := by
  refine after_invariant (fun t t' hsame h => ?_) (fun t reference ev d card owner hsame h => ?_)
    (.refl _) turns
  · exact hsame.trans (.of_steady h)
  · exact hsame.trans h.carries.sameAccounts

/-! ## Parties -/

theorem ensureOwner_eq_ok {card : Card} {owner : CardUser} :
    ensureOwner card owner = .ok () ↔ card.cardUserId = owner.id ∧ card.userId = owner.userId := by
  unfold ensureOwner isOwnedBy
  split <;> simp_all

theorem ensureOwner_eq_error {card : Card} {owner : CardUser} {r : Rejection}
    (h : ensureOwner card owner = .error r) : r = .unauthorizedCardAccess := by
  unfold ensureOwner at h
  split at h
  · cases h
  · exact (Except.error.inj h).symm

namespace Tables

variable {t t' : Tables} {card : Card} {owner : CardUser}

theorem map_ensureOwner_eq_ok {card' : Card} {owner' : CardUser} :
    (ensureOwner card' owner').map (fun _ => (card', owner')) = .ok (card, owner) ↔
      card' = card ∧ owner' = owner ∧ ensureOwner card' owner' = .ok () := by
  cases ensureOwner card' owner' with
  | error r => exact iff_of_false nofun nofun
  | ok u => simp [Except.map]

theorem spendParties_eq_ok {e : SpendEvent} :
    t.spendParties e = .ok (card, owner) ↔
      t.cardByRef? e.cardRef = some card ∧ t.namedOwner? e card = some owner ∧
        ensureOwner card owner = .ok () := by
  unfold spendParties
  cases t.cardByRef? e.cardRef with
  | none => simp
  | some c =>
    cases ho : t.namedOwner? e c with
    | none => grind
    | some u => grind [map_ensureOwner_eq_ok]

theorem collateralParties_eq_ok {e : CollateralEvent} :
    t.collateralParties e = .ok (card, owner) ↔
      t.collateralOwner? e = some owner ∧ t.primaryCard? owner.id = some card ∧
        ensureOwner card owner = .ok () := by
  unfold collateralParties
  cases t.collateralOwner? e with
  | none => simp
  | some u =>
    cases hc : t.primaryCard? u.id with
    | none => grind
    | some c => grind [map_ensureOwner_eq_ok]

theorem mem_of_addressOwner? {e : CollateralEvent} (h : t.addressOwner? e = some owner) :
    owner ∈ t.cardUsers := by
  unfold addressOwner? at h
  split at h
  · obtain ⟨a, -, hu⟩ := Option.bind_eq_some_iff.mp h
    exact mem_of_rowOf? hu
  · cases h

theorem mem_of_collateralOwner? {e : CollateralEvent} (h : t.collateralOwner? e = some owner) :
    owner ∈ t.cardUsers := by
  unfold collateralOwner? at h
  split at h
  · exact mem_of_addressOwner? h
  · split at h
    next hu =>
      obtain rfl := Option.some.inj h
      exact mem_of_rowOf? hu
    · exact mem_of_addressOwner? h

theorem mem_of_namedOwner? {e : SpendEvent} (h : t.namedOwner? e card = some owner) :
    owner ∈ t.cardUsers := by
  unfold namedOwner? at h
  split at h <;> exact mem_of_rowOf? h

end Tables

namespace LedgerEvent

variable {t t' : Tables} {ev : LedgerEvent} {card : Card} {owner : CardUser}

theorem mem_of_parties (h : ev.parties t = .ok (card, owner)) :
    card ∈ t.cards ∧ owner ∈ t.cardUsers ∧ ensureOwner card owner = .ok () := by
  cases ev with
  | spend e =>
    obtain ⟨hcard, howner, hok⟩ := Tables.spendParties_eq_ok.mp h
    exact ⟨mem_of_rowOf? hcard, Tables.mem_of_namedOwner? howner, hok⟩
  | collateral e =>
    obtain ⟨howner, hcard, hok⟩ := Tables.collateralParties_eq_ok.mp h
    exact ⟨(Tables.mem_of_primaryCard? hcard).1, Tables.mem_of_collateralOwner? howner, hok⟩

end LedgerEvent

namespace Tables.SameAccounts

variable {t t' : Tables} {card card' : Card} {owner owner' : CardUser}

theorem namedOwner? (h : t.SameAccounts t') (hc : card.SameAccount card') {e : SpendEvent}
    (howner : t.namedOwner? e card = some owner) :
    ∃ owner', t'.namedOwner? e card' = some owner' ∧ owner.SameAccount owner' := by
  unfold Tables.namedOwner? at howner ⊢
  cases hname : e.userRef with
  | some ref =>
    rw [hname] at howner
    exact h.cardUser_of_row (fun _ _ hu => hu.providerRef) howner
  | none =>
    rw [hname] at howner
    dsimp only
    rw [hc.cardUserId]
    exact h.cardUser_of_row (fun _ _ hu => hu.id) howner

theorem spendParties (h : t.SameAccounts t') {e : SpendEvent}
    (hparties : t.spendParties e = .ok (card, owner)) :
    ∃ card' owner', t'.spendParties e = .ok (card', owner') ∧ card.SameAccount card' := by
  obtain ⟨hcard, howner, hok⟩ := spendParties_eq_ok.mp hparties
  obtain ⟨card', hcard', hc⟩ := h.card_of_row (fun _ _ hc => hc.providerRef) hcard
  obtain ⟨owner', howner', hu⟩ := h.namedOwner? hc howner
  obtain ⟨hid, huser⟩ := ensureOwner_eq_ok.mp hok
  refine ⟨card', owner', spendParties_eq_ok.mpr ⟨hcard', howner', ?_⟩, hc⟩
  refine ensureOwner_eq_ok.mpr ⟨?_, ?_⟩
  · rw [hc.cardUserId, hid, hu.id]
  · rw [hc.userId, huser, hu.userId]

end Tables.SameAccounts
end PrepaidLedger
