import Mathlib.Data.List.Forall2
import PrepaidLedger.Proofs.Ledger.Mirror

/-! Whom an event is for. That depends on names, owners and the statuses of cards, and so it stays
as it is while only balances move. -/

namespace PrepaidLedger

/-! ## Lists that are sorted alike -/

section Sorting

variable {α β : Type} {R : α → β → Prop} {le : α → α → Bool} {le' : β → β → Bool}

theorem forall₂_mergeSort (hle : ∀ a a' b b', R a b → R a' b' → le a a' = le' b b') {l : List α}
    {l' : List β} (h : List.Forall₂ R l l') :
    List.Forall₂ R (l.mergeSort le) (l'.mergeSort le') := by
  -- Both lists are one list of pairs seen from either side, and so is what becomes of them.
  obtain ⟨pairs, hpairs, rfl, rfl⟩ : ∃ pairs : List (α × β), (∀ x ∈ pairs, R x.1 x.2) ∧
      l = pairs.map Prod.fst ∧ l' = pairs.map Prod.snd := by
    induction h with
    | nil => exact ⟨[], nofun, rfl, rfl⟩
    | @cons a b as bs hab _ ih =>
      obtain ⟨pairs, hpairs, rfl, rfl⟩ := ih
      exact ⟨(a, b) :: pairs, List.forall_mem_cons.mpr ⟨hab, hpairs⟩, rfl, rfl⟩
  let order (x y : α × β) : Bool := le x.1 y.1
  have hfst : (pairs.mergeSort order).map Prod.fst = (pairs.map Prod.fst).mergeSort le :=
    List.map_mergeSort fun _ _ _ _ => rfl
  have hsnd : (pairs.mergeSort order).map Prod.snd = (pairs.map Prod.snd).mergeSort le' :=
    List.map_mergeSort fun x hx y hy => hle x.1 y.1 x.2 y.2 (hpairs x hx) (hpairs y hy)
  rw [← hfst, ← hsnd, List.forall₂_map_left_iff, List.forall₂_map_right_iff, List.forall₂_same]
  intro x hx
  exact hpairs x (List.mem_mergeSort.mp hx)

theorem rel_getLast? {l : List α} {l' : List β} (h : List.Forall₂ R l l') :
    Option.Rel R l.getLast? l'.getLast? := by
  induction h with
  | nil => exact .none
  | @cons a b as bs hab _ ih =>
    rw [List.getLast?_cons, List.getLast?_cons]
    generalize as.getLast? = last, bs.getLast? = last' at ih ⊢
    cases ih with
    | none => exact .some hab
    | some hlast => exact .some hlast

end Sorting

/-! ## Cards that are chosen alike -/

structure Card.SameStanding (c c' : Card) : Prop extends c.SameAccount c' where
  status : c'.status = c.status

theorem Card.SameStanding.refl (c : Card) : c.SameStanding c := ⟨.refl c, rfl⟩

structure Tables.SameParties (t t' : Tables) : Prop where
  cards : List.Forall₂ Card.SameStanding t.cards t'.cards
  cardUsers : List.Forall₂ CardUser.SameAccount t.cardUsers t'.cardUsers
  addresses : t'.addresses = t.addresses

namespace Tables.SameParties

variable {t t' : Tables}

theorem sameAccounts (h : t.SameParties t') : t.SameAccounts t' where
  cards := h.cards.imp fun _ _ hc => hc.toSameAccount
  cardUsers := h.cardUsers

theorem rel_cardUser {κ : Type} [DecidableEq κ] {key : CardUser → κ}
    (hkey : ∀ u u', u.SameAccount u' → key u' = key u) (h : t.SameParties t') (k : κ) :
    Option.Rel CardUser.SameAccount (rowOf? key k t.cardUsers) (rowOf? key k t'.cardUsers) :=
  rowOf?_forall₂ hkey h.cardUsers k

theorem rel_primaryCard? (h : t.SameParties t') (id : Uuid) :
    Option.Rel Card.SameStanding (t.primaryCard? id) (t'.primaryCard? id) := by
  have horder : ∀ a a' b b', Card.SameStanding a b → Card.SameStanding a' b' →
      primaryOrder a a' = primaryOrder b b' := by
    intro a a' b b' hab hab'
    unfold primaryOrder
    rw [hab.status, hab'.status, hab.createdAt, hab'.createdAt]
  have hchosen : ∀ a b, Card.SameStanding a b →
      (decide (a.cardUserId = id ∧ a.status ≠ .canceled) ↔
        decide (b.cardUserId = id ∧ b.status ≠ .canceled)) := by
    intro a b hab
    rw [hab.cardUserId, hab.status]
  exact rel_getLast? (forall₂_mergeSort horder (List.rel_filter (fun a b => hchosen a b) h.cards))

theorem rel_addressOwner? (h : t.SameParties t') (e : CollateralEvent) :
    Option.Rel CardUser.SameAccount (t.addressOwner? e) (t'.addressOwner? e) := by
  unfold Tables.addressOwner?
  split
  · unfold Tables.address?
    rw [h.addresses]
    cases t.addresses.find? _ with
    | none => exact .none
    | some a => exact h.rel_cardUser (fun _ _ hu => hu.userId) a.userId
  · exact .none

theorem rel_collateralOwner? (h : t.SameParties t') (e : CollateralEvent) :
    Option.Rel CardUser.SameAccount (t.collateralOwner? e) (t'.collateralOwner? e) := by
  unfold Tables.collateralOwner?
  split
  · exact h.rel_addressOwner? e
  next ref _ =>
    have hnamed : Option.Rel CardUser.SameAccount (t.cardUserByRef? ref) (t'.cardUserByRef? ref) :=
      h.rel_cardUser (fun _ _ hu => hu.providerRef) ref
    generalize t.cardUserByRef? ref = u?, t'.cardUserByRef? ref = u'? at hnamed ⊢
    cases hnamed with
    | none => exact h.rel_addressOwner? e
    | some hu => exact .some hu

end Tables.SameParties

namespace LedgerEvent

variable {t t' : Tables} {ev : LedgerEvent} {card : Card} {owner : CardUser}

theorem parties_of_sameParties (h : t.SameParties t')
    (hparties : ev.parties t = .ok (card, owner)) :
    ∃ card' owner', ev.parties t' = .ok (card', owner') ∧ card.SameAccount card' ∧
      owner.SameAccount owner' := by
  obtain ⟨hresolves, hid, huser⟩ := parties_eq_ok.mp hparties
  obtain ⟨card', owner', hresolves', hc, hu⟩ : ∃ card' owner', ev.Resolves t' card' owner' ∧
      card.SameAccount card' ∧ owner.SameAccount owner' := by
    cases ev with
    | spend e =>
      obtain ⟨card', hcard', hc⟩ :=
        h.sameAccounts.card_of_row (fun _ _ hc => hc.providerRef) hresolves.1
      obtain ⟨owner', howner', hu⟩ := h.sameAccounts.namedOwner? hc hresolves.2
      exact ⟨card', owner', ⟨hcard', howner'⟩, hc, hu⟩
    | collateral e =>
      have howner := h.rel_collateralOwner? e
      rw [hresolves.1] at howner
      generalize hu? : t'.collateralOwner? e = u'? at howner
      cases howner with
      | @some _ owner' hu =>
        have hcard := h.rel_primaryCard? owner.id
        rw [hresolves.2, ← hu.id] at hcard
        generalize hc? : t'.primaryCard? owner'.id = c'? at hcard
        cases hcard with
        | @some _ card' hc => exact ⟨card', owner', ⟨hu?, hc?⟩, hc.toSameAccount, hu⟩
  refine ⟨card', owner', parties_eq_ok.mpr ⟨hresolves', ?_, ?_⟩, hc, hu⟩
  · rw [hc.cardUserId, hid, hu.id]
  · rw [hc.userId, huser, hu.userId]

theorem parties_eq_of_same {ev' : LedgerEvent} {card' : Card} {owner' : CardUser} (hd : t.Distinct)
    (hparties : ev.parties t = .ok (card, owner)) (hparties' : ev'.parties t = .ok (card', owner'))
    (hkind : ev.kind = ev'.kind)
    (hspend : ev.kind = .spend → card'.id = card.id)
    (hdeposit : ev.kind = .deposit → owner'.id = owner.id) : card' = card ∧ owner' = owner := by
  obtain ⟨hcard, howner, -⟩ := mem_of_parties hparties
  obtain ⟨hcard', howner', -⟩ := mem_of_parties hparties'
  have hcard_of (hid : card'.id = card.id) : card' = card := by
    have hfound := rowOf?_of_mem hd.cards hcard'
    rw [hid, rowOf?_of_mem hd.cards hcard] at hfound
    exact (Option.some.inj hfound).symm
  have howner_of (hid : owner'.id = owner.id) : owner' = owner := by
    have hfound := rowOf?_of_mem hd.cardUsers howner'
    rw [hid, rowOf?_of_mem hd.cardUsers howner] at hfound
    exact (Option.some.inj hfound).symm
  obtain ⟨hresolves, hown, -⟩ := parties_eq_ok.mp hparties
  obtain ⟨hresolves', hown', -⟩ := parties_eq_ok.mp hparties'
  cases hk : ev.kind with
  | spend =>
    have hsame : card' = card := hcard_of (hspend hk)
    rw [hsame] at hown'
    exact ⟨hsame, howner_of (hown'.symm.trans hown)⟩
  | deposit =>
    have hsame : owner' = owner := howner_of (hdeposit hk)
    refine ⟨?_, hsame⟩
    cases ev with
    | spend e => cases hk
    | collateral e =>
      cases ev' with
      | spend e' => cases hkind
      | collateral e' =>
        have hprimary := hresolves'.2
        rw [hsame, hresolves.2] at hprimary
        exact (Option.some.inj hprimary).symm

end LedgerEvent
end PrepaidLedger
