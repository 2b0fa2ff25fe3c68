import PrepaidLedger.Proofs.Engine.Change
import PrepaidLedger.Proofs.Engine.Running

/-! Preparing a delivery only reads. On the tables in memory it is a function of the tables, and the
delivery it ends in was let through by the line stored at that time. -/

namespace PrepaidLedger

/-! ## Preparing as a function of the tables -/

namespace Tables

variable (s : Settings) (t : Tables)

def cardByRef? (ref : String) : Option Card := rowOf? Card.providerRef ref t.cards

def cardUserByRef? (ref : String) : Option CardUser := rowOf? CardUser.providerRef ref t.cardUsers

def cardUserByUser? (id : Uuid) : Option CardUser := rowOf? CardUser.userId id t.cardUsers

def namedOwner? (e : SpendEvent) (card : Card) : Option CardUser :=
  match e.userRef with
  | some ref => t.cardUserByRef? ref
  | none => t.cardUser? card.cardUserId

def spendParties (e : SpendEvent) : Except Rejection (Card × CardUser) :=
  match t.cardByRef? e.cardRef with
  | none => .error .cardNotFound
  | some card =>
    match t.namedOwner? e card with
    | none => .error .cardUserNotFound
    | some owner => (ensureOwner card owner).map fun _ => (card, owner)

def addressOwner? (e : CollateralEvent) : Option CardUser :=
  match e.chainId, e.walletAddress with
  | some chainId, some address =>
    (t.address? chainId address).bind fun a => t.cardUserByUser? a.userId
  | _, _ => none

def collateralOwner? (e : CollateralEvent) : Option CardUser :=
  match e.userRef with
  | none => t.addressOwner? e
  | some ref =>
    match t.cardUserByRef? ref with
    | some owner => some owner
    | none => t.addressOwner? e

def collateralParties (e : CollateralEvent) : Except Rejection (Card × CardUser) :=
  match t.collateralOwner? e with
  | none => .error .cardUserNotFound
  | some owner =>
    match t.primaryCard? owner.id with
    | none => .error .cardNotFound
    | some card => (ensureOwner card owner).map fun _ => (card, owner)

def screen (card : Card) (owner : CardUser) (p : Posting) : Except Dismissal Delivery :=
  if (t.storedFor p).any (·.cardId ≠ card.id) then .error (.rejected .unauthorizedCardAccess)
  else
    match (t.verdictOn s p).dismissal? with
    | some dismissal => .error dismissal
    | none => .ok ⟨card.id, card.userId, owner.id, p⟩

def spendDelivery (reference : String) (e : SpendEvent) :
    Except EngineError (Except Dismissal Delivery) :=
  match toMinorUnits e.amount with
  | .error cause => .error cause
  | .ok amount =>
    match t.spendParties e with
    | .error r => .ok (.error (.rejected r))
    | .ok (card, owner) => .ok (t.screen s card owner (.ofSpend s reference amount card e))

def collateralDelivery (reference : String) (e : CollateralEvent) :
    Except EngineError (Except Dismissal Delivery) :=
  match toMinorUnits e.amount with
  | .error cause => .error cause
  | .ok amount =>
    match t.collateralParties e with
    | .error r => .ok (.error (.rejected r))
    | .ok (card, owner) =>
      match Posting.ofCollateral s reference amount card e with
      | .error cause => .error cause
      | .ok p => .ok (t.screen s card owner p)

def authorization (e : SpendEvent) : Except EngineError (Except Rejection Card) :=
  match toMinorUnits e.amount with
  | .error cause => .error cause
  | .ok amount =>
    match t.spendParties e with
    | .error r => .ok (.error r)
    | .ok (card, _) => .ok ((authorizeAmount card.status card.balance amount).map fun _ => card)

end Tables

/-! ## Preparing as a run -/

namespace Task

variable (refusal : LockKey → Option LockError) (C : Collaborators) (w : World Memory)

theorem runIn_store (c : StoreCall) :
    (store c).runIn (Memory.backend refusal) C w =
      (.ok (w.store.tables.call c).1,
        { w with store := { w.store with tables := (w.store.tables.call c).2 } }) := rfl

theorem runIn_read {c : StoreCall} {a : c.Answer}
    (h : w.store.tables.call c = (a, w.store.tables)) :
    (store c).runIn (Memory.backend refusal) C w = (.ok a, w) := by
  rw [runIn_store, h]

theorem runIn_spendParties (e : SpendEvent) :
    (spendParties e).runIn (Memory.backend refusal) C w =
      (.ok (w.store.tables.spendParties e), w) := by
  unfold spendParties Tables.spendParties
  rw [runIn_bind, runIn_read refusal C w (a := w.store.tables.cardByRef? e.cardRef) rfl]
  cases w.store.tables.cardByRef? e.cardRef with
  | none => rfl
  | some card =>
    unfold Tables.namedOwner?
    cases e.userRef with
    | some ref =>
      dsimp only
      rw [runIn_bind, runIn_read refusal C w (a := w.store.tables.cardUserByRef? ref) rfl]
      cases w.store.tables.cardUserByRef? ref <;> rfl
    | none =>
      dsimp only
      rw [runIn_bind, runIn_read refusal C w (a := w.store.tables.cardUser? card.cardUserId) rfl]
      cases w.store.tables.cardUser? card.cardUserId <;> rfl

theorem runIn_addressOwner (e : CollateralEvent) :
    (addressOwner e).runIn (Memory.backend refusal) C w =
      (.ok (w.store.tables.addressOwner? e), w) := by
  unfold addressOwner Tables.addressOwner?
  cases e.chainId with
  | none => rfl
  | some chainId =>
  cases e.walletAddress with
  | none => rfl
  | some address =>
    dsimp only
    rw [runIn_bind, runIn_read refusal C w (a := w.store.tables.address? chainId address) rfl]
    cases w.store.tables.address? chainId address <;> rfl

theorem runIn_collateralOwner (e : CollateralEvent) :
    (collateralOwner e).runIn (Memory.backend refusal) C w =
      (.ok (w.store.tables.collateralOwner? e), w) := by
  unfold collateralOwner Tables.collateralOwner?
  cases e.userRef with
  | none => exact runIn_addressOwner refusal C w e
  | some ref =>
    dsimp only
    rw [runIn_bind, runIn_read refusal C w (a := w.store.tables.cardUserByRef? ref) rfl]
    cases w.store.tables.cardUserByRef? ref with
    | some owner => rfl
    | none => exact runIn_addressOwner refusal C w e

theorem runIn_collateralParties (e : CollateralEvent) :
    (collateralParties e).runIn (Memory.backend refusal) C w =
      (.ok (w.store.tables.collateralParties e), w) := by
  unfold collateralParties Tables.collateralParties
  rw [runIn_bind, runIn_collateralOwner]
  cases w.store.tables.collateralOwner? e with
  | none => rfl
  | some owner =>
    dsimp only
    rw [runIn_bind, runIn_read refusal C w (a := w.store.tables.primaryCard? owner.id) rfl]
    cases w.store.tables.primaryCard? owner.id <;> rfl

theorem runIn_screen (s : Settings) (card : Card) (owner : CardUser) (p : Posting) :
    (screen s card owner p).runIn (Memory.backend refusal) C w =
      (.ok (w.store.tables.screen s card owner p), w) := by
  have hverdict : validateTransition ((w.store.tables.storedFor p).map (·.snapshot)) p.snapshot
      s.tolerance = w.store.tables.verdictOn s p := rfl
  unfold screen Tables.screen
  rw [runIn_bind, runIn_read refusal C w (a := w.store.tables.storedFor p) rfl]
  dsimp only
  rw [hverdict]
  split
  · rfl
  · cases (w.store.tables.verdictOn s p).dismissal? <;> rfl

theorem runIn_prepareSpend (s : Settings) (reference : String) (e : SpendEvent) :
    (prepareSpend s reference e).runIn (Memory.backend refusal) C w =
      (w.store.tables.spendDelivery s reference e, w) := by
  unfold prepareSpend Tables.spendDelivery
  rw [runIn_bind, runIn_ofExcept]
  cases toMinorUnits e.amount with
  | error cause => rfl
  | ok amount =>
    dsimp only
    rw [runIn_bind, runIn_spendParties]
    rcases w.store.tables.spendParties e with r | ⟨card, owner⟩
    · rfl
    · exact runIn_screen refusal C w s card owner _

theorem runIn_prepareCollateral (s : Settings) (reference : String) (e : CollateralEvent) :
    (prepareCollateral s reference e).runIn (Memory.backend refusal) C w =
      (w.store.tables.collateralDelivery s reference e, w) := by
  unfold prepareCollateral Tables.collateralDelivery
  rw [runIn_bind, runIn_ofExcept]
  cases toMinorUnits e.amount with
  | error cause => rfl
  | ok amount =>
    dsimp only
    rw [runIn_bind, runIn_collateralParties]
    rcases w.store.tables.collateralParties e with r | ⟨card, owner⟩
    · rfl
    · dsimp only
      rw [runIn_bind, runIn_ofExcept]
      cases Posting.ofCollateral s reference amount card e with
      | error cause => rfl
      | ok p => exact runIn_screen refusal C w s card owner p

theorem runIn_authorizeSpend (e : SpendEvent) :
    (authorizeSpend e).runIn (Memory.backend refusal) C w =
      (w.store.tables.authorization e, w) := by
  unfold authorizeSpend Tables.authorization
  rw [runIn_bind, runIn_ofExcept]
  cases toMinorUnits e.amount with
  | error cause => rfl
  | ok amount =>
    dsimp only
    rw [runIn_bind, runIn_spendParties]
    rcases w.store.tables.spendParties e with r | ⟨card, owner⟩ <;> rfl

end Task

/-! ## What was prepared -/

/-- A delivery of an event of this reference and kind, prepared on these tables. Only the first two
facts can be out of date later. -/
structure Tables.Prepares (s : Settings) (t : Tables) (reference : String) (kind : LineKind)
    (d : Delivery) : Prop where
  ownLine : ∀ l, t.storedFor d.posting = some l → l.cardId = d.cardId
  proceeds : t.verdictOn s d.posting = .proceed
  reference_eq : d.posting.reference = reference
  kind_eq : d.posting.kind = kind
  terms : kind = .deposit → Posting.collateralTerms s.fees d.posting.status d.posting.amount =
    .ok (d.posting.fee, d.posting.credit)

namespace Tables

variable {s : Settings} {t : Tables} {d : Delivery} {reference : String}

theorem screen_eq_ok {card : Card} {owner : CardUser} {p : Posting} :
    t.screen s card owner p = .ok d ↔
      d = ⟨card.id, card.userId, owner.id, p⟩ ∧
        (∀ l, t.storedFor p = some l → l.cardId = card.id) ∧ t.verdictOn s p = .proceed := by
  have hother : (t.storedFor p).any (·.cardId ≠ card.id) = false ↔
      ∀ l, t.storedFor p = some l → l.cardId = card.id := by
    cases t.storedFor p <;> simp
  rw [← hother, ← Verdict.dismissal?_eq_none]
  unfold screen
  cases (t.storedFor p).any (·.cardId ≠ card.id) with
  | true => simp
  | false => cases (t.verdictOn s p).dismissal? <;> simp [eq_comm]

theorem prepares_spend {e : SpendEvent} (h : t.spendDelivery s reference e = .ok (.ok d)) :
    t.Prepares s reference .spend d := by
  unfold spendDelivery at h
  split at h
  · cases h
  split at h
  · cases h
  obtain ⟨rfl, hline, hproceed⟩ := screen_eq_ok.mp (Except.ok.inj h)
  exact ⟨hline, hproceed, rfl, rfl, nofun⟩

theorem ofCollateral_eq_ok {amount : Int} {card : Card} {e : CollateralEvent} {p : Posting}
    (h : Posting.ofCollateral s reference amount card e = .ok p) :
    p.reference = reference ∧ p.kind = .deposit ∧
      Posting.collateralTerms s.fees p.status p.amount = .ok (p.fee, p.credit) := by
  unfold Posting.ofCollateral at h
  dsimp only at h
  cases hterms : Posting.collateralTerms s.fees e.status.toLine amount with
  | error cause =>
    rw [hterms] at h
    cases h
  | ok terms =>
    rw [hterms] at h
    obtain rfl := Except.ok.inj h
    exact ⟨rfl, rfl, hterms⟩

theorem prepares_collateral {e : CollateralEvent}
    (h : t.collateralDelivery s reference e = .ok (.ok d)) :
    t.Prepares s reference .deposit d := by
  unfold collateralDelivery at h
  split at h
  · cases h
  split at h
  · cases h
  split at h
  · cases h
  next p hp =>
  obtain ⟨rfl, hline, hproceed⟩ := screen_eq_ok.mp (Except.ok.inj h)
  obtain ⟨href, hkind, hterms⟩ := ofCollateral_eq_ok hp
  exact ⟨hline, hproceed, href, hkind, fun _ => hterms⟩

end Tables
end PrepaidLedger
