import PrepaidLedger.Proofs.Engine.Preparation

/-! Spends and collateral are posted alike: the amount is read, the parties are found, the posting
is made for them, and the line stored under the reference lets it through or not. -/

namespace PrepaidLedger

inductive LedgerEvent
  | spend (e : SpendEvent)
  | collateral (e : CollateralEvent)

namespace LedgerEvent

def kind : LedgerEvent → LineKind
  | .spend _ => .spend
  | .collateral _ => .deposit

def status : LedgerEvent → LineStatus
  | .spend e => e.status.toLine
  | .collateral e => e.status.toLine

def rawAmount : LedgerEvent → Binary64
  | .spend e => e.amount
  | .collateral e => e.amount

def parties (t : Tables) : LedgerEvent → Except Rejection (Card × CardUser)
  | .spend e => t.spendParties e
  | .collateral e => t.collateralParties e

def posting (s : Settings) (reference : String) (amount : Int) (card : Card) :
    LedgerEvent → Except EngineError Posting
  | .spend e => .ok (.ofSpend s reference amount card e)
  | .collateral e => Posting.ofCollateral s reference amount card e

def prepare (s : Settings) (reference : String) : LedgerEvent → Task (Except Dismissal Delivery)
  | .spend e => prepareSpend s reference e
  | .collateral e => prepareCollateral s reference e

def apply (s : Settings) (reference : String) (ev : LedgerEvent) :
    Task (Except Dismissal Applied) := deliver s (ev.prepare s reference)

def delivery (s : Settings) (t : Tables) (reference : String) (ev : LedgerEvent) :
    Except EngineError (Except Dismissal Delivery) :=
  match toMinorUnits ev.rawAmount with
  | .error cause => .error cause
  | .ok amount =>
    match ev.parties t with
    | .error r => .ok (.error (.rejected r))
    | .ok (card, owner) => (ev.posting s reference amount card).map (t.screen s card owner)

theorem delivery_collateral (s : Settings) (t : Tables) (reference : String)
    (e : CollateralEvent) :
    (collateral e).delivery s t reference = t.collateralDelivery s reference e := by
  unfold delivery Tables.collateralDelivery parties posting rawAmount
  dsimp only
  cases toMinorUnits e.amount with
  | error cause => rfl
  | ok amount =>
    dsimp only
    rcases t.collateralParties e with r | ⟨card, owner⟩
    · rfl
    · dsimp only
      cases Posting.ofCollateral s reference amount card e <;> rfl

theorem runIn_prepare (refusal : LockKey → Option LockError) (C : Collaborators)
    (w : World Memory) (s : Settings) (reference : String) (ev : LedgerEvent) :
    (ev.prepare s reference).runIn (Memory.backend refusal) C w =
      (ev.delivery s w.store.tables reference, w) := by
  cases ev with
  | spend e => exact Task.runIn_prepareSpend refusal C w s reference e
  | collateral e =>
    rw [delivery_collateral]
    exact Task.runIn_prepareCollateral refusal C w s reference e

theorem prepares_of_delivery {s : Settings} {t : Tables} {reference : String} {ev : LedgerEvent}
    {d : Delivery} (h : ev.delivery s t reference = .ok (.ok d)) :
    t.Prepares s reference ev.kind d := by
  cases ev with
  | spend e => exact Tables.prepares_spend h
  | collateral e =>
    rw [delivery_collateral] at h
    exact Tables.prepares_collateral h

/-! ## What an event posts -/

/-- The event can be read, its parties are found, and this is what it posts for them. -/
structure Posts (ev : LedgerEvent) (s : Settings) (t : Tables) (reference : String) (card : Card)
    (owner : CardUser) (p : Posting) : Prop where
  amount_eq : toMinorUnits ev.rawAmount = .ok p.amount
  parties_eq : ev.parties t = .ok (card, owner)
  posting_eq : ev.posting s reference p.amount card = .ok p

variable {s : Settings} {t : Tables} {reference : String} {ev : LedgerEvent} {card : Card}
  {owner : CardUser} {p : Posting} {d : Delivery} {amount : Int}

theorem facts_of_posting (h : ev.posting s reference amount card = .ok p) :
    p.reference = reference ∧ p.kind = ev.kind ∧ p.status = ev.status ∧ p.amount = amount := by
  cases ev with
  | spend e =>
    obtain rfl := Except.ok.inj h
    exact ⟨rfl, rfl, rfl, rfl⟩
  | collateral e =>
    change Posting.ofCollateral s reference amount card e = .ok p at h
    unfold Posting.ofCollateral at h
    dsimp only at h
    cases hterms : Posting.collateralTerms s.fees e.status.toLine amount with
    | error cause =>
      rw [hterms] at h
      cases h
    | ok terms =>
      rw [hterms] at h
      obtain rfl := Except.ok.inj h
      exact ⟨rfl, rfl, rfl, rfl⟩

theorem posting_for_other_card (h : ev.posting s reference amount card = .ok p) (card' : Card) :
    ∃ p', ev.posting s reference amount card' = .ok p' ∧
      ∃ metadata, p' = { p with metadata := metadata } := by
  cases ev with
  | spend e =>
    obtain rfl := Except.ok.inj h
    exact ⟨_, rfl, _, rfl⟩
  | collateral e =>
    change Posting.ofCollateral s reference amount card e = .ok p at h
    change ∃ p', Posting.ofCollateral s reference amount card' e = .ok p' ∧ _
    unfold Posting.ofCollateral at h ⊢
    dsimp only at h ⊢
    cases hterms : Posting.collateralTerms s.fees e.status.toLine amount with
    | error cause =>
      rw [hterms] at h
      cases h
    | ok terms =>
      rw [hterms] at h
      obtain rfl := Except.ok.inj h
      exact ⟨_, rfl, _, rfl⟩

namespace Posts

theorem reference_eq (h : ev.Posts s t reference card owner p) : p.reference = reference :=
  (facts_of_posting h.posting_eq).1

theorem kind_eq (h : ev.Posts s t reference card owner p) : p.kind = ev.kind :=
  (facts_of_posting h.posting_eq).2.1

theorem status_eq (h : ev.Posts s t reference card owner p) : p.status = ev.status :=
  (facts_of_posting h.posting_eq).2.2.1

theorem terms (h : ev.Posts s t reference card owner p) (hkind : ev.kind = .deposit) :
    Posting.collateralTerms s.fees p.status p.amount = .ok (p.fee, p.credit) := by
  cases ev with
  | spend e => cases hkind
  | collateral e => exact (Tables.ofCollateral_eq_ok h.posting_eq).2.2

theorem delivery_eq (h : ev.Posts s t reference card owner p) :
    ev.delivery s t reference = .ok (t.screen s card owner p) := by
  unfold delivery
  rw [h.amount_eq]
  dsimp only
  rw [h.parties_eq]
  dsimp only
  rw [h.posting_eq]
  rfl

end Posts

theorem delivery_eq_ok :
    ev.delivery s t reference = .ok (.ok d) ↔
      ∃ card owner, ev.Posts s t reference card owner d.posting ∧
        t.screen s card owner d.posting = .ok d := by
  constructor
  · intro h
    unfold delivery at h
    split at h
    · cases h
    next amount hamount =>
    split at h
    · cases h
    next card owner hparties =>
    cases hp : ev.posting s reference amount card with
    | error cause =>
      rw [hp] at h
      cases h
    | ok p =>
      rw [hp] at h
      have hscreen : t.screen s card owner p = .ok d := Except.ok.inj h
      obtain ⟨rfl, -, -⟩ := Tables.screen_eq_ok.mp hscreen
      obtain ⟨-, -, -, rfl⟩ := facts_of_posting hp
      exact ⟨card, owner, ⟨hamount, hparties, hp⟩, hscreen⟩
  · rintro ⟨card, owner, hposts, hscreen⟩
    rw [hposts.delivery_eq, hscreen]

end LedgerEvent
end PrepaidLedger
