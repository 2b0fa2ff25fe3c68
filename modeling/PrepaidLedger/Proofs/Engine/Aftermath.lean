import PrepaidLedger.Proofs.Engine.Requests
import PrepaidLedger.Proofs.Store.Rows

/-! Everything but the commit of a delivery is steady: it moves no balance, leaves every card with
its owner and the journal as it is, and of a line it touches only what tells that the fee is
settled. -/

namespace PrepaidLedger

/-! ## Quiet changes of the tables -/

/-- The line is the same but for the settlement of its fee. -/
def Line.SettlesTo (l l' : Line) : Prop :=
  l' = { l with
    feeSettled := l'.feeSettled, feeChargeRef := l'.feeChargeRef, updatedAt := l'.updatedAt }

theorem Line.SettlesTo.refl (l : Line) : l.SettlesTo l := rfl

theorem Line.SettlesTo.trans {l₁ l₂ l₃ : Line} (h : l₁.SettlesTo l₂) (h' : l₂.SettlesTo l₃) :
    l₁.SettlesTo l₃ := by
  unfold SettlesTo at h h' ⊢
  rw [h] at h'
  exact h'

theorem Line.SettlesTo.reference_eq (l l' : Line) (h : l.SettlesTo l') :
    l'.reference = l.reference := by rw [h]

theorem Line.SettlesTo.id_eq {l l' : Line} (h : l.SettlesTo l') : l'.id = l.id := by rw [h]

def Card.KeepsBalance (c c' : Card) : Prop := c'.id = c.id ∧ c'.balance = c.balance

theorem Card.KeepsBalance.id_eq (c c' : Card) (h : c.KeepsBalance c') : c'.id = c.id := h.1

structure Tables.Quiet (t t' : Tables) : Prop where
  cards : List.Forall₂ Card.KeepsBalance t.cards t'.cards
  lines : List.Forall₂ Line.SettlesTo t.lines t'.lines
  batches : t.batches ≤ t'.batches

namespace Tables.Quiet

theorem of_eq {t t' : Tables} (hcards : t'.cards = t.cards) (hlines : t'.lines = t.lines)
    (hbatches : t.batches ≤ t'.batches) : t.Quiet t' where
  cards := hcards ▸ List.forall₂_same.mpr fun _ _ => ⟨rfl, rfl⟩
  lines := hlines ▸ List.forall₂_same.mpr fun l _ => .refl l
  batches := hbatches

theorem refl (t : Tables) : t.Quiet t := .of_eq rfl rfl (Nat.le_refl _)

theorem trans {t₁ t₂ t₃ : Tables} (h : t₁.Quiet t₂) (h' : t₂.Quiet t₃) : t₁.Quiet t₃ where
  cards := forall₂_trans (fun _ _ _ h h' => ⟨h'.1.trans h.1, h'.2.trans h.2⟩) h.cards h'.cards
  lines := forall₂_trans (fun _ _ _ h h' => h.trans h') h.lines h'.lines
  batches := Nat.le_trans h.batches h'.batches

variable {t t' : Tables}

theorem map_balance (h : t.Quiet t') (id : Uuid) :
    (t'.card? id).map (·.balance) = (t.card? id).map (·.balance) :=
  map_rowOf?_of_forall₂ Card.KeepsBalance.id_eq (fun _ _ hc => hc.2) h.cards id

theorem rel_lineByRef? (h : t.Quiet t') (reference : String) :
    Option.Rel Line.SettlesTo (t.lineByRef? reference) (t'.lineByRef? reference) :=
  rowOf?_forall₂ Line.SettlesTo.reference_eq h.lines reference

theorem line_after (h : t.Quiet t') {reference : String} {l : Line}
    (hl : t.lineByRef? reference = some l) :
    ∃ l', t'.lineByRef? reference = some l' ∧ l.SettlesTo l' := by
  have hrel := h.rel_lineByRef? reference
  rw [hl] at hrel
  generalize t'.lineByRef? reference = l'? at hrel ⊢
  cases hrel with
  | some hsettles => exact ⟨_, rfl, hsettles⟩

theorem line_before (h : t.Quiet t') {reference : String} {l' : Line}
    (hl' : t'.lineByRef? reference = some l') :
    ∃ l, t.lineByRef? reference = some l ∧ l.SettlesTo l' := by
  have hrel := h.rel_lineByRef? reference
  rw [hl'] at hrel
  generalize t.lineByRef? reference = l? at hrel ⊢
  cases hrel with
  | some hsettles => exact ⟨_, rfl, hsettles⟩

theorem map_lines {β : Type} {f : Line → β} (hf : ∀ l l', l.SettlesTo l' → f l' = f l)
    (h : t.Quiet t') : t'.lines.map f = t.lines.map f := map_eq_of_forall₂ hf h.lines

end Tables.Quiet

/-! ## Steady changes of the tables -/

structure Card.SameAccount (c c' : Card) : Prop where
  id : c'.id = c.id
  userId : c'.userId = c.userId
  cardUserId : c'.cardUserId = c.cardUserId
  providerRef : c'.providerRef = c.providerRef
  createdAt : c'.createdAt = c.createdAt

structure CardUser.SameAccount (u u' : CardUser) : Prop where
  id : u'.id = u.id
  userId : u'.userId = u.userId
  providerRef : u'.providerRef = u.providerRef
  createdAt : u'.createdAt = u.createdAt

structure Card.Steady (c c' : Card) : Prop extends c.SameAccount c' where
  balance : c'.balance = c.balance

structure CardUser.Steady (u u' : CardUser) : Prop extends u.SameAccount u' where
  balance : u'.balance = u.balance

theorem Card.SameAccount.refl (c : Card) : c.SameAccount c := ⟨rfl, rfl, rfl, rfl, rfl⟩

theorem Card.SameAccount.trans {c₁ c₂ c₃ : Card} (h : c₁.SameAccount c₂)
    (h' : c₂.SameAccount c₃) : c₁.SameAccount c₃ :=
  ⟨h'.id.trans h.id, h'.userId.trans h.userId, h'.cardUserId.trans h.cardUserId,
    h'.providerRef.trans h.providerRef, h'.createdAt.trans h.createdAt⟩

theorem CardUser.SameAccount.refl (u : CardUser) : u.SameAccount u := ⟨rfl, rfl, rfl, rfl⟩

theorem CardUser.SameAccount.trans {u₁ u₂ u₃ : CardUser} (h : u₁.SameAccount u₂)
    (h' : u₂.SameAccount u₃) : u₁.SameAccount u₃ :=
  ⟨h'.id.trans h.id, h'.userId.trans h.userId, h'.providerRef.trans h.providerRef,
    h'.createdAt.trans h.createdAt⟩

theorem Card.Steady.refl (c : Card) : c.Steady c := ⟨.refl c, rfl⟩

theorem CardUser.Steady.refl (u : CardUser) : u.Steady u := ⟨.refl u, rfl⟩

theorem CardPatch.steady (p : CardPatch) (c : Card) (now : Timestamp) :
    c.Steady { p.apply c with updatedAt := now } :=
  ⟨⟨rfl, rfl, rfl, rfl, rfl⟩, rfl⟩

structure Tables.Steady (t t' : Tables) : Prop where
  cards : List.Forall₂ Card.Steady t.cards t'.cards
  cardUsers : List.Forall₂ CardUser.Steady t.cardUsers t'.cardUsers
  lines : List.Forall₂ Line.SettlesTo t.lines t'.lines
  journal : t'.journal = t.journal
  balanceSkew : t'.balanceSkew = t.balanceSkew
  batches : t.batches ≤ t'.batches

namespace Tables.Steady

theorem of_eq {t t' : Tables} (hcards : t'.cards = t.cards) (husers : t'.cardUsers = t.cardUsers)
    (hlines : t'.lines = t.lines) (hjournal : t'.journal = t.journal)
    (hskew : t'.balanceSkew = t.balanceSkew) (hbatches : t.batches ≤ t'.batches) :
    t.Steady t' where
  cards := hcards ▸ List.forall₂_same.mpr fun c _ => .refl c
  cardUsers := husers ▸ List.forall₂_same.mpr fun u _ => .refl u
  lines := hlines ▸ List.forall₂_same.mpr fun l _ => .refl l
  journal := hjournal
  balanceSkew := hskew
  batches := hbatches

theorem refl (t : Tables) : t.Steady t := .of_eq rfl rfl rfl rfl rfl (Nat.le_refl _)

theorem trans {t₁ t₂ t₃ : Tables} (h : t₁.Steady t₂) (h' : t₂.Steady t₃) : t₁.Steady t₃ where
  cards := forall₂_trans (fun _ _ _ h h' => ⟨h.toSameAccount.trans h'.toSameAccount,
    h'.balance.trans h.balance⟩) h.cards h'.cards
  cardUsers := forall₂_trans (fun _ _ _ h h' => ⟨h.toSameAccount.trans h'.toSameAccount,
    h'.balance.trans h.balance⟩) h.cardUsers h'.cardUsers
  lines := forall₂_trans (fun _ _ _ h h' => h.trans h') h.lines h'.lines
  journal := h'.journal.trans h.journal
  balanceSkew := h'.balanceSkew.trans h.balanceSkew
  batches := Nat.le_trans h.batches h'.batches

theorem quiet {t t' : Tables} (h : t.Steady t') : t.Quiet t' where
  cards := h.cards.imp fun _ _ hc => ⟨hc.id, hc.balance⟩
  lines := h.lines
  batches := h.batches

theorem map_ownerBalance {t t' : Tables} (h : t.Steady t') (id : Uuid) :
    (t'.cardUser? id).map (·.balance) = (t.cardUser? id).map (·.balance) :=
  map_rowOf?_of_forall₂ (fun _ _ hu => hu.id) (fun _ _ hu => hu.balance) h.cardUsers id

end Tables.Steady

theorem Tables.steady_call (t : Tables) (c : StoreCall) : t.Steady (t.call c).2 := by
  cases c with
  | registerAddress userId chainId address =>
    unfold call registerAddress
    dsimp only
    split
    · exact .of_eq rfl rfl rfl rfl rfl (Nat.le_refl _)
    · exact .of_eq rfl rfl rfl rfl rfl (Nat.le_succ _)
  | patchCard id patch =>
    unfold call
    dsimp only
    cases h : t.card? id with
    | none => exact .refl t
    | some c =>
      have hc : rowOf? Card.id c.id t.cards = some c := (key_of_rowOf? h).symm ▸ h
      exact { Steady.refl t with
        cards := forall₂_putRow Card.Steady.refl hc (patch.steady c t.now) }
  | setCardUserStatus id status =>
    unfold call
    dsimp only
    cases h : t.cardUser? id with
    | none => exact .refl t
    | some u =>
      have hu : rowOf? CardUser.id u.id t.cardUsers = some u := (key_of_rowOf? h).symm ▸ h
      exact { Steady.refl t with
        cardUsers := forall₂_putRow CardUser.Steady.refl hu ⟨⟨rfl, rfl, rfl, rfl⟩, rfl⟩ }
  | settleFee id chargeRef =>
    unfold call
    dsimp only
    cases h : t.line? id with
    | none => exact .refl t
    | some l =>
      have hl : rowOf? Line.id l.id t.lines = some l := (key_of_rowOf? h).symm ▸ h
      exact { Steady.refl t with lines := forall₂_putRow Line.SettlesTo.refl hl rfl }
  | _ => exact .refl t

/-! ## Steady programs -/

section Programs

variable {α : Type} {refusal : LockKey → Option LockError} {C : Collaborators}

theorem World.steady_answer {r : Request} (h : r.IsSingle) (w : World Memory) :
    w.store.tables.Steady (World.answer (Memory.backend refusal) C r w).2.store.tables := by
  cases r with
  | store c => exact w.store.tables.steady_call c
  | charge | lockCard | notify | announce | defer => exact .refl _
  | _ => exact h.elim

theorem Program.Asks.steady {p : Program α} (hp : p.Asks Request.IsSingle) (w : World Memory) :
    w.store.tables.Steady (p.runIn (Memory.backend refusal) C w).2.store.tables :=
  hp.keeps (R := fun w w' : World Memory => w.store.tables.Steady w'.store.tables)
    (fun _ => .refl _) (fun _ _ _ h h' => h.trans h') (fun _ w h => World.steady_answer h w) w

theorem Task.Asks.steady {t : Task α} (ht : t.Asks Request.IsPlain) (w : World Memory) :
    w.store.tables.Steady (t.runIn (Memory.backend refusal) C w).2.store.tables :=
  Program.Asks.steady (p := t.run) (ht.mono fun _ => Request.isSingle_of_isPlain) w

theorem Program.steady_runEffects (a : Applied) (w : World Memory) :
    w.store.tables.Steady
      ((runEffects a).runIn (Memory.backend refusal) C w).2.store.tables :=
  ((asks_runEffects a).mono fun _ => Request.isSingle_of_isEffect).steady w

theorem Program.steady_startEffects (s : Settings) (a : Applied) (w : World Memory) :
    w.store.tables.Steady
      ((startEffects s a).runIn (Memory.backend refusal) C w).2.store.tables :=
  ((asks_startEffects s a).mono fun _ => Request.isSingle_of_isEffect).steady w

end Programs

theorem World.steady_settle (refusal : LockKey → Option LockError) (C : Collaborators)
    (w : World Memory) :
    w.store.tables.Steady (w.settle (Memory.backend refusal) C).store.tables := by
  have hfold (as : List Applied) (w : World Memory) : w.store.tables.Steady (as.foldl (fun w a =>
      ((runEffects a).runIn (Memory.backend refusal) C w).2) w).store.tables := by
    induction as generalizing w with
    | nil => exact .refl _
    | cons a rest ih => exact (Program.steady_runEffects a w).trans (ih _)
  exact hfold w.deferred { w with deferred := [] }

end PrepaidLedger
