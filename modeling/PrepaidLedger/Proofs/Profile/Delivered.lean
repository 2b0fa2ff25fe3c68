import PrepaidLedger.Proofs.Ledger.Accounts

/-! What a delivery leaves of the cards. It may block a card and gives it no other status, and a
card that is active after it has not used up its declines, unless it had before. -/

namespace PrepaidLedger

/-! ## Effects -/

/-- Some fees have been settled, and nothing else has changed. -/
structure Tables.Settles (t t' : Tables) : Prop where
  others : t' = { t with lines := t'.lines }
  lines : List.Forall₂ Line.SettlesTo t.lines t'.lines

namespace Tables.Settles

theorem refl (t : Tables) : t.Settles t := ⟨rfl, List.forall₂_same.mpr fun l _ => .refl l⟩

theorem trans {t t' t'' : Tables} (h : t.Settles t') (h' : t'.Settles t'') : t.Settles t'' where
  others := by rw [h'.others, h.others]
  lines := forall₂_trans (fun _ _ _ h h' => h.trans h') h.lines h'.lines

theorem cards_eq {t t' : Tables} (h : t.Settles t') : t'.cards = t.cards := by rw [h.others]

theorem quiet {t t' : Tables} (h : t.Settles t') : t.Quiet t' where
  cards := by
    rw [h.cards_eq]
    exact List.forall₂_same.mpr fun _ _ => ⟨rfl, rfl⟩
  lines := h.lines
  batches := by rw [h.others]

end Tables.Settles

section Effects

variable {refusal : LockKey → Option LockError} {C : Collaborators}

theorem World.settles_answer {r : Request} (h : r.IsEffect) (w : World Memory) :
    w.store.tables.Settles (World.answer (Memory.backend refusal) C r w).2.store.tables := by
  cases r with
  | store c =>
    cases c with
    | settleFee id chargeRef =>
      change w.store.tables.Settles (w.store.tables.call (.settleFee id chargeRef)).2
      refine ⟨?_, (w.store.tables.steady_call _).lines⟩
      unfold Tables.call
      dsimp only
      split <;> rfl
    | _ => exact h.elim
  | charge | lockCard | notify | announce | defer => exact .refl _
  | _ => exact h.elim

theorem Program.Asks.settles {α : Type} {p : Program α} (hp : p.Asks Request.IsEffect)
    (w : World Memory) :
    w.store.tables.Settles (p.runIn (Memory.backend refusal) C w).2.store.tables :=
  hp.keeps (R := fun w w' : World Memory => w.store.tables.Settles w'.store.tables)
    (fun _ => .refl _) (fun _ _ _ h h' => h.trans h') (fun _ w h => World.settles_answer h w) w

theorem Program.settles_startEffects (s : Settings) (a : Applied) (w : World Memory) :
    w.store.tables.Settles
      ((startEffects s a).runIn (Memory.backend refusal) C w).2.store.tables :=
  (asks_startEffects s a).settles w

end Effects

/-! ## Deliveries as functions of the tables -/

def LedgerEvent.outcome (ev : LedgerEvent) (s : Settings) (refusal : LockKey → Option LockError)
    (reference : String) (t : Tables) : Tables :=
  match ev.delivery s t reference with
  | .ok (.ok d) =>
    match refusal d.lockKey with
    | some _ => t
    | none =>
      match t.change s d with
      | .ok (.ok c) => t.apply c
      | _ => t.numbered
  | _ => t

theorem LedgerEvent.settles_outcome (ev : LedgerEvent) (s : Settings)
    (refusal : LockKey → Option LockError) (C : Collaborators) (reference : String)
    (w : World Memory) :
    (ev.outcome s refusal reference w.store.tables).Settles
      ((ev.apply s reference).runIn (Memory.backend refusal) C w).2.store.tables := by
  rw [runIn_apply]
  unfold outcome
  rcases ev.delivery s w.store.tables reference with e | dismissal | d
  · exact .refl _
  · exact .refl _
  dsimp only
  rw [Task.runIn_writeLocked]
  cases refusal d.lockKey with
  | some e => exact .refl _
  | none =>
    dsimp only
    rw [Task.runIn_write]
    rcases w.store.tables.change s d with e | dismissal | c
    · exact .refl _
    · exact .refl _
    · exact Program.settles_startEffects s c.applied (w.resting (w.store.tables.apply c))

def LedgerEvent.result (ev : LedgerEvent) (s : Settings) (refusal : LockKey → Option LockError)
    (reference : String) (t : Tables) : Except EngineError (Except Dismissal Applied) :=
  match ev.delivery s t reference with
  | .error e => .error e
  | .ok (.error dismissal) => .ok (.error dismissal)
  | .ok (.ok d) =>
    match refusal d.lockKey with
    | some e => .error (.lock e)
    | none => (t.change s d).map (Except.map Change.applied)

theorem LedgerEvent.result_eq (ev : LedgerEvent) (s : Settings)
    (refusal : LockKey → Option LockError) (C : Collaborators) (reference : String)
    (w : World Memory) : ((ev.apply s reference).runIn (Memory.backend refusal) C w).1 =
      ev.result s refusal reference w.store.tables := by
  -- The effects come after the result is known.
  rw [runIn_apply]
  unfold result
  rcases ev.delivery s w.store.tables reference with e | dismissal | d
  · rfl
  · rfl
  dsimp only
  rw [Task.runIn_writeLocked]
  cases refusal d.lockKey with
  | some e => rfl
  | none =>
    dsimp only
    rw [Task.runIn_write]
    rcases w.store.tables.change s d with e | dismissal | c <;> rfl

theorem Turn.settles_outcome {turn : Turn} {reference : String} {ev : LedgerEvent}
    (hturn : turn.ledgerEvent? = some (reference, ev)) (s : Settings) (w : World Memory) :
    (ev.outcome s turn.refusal reference w.store.tables).Settles
      (turn.run s w).store.tables := by
  rw [run_of_ledgerEvent? hturn]
  exact ev.settles_outcome s turn.refusal turn.parties reference w

theorem LedgerEvent.outcome_cases (ev : LedgerEvent) (s : Settings)
    (refusal : LockKey → Option LockError) (reference : String) (t : Tables) :
    ev.outcome s refusal reference t = t ∨ ev.outcome s refusal reference t = t.numbered ∨
      ∃ d card owner, ev.Commits s t reference d card owner ∧
        ev.outcome s refusal reference t = t.apply (t.changeOf s d.posting card owner) := by
  unfold outcome
  rcases hd : ev.delivery s t reference with e | dismissal | d
  · exact .inl rfl
  · exact .inl rfl
  dsimp only
  cases refusal d.lockKey with
  | some e => exact .inl rfl
  | none =>
    dsimp only
    rcases hc : t.change s d with e | dismissal | c
    · exact .inr (.inl rfl)
    · exact .inr (.inl rfl)
    · obtain ⟨card, owner, hcarries, rfl⟩ := Tables.change_eq_ok.mp hc
      exact .inr (.inr ⟨d, card, owner, ⟨hd, hcarries⟩, rfl⟩)

/-! ## Cards -/

def Card.InCredit (policy : DeclinePolicy) (c : Card) : Prop :=
  c.status = .active → c.declineCount = 0 ∨ c.declineCount < policy.blockThreshold

structure Card.DeliveredTo (policy : DeclinePolicy) (c c' : Card) : Prop
    extends c.SameAccount c' where
  status : c'.status = c.status ∨ c'.status = .blocked
  inCredit : c.InCredit policy → c'.InCredit policy

namespace Card.DeliveredTo

variable {policy : DeclinePolicy} {c c' c'' : Card}

theorem refl (c : Card) : c.DeliveredTo policy c := ⟨.refl c, .inl rfl, fun h => h⟩

theorem trans (h : c.DeliveredTo policy c') (h' : c'.DeliveredTo policy c'') :
    c.DeliveredTo policy c'' where
  toSameAccount := h.toSameAccount.trans h'.toSameAccount
  status := by
    rcases h'.status with he | he
    · rw [he]
      exact h.status
    · exact .inr he
  inCredit := h'.inCredit ∘ h.inCredit

theorem blocked (h : c.DeliveredTo policy c') (hc : c.status = .blocked) :
    c'.status = .blocked := h.status.elim (·.trans hc) fun he => he

end Card.DeliveredTo

theorem DeclinePolicy.card_record (policy : DeclinePolicy) (c : Card) (now : Timestamp) :
    (policy.record c now).card = { c with
      declineCount := c.declineCount + 1
      status := if policy.blockThreshold ≤ c.declineCount + 1 then .blocked else c.status
      updatedAt := now } := by
  unfold record blocks
  by_cases hcount : policy.blockThreshold ≤ c.declineCount + 1
  · by_cases hb : c.status = .blocked
    · simp [hcount, hb]
    · simp [hcount, hb]
  · simp [hcount]

theorem DeclinePolicy.deliveredTo_record (policy : DeclinePolicy) (c : Card) (now : Timestamp) :
    c.DeliveredTo policy (policy.record c now).card := by
  refine ⟨policy.sameAccount_record c now, ?_, ?_⟩
  · rw [card_record]
    dsimp only
    split
    · exact .inr rfl
    · exact .inl rfl
  · rw [card_record]
    intro _ hactive
    dsimp only at hactive ⊢
    split at hactive
    · cases hactive
    next hcount => exact .inr (Int.not_le.mp hcount)

namespace Tables

variable {s : Settings} {t : Tables} {d : Delivery} {p : Posting} {card : Card} {owner : CardUser}

theorem deliveredTo_cardOf : card.DeliveredTo s.declinePolicy (t.cardOf s p card).card := by
  have hmoved : card.DeliveredTo s.declinePolicy
      (card.moved (card.balance + t.deltaOf p) p.resetsDeclines t.now) := by
    refine ⟨⟨rfl, rfl, rfl, rfl, rfl⟩, .inl rfl, fun h hactive => ?_⟩
    unfold Card.moved
    dsimp only
    split
    · exact .inl rfl
    · exact h hactive
  unfold cardOf
  dsimp only
  split
  · exact hmoved.trans (DeclinePolicy.deliveredTo_record _ _ _)
  · exact hmoved

theorem Carries.deliveredTo (h : t.Carries s d card owner) :
    List.Forall₂ (Card.DeliveredTo s.declinePolicy) t.cards
      (t.apply (t.changeOf s d.posting card owner)).cards := by
  have hcard : rowOf? Card.id (t.cardOf s d.posting card).card.id t.cards = some card := by
    rw [sameAccount_cardOf.id, show card.id = d.cardId from key_of_rowOf? h.card_eq]
    exact h.card_eq
  exact forall₂_putRow Card.DeliveredTo.refl hcard deliveredTo_cardOf

end Tables

/-! ## Over a run of deliveries -/

def IsDelivery (turn : Turn) : Prop := ∃ reference ev, turn.ledgerEvent? = some (reference, ev)

theorem Turn.deliveredTo {turn : Turn} (hturn : IsDelivery turn) (s : Settings)
    (w : World Memory) :
    List.Forall₂ (Card.DeliveredTo s.declinePolicy) w.store.tables.cards
      (turn.run s w).store.tables.cards := by
  obtain ⟨reference, ev, hev⟩ := hturn
  rw [(settles_outcome hev s w).cards_eq]
  obtain h | h | ⟨d, card, owner, hcommits, h⟩ :=
    ev.outcome_cases s turn.refusal reference w.store.tables
  · rw [h]
    exact List.forall₂_same.mpr fun c _ => .refl c
  · rw [h]
    exact List.forall₂_same.mpr fun c _ => .refl c
  · rw [h]
    exact hcommits.carries.deliveredTo

theorem World.deliveredTo_after {turns : List Turn} (hturns : ∀ turn ∈ turns, IsDelivery turn)
    (s : Settings) (w : World Memory) :
    List.Forall₂ (Card.DeliveredTo s.declinePolicy) w.store.tables.cards
      (w.after s turns).store.tables.cards := by
  induction turns generalizing w with
  | nil => exact List.forall₂_same.mpr fun c _ => .refl c
  | cons turn rest ih =>
    refine forall₂_trans (fun _ _ _ h h' => h.trans h')
      (Turn.deliveredTo (hturns turn (List.mem_cons_self ..)) s w) ?_
    exact ih (fun x hx => hturns x (List.mem_cons_of_mem turn hx)) (turn.run s w)

theorem World.cardByRef?_after {turns : List Turn} (hturns : ∀ turn ∈ turns, IsDelivery turn)
    (s : Settings) (w : World Memory) (ref : String) :
    Option.Rel (Card.DeliveredTo s.declinePolicy) (w.store.tables.cardByRef? ref)
      ((w.after s turns).store.tables.cardByRef? ref) :=
  rowOf?_forall₂ (fun _ _ h => h.providerRef) (World.deliveredTo_after hturns s w) ref

end PrepaidLedger
