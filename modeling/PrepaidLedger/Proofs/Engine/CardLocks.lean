import PrepaidLedger.Proofs.Engine.Isolation
import PrepaidLedger.Proofs.Engine.Serial

/-! Locks asked of the provider, and changes whose effects are left for later. Both come from the
commit of a delivery alone: everything else that is asked for is plain. -/

namespace PrepaidLedger

def Outbound.cardLock? : Outbound → Option String
  | .cardLock ref _ => some ref
  | _ => none

section Worlds

variable {σ α : Type} {w w₁ w₂ w₃ : World σ}

/-- The cards that the provider was asked to lock so far, whatever it answered. -/
def World.cardLocks (w : World σ) : List String := w.outbound.filterMap Outbound.cardLock?

structure World.Still (w w' : World σ) : Prop where
  cardLocks : w'.cardLocks = w.cardLocks
  deferred : w'.deferred = w.deferred

theorem World.Still.refl (w : World σ) : w.Still w := ⟨rfl, rfl⟩

theorem World.Still.trans (h : w₁.Still w₂) (h' : w₂.Still w₃) : w₁.Still w₃ :=
  ⟨h'.cardLocks.trans h.cardLocks, h'.deferred.trans h.deferred⟩

theorem World.Untouched.still {view : σ → Tables} (h : w₁.Untouched view w₂) : w₁.Still w₂ where
  cardLocks := by
    unfold World.cardLocks
    rw [h.outbound]
  deferred := h.deferred

theorem World.cardLocks_send (w : World σ) (o : Outbound) :
    (w.send o).cardLocks = w.cardLocks ++ o.cardLock?.toList := by
  unfold cardLocks send
  rw [List.filterMap_append]
  cases o <;> rfl

variable {B : Backend σ} {C : Collaborators}

theorem World.still_answer {r : Request} (h : r.IsPlain) (w : World σ) :
    w.Still (World.answer B C r w).2 := by
  cases r with
  | store => exact ⟨rfl, rfl⟩
  | charge | notify | announce =>
    exact ⟨(cardLocks_send w _).trans (List.append_nil _), rfl⟩
  | _ => exact h.elim

theorem Program.Asks.still {p : Program α} (hp : p.Asks Request.IsPlain) (w : World σ) :
    w.Still (p.runIn B C w).2 :=
  hp.keeps (R := World.Still) .refl (fun _ _ _ h h' => h.trans h')
    (fun _ w h => World.still_answer h w) w

theorem Task.Asks.still {t : Task α} (ht : t.Asks Request.IsPlain) (w : World σ) :
    w.Still (t.runIn B C w).2 := Program.Asks.still (p := t.run) ht w

end Worlds

/-- Still, and every card is as it was. -/
structure World.SparesCards (w w' : World Memory) : Prop extends w.Still w' where
  cards : w'.store.tables.cards = w.store.tables.cards

theorem World.SparesCards.refl (w : World Memory) : w.SparesCards w := ⟨.refl w, rfl⟩

theorem World.sparesCards_answer {refusal : LockKey → Option LockError} {C : Collaborators}
    {r : Request} (h : r.SparesCards) (w : World Memory) :
    w.SparesCards (World.answer (Memory.backend refusal) C r w).2 := by
  refine ⟨still_answer (Request.isPlain_of_sparesCards h) w, ?_⟩
  cases r with
  | store c =>
    change (w.store.tables.call c).2.cards = w.store.tables.cards
    unfold Tables.call
    cases c with
    | patchCard => exact h.elim
    | registerAddress =>
      unfold Tables.registerAddress
      dsimp only
      split <;> rfl
    | setCardUserStatus | settleFee =>
      dsimp only
      split <;> rfl
    | _ => rfl
  | charge | notify | announce => rfl
  | _ => exact h.elim

theorem Task.Asks.sparesCards {α : Type} {refusal : LockKey → Option LockError}
    {C : Collaborators} {t : Task α} (ht : t.Asks Request.SparesCards) (w : World Memory) :
    w.SparesCards (t.runIn (Memory.backend refusal) C w).2 :=
  Program.Asks.keeps (R := World.SparesCards) .refl
    (fun _ _ _ h h' => ⟨h.toStill.trans h'.toStill, h'.cards.trans h.cards⟩)
    (fun _ w h => World.sparesCards_answer h w) (p := t.run) ht w

/-! ## Effects -/

namespace Program

variable {σ : Type} (B : Backend σ) (C : Collaborators)

theorem runIn_tellOfBlock (a : Applied) (w : World σ) :
    ((tellOfBlock a).runIn B C w).2.cardLocks =
        w.cardLocks ++ (if a.cardBlocked then [a.card.providerRef] else []) ∧
      ((tellOfBlock a).runIn B C w).2.deferred = w.deferred := by
  unfold tellOfBlock lockAtProvider
  split
  · rw [runIn_bind, runIn_request]
    dsimp only [World.answer]
    have hnotice := ((asks_notify (.cardBlocked a.card a.line.currency)).mono
      fun _ => Request.isPlain_of_isMessage).still (B := B) (C := C)
        (w.send (.cardLock a.card.providerRef (C.lockCard w.outbound a.card.providerRef)))
    exact ⟨hnotice.cardLocks.trans (World.cardLocks_send w _), hnotice.deferred⟩
  · exact ⟨(List.append_nil _).symm, rfl⟩

theorem runIn_runEffects (a : Applied) (w : World σ) :
    ((runEffects a).runIn B C w).2.cardLocks =
        w.cardLocks ++ (if a.cardBlocked then [a.card.providerRef] else []) ∧
      ((runEffects a).runIn B C w).2.deferred = w.deferred := by
  unfold runEffects
  rw [runIn_bind]
  have hfee := ((asks_collectFee a.line a.cardUser.providerRef).mono
    fun _ => Request.isPlain_of_isCollection).still (B := B) (C := C) w
  generalize (collectFee a.line a.cardUser.providerRef).runIn B C w = x at hfee ⊢
  rw [runIn_bind]
  obtain ⟨hlocks, hdeferred⟩ := runIn_tellOfBlock B C a x.2
  have hmessages := ((asks_messages a).mono fun _ => Request.isPlain_of_isMessage).still
    (B := B) (C := C) ((tellOfBlock a).runIn B C x.2).2
  refine ⟨hmessages.cardLocks.trans ?_, hmessages.deferred.trans ?_⟩
  · rw [hlocks, hfee.cardLocks]
  · rw [hdeferred, hfee.deferred]

theorem runIn_startEffects (s : Settings) (a : Applied) (w : World σ) :
    ((startEffects s a).runIn B C w).2.cardLocks =
        w.cardLocks ++ (if s.effects = .inline ∧ a.cardBlocked then [a.card.providerRef] else []) ∧
      ((startEffects s a).runIn B C w).2.deferred =
        w.deferred ++ if s.effects = .background then [a] else [] := by
  unfold startEffects
  cases s.effects with
  | background => exact ⟨(List.append_nil _).symm, rfl⟩
  | inline =>
    obtain ⟨hlocks, hdeferred⟩ := runIn_runEffects B C a w
    exact ⟨by simpa using hlocks, by simpa using hdeferred⟩

end Program

/-! ## Events -/

def Incoming.cardEvent? : Incoming → Option CardEvent
  | .card e => some e
  | _ => none

section Events

variable (refusal : LockKey → Option LockError) (C : Collaborators) (s : Settings)
  (w : World Memory)

theorem LedgerEvent.runIn_apply_cases (reference : String) (ev : LedgerEvent) :
    let r := (ev.apply s reference).runIn (Memory.backend refusal) C w
    ((∀ a, r.1 ≠ .ok (.ok a)) ∧ w.store.tables.Steady r.2.store.tables ∧
        w.Untouched Memory.tables r.2) ∨
      ∃ d card owner, ev.Commits s w.store.tables reference d card owner ∧
        let c := w.store.tables.changeOf s d.posting card owner
        r = (.ok (.ok c.applied), ((startEffects s c.applied).runIn (Memory.backend refusal) C
          (w.resting (w.store.tables.apply c))).2) := by
  have hnumbered : w.store.tables.Steady w.store.tables.numbered :=
    .of_eq rfl rfl rfl rfl rfl (Nat.le_succ _)
  have hresting : w.Untouched Memory.tables (w.resting w.store.tables.numbered) :=
    .of_store ⟨rfl, rfl, rfl, rfl, rfl⟩
  rw [runIn_apply]
  cases hd : ev.delivery s w.store.tables reference with
  | error e => exact .inl ⟨fun _ h => (by cases h), .refl _, .refl w⟩
  | ok result =>
  rcases result with dismissal | d
  · exact .inl ⟨fun _ h => (by cases h), .refl _, .refl w⟩
  dsimp only
  rw [Task.runIn_writeLocked]
  cases refusal d.lockKey with
  | some e => exact .inl ⟨fun _ h => (by cases h), .refl _, .refl w⟩
  | none =>
  dsimp only
  rw [Task.runIn_write]
  rcases hc : w.store.tables.change s d with e | dismissal | c
  · exact .inl ⟨fun _ h => (by cases h), hnumbered, hresting⟩
  · exact .inl ⟨fun _ h => (by cases h), hnumbered, hresting⟩
  · obtain ⟨card, owner, hcarries, rfl⟩ := Tables.change_eq_ok.mp hc
    exact .inr ⟨d, card, owner, ⟨hd, hcarries⟩, rfl⟩

theorem sparesCards_dispatch {e : Envelope} (h : e.incoming.ledgerEvent? = none) :
    let w' := ((dispatch s e).runIn (Memory.backend refusal) C w).2
    match e.incoming.cardEvent? with
    | some event => w' = ((updateCard event).runIn (Memory.backend refusal) C w).2
    | none => w.SparesCards w' := by
  intro w'
  have hw' : w' = ((e.incoming.answer s e.action).runIn (Memory.backend refusal) C w).2 :=
    congrArg Prod.snd (runIn_dispatch_answer (Memory.backend refusal) C s e w)
  rw [hw']
  cases hi : e.incoming with
  | spend | collateral =>
    rw [hi] at h
    cases h
  | authorization event =>
    dsimp only [Incoming.answer, Incoming.cardEvent?]
    rw [Task.runIn_return, Task.runIn_authorizeSpend]
    exact .refl w
  | card event =>
    dsimp only [Incoming.answer, Incoming.cardEvent?]
    rw [Task.runIn_return]
  | user event =>
    dsimp only [Incoming.answer, Incoming.cardEvent?]
    rw [Task.runIn_return]
    exact ((Task.asks_updateCardUser event).mono fun _ => And.right).sparesCards w
  | contract event =>
    dsimp only [Incoming.answer, Incoming.cardEvent?]
    rw [Task.runIn_return]
    exact ((Task.asks_registerContract event).mono fun _ => And.right).sparesCards w
  | closed o => exact .refl w

theorem still_dispatch {e : Envelope} (h : e.incoming.ledgerEvent? = none) :
    w.Still ((dispatch s e).runIn (Memory.backend refusal) C w).2 := by
  have hspares := sparesCards_dispatch refusal C s w h
  dsimp only at hspares
  split at hspares
  next event _ =>
    rw [hspares]
    exact ((Task.asks_updateCard event).mono fun _ => Request.isPlain_of_isProfile).still w
  · exact hspares.toStill

end Events

/-! ## Turns -/

namespace World

variable (B : Backend Memory) (C : Collaborators)

theorem deferred_settle (w : World Memory) : (w.settle B C).deferred = [] := by
  have hfold (as : List Applied) (w : World Memory) :
      (as.foldl (fun w a => ((runEffects a).runIn B C w).2) w).deferred = w.deferred := by
    induction as generalizing w with
    | nil => rfl
    | cons a rest ih => exact (ih _).trans (Program.runIn_runEffects B C a w).2
  exact hfold w.deferred { w with deferred := [] }

theorem settle_of_none_deferred {w : World Memory} (h : w.deferred = []) : w.settle B C = w := by
  obtain ⟨store, outbound, deferred⟩ := w
  obtain rfl : deferred = [] := h
  rfl

end World

namespace Turn

def cardEvent? (turn : Turn) : Option CardEvent :=
  match turn.job with
  | .event e => e.incoming.cardEvent?
  | _ => none

theorem sparesCards_run {turn : Turn} {w : World Memory} (s : Settings) (hw : w.deferred = [])
    (hposts : turn.ledgerEvent? = none) :
    match turn.cardEvent? with
    | some e => turn.run s w =
        ((updateCard e).runIn (Memory.backend turn.refusal) turn.parties w).2
    | none => w.SparesCards (turn.run s w) := by
  obtain ⟨refusal, parties, job⟩ := turn
  cases job with
  | event e => exact sparesCards_dispatch refusal parties s w hposts
  | sweep limit => exact (Task.asks_sweepFees limit).spares.sparesCards w
  | settle =>
    change w.SparesCards (w.settle (Memory.backend refusal) parties)
    rw [World.settle_of_none_deferred _ _ hw]
    exact .refl w
  | clock now => exact ⟨⟨rfl, rfl⟩, rfl⟩

theorem deferred_run (s : Settings) (w : World Memory) (turn : Turn) :
    ∀ a ∈ (turn.run s w).deferred, a ∈ w.deferred ∨ ∃ reference ev d card owner,
      turn.ledgerEvent? = some (reference, ev) ∧
        ev.Commits s w.store.tables reference d card owner ∧
        a = (w.store.tables.changeOf s d.posting card owner).applied := by
  intro a ha
  cases hev : turn.ledgerEvent? with
  | some event =>
    obtain ⟨reference, ev⟩ := event
    rw [run_of_ledgerEvent? hev] at ha
    rcases ev.runIn_apply_cases turn.refusal turn.parties s w reference with
      ⟨-, -, huntouched⟩ | ⟨d, card, owner, hcommits, hrun⟩
    · rw [huntouched.deferred] at ha
      exact .inl ha
    · rw [hrun, (Program.runIn_startEffects ..).2] at ha
      rcases List.mem_append.mp ha with ha | ha
      · exact .inl ha
      · have ha : a = (w.store.tables.changeOf s d.posting card owner).applied := by
          split at ha
          · exact List.mem_singleton.mp ha
          · cases ha
        exact .inr ⟨reference, ev, d, card, owner, rfl, hcommits, ha⟩
  | none =>
    left
    obtain ⟨refusal, parties, job⟩ := turn
    cases job with
    | event e =>
      change a ∈ ((dispatch s e).runIn (Memory.backend refusal) parties w).2.deferred at ha
      rwa [(still_dispatch refusal parties s w hev).deferred] at ha
    | sweep limit =>
      have hstill := (Task.asks_sweepFees limit).spares.plain.still
        (B := Memory.backend refusal) (C := parties) w
      change a ∈ ((sweepFees limit).runIn (Memory.backend refusal) parties w).2.deferred at ha
      rwa [hstill.deferred] at ha
    | settle =>
      change a ∈ (w.settle (Memory.backend refusal) parties).deferred at ha
      rw [World.deferred_settle] at ha
      cases ha
    | clock now => exact ha

end Turn
end PrepaidLedger
