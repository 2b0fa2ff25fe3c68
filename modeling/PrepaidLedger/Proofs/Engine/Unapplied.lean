import PrepaidLedger.Proofs.Engine.Isolation
import PrepaidLedger.Proofs.Specimen

/-! Which parts of the engine can leave a trace at all, and what they answer when they do. An event
that is refused, repeated, not understood or in error is none of them. -/

namespace PrepaidLedger
namespace Task

variable {σ : Type} {B : Backend σ} {C : Collaborators} {view : σ → Tables}

/-! ## Preparing -/

theorem traceless_spendParties (hB : B.Isolates view) (e : SpendEvent) :
    (spendParties e).Traceless B C view := by
  refine (traceless_read hB fun _ => id).bind fun card? => ?_
  cases card? with
  | none => exact traceless_pure _
  | some card =>
    dsimp only
    split <;> refine (traceless_read hB fun _ => id).bind fun owner? => ?_ <;>
      cases owner? <;> exact traceless_pure _

theorem traceless_addressOwner (hB : B.Isolates view) (e : CollateralEvent) :
    (addressOwner e).Traceless B C view := by
  unfold addressOwner
  split
  · refine (traceless_read hB fun _ => id).bind fun a? => ?_
    cases a? with
    | none => exact traceless_pure _
    | some a => exact traceless_read hB fun _ => id
  · exact traceless_pure _

theorem traceless_collateralOwner (hB : B.Isolates view) (e : CollateralEvent) :
    (collateralOwner e).Traceless B C view := by
  unfold collateralOwner
  split
  · exact traceless_addressOwner hB e
  · refine (traceless_read hB fun _ => id).bind fun owner? => ?_
    cases owner? with
    | none => exact traceless_addressOwner hB e
    | some owner => exact traceless_pure _

theorem traceless_collateralParties (hB : B.Isolates view) (e : CollateralEvent) :
    (collateralParties e).Traceless B C view := by
  refine (traceless_collateralOwner hB e).bind fun owner? => ?_
  cases owner? with
  | none => exact traceless_pure _
  | some owner =>
    refine (traceless_read hB fun _ => id).bind fun card? => ?_
    cases card? <;> exact traceless_pure _

theorem traceless_screen (hB : B.Isolates view) (s : Settings) (card : Card) (owner : CardUser)
    (p : Posting) : (screen s card owner p).Traceless B C view := by
  refine (traceless_read hB fun _ => id).bind fun stored => ?_
  split
  · exact traceless_pure _
  · split <;> exact traceless_pure _

theorem traceless_prepareSpend (hB : B.Isolates view) (s : Settings) (reference : String)
    (e : SpendEvent) : (prepareSpend s reference e).Traceless B C view := by
  refine (traceless_ofExcept _).bind fun amount => ?_
  refine (traceless_spendParties hB e).bind fun parties => ?_
  rcases parties with r | ⟨card, owner⟩
  · exact traceless_pure _
  · exact traceless_screen hB s card owner _

theorem traceless_prepareCollateral (hB : B.Isolates view) (s : Settings) (reference : String)
    (e : CollateralEvent) : (prepareCollateral s reference e).Traceless B C view := by
  refine (traceless_ofExcept _).bind fun amount => ?_
  refine (traceless_collateralParties hB e).bind fun parties => ?_
  rcases parties with r | ⟨card, owner⟩
  · exact traceless_pure _
  · refine (traceless_ofExcept _).bind fun p => ?_
    exact traceless_screen hB s card owner p

theorem traceless_authorizeSpend (hB : B.Isolates view) (e : SpendEvent) :
    (authorizeSpend e).Traceless B C view := by
  refine (traceless_ofExcept _).bind fun amount => ?_
  refine (traceless_spendParties hB e).bind fun parties => ?_
  rcases parties with r | ⟨card, owner⟩ <;> exact traceless_pure _

/-! ## Writing -/

theorem traceless_writeCardBalance (hB : B.Isolates view) (id : Uuid) (balance : Int)
    (reset : Bool) : (writeCardBalance id balance reset).Traceless B C view := by
  refine (traceless_tx hB _).bind fun written => ?_
  refine (traceless_ofExcept _).bind fun _ => ?_
  exact (traceless_tx hB _).bind fun card => traceless_ofExcept _

theorem traceless_writeCardUserBalance (hB : B.Isolates view) (id : Uuid) (balance : Int) :
    (writeCardUserBalance id balance).Traceless B C view := by
  refine (traceless_tx hB _).bind fun written => ?_
  refine (traceless_ofExcept _).bind fun _ => ?_
  exact (traceless_tx hB _).bind fun owner => traceless_ofExcept _

theorem traceless_recordDecline (hB : B.Isolates view) (policy : DeclinePolicy) (id : Uuid) :
    (recordDecline policy id).Traceless B C view := by
  refine (traceless_tx hB _).bind fun counted => ?_
  refine (traceless_found _ _ _).bind fun card => ?_
  split
  · refine (traceless_tx hB _).bind fun written => ?_
    exact (traceless_found _ _ _).bind fun blocked => traceless_pure _
  · exact traceless_pure _

theorem traceless_writeLine (hB : B.Isolates view) (p : Posting) (card : Card) (owner : CardUser)
    (m : Movement) (stored : Option Line) :
    (writeLine p card owner m stored).Traceless B C view := by
  cases stored with
  | none => exact traceless_tx hB _
  | some l => exact (traceless_tx hB _).bind fun patched => traceless_found _ _ _

theorem traceless_writeEntry (hB : B.Isolates view) (p : Posting) (card : Card) (l : Line) :
    (writeEntry p card l).Traceless B C view := by
  refine (traceless_tx hB _).bind fun stored => ?_
  cases stored with
  | none => exact (traceless_tx hB _).bind fun _ => traceless_pure _
  | some entry =>
    refine (traceless_tx hB _).bind fun patched => ?_
    exact (traceless_found _ _ _).bind fun _ => traceless_pure _

theorem tracelessUnless_finishPosting (hB : B.Isolates view) (p : Posting) (card : Card)
    (owner ownerAfter : CardUser) (m : Movement) (stored : Option Line)
    (decline : DeclineRecord) :
    (do
      let l ← writeLine p card owner m stored
      writeEntry p card l
      Task.commit
      return ⟨l, decline.card, ownerAfter, m.delta, decline.newlyBlocked⟩ :
        Task Applied).TracelessUnless B C view fun r => ∃ a, r = .ok a := by
  refine (traceless_writeLine hB _ _ _ _ _).bind fun l => ?_
  refine (traceless_writeEntry hB _ _ _).bind fun _ => ?_
  exact (tracelessUnless_commit hB).bind (fun _ => (traceless_pure _).unless)
    (fun _ _ w => ⟨_, rfl⟩) (fun _ h => nomatch h)

theorem tracelessUnless_writePosting (hB : B.Isolates view) (s : Settings) (p : Posting)
    (card : Card) (owner : CardUser) (stored : Option Line) :
    (writePosting s p card owner stored).TracelessUnless B C view fun r => ∃ a, r = .ok a := by
  -- The commit comes last, so a posting that fails anywhere has not been committed.
  refine (traceless_ofExcept _).bind fun cardBalance => ?_
  refine (traceless_ofExcept _).bind fun ownerBalance => ?_
  refine (traceless_writeCardBalance hB _ _ _).bind fun written => ?_
  refine (traceless_writeCardUserBalance hB _ _).bind fun ownerAfter => ?_
  have hrest (decline : DeclineRecord) := tracelessUnless_finishPosting (C := C) hB p card owner
    ownerAfter ⟨card.balance, cardBalance, p.delta (stored.map (·.snapshot))⟩ stored decline
  dsimp only
  split
  · exact (traceless_recordDecline hB _ _).bind hrest
  · exact (traceless_pure _).bind hrest

def Succeeds {ρ α : Type} : Except EngineError (Except ρ α) → Prop
  | .ok (.ok _) => True
  | _ => False

theorem tracelessUnless_write (hB : B.Isolates view) (s : Settings) (d : Delivery) :
    (write s d).TracelessUnless B C view Succeeds := by
  unfold write
  refine TracelessUnless.inTransaction hB ?_
  refine (traceless_tx hB _).bind fun card? => ?_
  refine (traceless_found _ _ _).bind fun card => ?_
  refine (traceless_tx hB _).bind fun owner? => ?_
  refine (traceless_found _ _ _).bind fun owner => ?_
  refine (traceless_tx hB _).bind fun stored => ?_
  dsimp only
  split
  · exact (traceless_rollback hB).bind fun _ => (traceless_pure _).unless
  · refine (tracelessUnless_writePosting hB s d.posting card owner stored).bind
      (fun _ => (traceless_pure _).unless) (fun a _ w => ?_) (fun e he => ?_)
    · rw [runIn_pure]
      trivial
    · obtain ⟨a, ha⟩ := he
      cases ha

theorem tracelessUnless_writeLocked (hB : B.Isolates view) (s : Settings) (d : Delivery) :
    (writeLocked s d).TracelessUnless B C view Succeeds := by
  refine (traceless_acquire hB d.lockKey).bind fun _ => ?_
  exact (tracelessUnless_write hB s d).thenRelease hB d.lockKey

theorem tracelessUnless_deliver (hB : B.Isolates view) (s : Settings)
    {prepared : Task (Except Dismissal Delivery)} (h : prepared.Traceless B C view) :
    (deliver s prepared).TracelessUnless B C view Succeeds := by
  refine h.bind fun d? => ?_
  rcases d? with dismissal | d
  · exact (traceless_pure _).unless
  -- Effects leave traces of their own, but only after a delivery was applied.
  have happlied (a : Applied) (w : World σ) : Succeeds ((do
      Task.ofProgram (startEffects s a)
      return .ok a : Task (Except Dismissal Applied)).runIn B C w).1 := by
    rw [runIn_bind, runIn_ofProgram]
    trivial
  refine (tracelessUnless_writeLocked hB s d).bind (fun a? => ?_) (fun a? ha w => ?_)
    (fun _ h => h.elim)
  · rcases a? with dismissal | a
    · exact (traceless_pure _).unless
    · exact fun w hkind => absurd (happlied a w) hkind
  · rcases a? with dismissal | a
    · exact ha.elim
    · exact happlied a w

/-! ## Profile events -/

theorem tracelessUnless_updateCard (hB : B.Isolates view) (e : CardEvent) :
    (updateCard e).TracelessUnless B C view Succeeds := by
  have hchange : (cardChange e).Traceless B C view := by
    refine (traceless_read hB fun _ => id).bind fun card? => ?_
    cases card? <;> exact traceless_pure _
  refine hchange.bind fun change? => ?_
  rcases change? with r | ⟨id, patch⟩
  · exact (traceless_pure _).unless
  refine (tracelessUnless_store hB (.patchCard id patch)).bind (fun card? => ?_)
    (fun card? h w => ?_) (fun e he => ?_)
  · cases card? <;> exact (traceless_pure _).unless
  · obtain ⟨_ | card, h, hwrote⟩ := h <;> cases h
    · exact hwrote.elim
    · exact trivial
  · obtain ⟨a, ha, _⟩ := he
    cases ha

theorem tracelessUnless_updateCardUser (hB : B.Isolates view) (e : UserEvent) :
    (updateCardUser e).TracelessUnless B C view Succeeds := by
  refine (traceless_read hB fun _ => id).bind fun owner? => ?_
  rcases owner? with _ | owner
  · exact (traceless_pure _).unless
  dsimp only
  split
  · exact (traceless_pure _).unless
  refine (tracelessUnless_store hB (.setCardUserStatus owner.id _)).bind (fun owner? => ?_)
    (fun owner? h w => ?_) (fun e he => ?_)
  · cases owner? <;> exact (traceless_pure _).unless
  · obtain ⟨_ | owner, h, hwrote⟩ := h <;> cases h
    · exact hwrote.elim
    · exact trivial
  · obtain ⟨a, ha, _⟩ := he
    cases ha

theorem tracelessUnless_registerContract (hB : B.Isolates view) (e : ContractEvent) :
    (registerContract e).TracelessUnless B C view Succeeds := by
  refine (traceless_read hB fun _ => id).bind fun owner? => ?_
  rcases owner? with _ | owner
  · exact (traceless_pure _).unless
  refine (tracelessUnless_store hB _).bind (fun _ => (traceless_pure _).unless)
    (fun a _ w => ?_) (fun e he => ?_)
  · exact trivial
  · obtain ⟨a, ha, _⟩ := he
    cases ha

end Task

/-! ## Outcomes -/

/-- The outcome itself says that nothing was changed: it is not one of an event that was processed,
or it tells of an error, or of an event that was skipped. -/
def Outcome.IsIdle (o : Outcome) : Prop :=
  o.status ≠ .processed ∨ ((Json.object o.fields).get? "error").isSome ∨
    (Json.object o.fields).get? "skipped" = some (.bool true)

def IsIdleAnswer : Except LockError Outcome → Prop
  | .ok o => o.IsIdle
  | .error _ => True

namespace Outcome

theorem not_isIdle_ofDelivery (action reference : String) (a : Applied) :
    ¬ (ofDelivery action reference (.ok a)).IsIdle := by
  simp [IsIdle, ofDelivery, processed, ofStatus, withField, Json.setMember, Json.get?]

theorem not_isIdle_ofCard (action : String) (card : Card) :
    ¬ (ofCard action (.ok card)).IsIdle := by
  simp [IsIdle, ofCard, processed, ofStatus, withField, Json.setMember, Json.get?]

theorem not_isIdle_ofCardUser (action : String) (owner : CardUser) :
    ¬ (ofCardUser action (.ok owner)).IsIdle := by
  simp [IsIdle, ofCardUser, processed, ofStatus, withField, Json.setMember, Json.get?]

theorem not_isIdle_ofAddress (action : String) (a : DepositAddress) :
    ¬ (ofAddress action (.ok a)).IsIdle := by
  simp [IsIdle, ofAddress, processed, ofStatus, withField, Json.setMember, Json.get?]

theorem isIdle_internalError (action : String) : (internalError action).IsIdle := by
  simp [IsIdle, internalError, processed, ofStatus, withField, Json.setMember, Json.get?]

def TellsOfChange : Except EngineError Outcome → Prop
  | .ok o => ¬ o.IsIdle
  | .error _ => False

end Outcome

namespace Task

variable {σ : Type} {B : Backend σ} {C : Collaborators} {view : σ → Tables}

theorem TracelessUnless.answer {ρ α : Type} {t : Task (Except ρ α)}
    {outcome : Except ρ α → Outcome} (ht : t.TracelessUnless B C view Succeeds)
    (h : ∀ a, ¬ (outcome (.ok a)).IsIdle) :
    (do return outcome (← t) : Task Outcome).TracelessUnless B C view Outcome.TellsOfChange := by
  refine ht.bind (fun _ => (traceless_pure _).unless) (fun r hr w => ?_) (fun _ he => he.elim)
  rcases r with r | a
  · exact hr.elim
  · exact h a

theorem tracelessUnless_onTransaction (hB : B.Isolates view) (s : Settings) (action : String)
    (e : TransactionEvent) :
    (onTransaction s action e).TracelessUnless B C view Outcome.TellsOfChange := by
  unfold onTransaction
  split
  · split
    · exact (traceless_pure _).unless
    · split
      · exact (traceless_authorizeSpend hB _).bind fun _ => (traceless_pure _).unless
      · exact (tracelessUnless_deliver hB s (traceless_prepareSpend hB s _ _)).answer
          (Outcome.not_isIdle_ofDelivery _ _)
  · split
    · exact (traceless_pure _).unless
    · split
      · exact (traceless_pure _).unless
      · exact (tracelessUnless_deliver hB s (traceless_prepareCollateral hB s _ _)).answer
          (Outcome.not_isIdle_ofDelivery _ _)
  · exact (traceless_pure _).unless

theorem tracelessUnless_withPayload {α : Type} (action : String) (read? : Json.Draft → Option α)
    (body : Json) {answer : α → Task Outcome}
    (h : ∀ e, (answer e).TracelessUnless B C view Outcome.TellsOfChange) :
    (withPayload action read? body answer).TracelessUnless B C view Outcome.TellsOfChange := by
  unfold withPayload
  split
  · exact (traceless_pure _).unless
  · exact h _

theorem tracelessUnless_route (hB : B.Isolates view) (s : Settings) (resource action : String)
    (body : Json) :
    (route s resource action body).TracelessUnless B C view Outcome.TellsOfChange := by
  unfold route
  split
  · split
    · exact tracelessUnless_withPayload _ _ _ (tracelessUnless_onTransaction hB s action)
    · exact (traceless_pure _).unless
  · split
    · exact tracelessUnless_withPayload _ _ _ fun e =>
        (tracelessUnless_updateCard hB e).answer (Outcome.not_isIdle_ofCard action)
    · exact (traceless_pure _).unless
  · split
    · exact tracelessUnless_withPayload _ _ _ fun e =>
        (tracelessUnless_updateCardUser hB e).answer (Outcome.not_isIdle_ofCardUser action)
    · exact (traceless_pure _).unless
  · split
    · exact tracelessUnless_withPayload _ _ _ fun e =>
        (tracelessUnless_registerContract hB e).answer (Outcome.not_isIdle_ofAddress action)
    · exact (traceless_pure _).unless
  · exact (traceless_pure _).unless
  · exact (traceless_pure _).unless

end Task

theorem isIdleAnswer_of_not_tellsOfChange {action : String} {r : Except EngineError Outcome}
    (h : IsIdleAnswer (Outcome.ofResult action r)) : ¬ Outcome.TellsOfChange r := by
  cases r with
  | error e => exact id
  | ok o => exact fun hne => hne h

theorem untouched_of_isIdleAnswer {σ : Type} {B : Backend σ} {view : σ → Tables}
    (hB : B.Isolates view) {C : Collaborators} {s : Settings} {e : Envelope} {w : World σ}
    (h : IsIdleAnswer ((dispatch s e).runIn B C w).1) :
    w.Untouched view ((dispatch s e).runIn B C w).2 := by
  rw [runIn_dispatch] at h ⊢
  exact Task.tracelessUnless_route hB s _ _ _ w (isIdleAnswer_of_not_tellsOfChange h)

/-- On the tables in memory an answer that tells of no change is the only trace of its event. The
same holds of the transaction of any delivery, however old, and with faults at any call. -/
theorem idle_answer_leaves_no_trace (s : Settings) (refusal : LockKey → Option LockError)
    (C : Collaborators) :
    (∀ (e : Envelope) (w : World Memory),
      IsIdleAnswer ((dispatch s e).runIn (Memory.backend refusal) C w).1 →
        w.Untouched Memory.tables ((dispatch s e).runIn (Memory.backend refusal) C w).2) ∧
    (∀ (d : Delivery) (w : World Memory),
      ¬ Task.Succeeds ((writeLocked s d).runIn (Memory.backend refusal) C w).1 →
        w.Untouched Memory.tables ((writeLocked s d).runIn (Memory.backend refusal) C w).2) ∧
    (∀ (e : Envelope) (w : World (Faulty Memory)),
      IsIdleAnswer ((dispatch s e).runIn (Faulty.backend (Memory.backend refusal)) C w).1 →
        w.Untouched (·.inner.tables)
          ((dispatch s e).runIn (Faulty.backend (Memory.backend refusal)) C w).2) := by
  have hmemory := Memory.backend_isolates refusal
  refine ⟨fun e w h => ?_, fun d w h => ?_, fun e w h => ?_⟩
  · exact untouched_of_isIdleAnswer hmemory h
  · exact Task.tracelessUnless_writeLocked hmemory s d w h
  · exact untouched_of_isIdleAnswer (Faulty.backend_isolates hmemory) h

theorem overdrawing_spend_leaves_no_trace :
    let e := Specimen.spendEnvelope "t" "first" "completed" 30
    let w := World.ofStore (Memory.ofTables Specimen.tables)
    let r := (dispatch Specimen.settings e).runIn (Memory.backend fun _ => none) Specimen.refusing w
    r.1 = .ok (.internalError "created") ∧ w.Untouched Memory.tables r.2 := by
  -- A spend of more than the card holds fails inside its transaction.
  intro e w r
  have hr : r.1 = .ok (.internalError "created") := rfl
  refine ⟨hr, (idle_answer_leaves_no_trace _ _ _).1 e w ?_⟩
  change IsIdleAnswer r.1
  rw [hr]
  exact Outcome.isIdle_internalError _

end PrepaidLedger
