import PrepaidLedger.Proofs.Engine.Incoming

/-! What becomes of a failure. Whatever store and lock answer with an error, nothing is asked after
it but to let go of what is held, and the error is what the task ends in. Only the note that a fee
is settled may fail without anyone being told. -/

namespace PrepaidLedger

def EngineError.IsRaised : EngineError → Prop
  | .store _ => False
  | .lock _ => False
  | _ => True

namespace Request

def failure? : (r : Request) → r.Reply → Option EngineError
  | .store _, .error e => some (.store e)
  | .begin, .error e => some (.store e)
  | .tx _, .error e => some (.store e)
  | .commit, .error e => some (.store e)
  | .rollback, .error e => some (.store e)
  | .acquire _, .error e => some (.lock e)
  | _, _ => none

def IsNote : Request → Prop
  | .store (.settleFee ..) => True
  | _ => False

def IsRelease : Request → Prop
  | .abandon => True
  | .release _ => True
  | _ => False

theorem failure?_of_isRelease {r : Request} (h : r.IsRelease) (reply : r.Reply) :
    r.failure? reply = none := by
  cases r with
  | abandon | release => rfl
  | _ => exact h.elim

theorem not_isNote_of_isRelease {r : Request} (h : r.IsRelease) : ¬ r.IsNote := by
  cases r with
  | abandon | release => exact id
  | _ => exact h.elim

theorem isNote_of_isEffect {r : Request} (h : r.IsEffect) {reply : r.Reply} {cause : EngineError}
    (hreply : r.failure? reply = some cause) : r.IsNote := by
  cases r with
  | store c => cases c <;> first | exact trivial | exact h.elim
  | charge | lockCard | notify | announce | defer => cases hreply
  | _ => exact h.elim

theorem acquire_of_failure? {r : Request} {reply : r.Reply} {e : LockError}
    (h : r.failure? reply = some (.lock e)) : ∃ key, r = .acquire key := by
  cases r with
  | acquire key => exact ⟨key, rfl⟩
  | store | begin | tx | commit | rollback => cases reply <;> cases h
  | _ => cases h

end Request

/-! ## Failures of a run -/

structure Failure where
  request : Request
  cause : EngineError

variable {σ α β : Type}

def Program.failures (B : Backend σ) (C : Collaborators) : Program α → World σ → List Failure
  | .done _, _ => []
  | .ask r next, w =>
    let (reply, w) := World.answer B C r w
    ((r.failure? reply).map (Failure.mk r)).toList ++ (next reply).failures B C w

namespace Program

variable {B : Backend σ} {C : Collaborators} {p : Program (Except EngineError α)}
  {f : Except EngineError α → Program (Except EngineError β)} {cause : EngineError} {notes : Prop}

theorem failures_bind_done (p : Program α) (f : α → β) (w : World σ) :
    (p.bind fun a => .done (f a)).failures B C w = p.failures B C w := by
  induction p generalizing w with
  | done a => rfl
  | ask r next ih =>
    rw [bind, failures, failures]
    dsimp only
    rw [ih]

theorem runIn_ask (r : Request) (next : r.Reply → Program α) (w : World σ) :
    (ask r next).runIn B C w =
      (next (World.answer B C r w).1).runIn B C (World.answer B C r w).2 := rfl

theorem mem_failures_ask {r : Request} {next : r.Reply → Program α} {w : World σ} {x : Failure} :
    x ∈ (ask r next).failures B C w ↔
      (x.request = r ∧ r.failure? (World.answer B C r w).1 = some x.cause) ∨
        x ∈ (next (World.answer B C r w).1).failures B C (World.answer B C r w).2 := by
  rw [failures, List.mem_append, Option.mem_toList, Option.map_eq_some_iff]
  refine or_congr_left ⟨?_, ?_⟩
  · rintro ⟨cause, hcause, rfl⟩
    exact ⟨rfl, hcause⟩
  · rintro ⟨rfl, hcause⟩
    exact ⟨x.cause, hcause, rfl⟩

theorem failures_ask_eq_nil {r : Request} {next : r.Reply → Program α} {w : World σ} :
    (ask r next).failures B C w = [] ↔
      r.failure? (World.answer B C r w).1 = none ∧
        (next (World.answer B C r w).1).failures B C (World.answer B C r w).2 = [] := by
  rw [failures, List.append_eq_nil_iff, Option.toList_eq_nil_iff, Option.map_eq_none_iff]

theorem acquire_of_mem_failures {p : Program α} {w : World σ} {x : Failure}
    (hx : x ∈ p.failures B C w) {e : LockError} (he : x.cause = .lock e) :
    ∃ key, x.request = .acquire key := by
  induction p generalizing w with
  | done a => cases hx
  | ask r next ih =>
    rcases mem_failures_ask.mp hx with ⟨hr, hcause⟩ | hx
    · rw [he] at hcause
      rw [hr]
      exact Request.acquire_of_failure? hcause
    · exact ih _ hx

/-! ## Handing failures on -/

def GivesUp (cause : EngineError) : Program (Except EngineError α) → Prop
  | .done r => r = .error cause
  | .ask r next => r.IsRelease ∧ ∀ reply, (next reply).GivesUp cause

/-- Gives up at the first failure that is not of a note, and ends in no other error but one that is
raised on the way. Notes are asked at all only where there may be `notes`. -/
def Relays (notes : Prop) : Program (Except EngineError α) → Prop
  | .done r => ∀ cause, r = .error cause → cause.IsRaised
  | .ask r next => (r.IsNote → notes) ∧ ∀ reply,
    (∀ cause, ¬ r.IsNote → r.failure? reply = some cause → (next reply).GivesUp cause) ∧
      (r.IsNote ∨ r.failure? reply = none → (next reply).Relays notes)

theorem GivesUp.bind (hp : p.GivesUp cause) (hf : (f (.error cause)).GivesUp cause) :
    (p.bind f).GivesUp cause := by
  induction p with
  | done r =>
    obtain rfl : r = .error cause := hp
    exact hf
  | ask r next ih => exact ⟨hp.1, fun reply => ih reply (hp.2 reply)⟩

theorem GivesUp.relays (hp : p.GivesUp cause) (hcause : cause.IsRaised) : p.Relays notes := by
  induction p with
  | done r =>
    intro other hother
    obtain rfl : other = cause := Except.error.inj (hother.symm.trans hp)
    exact hcause
  | ask r next ih =>
    refine ⟨fun h => absurd h (Request.not_isNote_of_isRelease hp.1), fun reply =>
      ⟨fun other _ hother => ?_, fun _ => ih reply (hp.2 reply)⟩⟩
    rw [Request.failure?_of_isRelease hp.1] at hother
    cases hother

theorem Relays.bind (hp : p.Relays notes) (hok : ∀ a, (f (.ok a)).Relays notes)
    (herror : ∀ cause, (f (.error cause)).GivesUp cause) : (p.bind f).Relays notes := by
  induction p with
  | done r =>
    cases r with
    | ok a => exact hok a
    | error cause => exact (herror cause).relays (hp cause rfl)
  | ask r next ih =>
    refine ⟨hp.1, fun reply => ⟨fun cause hr hcause => ?_, fun h => ih reply ((hp.2 reply).2 h)⟩⟩
    exact ((hp.2 reply).1 cause hr hcause).bind (herror cause)

theorem GivesUp.run (hp : p.GivesUp cause) (w : World σ) :
    (p.runIn B C w).1 = .error cause ∧ p.failures B C w = [] := by
  induction p generalizing w with
  | done r => exact ⟨hp, rfl⟩
  | ask r next ih =>
    obtain ⟨hrun, hnone⟩ := ih _ (hp.2 (World.answer B C r w).1) (World.answer B C r w).2
    exact ⟨hrun, failures_ask_eq_nil.mpr ⟨Request.failure?_of_isRelease hp.1 _, hnone⟩⟩

theorem Relays.run (hp : p.Relays notes) (w : World σ) :
    (∀ x ∈ p.failures B C w, ¬ x.request.IsNote → (p.runIn B C w).1 = .error x.cause) ∧
      ∀ cause, (p.runIn B C w).1 = .error cause → cause.IsRaised ∨
        ∃ x ∈ p.failures B C w, ¬ x.request.IsNote ∧ x.cause = cause := by
  induction p generalizing w with
  | done r =>
    refine ⟨fun x hx => ?_, fun cause h => .inl (hp cause h)⟩
    rw [failures] at hx
    cases hx
  | ask r next ih =>
    simp only [mem_failures_ask, runIn_ask]
    generalize (World.answer B C r w).1 = reply, (World.answer B C r w).2 = w'
    obtain ⟨hfailed, hwent⟩ := hp.2 reply
    by_cases hgo : r.IsNote ∨ r.failure? reply = none
    · obtain ⟨hends, hraised⟩ := ih reply (hwent hgo) w'
      refine ⟨?_, fun cause h => (hraised cause h).imp_right ?_⟩
      · rintro x (⟨rfl, hcause⟩ | hx) hnote
        · rcases hgo with hgo | hgo
          · exact absurd hgo hnote
          · rw [hgo] at hcause
            cases hcause
        · exact hends x hx hnote
      · rintro ⟨x, hx, h⟩
        exact ⟨x, .inr hx, h⟩
    · obtain ⟨hnote, hne⟩ := not_or.mp hgo
      obtain ⟨cause, hcause⟩ := Option.ne_none_iff_exists'.mp hne
      obtain ⟨hrun, hnone⟩ := (hfailed cause hnote hcause).run (B := B) (C := C) w'
      rw [hnone, hrun]
      refine ⟨?_, fun other hother => .inr ⟨⟨r, cause⟩, .inl ⟨rfl, hcause⟩, hnote, ?_⟩⟩
      · rintro x (⟨rfl, hx⟩ | hx) -
        · rw [Option.some.inj (hcause.symm.trans hx)]
        · cases hx
      · exact Except.error.inj hother

theorem Relays.failures_eq_nil (hp : p.Relays False) {w : World σ} {a : α}
    (h : (p.runIn B C w).1 = .ok a) : p.failures B C w = [] := by
  induction p generalizing w with
  | done r => rfl
  | ask r next ih =>
    have hreply := hp.2 (World.answer B C r w).1
    rw [runIn_ask] at h
    cases hcause : r.failure? (World.answer B C r w).1 with
    | none => exact failures_ask_eq_nil.mpr ⟨hcause, ih _ (hreply.2 (.inr hcause)) h⟩
    | some cause =>
      rw [((hreply.1 cause hp.1 hcause).run _).1] at h
      cases h

end Program

/-! ## Tasks that hand failures on -/

def Task.Relays (notes : Prop) (t : Task α) : Prop := t.run.Relays notes

namespace Task

variable {t : Task α} {f : α → Task β} {notes : Prop}

theorem relays_pure (a : α) : (pure a : Task α).Relays notes := nofun

theorem relays_ofExcept {r : Except EngineError α}
    (h : ∀ cause, r = .error cause → cause.IsRaised) : (ofExcept r).Relays notes := h

theorem relays_found (entity : Entity) (id : RowId) (row : Option α) :
    (found entity id row).Relays notes := by
  cases row with
  | some a => exact relays_pure a
  | none =>
    rintro cause ⟨⟩
    exact trivial

theorem relays_request {r : Request} {result : r.Reply → Except EngineError α} (hr : ¬ r.IsNote)
    (h : ∀ reply cause, result reply = .error cause ↔ r.failure? reply = some cause) :
    Task.Relays notes
      (ExceptT.mk ((Program.request r).bind fun reply => .done (result reply)) : Task α) := by
  refine ⟨fun h => absurd h hr, fun reply =>
    ⟨fun cause _ hcause => (h reply cause).mpr hcause, fun hgo cause hcause => ?_⟩⟩
  rw [(h reply cause).mp hcause] at hgo
  rcases hgo with hgo | hgo
  · exact absurd hgo hr
  · cases hgo

theorem mapError_eq_error {ε : Type} {kind : ε → EngineError}
    {failure : Except ε α → Option EngineError} (hok : ∀ a, failure (.ok a) = none)
    (herror : ∀ e, failure (.error e) = some (kind e)) {reply : Except ε α}
    {cause : EngineError} : reply.mapError kind = .error cause ↔ failure reply = some cause := by
  cases reply with
  | ok a => simp [Except.mapError, hok]
  | error e => simp [Except.mapError, herror]

theorem relays_store {c : StoreCall} (h : ¬ (Request.store c).IsNote) : (store c).Relays notes :=
  relays_request h fun _ _ => mapError_eq_error (fun _ => rfl) fun _ => rfl

theorem relays_begin : begin.Relays notes :=
  relays_request id fun _ _ => mapError_eq_error (fun _ => rfl) fun _ => rfl

theorem relays_tx (c : TxCall) : (tx c).Relays notes :=
  relays_request id fun _ _ => mapError_eq_error (fun _ => rfl) fun _ => rfl

theorem relays_commit : commit.Relays notes :=
  relays_request id fun _ _ => mapError_eq_error (fun _ => rfl) fun _ => rfl

theorem relays_rollback : rollback.Relays notes :=
  relays_request id fun _ _ => mapError_eq_error (fun _ => rfl) fun _ => rfl

theorem relays_acquire (key : LockKey) : (acquire key).Relays notes :=
  relays_request id fun _ _ => mapError_eq_error (fun _ => rfl) fun _ => rfl

theorem Relays.bind (ht : t.Relays notes) (hf : ∀ a, (f a).Relays notes) :
    (t >>= f).Relays notes :=
  Program.Relays.bind (p := t.run) ht hf fun _ => rfl

theorem Relays.inTransaction (ht : t.Relays notes) : (inTransaction t).Relays notes := by
  refine relays_begin.bind fun _ => ?_
  exact Program.Relays.bind (p := t.run) ht relays_pure fun _ => ⟨trivial, fun _ => rfl⟩

theorem Relays.thenRelease (ht : t.Relays notes) (key : LockKey) :
    (t.thenAlways (.request (.release key))).Relays notes := by
  refine Program.Relays.bind (p := t.run) ht (fun a => ?_) fun _ => ⟨trivial, fun _ => rfl⟩
  exact ⟨False.elim, fun _ => ⟨nofun, fun _ => relays_pure a⟩⟩

theorem relays_ofProgram {p : Program α} (hp : p.Asks Request.IsEffect) :
    (ofProgram p).Relays True := by
  induction p with
  | done a => exact relays_pure a
  | ask r next ih =>
    refine ⟨fun _ => trivial, fun reply =>
      ⟨fun cause hr hcause => ?_, fun _ => ih reply (hp.2 reply)⟩⟩
    exact absurd (Request.isNote_of_isEffect hp.1 hcause) hr

end Task

/-! ## Errors of the engine itself -/

theorem raised_of_toMinorUnits {raw : Binary64} {cause : EngineError}
    (h : toMinorUnits raw = .error cause) : cause.IsRaised := by
  unfold toMinorUnits at h
  dsimp only at h
  split at h
  · split_ifs at h <;> cases h <;> exact trivial
  · cases h
    exact trivial

theorem raised_of_applyDelta {entity : Entity} {id : Uuid} {balance delta : Int}
    {cause : EngineError} (h : applyDelta entity id balance delta = .error cause) :
    cause.IsRaised := by
  unfold applyDelta at h
  dsimp only at h
  split_ifs at h <;> cases h <;> exact trivial

theorem raised_of_verify {entity : Entity} {id : Uuid} {expected : Int} {found : Option Int}
    {cause : EngineError} (h : verify entity id expected found = .error cause) :
    cause.IsRaised := by
  unfold verify at h
  split_ifs at h
  cases h
  exact trivial

theorem error_of_map {ε : Type} {x : Except ε α} {f : α → β} {cause : ε}
    (h : x.map f = .error cause) : x = .error cause := by
  cases x with
  | ok a => cases h
  | error other => exact congrArg Except.error (Except.error.inj h)

theorem ok_of_map {ε : Type} {x : Except ε α} {f : α → β} {b : β} (h : x.map f = .ok b) :
    ∃ a, x = .ok a ∧ f a = b := by
  cases x with
  | ok a => exact ⟨a, rfl, Except.ok.inj h⟩
  | error other => cases h

theorem Task.ok_of_return {B : Backend σ} {C : Collaborators} {w : World σ} {t : Task α}
    {f : α → β} {b : β} (h : ((do return f (← t) : Task β).runIn B C w).1 = .ok b) :
    ∃ a, (t.runIn B C w).1 = .ok a ∧ f a = b := by
  rw [runIn_return] at h
  exact ok_of_map h

theorem raised_of_verified {entity : Entity} {id : Uuid} {balance : α → Int} {expected : Int}
    {row : Option α} {cause : EngineError}
    (h : verified entity id balance expected row = .error cause) : cause.IsRaised := by
  cases row with
  | none =>
    cases h
    exact trivial
  | some row => exact raised_of_verify (error_of_map h)

theorem raised_of_depositCredit {amount fee : Int} {cause : EngineError}
    (h : depositCredit amount fee = .error cause) : cause.IsRaised := by
  unfold depositCredit ensureSafeAmount at h
  split_ifs at h <;> dsimp only at h <;> (try split_ifs at h) <;> cases h <;> exact trivial

theorem raised_of_ofCollateral {s : Settings} {reference : String} {amount : Int} {card : Card}
    {e : CollateralEvent} {cause : EngineError}
    (h : Posting.ofCollateral s reference amount card e = .error cause) : cause.IsRaised := by
  have hterms : Posting.collateralTerms s.fees e.status.toLine amount = .error cause :=
    error_of_map h
  unfold Posting.collateralTerms at hterms
  split at hterms
  · exact raised_of_depositCredit (error_of_map hterms)
  · exact raised_of_depositCredit (error_of_map hterms)
  · cases hterms
  · cases hterms

/-! ## The engine -/

namespace Task

variable {notes : Prop}

theorem relays_amount (raw : Binary64) : (ofExcept (toMinorUnits raw)).Relays notes :=
  relays_ofExcept fun _ => raised_of_toMinorUnits

theorem relays_spendParties (e : SpendEvent) : (spendParties e).Relays notes := by
  refine (relays_store id).bind fun card? => ?_
  cases card? with
  | none => exact relays_pure _
  | some card =>
    dsimp only
    split <;> refine (relays_store id).bind fun owner? => ?_ <;>
      cases owner? <;> exact relays_pure _

theorem relays_addressOwner (e : CollateralEvent) : (addressOwner e).Relays notes := by
  unfold addressOwner
  split
  · refine (relays_store id).bind fun a? => ?_
    cases a? with
    | none => exact relays_pure _
    | some a => exact relays_store id
  · exact relays_pure _

theorem relays_collateralOwner (e : CollateralEvent) : (collateralOwner e).Relays notes := by
  unfold collateralOwner
  split
  · exact relays_addressOwner e
  · refine (relays_store id).bind fun owner? => ?_
    cases owner? with
    | none => exact relays_addressOwner e
    | some owner => exact relays_pure _

theorem relays_collateralParties (e : CollateralEvent) : (collateralParties e).Relays notes := by
  refine (relays_collateralOwner e).bind fun owner? => ?_
  cases owner? with
  | none => exact relays_pure _
  | some owner =>
    refine (relays_store id).bind fun card? => ?_
    cases card? <;> exact relays_pure _

theorem relays_screen (s : Settings) (card : Card) (owner : CardUser) (p : Posting) :
    (screen s card owner p).Relays notes := by
  refine (relays_store id).bind fun stored => ?_
  split
  · exact relays_pure _
  · split <;> exact relays_pure _

theorem relays_prepareSpend (s : Settings) (reference : String) (e : SpendEvent) :
    (prepareSpend s reference e).Relays notes := by
  refine (relays_amount _).bind fun amount => (relays_spendParties e).bind fun parties => ?_
  rcases parties with r | ⟨card, owner⟩
  · exact relays_pure _
  · exact relays_screen s card owner _

theorem relays_prepareCollateral (s : Settings) (reference : String) (e : CollateralEvent) :
    (prepareCollateral s reference e).Relays notes := by
  refine (relays_amount _).bind fun amount => (relays_collateralParties e).bind fun parties => ?_
  rcases parties with r | ⟨card, owner⟩
  · exact relays_pure _
  · refine (relays_ofExcept fun _ => raised_of_ofCollateral).bind fun p => ?_
    exact relays_screen s card owner p

theorem relays_authorizeSpend (e : SpendEvent) : (authorizeSpend e).Relays notes := by
  refine (relays_amount _).bind fun amount => (relays_spendParties e).bind fun parties => ?_
  rcases parties with r | ⟨card, owner⟩ <;> exact relays_pure _

/-! ### Writing -/

theorem relays_writeCardBalance (id : Uuid) (balance : Int) (reset : Bool) :
    (writeCardBalance id balance reset).Relays notes := by
  refine (relays_tx _).bind fun written => ?_
  refine (relays_ofExcept fun _ => raised_of_verify).bind fun _ => ?_
  exact (relays_tx _).bind fun card => relays_ofExcept fun _ => raised_of_verified

theorem relays_writeCardUserBalance (id : Uuid) (balance : Int) :
    (writeCardUserBalance id balance).Relays notes := by
  refine (relays_tx _).bind fun written => ?_
  refine (relays_ofExcept fun _ => raised_of_verify).bind fun _ => ?_
  exact (relays_tx _).bind fun owner => relays_ofExcept fun _ => raised_of_verified

theorem relays_recordDecline (policy : DeclinePolicy) (id : Uuid) :
    (recordDecline policy id).Relays notes := by
  refine (relays_tx _).bind fun counted => (relays_found _ _ _).bind fun card => ?_
  split
  · refine (relays_tx _).bind fun written => (relays_found _ _ _).bind fun blocked => ?_
    exact relays_pure _
  · exact relays_pure _

theorem relays_writeLine (p : Posting) (card : Card) (owner : CardUser) (m : Movement)
    (stored : Option Line) : (writeLine p card owner m stored).Relays notes := by
  cases stored with
  | none => exact relays_tx _
  | some l => exact (relays_tx _).bind fun patched => relays_found _ _ _

theorem relays_writeEntry (p : Posting) (card : Card) (l : Line) :
    (writeEntry p card l).Relays notes := by
  refine (relays_tx _).bind fun stored => ?_
  cases stored with
  | none => exact (relays_tx _).bind fun _ => relays_pure _
  | some entry =>
    exact (relays_tx _).bind fun patched => (relays_found _ _ _).bind fun _ => relays_pure _

theorem relays_writePosting (s : Settings) (p : Posting) (card : Card) (owner : CardUser)
    (stored : Option Line) : (writePosting s p card owner stored).Relays notes := by
  refine (relays_ofExcept fun _ => raised_of_applyDelta).bind fun cardBalance => ?_
  refine (relays_ofExcept fun _ => raised_of_applyDelta).bind fun ownerBalance => ?_
  refine (relays_writeCardBalance _ _ _).bind fun written => ?_
  refine (relays_writeCardUserBalance _ _).bind fun ownerAfter => ?_
  have hrest (decline : DeclineRecord) : (do
      let l ← writeLine p card owner
        ⟨card.balance, cardBalance, p.delta (stored.map (·.snapshot))⟩ stored
      writeEntry p card l
      commit
      return ⟨l, decline.card, ownerAfter, p.delta (stored.map (·.snapshot)),
        decline.newlyBlocked⟩ : Task Applied).Relays notes :=
    (relays_writeLine _ _ _ _ _).bind fun l => (relays_writeEntry _ _ l).bind fun _ =>
      relays_commit.bind fun _ => relays_pure _
  dsimp only
  split
  · exact (relays_recordDecline _ _).bind hrest
  · exact (relays_pure _).bind hrest

theorem relays_write (s : Settings) (d : Delivery) : (write s d).Relays notes := by
  refine Relays.inTransaction ?_
  refine (relays_tx _).bind fun card? => (relays_found _ _ _).bind fun card => ?_
  refine (relays_tx _).bind fun owner? => (relays_found _ _ _).bind fun owner => ?_
  refine (relays_tx _).bind fun stored => ?_
  dsimp only
  split
  · exact relays_rollback.bind fun _ => relays_pure _
  · exact (relays_writePosting s d.posting card owner stored).bind fun _ => relays_pure _

theorem relays_writeLocked (s : Settings) (d : Delivery) : (writeLocked s d).Relays notes :=
  (relays_acquire d.lockKey).bind fun _ => (relays_write s d).thenRelease d.lockKey

theorem relays_deliver (s : Settings) {prepared : Task (Except Dismissal Delivery)}
    (h : prepared.Relays True) : (deliver s prepared).Relays True := by
  refine h.bind fun d? => ?_
  rcases d? with dismissal | d
  · exact relays_pure _
  refine (relays_writeLocked s d).bind fun a? => ?_
  rcases a? with dismissal | a
  · exact relays_pure _
  · exact (relays_ofProgram (Program.asks_startEffects s a)).bind fun _ => relays_pure _

/-! ### Profiles -/

theorem relays_updateCard (e : CardEvent) : (updateCard e).Relays notes := by
  have hchange : (cardChange e).Relays notes := by
    refine (relays_store id).bind fun card? => ?_
    cases card? <;> exact relays_pure _
  refine hchange.bind fun change? => ?_
  rcases change? with r | ⟨id, patch⟩
  · exact relays_pure _
  · have hnote : ¬ (Request.store (.patchCard id patch)).IsNote := fun h => h
    refine (relays_store hnote).bind fun card? => ?_
    cases card? <;> exact relays_pure _

theorem relays_updateCardUser (e : UserEvent) : (updateCardUser e).Relays notes := by
  refine (relays_store id).bind fun owner? => ?_
  rcases owner? with _ | owner
  · exact relays_pure _
  dsimp only
  split
  · exact relays_pure _
  · refine (relays_store id).bind fun owner? => ?_
    cases owner? <;> exact relays_pure _

theorem relays_registerContract (e : ContractEvent) : (registerContract e).Relays notes := by
  refine (relays_store id).bind fun owner? => ?_
  rcases owner? with _ | owner
  · exact relays_pure _
  · exact (relays_store id).bind fun _ => relays_pure _

end Task

theorem Incoming.relays_answer (incoming : Incoming) (s : Settings) (action : String) :
    (incoming.answer s action).Relays True := by
  have hreturn {α : Type} {task : Task α} (f : α → Outcome) (ht : task.Relays True) :
      (do return f (← task) : Task Outcome).Relays True := ht.bind fun a => Task.relays_pure (f a)
  cases incoming with
  | spend reference e => exact hreturn _ (Task.relays_deliver s (Task.relays_prepareSpend s _ e))
  | collateral reference e =>
    exact hreturn _ (Task.relays_deliver s (Task.relays_prepareCollateral s _ e))
  | authorization e => exact hreturn _ (Task.relays_authorizeSpend e)
  | card e => exact hreturn _ (Task.relays_updateCard e)
  | user e => exact hreturn _ (Task.relays_updateCardUser e)
  | contract e => exact hreturn _ (Task.relays_registerContract e)
  | closed o => exact Task.relays_pure o

end PrepaidLedger
