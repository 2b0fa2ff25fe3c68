import PrepaidLedger.Proofs.Engine.Relaying
import PrepaidLedger.Proofs.Specimen
import PrepaidLedger.Store.Fault

/-! What the sender of an envelope is told of a failure: of the lock, that it could not be had, and
of anything else, that there was an error. -/

namespace PrepaidLedger

variable {σ : Type}

namespace Outcome

theorem action_ofDelivery (action reference : String) (r : Except Dismissal Applied) :
    (ofDelivery action reference r).action = action := by
  rcases r with (_ | _) | _ <;> rfl

theorem action_ofAuthorization (action : String) (r : Except Rejection Card) :
    (ofAuthorization action r).action = action := by
  cases r <;> rfl

theorem action_ofCard (action : String) (r : Except Rejection Card) :
    (ofCard action r).action = action := by
  cases r <;> rfl

theorem action_ofCardUser (action : String) (r : Except Rejection CardUser) :
    (ofCardUser action r).action = action := by
  cases r <;> rfl

theorem action_ofAddress (action : String) (r : Except Rejection DepositAddress) :
    (ofAddress action r).action = action := by
  cases r <;> rfl

end Outcome

theorem Incoming.action_answer {incoming : Incoming} {action : String}
    (hclosed : ∀ o, incoming = .closed o → o.action = action) {B : Backend σ} {C : Collaborators}
    {s : Settings} {w : World σ} {o : Outcome}
    (h : ((incoming.answer s action).runIn B C w).1 = .ok o) : o.action = action := by
  cases incoming with
  | spend reference e | collateral reference e =>
    obtain ⟨a, -, rfl⟩ := Task.ok_of_return h
    exact Outcome.action_ofDelivery action reference a
  | authorization e =>
    obtain ⟨a, -, rfl⟩ := Task.ok_of_return h
    exact Outcome.action_ofAuthorization action a
  | card e =>
    obtain ⟨a, -, rfl⟩ := Task.ok_of_return h
    exact Outcome.action_ofCard action a
  | user e =>
    obtain ⟨a, -, rfl⟩ := Task.ok_of_return h
    exact Outcome.action_ofCardUser action a
  | contract e =>
    obtain ⟨a, -, rfl⟩ := Task.ok_of_return h
    exact Outcome.action_ofAddress action a
  | closed closed =>
    cases h
    exact hclosed o rfl

/-- The errors that come up while an envelope is dealt with: the one that ends it, and whatever
store and lock answered to anything but a note. -/
inductive Envelope.Meets (B : Backend σ) (C : Collaborators) (s : Settings) (e : Envelope)
    (w : World σ) : EngineError → Prop
  | ended (cause : EngineError)
    (h : ((route s e.resource e.action (normalizeBody e.body)).runIn B C w).1 = .error cause) :
    Meets B C s e w cause
  | answered (x : Failure) (hx : x ∈ (dispatch s e).failures B C w) (hnote : ¬ x.request.IsNote) :
    Meets B C s e w x.cause

section Dispatch

variable {B : Backend σ} {C : Collaborators} {s : Settings} {e : Envelope} {w : World σ}

theorem failures_dispatch :
    (dispatch s e).failures B C w = (e.incoming.answer s e.action).run.failures B C w := by
  unfold dispatch
  rw [Program.failures_bind_done, Incoming.route_eq]
  rfl

theorem ofResult_eq_error {action : String} {r : Except EngineError Outcome} {cause : LockError} :
    Outcome.ofResult action r = .error cause ↔ r = .error (.lock cause) := by
  rcases r with e | o
  · cases e <;> simp [Outcome.ofResult]
  · simp [Outcome.ofResult]

theorem Envelope.Meets.result_eq {cause : EngineError} (h : e.Meets B C s w cause) :
    ((e.incoming.answer s e.action).runIn B C w).1 = .error cause := by
  -- There is one such error at most, for it is what the handling ends in.
  cases h with
  | ended _ h =>
    rw [Incoming.route_eq] at h
    exact h
  | answered x hx hnote =>
    rw [failures_dispatch] at hx
    exact ((e.incoming.relays_answer s e.action).run w).1 x hx hnote

theorem runIn_dispatch_eq_error {cause : LockError} :
    ((dispatch s e).runIn B C w).1 = .error cause ↔
      ∃ key, ⟨.acquire key, .lock cause⟩ ∈ (dispatch s e).failures B C w := by
  rw [runIn_dispatch_answer, ofResult_eq_error, failures_dispatch]
  obtain ⟨hends, hmet⟩ := (e.incoming.relays_answer s e.action).run (B := B) (C := C) w
  constructor
  · intro h
    obtain hraised | ⟨x, hx, -, hcause⟩ := hmet _ h
    · exact hraised.elim
    · obtain ⟨key, hkey⟩ := Program.acquire_of_mem_failures hx hcause
      refine ⟨key, ?_⟩
      rw [← hkey, ← hcause]
      exact hx
  · rintro ⟨key, hx⟩
    exact hends _ hx id

theorem Envelope.Meets.reply_eq {cause : EngineError} (h : e.Meets B C s w cause)
    (hcause : cause.isRetryable = false) :
    ((dispatch s e).runIn B C w).1 = .ok (.internalError e.action) := by
  rw [runIn_dispatch_answer, h.result_eq]
  cases cause with
  | lock cause => cases hcause
  | _ => rfl

end Dispatch

theorem Outcome.toJson_internalError (action : String) :
    (internalError action).toJson = .object [("status", "processed"), ("action", action),
      ("error", "Internal processing error")] := by
  simp [toJson, internalError, processed, ofStatus, withField, Json.ofMembers, Json.setMember,
    OutcomeStatus.word]

/-- Whatever the store, the lock and the parties outside do: the sender gets an error exactly if the
lock could not be had, and an outcome with the action of the envelope otherwise. Of any other error
the outcome tells only that there was one, so that two deliveries of one action that fail for
different causes are answered alike. The one error that shows nowhere is the failure of a note that
a fee is settled. -/
theorem errors_stay_inside (B : Backend σ) (C : Collaborators) (s : Settings) (e : Envelope)
    (w : World σ) :
    let reply := ((dispatch s e).runIn B C w).1
    (∀ cause, reply = .error cause ↔
      ∃ key, ⟨.acquire key, .lock cause⟩ ∈ (dispatch s e).failures B C w) ∧
    (∀ o, reply = .ok o → o.action = e.action) ∧
    (∀ cause, e.Meets B C s w cause → cause.isRetryable = false →
      reply = .ok (.internalError e.action) ∧ (Outcome.internalError e.action).toJson =
        .object [("status", "processed"), ("action", e.action),
          ("error", "Internal processing error")]) ∧
    ∀ {τ : Type} (B' : Backend τ) (C' : Collaborators) (s' : Settings) (e' : Envelope)
      (w' : World τ) (cause cause' : EngineError), e'.action = e.action →
      e.Meets B C s w cause → cause.isRetryable = false →
      e'.Meets B' C' s' w' cause' → cause'.isRetryable = false →
        ((dispatch s' e').runIn B' C' w').1 = reply := by
  intro reply
  refine ⟨fun cause => runIn_dispatch_eq_error, fun o ho => ?_, fun cause h hcause => ?_,
    fun B' C' s' e' w' cause cause' haction h hcause h' hcause' => ?_⟩
  · change ((dispatch s e).runIn B C w).1 = _ at ho
    rw [runIn_dispatch_answer] at ho
    cases hresult : ((e.incoming.answer s e.action).runIn B C w).1 with
    | ok answered =>
      rw [hresult] at ho
      obtain rfl := Except.ok.inj ho
      exact Incoming.action_answer (fun _ h => (Envelope.turnedAway_of_closed h).action) hresult
    | error cause =>
      rw [hresult] at ho
      cases cause <;> cases ho <;> rfl
  · exact ⟨h.reply_eq hcause, Outcome.toJson_internalError e.action⟩
  · exact (h'.reply_eq hcause').trans (haction ▸ (h.reply_eq hcause).symm)

theorem overdraft_and_outage_answered_alike :
    let overdraft := Specimen.spendEnvelope "t" "first" "completed" 30
    let cut := Specimen.spendEnvelope "u" "second" "completed" 10
    let w : World (Faulty Memory) :=
      .ofStore ⟨.ofTables Specimen.tables, [⟨.begin, .fail (.database "down"), 0, 1⟩]⟩
    ((dispatch Specimen.settings cut).runIn (Faulty.backend (Memory.backend fun _ => none))
        Specimen.refusing w).1 =
      ((dispatch Specimen.settings overdraft).runIn (Memory.backend fun _ => none)
        Specimen.refusing Specimen.world).1 := by
  -- A spend of more than the card holds, and another for which no transaction could be
  -- opened.
  intro overdraft cut w
  have hoverdraft : overdraft.Meets (Memory.backend fun _ => none) Specimen.refusing
      Specimen.settings Specimen.world (.negativeBalance .card ⟨1⟩) := .ended _ rfl
  have hfailures : (dispatch Specimen.settings cut).failures
      (Faulty.backend (Memory.backend fun _ => none)) Specimen.refusing w =
        [⟨.begin, .store (.database "down")⟩] := rfl
  have hcut : cut.Meets (Faulty.backend (Memory.backend fun _ => none)) Specimen.refusing
      Specimen.settings w (.store (.database "down")) :=
    .answered ⟨.begin, _⟩ (hfailures ▸ List.mem_singleton_self _) id
  exact (errors_stay_inside (Memory.backend fun _ => none) Specimen.refusing Specimen.settings
    overdraft Specimen.world).2.2.2 _ _ _ cut w _ _ rfl hoverdraft rfl hcut rfl

theorem failed_note_goes_unseen :
    let s := { Specimen.settings with fees := ⟨.none, ⟨0, 300⟩, .providerCharge⟩ }
    let C := { Specimen.refusing with charge := fun _ _ => some "receipt" }
    let e : Envelope := ⟨"envelope", "transaction", "created", .object [("id", "u"),
      ("type", "spend"), ("spend", .object [("amount", (20 : Int)), ("cardId", "first"),
        ("status", "declined"), ("declinedReason", "insufficient funds")])]⟩
    let w : World (Faulty Memory) :=
      .ofStore ⟨.ofTables Specimen.tables, [⟨.settleFee, .fail (.database "down"), 0, 1⟩]⟩
    let B := Faulty.backend (Memory.backend fun _ => none)
    (dispatch s e).failures B C w =
        [⟨.store (.settleFee (.numbered 0 0) (some "receipt")), .store (.database "down")⟩] ∧
      ((dispatch s e).runIn B C w).1 = .ok ⟨.processed, "created", [("transactionId", "u"),
        ("transactionStatus", "declined"), ("balanceBefore", .int 20),
        ("balanceAfter", .int 20)]⟩ ∧
      ((dispatch s e).runIn B C w).1 ≠ .ok (.internalError e.action) := by
  -- A decline whose fee was collected, but could not be noted as settled.
  refine ⟨rfl, rfl, fun h => ?_⟩
  have houtcome : (Except.ok ⟨.processed, "created", [("transactionId", "u"),
      ("transactionStatus", "declined"), ("balanceBefore", .int 20), ("balanceAfter", .int 20)]⟩ :
        Except LockError Outcome) = .ok (.internalError "created") := h
  cases congrArg List.length (congrArg Outcome.fields (Except.ok.inj houtcome))

end PrepaidLedger
