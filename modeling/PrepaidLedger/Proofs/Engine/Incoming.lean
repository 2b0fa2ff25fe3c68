import PrepaidLedger.Proofs.Engine.Aftermath
import PrepaidLedger.Proofs.Engine.LedgerEvent
import PrepaidLedger.Proofs.Engine.Transaction

/-! What an envelope asks for, apart from who answers it, and what its answer can do to the tables:
one delivery, prepared on the tables it is written to, or nothing but steady changes. -/

namespace PrepaidLedger

inductive Incoming
  | spend (reference : String) (e : SpendEvent)
  | collateral (reference : String) (e : CollateralEvent)
  | authorization (e : SpendEvent)
  | card (e : CardEvent)
  | user (e : UserEvent)
  | contract (e : ContractEvent)
  | closed (o : Outcome)

namespace Incoming

def ofTransaction (action : String) (e : TransactionEvent) : Incoming :=
  match e.kind with
  | "spend" =>
    match e.spend with
    | none => .closed (.invalidPayload action)
    | some event => if action = "requested" then .authorization event else .spend e.id event
  | "collateral" =>
    if action = "requested" then .closed (.unsupportedType action)
    else
      match e.collateral with
      | none => .closed (.invalidPayload action)
      | some event => .collateral e.id event
  | _ => .closed (.unsupportedType action)

def ofPayload {α : Type} (action : String) (read? : Json.Draft → Option α) (body : Json)
    (incoming : α → Incoming) : Incoming :=
  match read? (.ofValue body) with
  | none => .closed (.invalidPayload action)
  | some e => incoming e

def ofRoute (resource action : String) (body : Json) : Incoming :=
  match resource with
  | "transaction" =>
    if action ∈ ["requested", "created", "updated", "completed"] then
      ofPayload action TransactionEvent.read? body (ofTransaction action)
    else .closed (.unknownAction action)
  | "card" =>
    if action = "updated" then ofPayload action CardEvent.read? body .card
    else .closed (.unknownAction action)
  | "user" =>
    if action ∈ ["created", "updated"] then ofPayload action UserEvent.read? body .user
    else .closed (.unknownAction action)
  | "contract" =>
    if action ∈ ["created", "updated"] then ofPayload action ContractEvent.read? body .contract
    else .closed (.unknownAction action)
  | "dispute" => .closed (.ignored action "dispute_not_handled")
  | _ => .closed (.ignored action "unknown_resource")

def answer (s : Settings) (action : String) : Incoming → Task Outcome
  | .spend reference e => do return .ofDelivery action reference (← applySpend s reference e)
  | .collateral reference e => do
    return .ofDelivery action reference (← applyCollateral s reference e)
  | .authorization e => do return .ofAuthorization action (← authorizeSpend e)
  | .card e => do return .ofCard action (← updateCard e)
  | .user e => do return .ofCardUser action (← updateCardUser e)
  | .contract e => do return .ofAddress action (← registerContract e)
  | .closed o => pure o

def posts? : Incoming → Option (String × LineKind)
  | .spend reference _ => some (reference, .spend)
  | .collateral reference _ => some (reference, .deposit)
  | _ => none

def ledgerEvent? : Incoming → Option (String × LedgerEvent)
  | .spend reference e => some (reference, .spend e)
  | .collateral reference e => some (reference, .collateral e)
  | _ => none

theorem posts?_of_ledgerEvent? {incoming : Incoming} {reference : String} {ev : LedgerEvent}
    (h : incoming.ledgerEvent? = some (reference, ev)) :
    incoming.posts? = some (reference, ev.kind) := by
  cases incoming with
  | spend | collateral =>
    obtain ⟨rfl, rfl⟩ := Prod.mk.inj (Option.some.inj h)
    rfl
  | _ => cases h

theorem answer_of_ledgerEvent? (s : Settings) (action : String) {incoming : Incoming}
    {reference : String} {ev : LedgerEvent} (h : incoming.ledgerEvent? = some (reference, ev)) :
    incoming.answer s action =
      (do return .ofDelivery action reference (← ev.apply s reference) : Task Outcome) := by
  cases incoming with
  | spend | collateral =>
    obtain ⟨rfl, rfl⟩ := Prod.mk.inj (Option.some.inj h)
    rfl
  | _ => cases h

theorem asks_answer {incoming : Incoming} (h : incoming.ledgerEvent? = none)
    (s : Settings) (action : String) :
    (incoming.answer s action).Asks Request.IsProfile := by
  have hreturn {α : Type} {task : Task α} (f : α → Outcome) (ht : task.Asks Request.IsProfile) :
      (do return f (← task) : Task Outcome).Asks Request.IsProfile :=
    ht.bind fun a => Task.asks_pure (f a)
  cases incoming with
  | spend | collateral => cases h
  | authorization e => exact hreturn _ (Task.asks_authorizeSpend e)
  | card e => exact hreturn _ (Task.asks_updateCard e)
  | user e => exact hreturn _ ((Task.asks_updateCardUser e).mono fun _ => And.left)
  | contract e => exact hreturn _ ((Task.asks_registerContract e).mono fun _ => And.left)
  | closed o => exact Task.asks_pure o

theorem onTransaction_eq (s : Settings) (action : String) (e : TransactionEvent) :
    onTransaction s action e = (ofTransaction action e).answer s action := by
  obtain ⟨id, kind, spend, collateral⟩ := e
  unfold onTransaction ofTransaction
  dsimp only
  split
  · cases spend with
    | none => rfl
    | some event =>
      dsimp only
      split <;> rfl
  · split
    · rfl
    · cases collateral <;> rfl
  · simp [answer, *]

theorem withPayload_eq {α : Type} (s : Settings) (action : String)
    (read? : Json.Draft → Option α) (body : Json) {reply : α → Task Outcome}
    {incoming : α → Incoming} (h : ∀ e, reply e = (incoming e).answer s action) :
    withPayload action read? body reply =
      (ofPayload action read? body incoming).answer s action := by
  unfold withPayload ofPayload
  cases read? (.ofValue body) with
  | none => rfl
  | some e => exact h e

theorem route_eq (s : Settings) (resource action : String) (body : Json) :
    route s resource action body = (ofRoute resource action body).answer s action := by
  unfold route ofRoute
  split
  · split
    · exact withPayload_eq s action _ body (onTransaction_eq s action)
    · rfl
  · split
    · exact withPayload_eq s action _ body fun _ => rfl
    · rfl
  · split
    · exact withPayload_eq s action _ body fun _ => rfl
    · rfl
  · split
    · exact withPayload_eq s action _ body fun _ => rfl
    · rfl
  · rfl
  · simp [answer, *]

end Incoming

def Envelope.incoming (e : Envelope) : Incoming :=
  .ofRoute e.resource e.action (normalizeBody e.body)

def Incoming.resource? : Incoming → Option String
  | .spend .. | .collateral .. | .authorization _ => some "transaction"
  | .card _ => some "card"
  | .user _ => some "user"
  | .contract _ => some "contract"
  | .closed _ => none

theorem Incoming.resource_of_ofTransaction {action name : String} {e : TransactionEvent}
    (h : (ofTransaction action e).resource? = some name) : "transaction" = name := by
  unfold ofTransaction at h
  split at h
  · split at h
    · cases h
    · split at h <;> exact Option.some.inj h
  · split at h
    · cases h
    · split at h
      · cases h
      · exact Option.some.inj h
  · cases h

theorem Incoming.resource_of_ofRoute {resource action name : String} {body : Json}
    (h : (ofRoute resource action body).resource? = some name) : resource = name := by
  have hpayload {α : Type} {read? : Json.Draft → Option α} {incoming : α → Incoming}
      {expected : String} (h : (ofPayload action read? body incoming).resource? = some name)
      (hname : ∀ a, (incoming a).resource? = some name → expected = name) : expected = name := by
    unfold ofPayload at h
    split at h
    · cases h
    · exact hname _ h
  unfold ofRoute at h
  split at h
  · split at h
    · exact hpayload h fun _ => resource_of_ofTransaction
    · cases h
  · split at h
    · exact hpayload h fun _ => Option.some.inj
    · cases h
  · split at h
    · exact hpayload h fun _ => Option.some.inj
    · cases h
  · split at h
    · exact hpayload h fun _ => Option.some.inj
    · cases h
  · cases h
  · cases h

theorem Envelope.resource_of_incoming {e : Envelope} {name : String}
    (h : e.incoming.resource? = some name) : e.resource = name := Incoming.resource_of_ofRoute h

theorem Envelope.posts?_eq_none {e : Envelope} (h : e.resource ≠ "transaction") :
    e.incoming.posts? = none := by
  cases hi : e.incoming with
  | spend | collateral => exact absurd (resource_of_incoming (by rw [hi]; rfl)) h
  | _ => rfl

/-- An answer that takes no look at the store: it names the action and tells of no success. -/
structure Outcome.IsTurnedAway (action : String) (o : Outcome) : Prop where
  action : o.action = action
  status : o.status = .rejected ∨ o.status = .ignored

theorem Incoming.turnedAway_of_ofTransaction {action : String} {e : TransactionEvent} {o : Outcome}
    (h : ofTransaction action e = .closed o) : o.IsTurnedAway action := by
  unfold ofTransaction at h
  split at h
  · split at h
    · cases h
      exact ⟨rfl, .inl rfl⟩
    · split at h <;> cases h
  · split at h
    · cases h
      exact ⟨rfl, .inr rfl⟩
    · split at h <;> cases h
      exact ⟨rfl, .inl rfl⟩
  · cases h
    exact ⟨rfl, .inr rfl⟩

theorem Incoming.turnedAway_of_ofRoute {resource action : String} {body : Json} {o : Outcome}
    (h : ofRoute resource action body = .closed o) : o.IsTurnedAway action := by
  have hpayload {α : Type} {read? : Json.Draft → Option α} {incoming : α → Incoming}
      (h : ofPayload action read? body incoming = .closed o)
      (hincoming : ∀ a, incoming a = .closed o → o.IsTurnedAway action) :
      o.IsTurnedAway action := by
    unfold ofPayload at h
    split at h
    · cases h
      exact ⟨rfl, .inl rfl⟩
    · exact hincoming _ h
  have hunknown (h : Incoming.closed (.unknownAction action) = .closed o) :
      o.IsTurnedAway action := by
    cases h
    exact ⟨rfl, .inr rfl⟩
  unfold ofRoute at h
  split at h
  · split at h
    · exact hpayload h fun _ => turnedAway_of_ofTransaction
    · exact hunknown h
  · split at h
    · exact hpayload h nofun
    · exact hunknown h
  · split at h
    · exact hpayload h nofun
    · exact hunknown h
  · split at h
    · exact hpayload h nofun
    · exact hunknown h
  · cases h
    exact ⟨rfl, .inr rfl⟩
  · cases h
    exact ⟨rfl, .inr rfl⟩

theorem Envelope.turnedAway_of_closed {e : Envelope} {o : Outcome} (h : e.incoming = .closed o) :
    o.IsTurnedAway e.action := Incoming.turnedAway_of_ofRoute h

theorem runIn_dispatch {σ : Type} (B : Backend σ) (C : Collaborators) (s : Settings)
    (e : Envelope) (w : World σ) :
    (dispatch s e).runIn B C w =
      let (r, w) := (route s e.resource e.action (normalizeBody e.body)).runIn B C w
      (Outcome.ofResult e.action r, w) :=
  Program.run_bind (World.answer B C) _ _ w

theorem runIn_dispatch_answer {σ : Type} (B : Backend σ) (C : Collaborators) (s : Settings)
    (e : Envelope) (w : World σ) :
    (dispatch s e).runIn B C w =
      (Outcome.ofResult e.action ((e.incoming.answer s e.action).runIn B C w).1,
        ((e.incoming.answer s e.action).runIn B C w).2) := by
  rw [runIn_dispatch, Incoming.route_eq]
  rfl

/-! ## What an answer does to the tables -/

structure LedgerEvent.Commits (ev : LedgerEvent) (s : Settings) (t : Tables) (reference : String)
    (d : Delivery) (card : Card) (owner : CardUser) : Prop where
  delivery_eq : ev.delivery s t reference = .ok (.ok d)
  carries : t.Carries s d card owner

def LedgerEvent.Moves (ev : LedgerEvent) (s : Settings) (t : Tables) (reference : String)
    (t' : Tables) : Prop :=
  ∃ d card owner, ev.Commits s t reference d card owner ∧
    (t.apply (t.changeOf s d.posting card owner)).Steady t'

section Answers

variable (refusal : LockKey → Option LockError) (C : Collaborators) (s : Settings)
  (w : World Memory)

theorem Task.runIn_deliver {prepared : Task (Except Dismissal Delivery)}
    {r : Except EngineError (Except Dismissal Delivery)} :
    prepared.runIn (Memory.backend refusal) C w = (r, w) →
    (deliver s prepared).runIn (Memory.backend refusal) C w =
      match r with
      | .error e => (.error e, w)
      | .ok (.error dismissal) => (.ok (.error dismissal), w)
      | .ok (.ok d) =>
        match (writeLocked s d).runIn (Memory.backend refusal) C w with
        | (.ok (.ok a), w) =>
          (.ok (.ok a), ((startEffects s a).runIn (Memory.backend refusal) C w).2)
        | other => other := by
  intro h
  unfold deliver
  rw [runIn_bind, h]
  rcases r with e | dismissal | d
  · rfl
  · rfl
  · dsimp only
    rw [runIn_bind]
    rcases (writeLocked s d).runIn (Memory.backend refusal) C w with ⟨e | dismissal | a, w'⟩
    · rfl
    · rfl
    · dsimp only
      rw [runIn_bind, runIn_ofProgram]
      rfl

theorem Task.tables_writeLocked (d : Delivery) :
    match (writeLocked s d).runIn (Memory.backend refusal) C w with
    | (.ok (.ok a), w') => ∃ c, w.store.tables.change s d = .ok (.ok c) ∧ c.applied = a ∧
        w'.store.tables = w.store.tables.apply c
    | (_, w') => w.store.tables.Steady w'.store.tables := by
  rw [runIn_writeLocked]
  cases refusal d.lockKey with
  | some e => exact .refl _
  | none =>
    dsimp only
    rw [runIn_write]
    rcases w.store.tables.change s d with e | dismissal | c
    · exact .of_eq rfl rfl rfl rfl rfl (Nat.le_succ _)
    · exact .of_eq rfl rfl rfl rfl rfl (Nat.le_succ _)
    · exact ⟨c, rfl, rfl, rfl⟩

theorem LedgerEvent.runIn_apply (reference : String) (ev : LedgerEvent) :
    (ev.apply s reference).runIn (Memory.backend refusal) C w =
      match ev.delivery s w.store.tables reference with
      | .error e => (.error e, w)
      | .ok (.error dismissal) => (.ok (.error dismissal), w)
      | .ok (.ok d) =>
        match (writeLocked s d).runIn (Memory.backend refusal) C w with
        | (.ok (.ok a), w) =>
          (.ok (.ok a), ((startEffects s a).runIn (Memory.backend refusal) C w).2)
        | other => other :=
  Task.runIn_deliver refusal C s w (ev.runIn_prepare refusal C w s reference)

theorem LedgerEvent.tables_apply (reference : String) (ev : LedgerEvent) :
    match (ev.apply s reference).runIn (Memory.backend refusal) C w with
    | (.ok (.ok a), w') => ∃ d card owner, ev.Commits s w.store.tables reference d card owner ∧
        a = (w.store.tables.changeOf s d.posting card owner).applied ∧
        (w.store.tables.apply (w.store.tables.changeOf s d.posting card owner)).Steady
          w'.store.tables
    | (_, w') => w.store.tables.Steady w'.store.tables := by
  rw [runIn_apply]
  cases hd : ev.delivery s w.store.tables reference with
  | error e => exact .refl _
  | ok r =>
  rcases r with dismissal | d
  · exact .refl _
  have hwrite := Task.tables_writeLocked refusal C s w d
  dsimp only
  generalize (writeLocked s d).runIn (Memory.backend refusal) C w = x at hwrite ⊢
  rcases x with ⟨e | dismissal | a, w₁⟩
  · exact hwrite
  · exact hwrite
  obtain ⟨c, hc, rfl, ht⟩ := hwrite
  obtain ⟨card, owner, hcarries, rfl⟩ := Tables.change_eq_ok.mp hc
  refine ⟨d, card, owner, ⟨hd, hcarries⟩, rfl, ?_⟩
  rw [← ht]
  exact Program.steady_startEffects s _ w₁

theorem LedgerEvent.commits_of_applied {reference : String} {ev : LedgerEvent} {a : Applied}
    {w' : World Memory}
    (h : (ev.apply s reference).runIn (Memory.backend refusal) C w = (.ok (.ok a), w')) :
    ∃ d card owner, ev.Commits s w.store.tables reference d card owner ∧
      a = (w.store.tables.changeOf s d.posting card owner).applied ∧
      (w.store.tables.apply (w.store.tables.changeOf s d.posting card owner)).Steady
        w'.store.tables := by
  have hresult := ev.tables_apply refusal C s w reference
  rw [h] at hresult
  exact hresult

theorem LedgerEvent.steady_or_moves (reference : String) (ev : LedgerEvent) :
    let w' := ((ev.apply s reference).runIn (Memory.backend refusal) C w).2
    w.store.tables.Steady w'.store.tables ∨
      ev.Moves s w.store.tables reference w'.store.tables := by
  have hresult := ev.tables_apply refusal C s w reference
  generalize (ev.apply s reference).runIn (Memory.backend refusal) C w = x at hresult ⊢
  rcases x with ⟨e | dismissal | a, w'⟩
  · exact .inl hresult
  · exact .inl hresult
  · obtain ⟨d, card, owner, hcommits, -, hsteady⟩ := hresult
    exact .inr ⟨d, card, owner, hcommits, hsteady⟩

theorem runIn_dispatch_of_ledgerEvent? {e : Envelope} {reference : String} {ev : LedgerEvent}
    (h : e.incoming.ledgerEvent? = some (reference, ev)) :
    let r := (ev.apply s reference).runIn (Memory.backend refusal) C w
    (dispatch s e).runIn (Memory.backend refusal) C w =
      (Outcome.ofResult e.action (r.1.map (.ofDelivery e.action reference)), r.2) := by
  intro r
  rw [runIn_dispatch_answer, Incoming.answer_of_ledgerEvent? s e.action h, Task.runIn_return]

theorem tables_dispatch (e : Envelope) :
    let w' := ((dispatch s e).runIn (Memory.backend refusal) C w).2
    w.store.tables.Steady w'.store.tables ∨ ∃ reference ev,
      e.incoming.ledgerEvent? = some (reference, ev) ∧
        ev.Moves s w.store.tables reference w'.store.tables := by
  intro w'
  cases hev : e.incoming.ledgerEvent? with
  | some event =>
    obtain ⟨reference, ev⟩ := event
    have hw' : w' = ((ev.apply s reference).runIn (Memory.backend refusal) C w).2 :=
      congrArg Prod.snd (runIn_dispatch_of_ledgerEvent? refusal C s w hev)
    rw [hw']
    exact (ev.steady_or_moves refusal C s w reference).imp_right fun h => ⟨reference, ev, rfl, h⟩
  | none =>
    left
    have hw' : w' = ((e.incoming.answer s e.action).runIn (Memory.backend refusal) C w).2 :=
      congrArg Prod.snd (runIn_dispatch_answer (Memory.backend refusal) C s e w)
    rw [hw']
    have hasks := (Incoming.asks_answer hev s e.action).mono fun _ => Request.isPlain_of_isProfile
    exact hasks.steady w

end Answers
end PrepaidLedger
