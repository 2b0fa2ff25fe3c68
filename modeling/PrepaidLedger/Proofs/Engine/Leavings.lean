import PrepaidLedger.Proofs.Engine.Faltering
import PrepaidLedger.Proofs.Profile.Overtaken

/-! What the dispatch of an envelope can leave in the tables, on a store that may fail at any call:
a delivery that was written, a card or an application that was patched, an address that was
registered, or nothing. -/

namespace PrepaidLedger

inductive Envelope.Leaves (s : Settings) (e : Envelope) (t : Tables) : Tables → Prop
  | same {t' : Tables} (rows : t.SameRows t') : Leaves s e t t'
  | posted {t' : Tables} (reference : String) (ev : LedgerEvent) (d : Delivery) (card : Card)
      (owner : CardUser) (event_eq : e.incoming.ledgerEvent? = some (reference, ev))
      (commits : ev.Commits s t reference d card owner)
      (noted : (t.apply (t.changeOf s d.posting card owner)).MayNote
        (t.changeOf s d.posting card owner).applied.line t') : Leaves s e t t'
  | card (event : CardEvent) (card : Card) (event_eq : e.incoming = .card event)
      (card_eq : t.cardByRef? event.cardRef = some card) :
      Leaves s e t (t.call (.patchCard card.id (event.patch card.status))).2
  | user (event : UserEvent) (owner : CardUser) (status : String)
      (event_eq : e.incoming = .user event)
      (owner_eq : t.cardUserByRef? event.userRef = some owner) :
      Leaves s e t (t.call (.setCardUserStatus owner.id status)).2
  | contract (event : ContractEvent) (owner : CardUser) (event_eq : e.incoming = .contract event)
      (owner_eq : t.cardUserByRef? event.userRef = some owner) :
      Leaves s e t
        (t.call (.registerAddress owner.userId event.chainId event.depositAddress)).2

section Dispatch

variable {σ : Type} {B : Backend σ} {C : Collaborators} {view : σ → Memory} {w : World σ}

/-! ## Profiles -/

theorem Task.Relays.tables_of_succeeds {ρ α : Type} {t : Task (Except ρ α)} (hB : B.Falters view)
    (ht : t.Relays False) (h : Succeeds (t.runIn B C w).1) :
    (view (t.runIn B C w).2.store).tables =
      (t.runIn (Memory.backend fun _ => none) C (w.seenAs view)).2.store.tables := by
  have hrun (a : Except ρ α) := ht.runIn_seenAs (C := C) (w := w) (a := a) hB
  generalize t.runIn B C w = x at h hrun ⊢
  rcases x with ⟨e | a, w'⟩
  · exact h.elim
  · rw [hrun a rfl]
    rfl

section Memory

variable (refusal : LockKey → Option LockError) (w : World Memory)

theorem Task.tables_updateCard (e : CardEvent) :
    ((updateCard e).runIn (Memory.backend refusal) C w).2.store.tables =
      match w.store.tables.cardByRef? e.cardRef with
      | some card => (w.store.tables.call (.patchCard card.id (e.patch card.status))).2
      | none => w.store.tables := by
  rw [runIn_updateCard]
  cases w.store.tables.cardByRef? e.cardRef <;> rfl

theorem Task.tables_updateCardUser (e : UserEvent) :
    ((updateCardUser e).runIn (Memory.backend refusal) C w).2.store.tables =
      match w.store.tables.cardUserByRef? e.userRef, e.applicationStatus with
      | some owner, some status => (w.store.tables.call (.setCardUserStatus owner.id status)).2
      | _, _ => w.store.tables := by
  unfold updateCardUser
  rw [runIn_bind, runIn_read refusal C w (a := w.store.tables.cardUserByRef? e.userRef) rfl]
  cases w.store.tables.cardUserByRef? e.userRef with
  | none => rfl
  | some owner =>
    cases e.applicationStatus with
    | none => rfl
    | some status =>
      dsimp only
      rw [runIn_bind, runIn_store]
      dsimp only
      split <;> rfl

theorem Task.tables_registerContract (e : ContractEvent) :
    ((registerContract e).runIn (Memory.backend refusal) C w).2.store.tables =
      match w.store.tables.cardUserByRef? e.userRef with
      | some owner =>
        (w.store.tables.call (.registerAddress owner.userId e.chainId e.depositAddress)).2
      | none => w.store.tables := by
  unfold registerContract
  rw [runIn_bind, runIn_read refusal C w (a := w.store.tables.cardUserByRef? e.userRef) rfl]
  cases w.store.tables.cardUserByRef? e.userRef <;> rfl

end Memory

/-! ## Dispatch -/

theorem Envelope.leaves_of_succeeds {ρ α : Type} {s : Settings} {e : Envelope}
    {t : Task (Except ρ α)}
    (ht : t.TracelessUnless B C (fun s => (view s).tables) Task.Succeeds)
    (h : Task.Succeeds (t.runIn B C w).1 →
      e.Leaves s (view w.store).tables (view (t.runIn B C w).2.store).tables) :
    e.Leaves s (view w.store).tables (view (t.runIn B C w).2.store).tables := by
  by_cases hs : Task.Succeeds (t.runIn B C w).1
  · exact h hs
  · exact .same (ht w hs).rows

theorem Envelope.leaves_dispatch (hB : B.Falters view) (s : Settings) (e : Envelope) :
    e.Leaves s (view w.store).tables (view ((dispatch s e).runIn B C w).2.store).tables := by
  rw [runIn_dispatch_answer]
  cases hev : e.incoming.ledgerEvent? with
  | some event =>
    obtain ⟨reference, ev⟩ := event
    rw [Incoming.answer_of_ledgerEvent? s e.action hev, Task.runIn_return]
    have hprepare := LedgerEvent.traceless_prepare (C := C) hB.isolates s reference ev
    refine leaves_of_succeeds (Task.tracelessUnless_deliver hB.isolates s hprepare) fun h => ?_
    obtain ⟨d, card, owner, hcommits, hnoted⟩ := ev.tables_apply_of_succeeds hB s reference h
    exact .posted reference ev d card owner hev hcommits hnoted
  | none =>
  cases hi : e.incoming with
  | spend | collateral =>
    rw [hi] at hev
    cases hev
  | authorization event =>
    dsimp only [Incoming.answer]
    rw [Task.runIn_return]
    exact .same (Task.traceless_authorizeSpend hB.isolates event w not_false).rows
  | card event =>
    dsimp only [Incoming.answer]
    rw [Task.runIn_return]
    refine leaves_of_succeeds (Task.tracelessUnless_updateCard hB.isolates event) fun h => ?_
    rw [(Task.relays_updateCard event).tables_of_succeeds hB h, Task.tables_updateCard]
    split
    next card hcard => exact .card event card hi hcard
    · exact .same (.refl _)
  | user event =>
    dsimp only [Incoming.answer]
    rw [Task.runIn_return]
    refine leaves_of_succeeds (Task.tracelessUnless_updateCardUser hB.isolates event) fun h => ?_
    rw [(Task.relays_updateCardUser event).tables_of_succeeds hB h, Task.tables_updateCardUser]
    split
    next owner status howner hstatus => exact .user event owner status hi howner
    · exact .same (.refl _)
  | contract event =>
    dsimp only [Incoming.answer]
    rw [Task.runIn_return]
    refine leaves_of_succeeds (Task.tracelessUnless_registerContract hB.isolates event) fun h => ?_
    rw [(Task.relays_registerContract event).tables_of_succeeds hB h, Task.tables_registerContract]
    split
    next owner howner => exact .contract event owner hi howner
    · exact .same (.refl _)
  | closed o => exact .same (.refl _)

end Dispatch
end PrepaidLedger
