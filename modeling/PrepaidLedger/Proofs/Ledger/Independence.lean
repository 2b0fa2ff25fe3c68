import PrepaidLedger.Proofs.Ledger.Sweep
import PrepaidLedger.Proofs.Profile.Delivered

/-! The parties outside have no say in the ledger. Two runs of the same jobs under the same locks,
whose provider and whose receiver of messages answer differently, give the same outcomes and end in
tables that differ in the settlement of fees alone. What those answers leave behind is never read by
anything that is decided later. -/

namespace PrepaidLedger

/-! ## Decisions on settled lines -/

theorem Line.SettlesTo.symm {l l' : Line} (h : l.SettlesTo l') : l'.SettlesTo l := by
  unfold SettlesTo at h ⊢
  rw [h]

theorem Line.SettlesTo.snapshot_eq {l l' : Line} (h : l.SettlesTo l') :
    l'.snapshot = l.snapshot := by rw [h]; rfl

namespace Tables

variable {s : Settings} {t t' : Tables} {p : Posting} {d : Delivery} {card : Card}
  {owner : CardUser}

def admitted (s : Settings) (t : Tables) (d : Delivery) :
    Except EngineError (Except Dismissal (Card × CardUser)) :=
  match t.card? d.cardId, t.cardUser? d.cardUserId with
  | none, _ => .error (.missing .card (.assigned d.cardId))
  | some _, none => .error (.missing .cardUser (.assigned d.cardUserId))
  | some card, some owner =>
    match (t.verdictOn s d.posting).dismissal? with
    | some dismissal => .ok (.error dismissal)
    | none => (t.checkBalances d.posting card owner).map fun _ => .ok (card, owner)

theorem change_eq_map (s : Settings) (t : Tables) (d : Delivery) :
    t.change s d =
      (t.admitted s d).map (Except.map fun x => t.changeOf s d.posting x.1 x.2) := by
  unfold change admitted
  cases t.card? d.cardId with
  | none => rfl
  | some card =>
  cases t.cardUser? d.cardUserId with
  | none => rfl
  | some owner =>
  dsimp only
  cases (t.verdictOn s d.posting).dismissal? with
  | some dismissal => rfl
  | none => cases t.checkBalances d.posting card owner <;> rfl

namespace Settles

theorem symm (h : t.Settles t') : t'.Settles t where
  others := by rw [h.others]
  lines := h.lines.flip.imp fun _ _ hl => Line.SettlesTo.symm hl

theorem snapshotFor (h : t.Settles t') (p : Posting) :
    (t'.storedFor p).map (·.snapshot) = (t.storedFor p).map (·.snapshot) := by
  have hrel := h.quiet.rel_lineByRef? p.reference
  unfold Tables.storedFor
  generalize t.lineByRef? p.reference = l, t'.lineByRef? p.reference = l' at hrel ⊢
  cases hrel with
  | none => rfl
  | some hl => exact congrArg some hl.snapshot_eq

theorem verdictOn_eq (h : t.Settles t') (p : Posting) : t'.verdictOn s p = t.verdictOn s p := by
  unfold Tables.verdictOn
  rw [h.snapshotFor]

theorem deltaOf_eq (h : t.Settles t') (p : Posting) : t'.deltaOf p = t.deltaOf p := by
  unfold Tables.deltaOf
  rw [h.snapshotFor]

theorem card?_eq (h : t.Settles t') (id : Uuid) : t'.card? id = t.card? id := by
  rw [h.others]
  rfl

theorem cardUser?_eq (h : t.Settles t') (id : Uuid) : t'.cardUser? id = t.cardUser? id := by
  rw [h.others]
  rfl

theorem parties_eq (h : t.Settles t') (ev : LedgerEvent) : ev.parties t' = ev.parties t := by
  rw [h.others]
  cases ev <;> rfl

theorem screen_eq (h : t.Settles t') (card : Card) (owner : CardUser) (p : Posting) :
    t'.screen s card owner p = t.screen s card owner p := by
  have hrel := h.quiet.rel_lineByRef? p.reference
  have hother : (t'.storedFor p).any (·.cardId ≠ card.id) =
      (t.storedFor p).any (·.cardId ≠ card.id) := by
    unfold Tables.storedFor
    generalize t.lineByRef? p.reference = l, t'.lineByRef? p.reference = l' at hrel ⊢
    cases hrel with
    | none => rfl
    | some hl => rw [hl]; rfl
  unfold Tables.screen
  rw [hother, h.verdictOn_eq]

theorem delivery_eq (h : t.Settles t') (ev : LedgerEvent) (reference : String) :
    ev.delivery s t' reference = ev.delivery s t reference := by
  have hscreen (card : Card) (owner : CardUser) :
      t'.screen s card owner = t.screen s card owner := funext fun p => h.screen_eq card owner p
  unfold LedgerEvent.delivery
  simp only [h.parties_eq, hscreen]

theorem checkBalances_eq (h : t.Settles t') (p : Posting) (card : Card) (owner : CardUser) :
    t'.checkBalances p card owner = t.checkBalances p card owner := by
  have hskew : t'.balanceSkew = t.balanceSkew := by rw [h.others]
  unfold Tables.checkBalances
  rw [h.deltaOf_eq, hskew]

theorem admitted_eq (h : t.Settles t') (d : Delivery) : t'.admitted s d = t.admitted s d := by
  unfold Tables.admitted
  simp only [h.card?_eq, h.cardUser?_eq, h.verdictOn_eq, h.checkBalances_eq]

/-! ### What is written -/

theorem cardOf_eq (h : t.Settles t') (p : Posting) (card : Card) :
    t'.cardOf s p card = t.cardOf s p card := by
  have hnow : t'.now = t.now := by rw [h.others]
  unfold Tables.cardOf
  rw [h.deltaOf_eq, hnow]

theorem ownerOf_eq (h : t.Settles t') (p : Posting) (owner : CardUser) :
    t'.ownerOf p owner = t.ownerOf p owner := by
  have hnow : t'.now = t.now := by rw [h.others]
  unfold Tables.ownerOf
  rw [h.deltaOf_eq, hnow]

theorem lineOf (h : t.Settles t') (p : Posting) (card : Card) (owner : CardUser) :
    (t.lineOf p card owner).SettlesTo (t'.lineOf p card owner) := by
  have hmovement : t'.movementOf p card = t.movementOf p card := by
    unfold Tables.movementOf
    rw [h.deltaOf_eq]
  have hbatches : t'.batches = t.batches := by rw [h.others]
  have hnow : t'.now = t.now := by rw [h.others]
  have hstored := h.quiet.rel_lineByRef? p.reference
  unfold Tables.lineOf Tables.storedFor
  rw [hmovement, hbatches, hnow]
  generalize t.lineByRef? p.reference = l, t'.lineByRef? p.reference = l' at hstored ⊢
  cases hstored with
  | none => exact .refl _
  | @some l l' hl =>
    -- The patch goes to the row of the line's identity, which is related on its own.
    have hrow : ((t.line? l.id).getD l).SettlesTo ((t'.line? l'.id).getD l') := by
      have hrel := rowOf?_forall₂ (fun _ _ hl => Line.SettlesTo.id_eq hl) h.lines l.id
      rw [hl.id_eq]
      unfold Tables.line?
      generalize rowOf? Line.id l.id t.lines = r, rowOf? Line.id l.id t'.lines = r' at hrel ⊢
      cases hrel with
      | none => exact hl
      | some hr => exact hr
    dsimp only
    generalize (t.line? l.id).getD l = r, (t'.line? l'.id).getD l' = r' at hrow ⊢
    rw [hrow]
    rfl

theorem entryOf_eq (h : t.Settles t') (p : Posting) (card : Card) (owner : CardUser) :
    t'.entryOf p card owner = t.entryOf p card owner := by
  have hline := h.lineOf p card owner
  have hstored : (t'.storedFor p).isNone = (t.storedFor p).isNone := by
    have hsnapshot := congrArg Option.isNone (h.snapshotFor p)
    simpa only [Option.isNone_map] using hsnapshot
  have hmade : t'.linesMade p = t.linesMade p := by
    unfold Tables.linesMade
    rw [hstored]
  have hnew : p.newEntry card (t'.lineOf p card owner) =
      p.newEntry card (t.lineOf p card owner) := by
    rw [hline]
    rfl
  have hpatch : p.entryPatch (t'.lineOf p card owner) = p.entryPatch (t.lineOf p card owner) := by
    rw [hline]
    rfl
  unfold Tables.entryOf
  dsimp only
  rw [hnew, hpatch, hmade, h.others]
  rfl

theorem apply (h : t.Settles t') (p : Posting) (card : Card) (owner : CardUser) :
    (t.apply (t.changeOf s p card owner)).Settles (t'.apply (t'.changeOf s p card owner)) where
  others := by
    unfold Tables.apply Tables.changeOf
    dsimp only
    rw [h.cardOf_eq, h.ownerOf_eq, h.entryOf_eq]
    rw [h.others]
  lines := forall₂_putRow_both (fun _ _ hl => Line.SettlesTo.id_eq hl) h.lines
    (h.lineOf p card owner)

theorem numbered (h : t.Settles t') : t.numbered.Settles t'.numbered where
  others := by
    unfold Tables.numbered
    rw [h.others]
  lines := h.lines

end Settles
end Tables

/-! ## Deliveries -/

namespace LedgerEvent

variable {s : Settings} {t t' : Tables} {refusal : LockKey → Option LockError}
  {reference : String}

theorem ofDelivery_eq {a a' : Applied} (h : a.line.SettlesTo a'.line)
    (action reference : String) :
    Outcome.ofDelivery action reference (.ok a') = Outcome.ofDelivery action reference (.ok a) := by
  -- An answer shows nothing of a line that tells whether its fee is settled.
  unfold Outcome.ofDelivery
  dsimp only
  rw [h]

theorem outcome_eq (h : t.Settles t') (ev : LedgerEvent) (action : String) :
    (ev.result s refusal reference t').map (Outcome.ofDelivery action reference) =
      (ev.result s refusal reference t).map (Outcome.ofDelivery action reference) := by
  unfold result
  rw [h.delivery_eq]
  rcases ev.delivery s t reference with e | dismissal | d
  · rfl
  · rfl
  dsimp only
  cases refusal d.lockKey with
  | some e => rfl
  | none =>
    dsimp only
    rw [Tables.change_eq_map, Tables.change_eq_map, h.admitted_eq]
    rcases t.admitted s d with e | dismissal | ⟨card, owner⟩
    · rfl
    · rfl
    · have hline : (t.changeOf s d.posting card owner).applied.line.SettlesTo
          (t'.changeOf s d.posting card owner).applied.line := h.lineOf d.posting card owner
      exact congrArg Except.ok (ofDelivery_eq hline action reference)

theorem settles_outcomes (h : t.Settles t') (ev : LedgerEvent) :
    (ev.outcome s refusal reference t).Settles (ev.outcome s refusal reference t') := by
  unfold outcome
  rw [h.delivery_eq]
  rcases ev.delivery s t reference with e | dismissal | d
  · exact h
  · exact h
  dsimp only
  cases refusal d.lockKey with
  | some e => exact h
  | none =>
    dsimp only
    rw [Tables.change_eq_map, Tables.change_eq_map, h.admitted_eq]
    rcases t.admitted s d with e | dismissal | ⟨card, owner⟩
    · exact h.numbered
    · exact h.numbered
    · exact h.apply d.posting card owner

end LedgerEvent

/-! ## Profile events -/

theorem Tables.call_withLines (t : Tables) {c : StoreCall} (h : (Request.store c).IsProfile)
    (lines : List Line) :
    ({ t with lines := lines } : Tables).call c =
      ((t.call c).1, { (t.call c).2 with lines := lines }) ∧ (t.call c).2.lines = t.lines := by
  cases c with
  | lineByRef | settleFee | unsettledFees => exact h.elim
  | registerAddress userId chainId address =>
    unfold call registerAddress
    dsimp only
    rw [show ({ t with lines := lines } : Tables).address? chainId address =
      t.address? chainId address from rfl]
    cases t.address? chainId address <;> exact ⟨rfl, rfl⟩
  | patchCard id patch =>
    unfold call
    dsimp only
    rw [show ({ t with lines := lines } : Tables).card? id = t.card? id from rfl]
    cases t.card? id <;> exact ⟨rfl, rfl⟩
  | setCardUserStatus id status =>
    unfold call
    dsimp only
    rw [show ({ t with lines := lines } : Tables).cardUser? id = t.cardUser? id from rfl]
    cases t.cardUser? id <;> exact ⟨rfl, rfl⟩
  | _ => exact ⟨rfl, rfl⟩

section Runs

variable {α : Type} {refusal : LockKey → Option LockError} {C C' : Collaborators}
  {w w' : World Memory}

structure EndsAlike (x x' : α × World Memory) : Prop where
  result : x'.1 = x.1
  tables : x.2.store.tables.Settles x'.2.store.tables

theorem World.endsAlike_answer {r : Request} (hr : r.IsProfile)
    (h : w.store.tables.Settles w'.store.tables) :
    EndsAlike (World.answer (Memory.backend refusal) C r w)
      (World.answer (Memory.backend refusal) C' r w') := by
  cases r with
  | store c =>
    obtain ⟨hcall, hlines⟩ := w.store.tables.call_withLines hr w'.store.tables.lines
    rw [← h.others] at hcall
    have hreply : (w'.store.tables.call c).1 = (w.store.tables.call c).1 := by rw [hcall]
    have hafter : (w.store.tables.call c).2.Settles (w'.store.tables.call c).2 := by
      rw [hcall]
      refine ⟨rfl, ?_⟩
      rw [hlines]
      exact h.lines
    exact ⟨congrArg Except.ok hreply, hafter⟩
  | _ => exact hr.elim

theorem Program.Asks.endsAlike {p : Program α} (hp : p.Asks Request.IsProfile)
    (h : w.store.tables.Settles w'.store.tables) :
    EndsAlike (p.runIn (Memory.backend refusal) C w) (p.runIn (Memory.backend refusal) C' w') := by
  induction p generalizing w w' with
  | done a => exact ⟨rfl, h⟩
  | ask r next ih =>
    have hanswer : EndsAlike (World.answer (Memory.backend refusal) C r w)
        (World.answer (Memory.backend refusal) C' r w') := World.endsAlike_answer hp.1 h
    have hnext : (Program.ask r next).runIn (Memory.backend refusal) C' w' =
        (next (World.answer (Memory.backend refusal) C r w).1).runIn (Memory.backend refusal) C'
          (World.answer (Memory.backend refusal) C' r w').2 := by
      rw [← hanswer.result]
      rfl
    rw [hnext]
    exact ih _ (hp.2 _) hanswer.tables

theorem Task.Asks.endsAlike {task : Task α} (ht : task.Asks Request.IsProfile)
    (h : w.store.tables.Settles w'.store.tables) :
    EndsAlike (task.runIn (Memory.backend refusal) C w)
      (task.runIn (Memory.backend refusal) C' w') :=
  Program.Asks.endsAlike (p := task.run) ht h

/-! ## Envelopes -/

theorem LedgerEvent.endsAlike_answer (h : w.store.tables.Settles w'.store.tables)
    (ev : LedgerEvent) (s : Settings) (action reference : String) :
    EndsAlike
      ((do return .ofDelivery action reference (← ev.apply s reference) : Task Outcome).runIn
        (Memory.backend refusal) C w)
      ((do return .ofDelivery action reference (← ev.apply s reference) : Task Outcome).runIn
        (Memory.backend refusal) C' w') := by
  have hmine := ev.settles_outcome s refusal C reference w
  have htheirs := ev.settles_outcome s refusal C' reference w'
  have houtcomes : (ev.outcome s refusal reference w.store.tables).Settles
      (ev.outcome s refusal reference w'.store.tables) := settles_outcomes h ev
  rw [Task.runIn_return, Task.runIn_return, ev.result_eq, ev.result_eq]
  exact ⟨outcome_eq h ev action, hmine.symm.trans (houtcomes.trans htheirs)⟩

theorem Incoming.endsAlike_answer (h : w.store.tables.Settles w'.store.tables)
    (incoming : Incoming) (s : Settings) (action : String) :
    EndsAlike ((incoming.answer s action).runIn (Memory.backend refusal) C w)
      ((incoming.answer s action).runIn (Memory.backend refusal) C' w') := by
  cases hev : incoming.ledgerEvent? with
  | some event =>
    obtain ⟨reference, ev⟩ := event
    rw [answer_of_ledgerEvent? s action hev]
    exact ev.endsAlike_answer h s action reference
  | none => exact (asks_answer hev s action).endsAlike h

theorem endsAlike_dispatch (h : w.store.tables.Settles w'.store.tables) (s : Settings)
    (e : Envelope) :
    EndsAlike ((dispatch s e).runIn (Memory.backend refusal) C w)
      ((dispatch s e).runIn (Memory.backend refusal) C' w') := by
  rw [runIn_dispatch_answer, runIn_dispatch_answer]
  have halike : EndsAlike
      ((e.incoming.answer s e.action).runIn (Memory.backend refusal) C w)
      ((e.incoming.answer s e.action).runIn (Memory.backend refusal) C' w') :=
    e.incoming.endsAlike_answer h s e.action
  exact ⟨congrArg (Outcome.ofResult e.action) halike.result, halike.tables⟩

/-! ## Sweeps and effects -/

theorem World.settles_answer_of_isSweep {r : Request} (h : r.IsSweep) (w : World Memory) :
    w.store.tables.Settles (World.answer (Memory.backend refusal) C r w).2.store.tables := by
  cases r with
  | store c =>
    cases c with
    | unsettledFees | cardUserById => exact .refl _
    | settleFee => exact World.settles_answer (r := .store (.settleFee ..)) trivial w
    | _ => exact h.elim
  | charge => exact .refl _
  | _ => exact h.elim

theorem Task.settles_sweepFees (refusal : LockKey → Option LockError) (C : Collaborators)
    (limit : Int) (w : World Memory) :
    w.store.tables.Settles
      ((sweepFees limit).runIn (Memory.backend refusal) C w).2.store.tables :=
  Program.Asks.keeps (p := (sweepFees limit).run)
    (R := fun w w' : World Memory => w.store.tables.Settles w'.store.tables)
    (fun _ => .refl _) (fun _ _ _ h h' => h.trans h')
    (fun _ w h => World.settles_answer_of_isSweep h w) (asks_sweepFees limit) w

theorem World.settles_settle (refusal : LockKey → Option LockError) (C : Collaborators)
    (w : World Memory) :
    w.store.tables.Settles (w.settle (Memory.backend refusal) C).store.tables := by
  have hfold (as : List Applied) (w : World Memory) : w.store.tables.Settles (as.foldl (fun w a =>
      ((runEffects a).runIn (Memory.backend refusal) C w).2) w).store.tables := by
    induction as generalizing w with
    | nil => exact .refl _
    | cons a rest ih => exact ((Program.asks_runEffects a).settles w).trans (ih _)
  exact hfold w.deferred { w with deferred := [] }

end Runs

/-! ## Runs -/

def Turn.reply? (s : Settings) (w : World Memory) (turn : Turn) :
    Option (Except LockError Outcome) :=
  match turn.job with
  | .event e => some ((dispatch s e).runIn (Memory.backend turn.refusal) turn.parties w).1
  | _ => none

def World.replies (s : Settings) : World Memory → List Turn → List (Except LockError Outcome)
  | _, [] => []
  | w, turn :: rest => (turn.reply? s w).toList ++ replies s (turn.run s w) rest

def Turn.withParties (turn : Turn) (parties : Collaborators) : Turn :=
  { turn with parties := parties }

theorem Turn.endsAlike_run {w w' : World Memory} (h : w.store.tables.Settles w'.store.tables)
    (s : Settings) (turn : Turn) (parties : Collaborators) :
    EndsAlike (turn.reply? s w, turn.run s w)
      ((turn.withParties parties).reply? s w', (turn.withParties parties).run s w') := by
  obtain ⟨refusal, mine, job⟩ := turn
  cases job with
  | event e =>
    have halike : EndsAlike ((dispatch s e).runIn (Memory.backend refusal) mine w)
        ((dispatch s e).runIn (Memory.backend refusal) parties w') := endsAlike_dispatch h s e
    exact ⟨congrArg some halike.result, halike.tables⟩
  | sweep limit =>
    have hmine := Task.settles_sweepFees refusal mine limit w
    have htheirs := Task.settles_sweepFees refusal parties limit w'
    exact ⟨rfl, hmine.symm.trans (h.trans htheirs)⟩
  | settle =>
    have hmine := w.settles_settle refusal mine
    have htheirs := w'.settles_settle refusal parties
    exact ⟨rfl, hmine.symm.trans (h.trans htheirs)⟩
  | clock now =>
    refine ⟨rfl, ?_, h.lines⟩
    change ({ w'.store.tables with now := now } : Tables) =
      { { w.store.tables with now := now } with lines := w'.store.tables.lines }
    rw [h.others]

/-- However the card provider and the receiver of messages answer, and in whatever turns they change
their answers, every envelope has the same outcome, and the tables end the same but for what the
lines tell of the settlement of their fees. -/
theorem parties_outside_have_no_say (s : Settings) (w : World Memory)
    (turns : List (Turn × Collaborators)) :
    let mine := turns.map Prod.fst
    let theirs := turns.map fun x => x.1.withParties x.2
    w.replies s theirs = w.replies s mine ∧
      (w.after s mine).store.tables.Settles (w.after s theirs).store.tables := by
  -- The two runs part with the first answer, so the induction is on two worlds.
  have hruns (w w' : World Memory) (h : w.store.tables.Settles w'.store.tables) :
      w'.replies s (turns.map fun x => x.1.withParties x.2) =
          w.replies s (turns.map Prod.fst) ∧
        (w.after s (turns.map Prod.fst)).store.tables.Settles
          (w'.after s (turns.map fun x => x.1.withParties x.2)).store.tables := by
    induction turns generalizing w w' with
    | nil => exact ⟨rfl, h⟩
    | cons x rest ih =>
      have halike := x.1.endsAlike_run h s x.2
      obtain ⟨hreplies, htables⟩ := ih _ _ halike.tables
      refine ⟨?_, htables⟩
      exact congrArg₂ (· ++ ·) (congrArg Option.toList halike.result) hreplies
  exact hruns w w (.refl _)

example :
    let turns := [Specimen.declinedTurn, ⟨fun _ => none, Specimen.refusing, .sweep 10⟩]
    let settled (turns : List Turn) :=
      (Specimen.world.after Specimen.charging turns).store.tables.lines.map (·.feeSettled)
    settled turns = [false] ∧ settled (turns.map (·.withParties Specimen.accepting)) = [true] := by
  decide +kernel

end PrepaidLedger
