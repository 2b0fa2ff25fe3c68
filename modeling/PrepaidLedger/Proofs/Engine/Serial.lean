import PrepaidLedger.Proofs.Engine.Incoming

/-! Runs of the engine, one job after another. Each job meets its own locks and its own parties
outside, and effects that were left for later may come at any time. -/

namespace PrepaidLedger

inductive Job
  | event (e : Envelope)
  | sweep (limit : Int)
  | settle
  | clock (now : Timestamp)

structure Turn where
  refusal : LockKey → Option LockError
  parties : Collaborators
  job : Job

namespace Turn

def run (s : Settings) (w : World Memory) (turn : Turn) : World Memory :=
  match turn.job with
  | .event e => ((dispatch s e).runIn (Memory.backend turn.refusal) turn.parties w).2
  | .sweep limit => ((sweepFees limit).runIn (Memory.backend turn.refusal) turn.parties w).2
  | .settle => w.settle (Memory.backend turn.refusal) turn.parties
  | .clock now => { w with store := { w.store with tables := { w.store.tables with now := now } } }

def posts? (turn : Turn) : Option (String × LineKind) :=
  match turn.job with
  | .event e => e.incoming.posts?
  | _ => none

def ledgerEvent? (turn : Turn) : Option (String × LedgerEvent) :=
  match turn.job with
  | .event e => e.incoming.ledgerEvent?
  | _ => none

theorem posts?_of_ledgerEvent? {turn : Turn} {reference : String} {ev : LedgerEvent}
    (h : turn.ledgerEvent? = some (reference, ev)) : turn.posts? = some (reference, ev.kind) := by
  obtain ⟨refusal, parties, job⟩ := turn
  cases job with
  | event e => exact Incoming.posts?_of_ledgerEvent? h
  | _ => cases h

theorem run_of_ledgerEvent? {turn : Turn} {reference : String} {ev : LedgerEvent}
    (h : turn.ledgerEvent? = some (reference, ev)) (s : Settings) (w : World Memory) :
    turn.run s w =
      ((ev.apply s reference).runIn (Memory.backend turn.refusal) turn.parties w).2 := by
  obtain ⟨refusal, parties, job⟩ := turn
  cases job with
  | event e => exact congrArg Prod.snd (runIn_dispatch_of_ledgerEvent? refusal parties s w h)
  | _ => cases h

theorem tables_run (s : Settings) (w : World Memory) (turn : Turn) :
    w.store.tables.Steady (turn.run s w).store.tables ∨ ∃ reference ev,
      turn.ledgerEvent? = some (reference, ev) ∧
        ev.Moves s w.store.tables reference (turn.run s w).store.tables := by
  obtain ⟨refusal, parties, job⟩ := turn
  cases job with
  | event e => exact tables_dispatch refusal parties s w e
  | sweep limit => exact .inl ((Task.asks_sweepFees limit).spares.plain.steady w)
  | settle => exact .inl (w.steady_settle refusal parties)
  | clock now => exact .inl (.of_eq rfl rfl rfl rfl rfl (Nat.le_refl _))

end Turn

def World.after (s : Settings) (w : World Memory) (turns : List Turn) : World Memory :=
  turns.foldl (Turn.run s) w

theorem World.after_append (s : Settings) (w : World Memory) (xs ys : List Turn) :
    w.after s (xs ++ ys) = (w.after s xs).after s ys := List.foldl_append

def Posted (turns : List Turn) (reference : String) (kind : LineKind) : Prop :=
  ∃ turn ∈ turns, turn.posts? = some (reference, kind)

theorem not_posted_of_resource {turns : List Turn}
    (h : ∀ turn ∈ turns, ∀ e, turn.job = .event e → e.resource ≠ "transaction")
    (reference : String) (kind : LineKind) : ¬ Posted turns reference kind := by
  rintro ⟨⟨refusal, parties, job⟩, hmem, hposts⟩
  cases job with
  | event e =>
    change e.incoming.posts? = _ at hposts
    rw [Envelope.posts?_eq_none (h _ hmem e rfl)] at hposts
    cases hposts
  | _ => cases hposts

theorem not_posted_both_of_posts {turns : List Turn} {reference : String} {kind : LineKind}
    (h : ∀ turn ∈ turns, turn.posts? = some (reference, kind)) (reference' : String) :
    ¬ (Posted turns reference' .spend ∧ Posted turns reference' .deposit) := by
  rintro ⟨⟨x, hx, hspend⟩, ⟨y, hy, hdeposit⟩⟩
  rw [h x hx] at hspend
  rw [h y hy] at hdeposit
  cases hspend
  cases hdeposit

theorem World.after_holds {s : Settings} {P : Tables → Prop} {posted : String → LineKind → Prop}
    (hsteady : ∀ t t', P t → t.Steady t' → P t')
    (hcommit : ∀ t reference (ev : LedgerEvent) d card owner, P t → posted reference ev.kind →
      ev.Commits s t reference d card owner →
        P (t.apply (t.changeOf s d.posting card owner)))
    {w : World Memory} (hw : P w.store.tables) (turns : List Turn)
    (hposted : ∀ reference kind, Posted turns reference kind → posted reference kind) :
    P (w.after s turns).store.tables := by
  induction turns generalizing w with
  | nil => exact hw
  | cons turn rest ih =>
    refine ih ?_ fun reference kind ⟨x, hx, hp⟩ =>
      hposted reference kind ⟨x, List.mem_cons_of_mem _ hx, hp⟩
    rcases turn.tables_run s w with h | ⟨reference, ev, hev, d, card, owner, hcommits, h⟩
    · exact hsteady _ _ hw h
    · refine hsteady _ _ (hcommit _ reference ev d card owner hw ?_ hcommits) h
      exact hposted reference ev.kind
        ⟨turn, List.mem_cons_self .., Turn.posts?_of_ledgerEvent? hev⟩

theorem World.after_invariant {s : Settings} {P : Tables → Prop}
    (hsteady : ∀ t t', P t → t.Steady t' → P t')
    (hcommit : ∀ t reference (ev : LedgerEvent) d card owner, P t →
      ev.Commits s t reference d card owner →
        P (t.apply (t.changeOf s d.posting card owner)))
    {w : World Memory} (hw : P w.store.tables) (turns : List Turn) :
    P (w.after s turns).store.tables :=
  @after_holds s P (fun _ _ => True) hsteady
    (fun t reference ev d card owner hP _ h => hcommit t reference ev d card owner hP h) w hw turns
    fun _ _ _ => trivial

theorem World.after_keeps {s : Settings} {P : Tables → Prop} {posted : String → LineKind → Prop}
    (hquiet : ∀ t t', P t → t.Quiet t' → P t')
    (hcommit : ∀ t reference kind d card owner, P t → posted reference kind →
      t.Prepares s reference kind d → t.Carries s d card owner →
        P (t.apply (t.changeOf s d.posting card owner)))
    {w : World Memory} (hw : P w.store.tables) (turns : List Turn)
    (hposted : ∀ reference kind, Posted turns reference kind → posted reference kind) :
    P (w.after s turns).store.tables := by
  refine after_holds (fun t t' hP h => hquiet t t' hP h.quiet)
    (fun t reference ev d card owner hP hp h => ?_) hw turns hposted
  exact hcommit t reference ev.kind d card owner hP hp
    (LedgerEvent.prepares_of_delivery h.delivery_eq) h.carries

end PrepaidLedger
