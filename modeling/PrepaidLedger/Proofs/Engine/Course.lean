import PrepaidLedger.Proofs.Engine.CardLocks

/-! The course of a turn where effects run at once. A turn stays aside of the lines and of the
parties outside, or sweeps, or carries out one delivery and runs its effects. -/

namespace PrepaidLedger

structure World.Aside (w w' : World Memory) : Prop where
  lines : w'.store.tables.lines = w.store.tables.lines
  outbound : w'.outbound = w.outbound
  deferred : w'.deferred = w.deferred

namespace World

variable {refusal : LockKey → Option LockError} {C : Collaborators} {w w₁ w₂ w₃ : World Memory}

theorem Aside.refl (w : World Memory) : w.Aside w := ⟨rfl, rfl, rfl⟩

theorem Aside.trans (h : w₁.Aside w₂) (h' : w₂.Aside w₃) : w₁.Aside w₃ :=
  ⟨h'.lines.trans h.lines, h'.outbound.trans h.outbound, h'.deferred.trans h.deferred⟩

theorem Untouched.aside (h : w₁.Untouched Memory.tables w₂) : w₁.Aside w₂ :=
  ⟨h.rows.lines, h.outbound, h.deferred⟩

theorem aside_answer {r : Request} (h : r.IsProfile) (w : World Memory) :
    w.Aside (World.answer (Memory.backend refusal) C r w).2 := by
  cases r with
  | store c =>
    have hlines : (w.store.tables.call c).2.lines = w.store.tables.lines := by
      unfold Tables.call
      cases c with
      | lineByRef | settleFee | unsettledFees => exact h.elim
      | registerAddress userId chainId address =>
        unfold Tables.registerAddress
        dsimp only
        split <;> rfl
      | patchCard | setCardUserStatus =>
        dsimp only
        split <;> rfl
      | _ => rfl
    exact ⟨hlines, rfl, rfl⟩
  | _ => exact h.elim

end World

theorem Task.Asks.aside {α : Type} {refusal : LockKey → Option LockError} {C : Collaborators}
    {task : Task α} (ht : task.Asks Request.IsProfile) (w : World Memory) :
    w.Aside (task.runIn (Memory.backend refusal) C w).2 :=
  Program.Asks.keeps (R := World.Aside) .refl (fun _ _ _ h h' => h.trans h')
    (fun _ w h => World.aside_answer h w) (p := task.run) ht w

theorem Turn.aside_run {turn : Turn} {e : Envelope} (hjob : turn.job = .event e)
    (h : e.incoming.ledgerEvent? = none) (s : Settings) (w : World Memory) :
    w.Aside (turn.run s w) ∧ w.store.tables.Steady (turn.run s w).store.tables := by
  obtain ⟨refusal, parties, job⟩ := turn
  obtain rfl : job = .event e := hjob
  have hasks := Incoming.asks_answer h s e.action
  have hrun : Turn.run s w ⟨refusal, parties, .event e⟩ =
      ((e.incoming.answer s e.action).runIn (Memory.backend refusal) parties w).2 :=
    congrArg Prod.snd (runIn_dispatch_answer (Memory.backend refusal) parties s e w)
  rw [hrun]
  exact ⟨hasks.aside w, (hasks.mono fun _ => Request.isPlain_of_isProfile).steady w⟩

/-! ## Courses -/

inductive Turn.Course (s : Settings) (w : World Memory) (turn : Turn) : Prop
  | aside (h : w.Aside (turn.run s w)) (steady : w.store.tables.Steady (turn.run s w).store.tables)
  | swept (limit : Int)
      (run_eq : turn.run s w =
        ((sweepFees limit).runIn (Memory.backend turn.refusal) turn.parties w).2)
  | committed (reference : String) (ev : LedgerEvent) (d : Delivery) (card : Card)
      (owner : CardUser) (commits : ev.Commits s w.store.tables reference d card owner)
      (run_eq : turn.run s w =
        ((runEffects (w.store.tables.changeOf s d.posting card owner).applied).runIn
          (Memory.backend turn.refusal) turn.parties
          (w.resting (w.store.tables.apply
            (w.store.tables.changeOf s d.posting card owner)))).2)

theorem Turn.Course.of_aside {s : Settings} {w w' : World Memory} {turn : Turn}
    (hrun : turn.run s w = w') (haside : w.Aside w')
    (hsteady : w.store.tables.Steady w'.store.tables) : turn.Course s w := by
  subst hrun
  exact .aside haside hsteady

theorem Turn.course {s : Settings} (hs : s.effects = .inline) {w : World Memory}
    (hw : w.deferred = []) (turn : Turn) : turn.Course s w := by
  cases hev : turn.ledgerEvent? with
  | some event =>
    obtain ⟨reference, ev⟩ := event
    have hrun := run_of_ledgerEvent? hev s w
    rcases ev.runIn_apply_cases turn.refusal turn.parties s w reference with
      ⟨-, hsteady, huntouched⟩ | ⟨d, card, owner, hcommits, hresult⟩
    · exact .of_aside hrun huntouched.aside hsteady
    · refine .committed reference ev d card owner hcommits ?_
      rw [hrun, hresult]
      unfold startEffects
      rw [hs]
  | none =>
    cases hjob : turn.job with
    | event e =>
      have hposts : e.incoming.ledgerEvent? = none := by
        unfold ledgerEvent? at hev
        rwa [hjob] at hev
      obtain ⟨haside, hsteady⟩ := turn.aside_run hjob hposts s w
      exact .aside haside hsteady
    | sweep limit =>
      refine .swept limit ?_
      unfold run
      rw [hjob]
    | settle =>
      have hrun : turn.run s w = w := by
        unfold run
        rw [hjob]
        exact World.settle_of_none_deferred _ _ hw
      exact .of_aside hrun (.refl w) (.refl _)
    | clock now =>
      have hrun : turn.run s w = { w with
          store := { w.store with tables := { w.store.tables with now := now } } } := by
        unfold run
        rw [hjob]
      exact .of_aside hrun ⟨rfl, rfl, rfl⟩ (.of_eq rfl rfl rfl rfl rfl (Nat.le_refl _))

theorem Turn.deferred_run_inline {s : Settings} (hs : s.effects = .inline) {w : World Memory}
    (hw : w.deferred = []) (turn : Turn) : (turn.run s w).deferred = [] := by
  cases turn.course hs hw with
  | aside h _ => exact h.deferred.trans hw
  | swept limit hrun =>
    rw [hrun]
    exact ((Task.asks_sweepFees limit).spares.plain.still w).deferred.trans hw
  | committed reference ev d card owner _ hrun =>
    rw [hrun, (Program.runIn_runEffects ..).2]
    exact hw

theorem World.deferred_after_inline {s : Settings} (hs : s.effects = .inline) {w : World Memory}
    (hw : w.deferred = []) (turns : List Turn) : (w.after s turns).deferred = [] := by
  induction turns generalizing w with
  | nil => exact hw
  | cons turn rest ih => exact ih (turn.deferred_run_inline hs hw)

end PrepaidLedger
