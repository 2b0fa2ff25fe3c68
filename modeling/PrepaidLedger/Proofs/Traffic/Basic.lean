import PrepaidLedger.Proofs.Engine.Incoming

/-! Deliveries in flight. A delivery is prepared in one step and written in a later one, and between
the two anything may happen: other deliveries are prepared and written, effects run, fees are swept,
profiles change. -/

namespace PrepaidLedger

structure InFlight where
  delivery : Delivery
  seen : Tables

structure Traffic where
  world : World Memory
  inFlight : List InFlight
  -- The oldest commit first.
  commits : List Applied

inductive Act
  | spend (reference : String) (e : SpendEvent)
  | collateral (reference : String) (e : CollateralEvent)
  | write (place : Nat)
  | effects (place : Nat)
  | sweep (limit : Int)
  | call (c : StoreCall)
  | clock (now : Timestamp)

structure Move where
  refusal : LockKey → Option LockError
  parties : Collaborators
  act : Act

namespace Traffic

def start (w : World Memory) : Traffic := ⟨w, [], []⟩

def tables (m : Traffic) : Tables := m.world.store.tables

def line? (m : Traffic) (reference : String) : Option Line := m.tables.lineByRef? reference

def commitsOn (m : Traffic) (reference : String) : List Applied :=
  m.commits.filter (·.line.reference = reference)

def moveTo (m : Traffic) (w : World Memory) : Traffic := { m with world := w }

def prepared (m : Traffic) : Except EngineError (Except Dismissal Delivery) × World Memory → Traffic
  | (.ok (.ok d), w) => { m with world := w, inFlight := m.inFlight ++ [⟨d, m.tables⟩] }
  | (_, w) => m.moveTo w

def written (m : Traffic) : Except EngineError (Except Dismissal Applied) × World Memory → Traffic
  | (.ok (.ok a), w) => { m with world := w, commits := m.commits ++ [a] }
  | (_, w) => m.moveTo w

def step (s : Settings) (m : Traffic) (move : Move) : Traffic :=
  let B := Memory.backend move.refusal
  let C := move.parties
  match move.act with
  | .spend reference e => m.prepared ((prepareSpend s reference e).runIn B C m.world)
  | .collateral reference e => m.prepared ((prepareCollateral s reference e).runIn B C m.world)
  | .write place =>
    match m.inFlight[place]? with
    | none => m
    | some f =>
      { m with inFlight := m.inFlight.eraseIdx place }.written
        ((writeLocked s f.delivery).runIn B C m.world)
  | .effects place =>
    match m.commits[place]? with
    | none => m
    | some a => m.moveTo ((runEffects a).runIn B C m.world).2
  | .sweep limit => m.moveTo ((sweepFees limit).runIn B C m.world).2
  | .call c => m.moveTo ((Task.store c).runIn B C m.world).2
  | .clock now =>
    m.moveTo { m.world with store := { m.world.store with tables := { m.tables with now := now } } }

def after (s : Settings) (m : Traffic) (moves : List Move) : Traffic := moves.foldl (step s) m

theorem after_append (s : Settings) (m : Traffic) (xs ys : List Move) :
    m.after s (xs ++ ys) = (m.after s xs).after s ys := List.foldl_append

section Worlds

variable (m : Traffic)

@[simp] theorem world_prepared (r : Except EngineError (Except Dismissal Delivery))
    (w : World Memory) : (m.prepared (r, w)).world = w := by
  rcases r with e | dismissal | d <;> rfl

@[simp] theorem world_written (r : Except EngineError (Except Dismissal Applied))
    (w : World Memory) : (m.written (r, w)).world = w := by
  rcases r with e | dismissal | a <;> rfl

end Worlds

/-! ## What a step can be -/

inductive Progress (s : Settings) (m m' : Traffic) : Prop
  | quiet (tables : m.tables.Quiet m'.tables) (commits : m'.commits = m.commits)
      (inFlight : ∀ f ∈ m'.inFlight, f ∈ m.inFlight ∨
        f.seen = m.tables ∧ ∃ reference kind, m.tables.Prepares s reference kind f.delivery)
  | commit (f : InFlight) (mem : f ∈ m.inFlight) (card : Card) (owner : CardUser)
      (carries : m.tables.Carries s f.delivery card owner)
      (tables : m'.tables = m.tables.apply (m.tables.changeOf s f.delivery.posting card owner))
      (commits : m'.commits =
        m.commits ++ [(m.tables.changeOf s f.delivery.posting card owner).applied])
      (inFlight : m'.inFlight ⊆ m.inFlight)

variable {s : Settings} {m : Traffic}

theorem progress_moveTo {w : World Memory} (h : m.tables.Quiet w.store.tables) :
    Progress s m (m.moveTo w) := .quiet h rfl fun _ hf => .inl hf

theorem progress_prepared {r : Except EngineError (Except Dismissal Delivery)} {reference : String}
    {kind : LineKind} (h : ∀ d, r = .ok (.ok d) → m.tables.Prepares s reference kind d) :
    Progress s m (m.prepared (r, m.world)) := by
  rcases r with e | dismissal | d
  · exact progress_moveTo (.refl _)
  · exact progress_moveTo (.refl _)
  · refine .quiet (.refl _) rfl fun f hf => ?_
    rcases List.mem_append.mp hf with hf | hf
    · exact .inl hf
    · obtain rfl := List.mem_singleton.mp hf
      exact .inr ⟨rfl, reference, kind, h d rfl⟩

theorem progress_written {f : InFlight} {rest : List InFlight} (hf : f ∈ m.inFlight)
    (hrest : rest ⊆ m.inFlight) (refusal : LockKey → Option LockError) (C : Collaborators) :
    Progress s m ({ m with inFlight := rest }.written
      ((writeLocked s f.delivery).runIn (Memory.backend refusal) C m.world)) := by
  have hwrite := Task.tables_writeLocked refusal C s m.world f.delivery
  generalize (writeLocked s f.delivery).runIn (Memory.backend refusal) C m.world = x at hwrite ⊢
  rcases x with ⟨e | dismissal | a, w⟩
  · exact .quiet hwrite.quiet rfl fun g hg => .inl (hrest hg)
  · exact .quiet hwrite.quiet rfl fun g hg => .inl (hrest hg)
  · obtain ⟨c, hc, rfl, ht⟩ := hwrite
    obtain ⟨card, owner, hcarries, rfl⟩ := Tables.change_eq_ok.mp hc
    exact .commit f hf card owner hcarries ht rfl hrest

theorem progress_step (s : Settings) (m : Traffic) (move : Move) :
    Progress s m (m.step s move) := by
  obtain ⟨refusal, parties, act⟩ := move
  unfold step
  cases act with
  | spend reference e =>
    dsimp only
    rw [Task.runIn_prepareSpend]
    exact progress_prepared fun d hd => Tables.prepares_spend hd
  | collateral reference e =>
    dsimp only
    rw [Task.runIn_prepareCollateral]
    exact progress_prepared fun d hd => Tables.prepares_collateral hd
  | write place =>
    dsimp only
    split
    · exact .quiet (.refl _) rfl fun _ hf => .inl hf
    next f hf =>
      exact progress_written (List.mem_of_getElem? hf) (List.eraseIdx_subset ..) refusal parties
  | effects place =>
    dsimp only
    split
    · exact .quiet (.refl _) rfl fun _ hf => .inl hf
    next a _ => exact progress_moveTo (Program.steady_runEffects a m.world).quiet
  | sweep limit =>
    exact progress_moveTo ((Task.asks_sweepFees limit).spares.plain.steady m.world).quiet
  | call c => exact progress_moveTo (m.tables.steady_call c).quiet
  | clock now => exact progress_moveTo (.of_eq rfl rfl (Nat.le_refl _))

theorem tables_step (s : Settings) (m : Traffic) (move : Move) :
    m.tables.Steady (m.step s move).tables ∨
      ∃ f ∈ m.inFlight, ∃ card owner, m.tables.Carries s f.delivery card owner ∧
        (m.step s move).tables =
          m.tables.apply (m.tables.changeOf s f.delivery.posting card owner) := by
  obtain ⟨refusal, parties, act⟩ := move
  have hprepared (r : Except EngineError (Except Dismissal Delivery)) :
      (m.prepared (r, m.world)).tables = m.tables :=
    congrArg (·.store.tables) (m.world_prepared r m.world)
  unfold step
  cases act with
  | spend reference e =>
    dsimp only
    rw [Task.runIn_prepareSpend, hprepared]
    exact .inl (.refl _)
  | collateral reference e =>
    dsimp only
    rw [Task.runIn_prepareCollateral, hprepared]
    exact .inl (.refl _)
  | write place =>
    dsimp only
    split
    · exact .inl (.refl _)
    next f hf =>
      have hwrite := Task.tables_writeLocked refusal parties s m.world f.delivery
      generalize (writeLocked s f.delivery).runIn (Memory.backend refusal) parties m.world = x
        at hwrite ⊢
      rcases x with ⟨e | dismissal | a, w⟩
      · exact .inl hwrite
      · exact .inl hwrite
      · obtain ⟨c, hc, -, ht⟩ := hwrite
        obtain ⟨card, owner, hcarries, rfl⟩ := Tables.change_eq_ok.mp hc
        exact .inr ⟨f, List.mem_of_getElem? hf, card, owner, hcarries, ht⟩
  | effects place =>
    dsimp only
    split
    · exact .inl (.refl _)
    next a _ => exact .inl (Program.steady_runEffects a m.world)
  | sweep limit => exact .inl ((Task.asks_sweepFees limit).spares.plain.steady m.world)
  | call c => exact .inl (m.tables.steady_call c)
  | clock now => exact .inl (.of_eq rfl rfl rfl rfl rfl (Nat.le_refl _))

theorem after_keeps {P : Traffic → Prop} (hstep : ∀ m m', P m → Progress s m m' → P m') (hm : P m)
    (moves : List Move) : P (m.after s moves) := by
  induction moves generalizing m with
  | nil => exact hm
  | cons move rest ih => exact ih (hstep m _ hm (progress_step s m move))

theorem tables_after_invariant {P : Tables → Prop} (hsteady : ∀ t t', P t → t.Steady t' → P t')
    (happly : ∀ t p card owner, P t → P (t.apply (t.changeOf s p card owner)))
    (hm : P m.tables) (moves : List Move) : P (m.after s moves).tables := by
  induction moves generalizing m with
  | nil => exact hm
  | cons move rest ih =>
    refine ih ?_
    rcases tables_step s m move with h | ⟨f, -, card, owner, -, h⟩
    · exact hsteady _ _ hm h
    · rw [h]
      exact happly _ _ card owner hm

end Traffic
end PrepaidLedger
