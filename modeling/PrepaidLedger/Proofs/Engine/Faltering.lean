import PrepaidLedger.Proofs.Engine.Relaying
import PrepaidLedger.Proofs.Engine.Unapplied

/-! Stores that keep the tables and may fail at any call. What a task comes to on such a store
without a failure it comes to on the tables in memory, and what fails is not applied. -/

namespace PrepaidLedger

variable {σ α β : Type}

def Memory.Follows (view : σ → Memory) (op : σ → Except StoreError α × σ)
    (kept : Memory → Except StoreError α × Memory) : Prop :=
  ∀ s, ((op s).1, view (op s).2) = kept (view s) ∨
    (∃ e, (op s).1 = .error e) ∧ view (op s).2 = view s

/-- A store that may fail whenever it likes, and does what the tables in memory do otherwise. Its
lock is had or not as it likes. -/
structure Backend.Falters (B : Backend σ) (view : σ → Memory) : Prop where
  call : ∀ c, Memory.Follows view (B.call c) ((Memory.backend fun _ => none).call c)
  begin : Memory.Follows view B.begin (Memory.backend fun _ => none).begin
  tx : ∀ c, Memory.Follows view (B.tx c) ((Memory.backend fun _ => none).tx c)
  commit : Memory.Follows view B.commit (Memory.backend fun _ => none).commit
  rollback : Memory.Follows view B.rollback (Memory.backend fun _ => none).rollback
  abandon : ∀ s, view (B.abandon s) = (view s).withoutPending
  acquire : ∀ key s, view (B.acquire key s).2 = view s
  release : ∀ key s, view (B.release key s) = view s

theorem Memory.backend_falters (refusal : LockKey → Option LockError) :
    (Memory.backend refusal).Falters id where
  call _ _ := .inl rfl
  begin _ := .inl rfl
  tx _ _ := .inl rfl
  commit _ := .inl rfl
  rollback _ := .inl rfl
  abandon _ := rfl
  acquire key m := by
    simp only [backend]
    split <;> rfl
  release _ _ := rfl

def Memory.reached (outage : Nat → Option StoreError) (op : Memory → Except StoreError α × Memory)
    (s : Nat × Memory) : Except StoreError α × (Nat × Memory) :=
  match outage s.1 with
  | some e => (.error e, s.1 + 1, s.2)
  | none => ((op s.2).1, s.1 + 1, (op s.2).2)

def Memory.flaky (refusal : LockKey → Option LockError) (outage : Nat → Option StoreError) :
    Backend (Nat × Memory) where
  call c := reached outage ((backend refusal).call c)
  begin := reached outage (backend refusal).begin
  tx c := reached outage ((backend refusal).tx c)
  commit := reached outage (backend refusal).commit
  rollback := reached outage (backend refusal).rollback
  abandon s := (s.1, s.2.withoutPending)
  acquire key s := (((backend refusal).acquire key s.2).1, s)
  release _ s := s

theorem Memory.follows_reached (outage : Nat → Option StoreError)
    (op : Memory → Except StoreError α × Memory) : Follows Prod.snd (reached outage op) op := by
  intro s
  unfold reached
  split
  next e _ => exact .inr ⟨⟨e, rfl⟩, rfl⟩
  · exact .inl rfl

theorem Memory.flaky_falters (refusal : LockKey → Option LockError)
    (outage : Nat → Option StoreError) : (Memory.flaky refusal outage).Falters Prod.snd where
  call _ := follows_reached outage _
  begin := follows_reached outage _
  tx _ := follows_reached outage _
  commit := follows_reached outage _
  rollback := follows_reached outage _
  abandon _ := rfl
  acquire _ _ := rfl
  release _ _ := rfl

theorem Memory.Follows.sameRows {view : σ → Memory} {op : σ → Except StoreError α × σ}
    {kept : Memory → Except StoreError α × Memory} (h : Follows view op kept) {s : σ}
    (hkept : (kept (view s)).1 = (op s).1 →
      (view s).tables.SameRows (kept (view s)).2.tables) :
    (view s).tables.SameRows (view (op s).2).tables := by
  rcases h s with hs | ⟨-, hleft⟩
  · rw [← hs] at hkept
    exact hkept rfl
  · rw [hleft]
    exact .refl _

theorem Backend.Falters.isolates {B : Backend σ} {view : σ → Memory} (hB : B.Falters view) :
    B.Isolates fun s => (view s).tables where
  call c s h := (hB.call c).sameRows fun hanswer =>
    (Memory.backend_isolates _).call c (view s) (hanswer ▸ h)
  begin s := hB.begin.sameRows fun _ => (Memory.backend_isolates _).begin (view s)
  tx c s := (hB.tx c).sameRows fun _ => (Memory.backend_isolates _).tx c (view s)
  commit _ _ h := hB.commit.sameRows fun hanswer => nomatch hanswer.trans h
  rollback s := hB.rollback.sameRows fun _ => (Memory.backend_isolates _).rollback (view s)
  abandon s := hB.abandon s ▸ .refl _
  acquire key s := hB.acquire key s ▸ .refl _
  release key s := hB.release key s ▸ .refl _

/-! ## Runs without a failure -/

def World.seenAs (w : World σ) (view : σ → Memory) : World Memory :=
  ⟨view w.store, w.outbound, w.deferred⟩

section Runs

variable {B : Backend σ} {C : Collaborators} {view : σ → Memory}

theorem Memory.Follows.of_no_error {op : σ → Except StoreError α × σ}
    {kept : Memory → Except StoreError α × Memory} (h : Follows view op kept) {s : σ}
    (hs : ∀ e, (op s).1 ≠ .error e) : kept (view s) = ((op s).1, view (op s).2) :=
  (h s).elim Eq.symm fun hfailed => absurd hfailed.1 (not_exists.mpr hs)

theorem World.answer_seenAs (hB : B.Falters view) {r : Request} {w : World σ}
    (h : r.failure? (answer B C r w).1 = none) :
    answer (Memory.backend fun _ => none) C r (w.seenAs view) =
      ((answer B C r w).1, (answer B C r w).2.seenAs view) := by
  have hstore {α : Type} {op : σ → Except StoreError α × σ}
      {kept : Memory → Except StoreError α × Memory} (hop : Memory.Follows view op kept)
      (hs : ∀ e, (op w.store).1 ≠ .error e) :
      (w.seenAs view).onStore kept = ((w.onStore op).1, (w.onStore op).2.seenAs view) := by
    unfold onStore
    rw [show (w.seenAs view).store = view w.store from rfl, hop.of_no_error hs]
    rfl
  have hfailed {ε α : Type} {reply : Except ε α} {failure : Except ε α → Option EngineError}
      (h : failure reply = none) (hfailure : ∀ e, failure (.error e) ≠ none) (e : ε) :
      reply ≠ .error e := by
    rintro rfl
    exact hfailure e h
  have hstay {s : σ} {m : Memory} (h : view s = m) :
      (⟨s, w.outbound, w.deferred⟩ : World σ).seenAs view = ⟨m, w.outbound, w.deferred⟩ := by
    rw [← h]
    rfl
  cases r with
  | store c => exact hstore (hB.call c) (hfailed h nofun)
  | begin => exact hstore hB.begin (hfailed h nofun)
  | tx c => exact hstore (hB.tx c) (hfailed h nofun)
  | commit => exact hstore hB.commit (hfailed h nofun)
  | rollback => exact hstore hB.rollback (hfailed h nofun)
  | abandon => exact congrArg (Prod.mk ()) (hstay (hB.abandon w.store)).symm
  | acquire key =>
    have hanswer : (B.acquire key w.store).1 = .ok () := by
      cases hreply : (B.acquire key w.store).1 with
      | ok u => rfl
      | error e => exact absurd hreply (hfailed h nofun e)
    change ((.ok (), (w.seenAs view)) : Except LockError Unit × World Memory) =
      ((B.acquire key w.store).1, (⟨(B.acquire key w.store).2, w.outbound, w.deferred⟩ :
        World σ).seenAs view)
    rw [hanswer, hstay (hB.acquire key w.store)]
    rfl
  | release key => exact congrArg (Prod.mk ()) (hstay (hB.release key w.store)).symm
  | charge | lockCard | notify | announce | defer => rfl

theorem Program.runIn_seenAs (hB : B.Falters view) {p : Program α} {w : World σ}
    (h : p.failures B C w = []) :
    p.runIn (Memory.backend fun _ => none) C (w.seenAs view) =
      ((p.runIn B C w).1, (p.runIn B C w).2.seenAs view) := by
  induction p generalizing w with
  | done a => rfl
  | ask r next ih =>
    obtain ⟨hnone, hrest⟩ := failures_ask_eq_nil.mp h
    rw [runIn_ask, runIn_ask, World.answer_seenAs hB hnone]
    exact ih _ hrest

theorem Task.Relays.runIn_seenAs (hB : B.Falters view) {t : Task α} (ht : t.Relays False)
    {w : World σ} {a : α} (h : (t.runIn B C w).1 = .ok a) :
    t.runIn (Memory.backend fun _ => none) C (w.seenAs view) =
      (.ok a, (t.runIn B C w).2.seenAs view) := by
  rw [← h]
  exact Program.runIn_seenAs hB (Program.Relays.failures_eq_nil ht h)

/-! ## Effects -/

theorem Program.Asks.store_eq {p : Program α} (hp : p.Asks Request.IsTelling) (w : World σ) :
    (p.runIn B C w).2.store = w.store := by
  refine hp.keeps (R := fun w w' : World σ => w'.store = w.store) (fun _ => rfl)
    (fun _ _ _ h h' => h'.trans h) (fun r w h => ?_) w
  cases r with
  | lockCard | notify | announce => rfl
  | _ => exact h.elim

def Tables.MayNote (t : Tables) (l : Line) (t' : Tables) : Prop :=
  t' = t ∨ ∃ receipt, t' = (t.call (.settleFee l.id (some receipt))).2

theorem Program.mayNote_collectFee (hB : B.Falters view) (l : Line) (userRef : String)
    (w : World σ) :
    (view w.store).tables.MayNote l
      (view ((collectFee l userRef).runIn B C w).2.store).tables := by
  unfold collectFee
  split
  · rw [runIn_bind, runIn_request]
    dsimp only [World.answer]
    cases C.charge w.outbound (.ofLine l userRef) with
    | none => exact .inl rfl
    | some receipt =>
      have hstore : (view w.store).tables.MayNote l
          (view (B.call (.settleFee l.id (some receipt)) w.store).2).tables := by
        rcases hB.call (.settleFee l.id (some receipt)) w.store with hkept | ⟨-, hleft⟩
        · rw [(Prod.mk.inj hkept).2]
          exact .inr ⟨receipt, rfl⟩
        · rw [hleft]
          exact .inl rfl
      dsimp only
      rw [runIn_bind, runIn_request]
      generalize hanswer : World.answer B C (.store (.settleFee l.id (some receipt))) _ = x
      have hx : x.2.store = (B.call (.settleFee l.id (some receipt)) w.store).2 := by
        rw [← hanswer]
        rfl
      rcases x with ⟨e | line, w'⟩ <;> exact hx ▸ hstore
  · exact .inl rfl

theorem Program.mayNote_startEffects (hB : B.Falters view) (s : Settings) (a : Applied)
    (w : World σ) :
    (view w.store).tables.MayNote a.line
      (view ((startEffects s a).runIn B C w).2.store).tables := by
  unfold startEffects
  cases s.effects with
  | background => exact .inl rfl
  | inline =>
    unfold runEffects
    dsimp only
    rw [runIn_bind, (asks_tell a).store_eq]
    exact mayNote_collectFee hB a.line a.cardUser.providerRef w

end Runs

/-! ## Events that are applied -/

theorem LedgerEvent.relays_prepare {notes : Prop} (ev : LedgerEvent) (s : Settings)
    (reference : String) : (ev.prepare s reference).Relays notes := by
  cases ev with
  | spend e => exact Task.relays_prepareSpend s reference e
  | collateral e => exact Task.relays_prepareCollateral s reference e

section Events

variable {B : Backend σ} {C : Collaborators} {view : σ → Memory} {w : World σ}

theorem Task.tables_writeLocked_of_ok (hB : B.Falters view) (s : Settings) (d : Delivery)
    {a : Applied} (h : ((writeLocked s d).runIn B C w).1 = .ok (.ok a)) :
    ∃ card owner, (view w.store).tables.Carries s d card owner ∧
      a = ((view w.store).tables.changeOf s d.posting card owner).applied ∧
      (view ((writeLocked s d).runIn B C w).2.store).tables =
        (view w.store).tables.apply ((view w.store).tables.changeOf s d.posting card owner) := by
  have hrun := (relays_writeLocked s d).runIn_seenAs hB h
  have hwritten := Task.tables_writeLocked (fun _ => none) C s (w.seenAs view) d
  rw [hrun] at hwritten
  obtain ⟨c, hc, rfl, htables⟩ := hwritten
  obtain ⟨card, owner, hcarries, rfl⟩ := Tables.change_eq_ok.mp hc
  exact ⟨card, owner, hcarries, rfl, htables⟩

theorem LedgerEvent.tables_apply_of_succeeds (hB : B.Falters view) (s : Settings)
    (reference : String) (ev : LedgerEvent)
    (h : Task.Succeeds ((ev.apply s reference).runIn B C w).1) :
    let t := (view w.store).tables
    ∃ d card owner, ev.Commits s t reference d card owner ∧
      (t.apply (t.changeOf s d.posting card owner)).MayNote
        (t.changeOf s d.posting card owner).applied.line
        (view ((ev.apply s reference).runIn B C w).2.store).tables := by
  intro t
  have hprepare (d? : Except Dismissal Delivery) :=
    (ev.relays_prepare s reference).runIn_seenAs (C := C) (w := w) (a := d?) hB
  unfold apply deliver at h ⊢
  rw [Task.runIn_bind] at h ⊢
  generalize (ev.prepare s reference).runIn B C w = x at h hprepare ⊢
  rcases x with ⟨e | dismissal | d, w₁⟩
  · exact h.elim
  · exact h.elim
  have hprepared := hprepare _ rfl
  rw [runIn_prepare] at hprepared
  obtain ⟨hdelivery, hseen⟩ := Prod.mk.inj hprepared
  have hstore : view w₁.store = view w.store := (congrArg World.store hseen).symm
  dsimp only at h ⊢
  rw [Task.runIn_bind] at h ⊢
  have hwrite (a : Applied) := Task.tables_writeLocked_of_ok (C := C) (w := w₁) (a := a) hB s d
  generalize (writeLocked s d).runIn B C w₁ = y at h hwrite ⊢
  rcases y with ⟨e | dismissal | a, w₂⟩
  · exact h.elim
  · exact h.elim
  obtain ⟨card, owner, hcarries, ha, htables⟩ := hwrite _ rfl
  rw [hstore] at hcarries ha htables
  subst ha
  refine ⟨d, card, owner, ⟨hdelivery, hcarries⟩, ?_⟩
  dsimp only
  rw [Task.runIn_bind, Task.runIn_ofProgram, ← htables]
  exact Program.mayNote_startEffects hB s _ w₂

end Events

end PrepaidLedger
