import PrepaidLedger.Engine.Dispatch
import PrepaidLedger.Proofs.Engine.Running
import PrepaidLedger.Store.Fault

/-! A store keeps its transactions to itself until they commit. On such a store an event that is
not applied leaves no trace: not in a table, and not among the messages sent or still to be sent.
What the store answers inside a transaction plays no part in it, so faults are covered as well. -/

namespace PrepaidLedger

variable {σ α β : Type}

/-! ## Worlds that agree -/

/-- The five tables are the same; clock and numbering may have gone on. -/
structure Tables.SameRows (t t' : Tables) : Prop where
  cards : t'.cards = t.cards
  cardUsers : t'.cardUsers = t.cardUsers
  lines : t'.lines = t.lines
  journal : t'.journal = t.journal
  addresses : t'.addresses = t.addresses

theorem Tables.SameRows.refl (t : Tables) : t.SameRows t := ⟨rfl, rfl, rfl, rfl, rfl⟩

theorem Tables.SameRows.trans {t₁ t₂ t₃ : Tables} (h : t₁.SameRows t₂) (h' : t₂.SameRows t₃) :
    t₁.SameRows t₃ :=
  ⟨h'.cards.trans h.cards, h'.cardUsers.trans h.cardUsers, h'.lines.trans h.lines,
    h'.journal.trans h.journal, h'.addresses.trans h.addresses⟩

structure World.Untouched (view : σ → Tables) (w w' : World σ) : Prop where
  rows : (view w.store).SameRows (view w'.store)
  outbound : w'.outbound = w.outbound
  deferred : w'.deferred = w.deferred

namespace World.Untouched

variable {view : σ → Tables}

theorem refl (w : World σ) : w.Untouched view w := ⟨.refl _, rfl, rfl⟩

theorem trans {w₁ w₂ w₃ : World σ} (h : w₁.Untouched view w₂) (h' : w₂.Untouched view w₃) :
    w₁.Untouched view w₃ :=
  ⟨h.rows.trans h'.rows, h'.outbound.trans h.outbound, h'.deferred.trans h.deferred⟩

theorem of_store {w : World σ} {s : σ} (h : (view w.store).SameRows (view s)) :
    w.Untouched view { w with store := s } := ⟨h, rfl, rfl⟩

end World.Untouched

/-! ## Stores that isolate -/

def StoreCall.Wrote : (c : StoreCall) → Except StoreError c.Answer → Prop
  | .registerAddress .., .ok _ => True
  | .patchCard .., .ok (some _) => True
  | .setCardUserStatus .., .ok (some _) => True
  | .settleFee .., .ok (some _) => True
  | _, _ => False

/-- Rows change only by a commit that succeeds and by single calls that tell so. -/
structure Backend.Isolates (B : Backend σ) (view : σ → Tables) : Prop where
  call : ∀ c s, ¬ c.Wrote (B.call c s).1 → (view s).SameRows (view (B.call c s).2)
  begin : ∀ s, (view s).SameRows (view (B.begin s).2)
  tx : ∀ c s, (view s).SameRows (view (B.tx c s).2)
  commit : ∀ s e, (B.commit s).1 = .error e → (view s).SameRows (view (B.commit s).2)
  rollback : ∀ s, (view s).SameRows (view (B.rollback s).2)
  abandon : ∀ s, (view s).SameRows (view (B.abandon s))
  acquire : ∀ key s, (view s).SameRows (view (B.acquire key s).2)
  release : ∀ key s, (view s).SameRows (view (B.release key s))

theorem Memory.backend_isolates (refusal : LockKey → Option LockError) :
    (Memory.backend refusal).Isolates Memory.tables where
  call c m h := by
    cases c with
    | registerAddress => exact absurd trivial h
    | patchCard id patch | setCardUserStatus id status | settleFee id ref =>
      revert h
      simp only [Memory.backend, Tables.call]
      split
      · exact fun _ => .refl _
      · exact fun h => absurd trivial h
    | _ => exact .refl _
  begin _ := ⟨rfl, rfl, rfl, rfl, rfl⟩
  tx _ _ := .refl _
  commit _ _ h := nomatch h
  rollback _ := .refl _
  abandon _ := .refl _
  acquire key m := by
    simp only [Memory.backend]
    split <;> exact .refl _
  release _ _ := .refl _

theorem Faulty.backend_isolates {B : Backend σ} {view : σ → Tables} (hB : B.Isolates view) :
    (Faulty.backend B).Isolates fun s => view s.inner where
  call c s := by
    simp only [Faulty.backend, Faulty.call]
    rcases strike c.operation s.faults with ⟨_ | _ | e | n, faults⟩
    case some.fail => exact fun _ => .refl _
    case some.noRow =>
      cases c.noRow? with
      | some a => exact fun _ => .refl _
      | none => exact hB.call c s.inner
    all_goals exact hB.call c s.inner
  begin s := by
    simp only [Faulty.backend, Faulty.plain]
    rcases strike .begin s.faults with ⟨_ | _ | e | n, faults⟩
    case some.fail => exact .refl _
    all_goals exact hB.begin s.inner
  tx c s := by
    simp only [Faulty.backend, Faulty.tx]
    rcases strike c.operation s.faults with ⟨_ | _ | e | n, faults⟩
    case some.fail => exact .refl _
    case some.noRow =>
      cases c.noRow? with
      | some a => exact .refl _
      | none => exact hB.tx c s.inner
    case some.skew => cases c <;> exact hB.tx _ s.inner
    case none => exact hB.tx c s.inner
  commit s e := by
    simp only [Faulty.backend, Faulty.plain]
    rcases strike .commit s.faults with ⟨_ | _ | e | n, faults⟩
    case some.fail => exact fun _ => .refl _
    all_goals exact hB.commit s.inner e
  rollback s := by
    simp only [Faulty.backend, Faulty.plain]
    rcases strike .rollback s.faults with ⟨_ | _ | e | n, faults⟩
    case some.fail => exact .refl _
    all_goals exact hB.rollback s.inner
  abandon s := hB.abandon s.inner
  acquire key s := hB.acquire key s.inner
  release key s := hB.release key s.inner

/-! ## Tasks without a trace -/

def Task.TracelessUnless (B : Backend σ) (C : Collaborators) (view : σ → Tables) (t : Task α)
    (kind : Except EngineError α → Prop) : Prop :=
  ∀ w, ¬ kind (t.runIn B C w).1 → w.Untouched view (t.runIn B C w).2

abbrev Task.Traceless (B : Backend σ) (C : Collaborators) (view : σ → Tables) (t : Task α) : Prop :=
  t.TracelessUnless B C view fun _ => False

namespace Task

variable {B : Backend σ} {C : Collaborators} {view : σ → Tables} {t : Task α} {f : α → Task β}
  {kind : Except EngineError α → Prop} {kind' : Except EngineError β → Prop}

theorem Traceless.unless (h : t.Traceless B C view) : t.TracelessUnless B C view kind :=
  fun w _ => h w not_false

theorem traceless_pure (a : α) : (pure a : Task α).Traceless B C view := fun w _ => .refl w

theorem traceless_throw (e : EngineError) : (throw e : Task α).Traceless B C view :=
  fun w _ => .refl w

theorem traceless_ofExcept (r : Except EngineError α) : (ofExcept r).Traceless B C view :=
  fun w _ => .refl w

theorem traceless_found (entity : Entity) (id : RowId) (row : Option α) :
    (found entity id row).Traceless B C view := by
  cases row with
  | none => exact traceless_throw _
  | some a => exact traceless_pure a

theorem TracelessUnless.bind (ht : t.TracelessUnless B C view kind)
    (hf : ∀ a, (f a).TracelessUnless B C view kind')
    (hok : ∀ a, kind (.ok a) → ∀ w, kind' ((f a).runIn B C w).1)
    (herror : ∀ e, kind (.error e) → kind' (.error e)) :
    (t >>= f).TracelessUnless B C view kind' := by
  intro w hkind
  have hw := ht w
  rw [runIn_bind] at hkind ⊢
  generalize t.runIn B C w = x at hw hkind ⊢
  rcases x with ⟨e | a, w'⟩
  · exact hw fun h => hkind (herror e h)
  · exact (hw fun h => hkind (hok a h w')).trans (hf a w' hkind)

theorem Traceless.bind (ht : t.Traceless B C view)
    (hf : ∀ a, (f a).TracelessUnless B C view kind') :
    (t >>= f).TracelessUnless B C view kind' :=
  TracelessUnless.bind ht hf (fun _ h => h.elim) (fun _ h => h.elim)

theorem tracelessUnless_store (hB : B.Isolates view) (c : StoreCall) :
    (Task.store c).TracelessUnless B C view fun r => ∃ a, r = .ok a ∧ c.Wrote (.ok a) := by
  intro w h
  refine .of_store (hB.call c w.store fun hc => h ?_)
  change ∃ a, (B.call c w.store).1.mapError EngineError.store = .ok a ∧ c.Wrote (.ok a)
  generalize (B.call c w.store).1 = r at hc ⊢
  cases r with
  | error e => cases c <;> exact hc.elim
  | ok a => exact ⟨a, rfl, hc⟩

theorem traceless_read (hB : B.Isolates view) {c : StoreCall} (hc : ∀ a, ¬ c.Wrote (.ok a)) :
    (Task.store c).Traceless B C view :=
  fun w _ => tracelessUnless_store hB c w fun ⟨a, _, ha⟩ => hc a ha

theorem traceless_begin (hB : B.Isolates view) : begin.Traceless B C view :=
  fun w _ => .of_store (hB.begin w.store)

theorem traceless_tx (hB : B.Isolates view) (c : TxCall) : (tx c).Traceless B C view :=
  fun w _ => .of_store (hB.tx c w.store)

theorem traceless_rollback (hB : B.Isolates view) : rollback.Traceless B C view :=
  fun w _ => .of_store (hB.rollback w.store)

theorem traceless_acquire (hB : B.Isolates view) (key : LockKey) :
    (acquire key).Traceless B C view :=
  fun w _ => .of_store (hB.acquire key w.store)

theorem tracelessUnless_commit (hB : B.Isolates view) :
    commit.TracelessUnless B C view fun r => r = .ok () := by
  intro w h
  refine .of_store ?_
  cases hc : (B.commit w.store).1 with
  | error e => exact hB.commit w.store e hc
  | ok u => exact absurd (congrArg (Except.mapError EngineError.store) hc) h

theorem TracelessUnless.inTransaction (hB : B.Isolates view)
    (ht : t.TracelessUnless B C view kind) :
    (inTransaction t).TracelessUnless B C view kind := by
  intro w hkind
  have hbegin : w.Untouched view (begin.runIn B C w).2 := traceless_begin hB w not_false
  rw [runIn_inTransaction] at hkind ⊢
  generalize begin.runIn B C w = x at hbegin hkind ⊢
  rcases x with ⟨e | u, w'⟩
  · exact hbegin
  · have hw := ht w'
    dsimp only at hkind ⊢
    generalize t.runIn B C w' = y at hw hkind ⊢
    rcases y with ⟨e | a, w''⟩
    · exact (hbegin.trans (hw hkind)).trans (.of_store (hB.abandon w''.store))
    · exact hbegin.trans (hw hkind)

theorem TracelessUnless.thenRelease (hB : B.Isolates view) (key : LockKey)
    (ht : t.TracelessUnless B C view kind) :
    (t.thenAlways (.request (.release key))).TracelessUnless B C view kind := by
  intro w hkind
  rw [runIn_thenAlways] at hkind ⊢
  exact (ht w hkind).trans (.of_store (hB.release key _))

end Task

end PrepaidLedger
