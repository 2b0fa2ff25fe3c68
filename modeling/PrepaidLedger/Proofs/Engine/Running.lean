import PrepaidLedger.Engine.World
import PrepaidLedger.Store.Memory

/-! What a task gives back and leaves behind, step by step, on any store and on the tables in
memory. -/

namespace PrepaidLedger

variable {σ α β : Type}

namespace Program

variable (B : Backend σ) (C : Collaborators)

theorem runIn_bind (p : Program α) (f : α → Program β) (w : World σ) :
    (p >>= f).runIn B C w = (f (p.runIn B C w).1).runIn B C (p.runIn B C w).2 :=
  run_bind (World.answer B C) p f w

@[simp] theorem runIn_pure (a : α) (w : World σ) : (pure a : Program α).runIn B C w = (a, w) := rfl

@[simp] theorem runIn_request (r : Request) (w : World σ) :
    (request r).runIn B C w = World.answer B C r w := rfl

end Program

namespace Task

variable (B : Backend σ) (C : Collaborators)

@[simp] theorem runIn_pure (a : α) (w : World σ) :
    (pure a : Task α).runIn B C w = (.ok a, w) := rfl

theorem runIn_bind (t : Task α) (f : α → Task β) (w : World σ) :
    (t >>= f).runIn B C w =
      match t.runIn B C w with
      | (.ok a, w) => (f a).runIn B C w
      | (.error e, w) => (.error e, w) := by
  have h := Program.run_bind (World.answer B C) t.run (ExceptT.bindCont f) w
  refine h.trans ?_
  unfold Task.runIn Program.runIn
  rcases t.run.run (World.answer B C) w with ⟨r | r, w'⟩ <;> rfl

theorem runIn_return (t : Task α) (f : α → β) (w : World σ) :
    (do return f (← t) : Task β).runIn B C w =
      ((t.runIn B C w).1.map f, (t.runIn B C w).2) := by
  rw [runIn_bind]
  rcases t.runIn B C w with ⟨e | a, w'⟩ <;> rfl

@[simp] theorem runIn_ofExcept (r : Except EngineError α) (w : World σ) :
    (ofExcept r).runIn B C w = (r, w) := rfl

@[simp] theorem runIn_ofProgram (p : Program α) (w : World σ) :
    (ofProgram p).runIn B C w = (.ok (p.runIn B C w).1, (p.runIn B C w).2) :=
  Program.run_bind (World.answer B C) p _ w

theorem runIn_thenAlways (t : Task α) (last : Program Unit) (w : World σ) :
    (t.thenAlways last).runIn B C w =
      ((t.runIn B C w).1, (last.runIn B C (t.runIn B C w).2).2) :=
  (Program.run_bind (World.answer B C) t.run _ w).trans
    (Program.run_bind (World.answer B C) last _ _)

@[simp] theorem runIn_found (entity : Entity) (id : RowId) (row : Option α) (w : World σ) :
    (found entity id row).runIn B C w =
      ((match row with | some a => .ok a | none => .error (.missing entity id)), w) := by
  cases row <;> rfl

theorem runIn_inTransaction (body : Task α) (w : World σ) :
    (inTransaction body).runIn B C w =
      match begin.runIn B C w with
      | (.error e, w) => (.error e, w)
      | (.ok _, w) =>
        match body.runIn B C w with
        | (.ok a, w) => (.ok a, w)
        | (.error e, w) => (.error e, { w with store := B.abandon w.store }) := by
  unfold inTransaction
  rw [runIn_bind]
  rcases begin.runIn B C w with ⟨e | u, w'⟩
  · rfl
  · refine (Program.run_bind (World.answer B C) body.run _ w').trans ?_
    dsimp only [Task.runIn, Program.runIn]
    rcases body.run.run (World.answer B C) w' with ⟨r | r, w''⟩ <;> rfl

end Task
end PrepaidLedger
