import PrepaidLedger.Engine.Write
import PrepaidLedger.Store.Json

/-!
Transactions taken step by step. A step that fails does not keep the next one from being taken, so
that every call's answer can be seen.
-/
namespace PrepaidLedger.Rehearsal

inductive TxStep
  | call (c : TxCall)
  | patchLine (reference : String) (patch : LinePatch)
  | patchEntry (reference : String) (patch : EntryPatch)
  | decline (cardId : Uuid)

inductive Ending
  | commit
  | rollback
  | abandon
deriving DecidableEq, Repr

def noRowId : RowId := .assigned .nil

def shownCall (v : RowView) (c : TxCall) : Task Json := do
  return v.txAnswer c (← Task.tx c)

def TxStep.task (v : RowView) (policy : DeclinePolicy) : TxStep → Task Json
  | .call c => shownCall v c
  | .patchLine reference patch => do
    let l ← Task.tx (.lineByRef reference)
    shownCall v (.patchLine ((l.map Line.id).getD noRowId) patch)
  | .patchEntry reference patch => do
    let e ← Task.tx (.entryByRef reference)
    shownCall v (.patchEntry ((e.map Entry.id).getD noRowId) patch)
  | .decline cardId => do
    let d ← recordDecline policy cardId
    return .object [("card", v.card d.card), ("newly_blocked", .bool d.newlyBlocked)]

def Ending.task : Ending → Task Unit
  | .commit => Task.commit
  | .rollback => Task.rollback
  | .abandon => Task.ofProgram (.request .abandon)

structure Transcript where
  answers : List (Except EngineError Json)
  closing : Except EngineError Unit

def answers (v : RowView) (policy : DeclinePolicy) :
    List TxStep → Program (List (Except EngineError Json))
  | [] => pure []
  | step :: rest => do
    let a ← (step.task v policy).run
    return a :: (← answers v policy rest)

def transcript (v : RowView) (policy : DeclinePolicy) (steps : List TxStep) (ending : Ending) :
    Task Transcript := do
  Task.begin
  let given ← Task.ofProgram (answers v policy steps)
  let closing ← Task.ofProgram ending.task.run
  match closing with
  | .ok () => return ⟨given, closing⟩
  | .error _ =>
    Task.ofProgram (.request .abandon)
    return ⟨given, closing⟩

end PrepaidLedger.Rehearsal
