import PrepaidLedger.Lock.Key
import PrepaidLedger.Notice
import PrepaidLedger.Store.Call

/-!
Programs as trees of requests. A program never touches a store itself: it asks, and goes on with the
reply. So one program can be run against any store, cut off after any request, or interleaved with
others.
-/
namespace PrepaidLedger

/-- A fee to be collected from a card-user by the provider. Repeating a key repeats no charge. -/
structure Charge where
  userRef : String
  amount : Int
  description : String
  idempotencyKey : String
deriving DecidableEq, Repr

/-- A committed change of a balance or of a line, as its transaction saw it. -/
structure Applied where
  line : Line
  card : Card
  cardUser : CardUser
  delta : Int
  cardBlocked : Bool
deriving DecidableEq, Repr

inductive Request
  | store (c : StoreCall)
  | begin
  | tx (c : TxCall)
  | commit
  | rollback
  | abandon
  | acquire (key : LockKey)
  | release (key : LockKey)
  | charge (c : Charge)
  | lockCard (providerRef : String)
  | notify (n : Notice)
  | announce (c : BalanceChange)
  | defer (a : Applied)

@[reducible] def Request.Reply : Request → Type
  | .store c => Except StoreError c.Answer
  | .tx c => Except StoreError c.Answer
  | .begin | .commit | .rollback => Except StoreError Unit
  | .acquire _ => Except LockError Unit
  | .abandon | .release _ | .defer _ => Unit
  /- The receipt of a charge that was accepted. -/
  | .charge _ => Option String
  | .lockCard _ | .notify _ | .announce _ => Bool

inductive Program (α : Type) : Type
  | done (a : α)
  | ask (r : Request) (next : r.Reply → Program α)

namespace Program

variable {α β σ : Type}

def bind : Program α → (α → Program β) → Program β
  | .done a, f => f a
  | .ask r next, f => .ask r fun reply => (next reply).bind f

instance : Monad Program where
  pure := .done
  bind := bind

def request (r : Request) : Program r.Reply := .ask r .done

def run (answer : (r : Request) → σ → r.Reply × σ) : Program α → σ → α × σ
  | .done a, s => (a, s)
  | .ask r next, s =>
    let (reply, s) := answer r s
    (next reply).run answer s

theorem bind_assoc {γ : Type} (p : Program α) (f : α → Program β) (g : β → Program γ) :
    (p.bind f).bind g = p.bind fun a => (f a).bind g := by
  induction p with
  | done a => rfl
  | ask r next ih => simp only [bind, ih]

theorem bind_done (p : Program α) : p.bind .done = p := by
  induction p with
  | done a => rfl
  | ask r next ih => simp only [bind, ih]

theorem run_bind (answer : (r : Request) → σ → r.Reply × σ) (p : Program α)
    (f : α → Program β) (s : σ) :
    (p.bind f).run answer s = (f (p.run answer s).1).run answer (p.run answer s).2 := by
  induction p generalizing s with
  | done a => rfl
  | ask r next ih => simp only [bind, run, ih]

end Program

/-! ## Programs that may fail -/

abbrev Task (α : Type) := ExceptT EngineError Program α

namespace Task

variable {α : Type}

def ofProgram (p : Program α) : Task α := ExceptT.mk (p.bind fun a => .done (.ok a))

def ofExcept (r : Except EngineError α) : Task α := ExceptT.mk (.done r)

def orFail (cause : ε → EngineError) (p : Program (Except ε α)) : Task α :=
  ExceptT.mk (p.bind fun r => .done (r.mapError cause))

def store (c : StoreCall) : Task c.Answer := orFail .store (.request (.store c))

def begin : Task Unit := orFail .store (.request .begin)

def tx (c : TxCall) : Task c.Answer := orFail .store (.request (.tx c))

def commit : Task Unit := orFail .store (.request .commit)

def rollback : Task Unit := orFail .store (.request .rollback)

def acquire (key : LockKey) : Task Unit := orFail .lock (.request (.acquire key))

def thenAlways (t : Task α) (last : Program Unit) : Task α :=
  ExceptT.mk (t.run.bind fun r => last.bind fun _ => .done r)

/-- Opens a transaction for a body that ends it itself; a body that fails leaves it open, and then
it is abandoned. -/
def inTransaction (body : Task α) : Task α := do
  begin
  ExceptT.mk (body.run.bind fun
    | .ok a => .done (.ok a)
    | .error e => .ask .abandon fun _ => .done (.error e))

def found (entity : Entity) (id : RowId) : Option α → Task α
  | some a => pure a
  | none => throw (.missing entity id)

end Task
end PrepaidLedger
