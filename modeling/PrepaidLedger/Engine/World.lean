import PrepaidLedger.Engine.Program
import PrepaidLedger.Store.Backend

/-!
Where programs run: a store with its locks, and the parties outside, of whom only the answers are
known. Every message to them is kept with its answer, in the order of sending.
-/
namespace PrepaidLedger

inductive Outbound
  | charge (c : Charge) (receipt : Option String)
  | cardLock (providerRef : String) (accepted : Bool)
  | notice (n : Notice) (accepted : Bool)
  | balance (c : BalanceChange) (accepted : Bool)
deriving DecidableEq, Repr

structure Collaborators where
  charge : List Outbound → Charge → Option String
  lockCard : List Outbound → String → Bool
  notify : List Outbound → Notice → Bool
  announce : List Outbound → BalanceChange → Bool

structure World (σ : Type) where
  store : σ
  -- The oldest message first.
  outbound : List Outbound
  deferred : List Applied

namespace World

variable {σ : Type}

def ofStore (s : σ) : World σ := ⟨s, [], []⟩

def send (w : World σ) (o : Outbound) : World σ := { w with outbound := w.outbound ++ [o] }

def onStore {α : Type} (f : σ → α × σ) (w : World σ) : α × World σ :=
  let (a, s) := f w.store
  (a, { w with store := s })

def answer (B : Backend σ) (C : Collaborators) : (r : Request) → World σ → r.Reply × World σ
  | .store c, w => w.onStore (B.call c)
  | .begin, w => w.onStore B.begin
  | .tx c, w => w.onStore (B.tx c)
  | .commit, w => w.onStore B.commit
  | .rollback, w => w.onStore B.rollback
  | .abandon, w => w.onStore fun s => ((), B.abandon s)
  | .acquire key, w => w.onStore (B.acquire key)
  | .release key, w => w.onStore fun s => ((), B.release key s)
  | .charge c, w =>
    let receipt := C.charge w.outbound c
    (receipt, w.send (.charge c receipt))
  | .lockCard ref, w =>
    let accepted := C.lockCard w.outbound ref
    (accepted, w.send (.cardLock ref accepted))
  | .notify n, w =>
    let accepted := C.notify w.outbound n
    (accepted, w.send (.notice n accepted))
  | .announce c, w =>
    let accepted := C.announce w.outbound c
    (accepted, w.send (.balance c accepted))
  | .defer a, w => ((), { w with deferred := w.deferred ++ [a] })

end World

def Program.runIn {σ α : Type} (B : Backend σ) (C : Collaborators) (p : Program α) (w : World σ) :
    α × World σ :=
  p.run (World.answer B C) w

def Task.runIn {σ α : Type} (B : Backend σ) (C : Collaborators) (t : Task α) (w : World σ) :
    Except EngineError α × World σ :=
  t.run.runIn B C w

end PrepaidLedger
