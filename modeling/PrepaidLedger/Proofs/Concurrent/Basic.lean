import Mathlib.Logic.Function.Basic
import PrepaidLedger.Engine.Write
import PrepaidLedger.Store.Memory

/-! Deliveries that run at the same time over one store in memory. A step is one operation of one
transaction, or one call that stands alone, and a row is locked by its bare identity, whether it is
that of a card or that of a card-user. Of a lock nothing is assumed but that one transaction at most
holds it. -/

namespace PrepaidLedger

def TxCall.row? : TxCall → Option Uuid
  | .card id => some id
  | .cardUser id => some id
  | .setCardBalance id .. => some id
  | .setCardUserBalance id _ => some id
  | .countDecline id => some id
  | .setCardStatus id _ => some id
  | _ => none

def StoreCall.row? : StoreCall → Option Uuid
  | .patchCard id _ => some id
  | .setCardUserStatus id _ => some id
  | _ => none

abbrev Conclusion := Except EngineError (Except Dismissal Applied)

def Program.applied? : Program Conclusion → Option Applied
  | .done (.ok (.ok a)) => some a
  | _ => none

inductive Runner
  | outside (rest : Program Conclusion)
  | within (rest : Program Conclusion) (p : Pending)
  | dropped

def Runner.isUnfinished : Runner → Bool
  | .outside (.ask ..) => true
  | .within .. => true
  | _ => false

structure Interleaving (ι : Type) where
  tables : Tables
  runner : ι → Runner
  holder : Uuid → Option ι
  -- The oldest commit first.
  commits : List Applied

namespace Interleaving

variable {ι : Type} [DecidableEq ι]

def start (s : Settings) (t : Tables) (deliveries : ι → Delivery) : Interleaving ι where
  tables := t
  runner i := .outside (write s (deliveries i)).run
  holder _ := none
  commits := []

abbrev Grants (m : Interleaving ι) (i : ι) (row? : Option Uuid) : Prop :=
  ∀ id ∈ row?, m.holder id = none ∨ m.holder id = some i

def take (m : Interleaving ι) (i : ι) (row? : Option Uuid) (id : Uuid) : Option ι :=
  if row? = some id then some i else m.holder id

def leave (m : Interleaving ι) (i : ι) (r : Runner) : Interleaving ι :=
  { m with
    runner := Function.update m.runner i r
    holder := fun id => if m.holder id = some i then none else m.holder id }

def advance (m : Interleaving ι) (i : ι) : Option (Interleaving ι) :=
  match m.runner i with
  | .outside (.ask .begin next) =>
    some { m with
      tables := { m.tables with batches := m.tables.batches + 1 }
      runner := Function.update m.runner i (.within (next (.ok ())) (.empty m.tables.batches)) }
  | .within (.ask (.tx c) next) p =>
    if m.Grants i c.row? then
      let (reply, p) := p.call m.tables c
      some { m with
        runner := Function.update m.runner i (.within (next reply) p)
        holder := m.take i c.row? }
    else none
  | .within (.ask .commit next) p =>
    some { m.leave i (.outside (next (.ok ()))) with
      tables := m.tables.commit p
      commits := m.commits ++ (next (.ok ())).applied?.toList }
  | .within (.ask .rollback next) _ => some (m.leave i (.outside (next (.ok ()))))
  | .within (.ask .abandon next) _ => some (m.leave i (.outside (next ())))
  | _ => none

inductive Op (ι : Type)
  | advance (i : ι)
  | drop (i : ι)
  | call (c : StoreCall)
  | clock (now : Timestamp)

def step (m : Interleaving ι) : Op ι → Interleaving ι
  | .advance i => (m.advance i).getD m
  | .drop i =>
    match m.runner i with
    | .within .. => m.leave i .dropped
    | _ => m
  | .call c =>
    if ∀ id ∈ c.row?, m.holder id = none then { m with tables := (m.tables.call c).2 } else m
  | .clock now => { m with tables := { m.tables with now := now } }

def after (m : Interleaving ι) (ops : List (Op ι)) : Interleaving ι := ops.foldl step m

theorem after_append (m : Interleaving ι) (xs ys : List (Op ι)) :
    m.after (xs ++ ys) = (m.after xs).after ys := List.foldl_append

theorem after_keeps {P : Interleaving ι → Prop} (hstep : ∀ m op, P m → P (m.step op))
    {m : Interleaving ι} (hm : P m) (ops : List (Op ι)) : P (m.after ops) := by
  induction ops generalizing m with
  | nil => exact hm
  | cons op rest ih => exact ih (hstep m op hm)

end Interleaving
end PrepaidLedger
