import PrepaidLedger.Engine.Effects
import PrepaidLedger.Engine.Json
import PrepaidLedger.Engine.Settings
import PrepaidLedger.Rehearsal.Parties
import PrepaidLedger.Store.Fault
import PrepaidLedger.Store.Json
import PrepaidLedger.Store.Memory

/-!
A stage on which the ledger is rehearsed: the store in memory with faults on command, and parties
that do as they are told. An act takes one second, lets the effects it left for later run, and is
told by the rows it changed and the messages that came through.
-/
namespace PrepaidLedger.Rehearsal

structure Stage where
  world : World (Faulty Memory)
  parties : Parties
  settings : Settings

namespace Stage

def ofTables (t : Tables) (parties : Parties) (settings : Settings) : Stage :=
  ⟨.ofStore ⟨.ofTables t, []⟩, parties, settings⟩

def backend (s : Stage) : Backend (Faulty Memory) :=
  Faulty.backend (Memory.backend s.parties.lockFailure)

def collaborators (s : Stage) : Collaborators := s.parties.collaborators

def run {α : Type} (p : Program α) (s : Stage) : α × Stage :=
  let (a, w) := p.runIn s.backend s.collaborators s.world
  (a, { s with world := w })

def tables (s : Stage) : Tables := s.world.store.inner.tables

def onStore (f : Faulty Memory → Faulty Memory) (s : Stage) : Stage :=
  { s with world := { s.world with store := f s.world.store } }

def onTables (f : Tables → Tables) : Stage → Stage :=
  onStore (Faulty.onInner fun m => { m with tables := f m.tables })

def withFaults (faults : List Fault) : Stage → Stage := onStore ({ · with faults := faults })

def tick : Stage → Stage := onTables fun t => { t with now := ⟨t.now.seconds + 1⟩ }

def settle (s : Stage) : Stage :=
  { s with world := s.world.settle s.backend s.collaborators }

def since (before after : Stage) : List (String × Json) :=
  let changed := RowView.stable.changes before.tables after.tables
  (if changed.isEmpty then [] else [("changed", .object changed)]) ++
    outboundMembers
      ((after.world.outbound.drop before.world.outbound.length).filter after.parties.witness)

end Stage
end PrepaidLedger.Rehearsal
