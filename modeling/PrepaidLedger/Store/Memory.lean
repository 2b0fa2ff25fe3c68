import PrepaidLedger.Store.Backend
import PrepaidLedger.Store.Tables

/-!
The tables as a backend: nothing here fails but a second line for one reference and, where it is
told to, the lock.
-/
namespace PrepaidLedger

structure Memory where
  tables : Tables
  pending : Pending

namespace Memory

def ofTables (t : Tables) : Memory := ⟨t, .empty 0⟩

def withoutPending (m : Memory) : Memory := ⟨m.tables, .empty 0⟩

def backend (refusal : LockKey → Option LockError) : Backend Memory where
  call c m :=
    let (a, t) := m.tables.call c
    (.ok a, { m with tables := t })
  begin m :=
    (.ok (), ⟨{ m.tables with batches := m.tables.batches + 1 }, .empty m.tables.batches⟩)
  tx c m :=
    let (a, p) := m.pending.call m.tables c
    (a, { m with pending := p })
  commit m := (.ok (), Memory.ofTables (m.tables.commit m.pending))
  rollback m := (.ok (), m.withoutPending)
  abandon m := m.withoutPending
  acquire key m :=
    match refusal key with
    | some e => (.error e, m)
    | none => (.ok (), m)
  release _ m := m

end Memory
end PrepaidLedger
