import PrepaidLedger.Lock.Key
import PrepaidLedger.Store.Call

/-!
A store together with its locks, as functions on its state. A transaction is open from a successful
`begin` to a successful `commit` or `rollback`, or until it is abandoned.
-/
namespace PrepaidLedger

structure Backend (σ : Type) where
  call : (c : StoreCall) → σ → Except StoreError c.Answer × σ
  begin : σ → Except StoreError Unit × σ
  tx : (c : TxCall) → σ → Except StoreError c.Answer × σ
  commit : σ → Except StoreError Unit × σ
  rollback : σ → Except StoreError Unit × σ
  abandon : σ → σ
  acquire : LockKey → σ → Except LockError Unit × σ
  release : LockKey → σ → σ

end PrepaidLedger
