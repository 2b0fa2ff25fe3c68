import Mathlib.Algebra.Group.Nat.Defs
import PrepaidLedger.Proofs.Ledger.Words
import PrepaidLedger.Proofs.Sql.Meaning
import PrepaidLedger.Proofs.Text.Digits

/-! The columns of a row one by one. A row converts exactly if each of its columns can be read, and
what is written into a column is read from it again. -/

namespace PrepaidLedger

namespace Sql

/-! ## Reading a column -/

namespace Row

def word? {α : Type} [StoredVocabulary α] (j : Json) : Option α := j.string?.bind Vocabulary.ofWord?

def time? (j : Json) : Option Timestamp := (int? j).map (⟨·⟩)

section Reading

variable {α : Type} {r : Row} {column : String} {a : α}

theorem read_eq_ok {value? : Json → Option α} :
    read value? r column = .ok a ↔ value? (r.cell column) = some a := by
  unfold read
  cases value? (r.cell column) with
  | none => exact iff_of_false nofun nofun
  | some b =>
    exact ⟨fun h => congrArg some (Except.ok.inj h), fun h => congrArg _ (Option.some.inj h)⟩

theorem mapError_read_eq_ok [StoredVocabulary α] {table s : String} :
    (StoredVocabulary.read (α := α) s).mapError (StoreError.corruptRow table) = .ok a ↔
      Vocabulary.ofWord? s = some a := by
  unfold StoredVocabulary.read
  cases Vocabulary.ofWord? (α := α) s with
  | none => exact iff_of_false nofun nofun
  | some b =>
    exact ⟨fun h => congrArg some (Except.ok.inj h), fun h => congrArg _ (Option.some.inj h)⟩

theorem word_eq_ok [StoredVocabulary α] {table : String} :
    word table r column = .ok a ↔ word? (r.cell column) = some a := by
  unfold word word? text
  rw [bind_eq_ok, Option.bind_eq_some_iff]
  simp only [read_eq_ok, mapError_read_eq_ok]

theorem not_null_of_read (value? : Json → Option α) (hnull : value? .null = none) {j : Json}
    (h : value? j = some a) : j.isNull = false := by
  cases j with
  | null =>
    rw [hnull] at h
    cases h
  | _ => rfl

end Reading
end Row

theorem Table.check_eq_ok {t : Table} {r : Row} (names : List String)
    (hnames : (t.columns.filter fun c => !c.admitsNull).map Column.name = names)
    (h : ∀ n ∈ names, (r.cell n).isNull = false) : t.check r = .ok () := by
  have hnone : t.firstMissing? r = none := by
    refine List.find?_eq_none.mpr fun c hc hmissing => ?_
    rw [Bool.and_eq_true] at hmissing
    have hname : c.name ∈ names :=
      hnames ▸ List.mem_map_of_mem (List.mem_filter.mpr ⟨hc, hmissing.1⟩)
    rw [h _ hname] at hmissing
    exact Bool.false_ne_true hmissing.2
  unfold check
  rw [hnone]

/-! ## Reading what was written -/

class LawfulVocabulary (α : Type) [Vocabulary α] : Prop where
  ofWord?_word (a : α) : Vocabulary.ofWord? (Vocabulary.word a) = some a

instance : LawfulVocabulary CardStatus := ⟨fun s => by cases s <;> rfl⟩
instance : LawfulVocabulary LineStatus := ⟨fun s => by cases s <;> rfl⟩
instance : LawfulVocabulary JournalStatus := ⟨fun s => by cases s <;> rfl⟩
instance : LawfulVocabulary LineKind := ⟨fun k => by cases k <;> rfl⟩

namespace Row

variable {held : Json}

theorem uuid?_text (u : Uuid) : uuid? (Sql.text u.text) = some u := by
  have hstring : (Sql.text u.text).string? = some u.text := rfl
  unfold uuid?
  rw [hstring, Option.bind_some, u.ofText?_text]

theorem word?_text {α : Type} [StoredVocabulary α] [LawfulVocabulary α] (a : α) :
    word? (Sql.text (Vocabulary.word a)) = some a := LawfulVocabulary.ofWord?_word a

theorem int?_int {n : Int} (hn : IsInt64 n) : int? (.int n) = some n := if_pos hn

theorem time?_int {now : Timestamp} (hn : IsInt64 now.seconds) :
    time? (.int now.seconds) = some now := by
  unfold time?
  rw [int?_int hn]
  rfl

theorem orNull_optInt {o : Option Int} (ho : ∀ n ∈ o, IsInt64 n) :
    orNull int? (Sql.optInt o) = some o := by
  cases o with
  | none => rfl
  | some n => exact congrArg (Option.map some) (int?_int (ho n rfl))

theorem orNull_optText (o : Option String) : orNull Json.string? (Sql.optText o) = some o := by
  cases o <;> rfl

theorem word?_coalesce {α : Type} [StoredVocabulary α] [LawfulVocabulary α] (o : Option α) {a : α}
    (h : word? held = some a) :
    word? (coalesce (Sql.optText (o.map Vocabulary.word)) held) = some (o.getD a) := by
  cases o with
  | none => exact h
  | some b => exact word?_text b

theorem int?_coalesce {o : Option Int} (ho : ∀ n ∈ o, IsInt64 n) {n : Int}
    (h : int? held = some n) : int? (coalesce (Sql.optInt o) held) = some (o.getD n) := by
  cases o with
  | none => exact h
  | some b => exact int?_int (ho b rfl)

theorem bool?_coalesce (o : Option Bool) {b : Bool} (h : bool? held = some b) :
    bool? (coalesce (Sql.optBool o) held) = some (o.getD b) := by
  cases o with
  | none => exact h
  | some b => rfl

theorem optInt_coalesce {o : Option Int} (ho : ∀ n ∈ o, IsInt64 n) {x : Option Int}
    (h : orNull int? held = some x) :
    orNull int? (coalesce (Sql.optInt o) held) = some (o <|> x) := by
  cases o with
  | none => exact h
  | some n => exact orNull_optInt ho

theorem optText_coalesce (o : Option String) {x : Option String}
    (h : orNull Json.string? held = some x) :
    orNull Json.string? (coalesce (Sql.optText o) held) = some (o <|> x) := by
  cases o with
  | none => exact h
  | some s => rfl

theorem int?_zeroed (flag : Bool) {n : Int} (h : int? held = some n) :
    int? (zeroed (.bool flag) held) = some (if flag then 0 else n) := by
  cases flag with
  | true => rfl
  | false => exact h

theorem int?_successor {n : Int} (h : int? held = some n) (hn : n < Json.maxInt64) :
    int? (successor held) = some (n + 1) := by
  unfold int? at h
  split at h
  next number =>
    cases number with
    | int k =>
      unfold Json.Number.toInt64? at h
      dsimp only at h
      split_ifs at h with hk
      obtain rfl := Option.some.inj h
      exact int?_int ⟨by omega, hn⟩
    | float x => cases h
  next => cases h

end Row

/-! ## Rows as records -/

section Records

open Row

structure CardIn (cell : String → Json) (c : Card) : Prop where
  id : uuid? (cell "id") = some c.id
  userId : uuid? (cell "user_id") = some c.userId
  cardUserId : uuid? (cell "card_user_id") = some c.cardUserId
  providerRef : (cell "provider_ref").string? = some c.providerRef
  status : word? (cell "status") = some c.status
  balance : int? (cell "balance") = some c.balance
  spendingLimit : orNull int? (cell "spending_limit") = some c.spendingLimit
  limitFrequency : orNull Json.string? (cell "limit_frequency") = some c.limitFrequency
  isFrozen : bool? (cell "is_frozen") = some c.isFrozen
  declineCount : int? (cell declineColumn) = some c.declineCount
  expirationMonth : orNull int? (cell "expiration_month") = some c.expirationMonth
  expirationYear : orNull int? (cell "expiration_year") = some c.expirationYear
  lastFour : orNull Json.string? (cell "last_four") = some c.lastFour
  createdAt : time? (cell "created_at") = some c.createdAt
  updatedAt : time? (cell "updated_at") = some c.updatedAt

structure CardUserIn (cell : String → Json) (u : CardUser) : Prop where
  id : uuid? (cell "id") = some u.id
  userId : uuid? (cell "user_id") = some u.userId
  providerRef : (cell "provider_ref").string? = some u.providerRef
  status : (cell "status").string? = some u.status
  balance : int? (cell "balance") = some u.balance
  createdAt : time? (cell "created_at") = some u.createdAt
  updatedAt : time? (cell "updated_at") = some u.updatedAt

structure LineIn (cell : String → Json) (l : Line) : Prop where
  id : (uuid? (cell "id")).map RowId.assigned = some l.id
  cardId : uuid? (cell "card_id") = some l.cardId
  cardUserId : uuid? (cell "card_user_id") = some l.cardUserId
  userId : uuid? (cell "user_id") = some l.userId
  reference : (cell "provider_ref").string? = some l.reference
  kind : word? (cell "kind") = some l.kind
  status : word? (cell "status") = some l.status
  amount : int? (cell "amount") = some l.amount
  fee : int? (cell "fee") = some l.fee
  currency : (cell "currency").string? = some l.currency
  balanceBefore : orNull int? (cell "balance_before") = some l.balanceBefore
  balanceAfter : orNull int? (cell "balance_after") = some l.balanceAfter
  name : orNull Json.string? (cell "merchant_name") = some l.merchant.name
  city : orNull Json.string? (cell "merchant_city") = some l.merchant.city
  country : orNull Json.string? (cell "merchant_country") = some l.merchant.country
  category : orNull Json.string? (cell "merchant_category") = some l.merchant.category
  categoryCode : orNull Json.string? (cell "merchant_category_code") = some l.merchant.categoryCode
  declineReason : orNull Json.string? (cell "decline_reason") = some l.declineReason
  feeChargeRef : orNull Json.string? (cell "fee_provider_ref") = some l.feeChargeRef
  feeSettled : bool? (cell "fee_settled") = some l.feeSettled
  createdAt : time? (cell "created_at") = some l.createdAt
  updatedAt : time? (cell "updated_at") = some l.updatedAt

structure EntryIn (cell : String → Json) (e : Entry) : Prop where
  id : (uuid? (cell "id")).map RowId.assigned = some e.id
  userId : uuid? (cell "user_id") = some e.userId
  reference : (cell "reference").string? = some e.reference
  kind : word? (cell "kind") = some e.kind
  status : word? (cell "status") = some e.status
  amount : int? (cell "amount") = some e.amount
  fee : int? (cell "fee") = some e.fee
  currency : (cell "currency").string? = some e.currency
  balanceBefore : orNull int? (cell "balance_before") = some e.balanceBefore
  balanceAfter : orNull int? (cell "balance_after") = some e.balanceAfter
  metadata : document (cell "metadata") = e.metadata
  createdAt : time? (cell "created_at") = some e.createdAt
  updatedAt : time? (cell "updated_at") = some e.updatedAt

variable {r : Row}

theorem cardOfRow_eq_ok {c : Card} : cardOfRow r = .ok c ↔ CardIn r.cell c := by
  unfold cardOfRow
  simp only [bind_eq_ok, Row.uuid, Row.text, Row.int, Row.bool, Row.text?, Row.optInt, Row.time,
    read_eq_ok, word_eq_ok]
  constructor
  · rintro ⟨_, -, _, hid, _, huser, _, howner, _, hreference, _, hstatus, _, hbalance, _, hlimit,
      _, hfrequency, _, hfrozen, _, hcount, _, hmonth, _, hyear, _, hfour, _, hcreated, _, hupdated,
      h⟩
    obtain rfl := Except.ok.inj h
    exact ⟨hid, huser, howner, hreference, hstatus, hbalance, hlimit, hfrequency, hfrozen, hcount,
      hmonth, hyear, hfour, hcreated, hupdated⟩
  · intro h
    -- The check asks for no more than that a value is there, and what has been read is there.
    refine ⟨(), Table.check_eq_ok ["id", "user_id", "card_user_id", "provider_ref", "status",
        "balance", "is_frozen", declineColumn, "created_at", "updated_at"] rfl ?_,
      _, h.id, _, h.userId, _, h.cardUserId, _, h.providerRef, _, h.status, _, h.balance,
      _, h.spendingLimit, _, h.limitFrequency, _, h.isFrozen, _, h.declineCount,
      _, h.expirationMonth, _, h.expirationYear, _, h.lastFour, _, h.createdAt, _, h.updatedAt, rfl⟩
    simp only [List.forall_mem_cons]
    exact ⟨not_null_of_read _ rfl h.id, not_null_of_read _ rfl h.userId,
      not_null_of_read _ rfl h.cardUserId, not_null_of_read _ rfl h.providerRef,
      not_null_of_read _ rfl h.status, not_null_of_read _ rfl h.balance,
      not_null_of_read _ rfl h.isFrozen, not_null_of_read _ rfl h.declineCount,
      not_null_of_read _ rfl h.createdAt, not_null_of_read _ rfl h.updatedAt, nofun⟩

theorem cardUserOfRow_eq_ok {u : CardUser} : cardUserOfRow r = .ok u ↔ CardUserIn r.cell u := by
  unfold cardUserOfRow
  simp only [bind_eq_ok, Row.uuid, Row.text, Row.int, Row.time, read_eq_ok]
  constructor
  · rintro ⟨_, -, _, hid, _, huser, _, hreference, _, hstatus, _, hbalance, _, hcreated,
      _, hupdated, h⟩
    obtain rfl := Except.ok.inj h
    exact ⟨hid, huser, hreference, hstatus, hbalance, hcreated, hupdated⟩
  · intro h
    refine ⟨(), Table.check_eq_ok ["id", "user_id", "provider_ref", "status", "balance",
        "created_at", "updated_at"] rfl ?_,
      _, h.id, _, h.userId, _, h.providerRef, _, h.status, _, h.balance, _, h.createdAt,
      _, h.updatedAt, rfl⟩
    simp only [List.forall_mem_cons]
    exact ⟨not_null_of_read _ rfl h.id, not_null_of_read _ rfl h.userId,
      not_null_of_read _ rfl h.providerRef, not_null_of_read _ rfl h.status,
      not_null_of_read _ rfl h.balance, not_null_of_read _ rfl h.createdAt,
      not_null_of_read _ rfl h.updatedAt, nofun⟩

theorem lineOfRow_eq_ok {l : Line} : lineOfRow r = .ok l ↔ LineIn r.cell l := by
  unfold lineOfRow
  simp only [bind_eq_ok, Row.uuid, Row.text, Row.int, Row.bool, Row.text?, Row.optInt, Row.time,
    read_eq_ok, word_eq_ok]
  constructor
  · rintro ⟨_, -, _, hid, _, hcard, _, howner, _, huser, _, hreference, _, hkind, _, hstatus,
      _, hamount, _, hfee, _, hcurrency, _, hbefore, _, hafter, _, hname, _, hcity, _, hcountry,
      _, hcategory, _, hcode, _, hreason, _, hcharge, _, hsettled, _, hcreated, _, hupdated, h⟩
    obtain rfl := Except.ok.inj h
    exact ⟨congrArg (Option.map RowId.assigned) hid, hcard, howner, huser, hreference, hkind,
      hstatus, hamount, hfee, hcurrency, hbefore, hafter, hname, hcity, hcountry, hcategory, hcode,
      hreason, hcharge, hsettled, hcreated, hupdated⟩
  · intro h
    obtain ⟨id, hid, hassigned⟩ := Option.map_eq_some_iff.mp h.id
    refine ⟨(), Table.check_eq_ok ["id", "card_id", "card_user_id", "user_id", "provider_ref",
        "kind", "status", "amount", "fee", "currency", "fee_settled", "created_at", "updated_at"]
        rfl ?_,
      _, hid, _, h.cardId, _, h.cardUserId, _, h.userId, _, h.reference, _, h.kind, _, h.status,
      _, h.amount, _, h.fee, _, h.currency, _, h.balanceBefore, _, h.balanceAfter, _, h.name,
      _, h.city, _, h.country, _, h.category, _, h.categoryCode, _, h.declineReason,
      _, h.feeChargeRef, _, h.feeSettled, _, h.createdAt, _, h.updatedAt, ?_⟩
    · simp only [List.forall_mem_cons]
      exact ⟨not_null_of_read _ rfl hid, not_null_of_read _ rfl h.cardId,
        not_null_of_read _ rfl h.cardUserId, not_null_of_read _ rfl h.userId,
        not_null_of_read _ rfl h.reference, not_null_of_read _ rfl h.kind,
        not_null_of_read _ rfl h.status, not_null_of_read _ rfl h.amount,
        not_null_of_read _ rfl h.fee, not_null_of_read _ rfl h.currency,
        not_null_of_read _ rfl h.feeSettled, not_null_of_read _ rfl h.createdAt,
        not_null_of_read _ rfl h.updatedAt, nofun⟩
    · rw [hassigned]
      rfl

theorem entryOfRow_eq_ok {e : Entry} : entryOfRow r = .ok e ↔ EntryIn r.cell e := by
  unfold entryOfRow
  simp only [bind_eq_ok, Row.uuid, Row.text, Row.int, Row.optInt, Row.time, read_eq_ok, word_eq_ok]
  constructor
  · rintro ⟨_, -, _, hid, _, huser, _, hreference, _, hkind, _, hstatus, _, hamount, _, hfee,
      _, hcurrency, _, hbefore, _, hafter, _, hcreated, _, hupdated, h⟩
    obtain rfl := Except.ok.inj h
    exact ⟨congrArg (Option.map RowId.assigned) hid, huser, hreference, hkind, hstatus, hamount,
      hfee, hcurrency, hbefore, hafter, rfl, hcreated, hupdated⟩
  · intro h
    obtain ⟨id, hid, hassigned⟩ := Option.map_eq_some_iff.mp h.id
    refine ⟨(), Table.check_eq_ok ["id", "user_id", "reference", "kind", "status", "amount", "fee",
        "currency", "created_at", "updated_at"] rfl ?_,
      _, hid, _, h.userId, _, h.reference, _, h.kind, _, h.status, _, h.amount, _, h.fee,
      _, h.currency, _, h.balanceBefore, _, h.balanceAfter, _, h.createdAt, _, h.updatedAt, ?_⟩
    · simp only [List.forall_mem_cons]
      exact ⟨not_null_of_read _ rfl hid, not_null_of_read _ rfl h.userId,
        not_null_of_read _ rfl h.reference, not_null_of_read _ rfl h.kind,
        not_null_of_read _ rfl h.status, not_null_of_read _ rfl h.amount,
        not_null_of_read _ rfl h.fee, not_null_of_read _ rfl h.currency,
        not_null_of_read _ rfl h.createdAt, not_null_of_read _ rfl h.updatedAt, nofun⟩
    · rw [hassigned, h.metadata]
      rfl

end Records
end Sql
end PrepaidLedger
