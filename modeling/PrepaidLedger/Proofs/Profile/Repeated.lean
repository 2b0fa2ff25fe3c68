import PrepaidLedger.Proofs.Profile.Overtaken

/-! A profile event that is delivered again. It decides on the rows as it finds them, and the second
time it finds what the first time left; it then writes the same rows and gives the same answer,
whenever it comes. -/

namespace PrepaidLedger

variable {α : Type}

/-! ## Times set aside -/

def CardUser.undated (u : CardUser) : CardUser := { u with updatedAt := ⟨0⟩ }

namespace Tables

def undated (t : Tables) : Tables :=
  { t with
    cards := t.cards.map Card.undated
    cardUsers := t.cardUsers.map CardUser.undated
    now := ⟨0⟩ }

def atTime (t : Tables) (now : Timestamp) : Tables := { t with now := now }

end Tables

namespace World

def withTables (w : World Memory) (t : Tables) : World Memory := { w with store.tables := t }

def atTime (w : World Memory) (now : Timestamp) : World Memory :=
  w.withTables (w.store.tables.atTime now)

def undated (w : World Memory) : World Memory := w.withTables w.store.tables.undated

end World

/-! ## Events as functions of the tables -/

namespace Tables

def updateCard (t : Tables) (e : CardEvent) : Except Rejection Card × Tables :=
  match t.cardByRef? e.cardRef with
  | none => (.error .cardNotFound, t)
  | some card =>
    match t.call (.patchCard card.id (e.patch card.status)) with
    | (none, t) => (.error .cardNotFound, t)
    | (some card, t) => (.ok card, t)

def updateCardUser (t : Tables) (e : UserEvent) : Except Rejection CardUser × Tables :=
  match t.cardUserByRef? e.userRef with
  | none => (.error .cardUserNotFound, t)
  | some owner =>
    match e.applicationStatus with
    | none => (.ok owner, t)
    | some status =>
      match t.call (.setCardUserStatus owner.id status) with
      | (none, t) => (.error .cardUserNotFound, t)
      | (some owner, t) => (.ok owner, t)

def registerContract (t : Tables) (e : ContractEvent) : Except Rejection DepositAddress × Tables :=
  match t.cardUserByRef? e.userRef with
  | none => (.error .cardUserNotFound, t)
  | some owner =>
    let (a, t) := t.registerAddress owner.userId e.chainId e.depositAddress
    (.ok a, t)

end Tables

def Task.Computes (task : Task α) (f : Tables → α × Tables) : Prop :=
  ∀ (refusal : LockKey → Option LockError) (C : Collaborators) (w : World Memory),
    task.runIn (Memory.backend refusal) C w =
      (.ok (f w.store.tables).1, w.withTables (f w.store.tables).2)

namespace Task

theorem computes_updateCard (e : CardEvent) : (updateCard e).Computes (·.updateCard e) := by
  intro refusal C w
  change _ = (Except.ok (w.store.tables.updateCard e).1, w.withTables (w.store.tables.updateCard e).2)
  have hanswer : World.answer (Memory.backend refusal) C (.store (.cardByRef e.cardRef)) w =
      (.ok (w.store.tables.cardByRef? e.cardRef), w) := rfl
  unfold runIn Program.runIn Tables.updateCard
  rw [run_updateCard, Program.run, hanswer]
  cases w.store.tables.cardByRef? e.cardRef with
  | none => rfl
  | some card =>
    refine (runIn_bind (Memory.backend refusal) C
      (Task.store (.patchCard card.id (e.patch card.status))) _ w).trans ?_
    rw [runIn_store]
    dsimp only
    rcases w.store.tables.call (.patchCard card.id (e.patch card.status)) with ⟨_ | row, t⟩ <;> rfl

theorem computes_updateCardUser (e : UserEvent) :
    (updateCardUser e).Computes (·.updateCardUser e) := by
  intro refusal C w
  change _ = (Except.ok (w.store.tables.updateCardUser e).1,
    w.withTables (w.store.tables.updateCardUser e).2)
  unfold updateCardUser Tables.updateCardUser
  rw [runIn_bind, runIn_read refusal C w (a := w.store.tables.cardUserByRef? e.userRef) rfl]
  cases w.store.tables.cardUserByRef? e.userRef with
  | none => rfl
  | some owner =>
    cases e.applicationStatus with
    | none => rfl
    | some status =>
      dsimp only
      rw [runIn_bind, runIn_store]
      dsimp only
      rcases w.store.tables.call (.setCardUserStatus owner.id status) with ⟨_ | row, t⟩ <;> rfl

theorem computes_registerContract (e : ContractEvent) :
    (registerContract e).Computes (·.registerContract e) := by
  intro refusal C w
  change _ = (Except.ok (w.store.tables.registerContract e).1,
    w.withTables (w.store.tables.registerContract e).2)
  unfold registerContract Tables.registerContract
  rw [runIn_bind, runIn_read refusal C w (a := w.store.tables.cardUserByRef? e.userRef) rfl]
  cases w.store.tables.cardUserByRef? e.userRef <;> rfl

end Task

/-! ## A row that is put twice -/

section Rows

variable {κ ρ β : Type} [DecidableEq κ] [DecidableEq ρ] {key : α → κ} {name : α → ρ}

variable (key) in
theorem exists_stored_of_found {n : ρ} {rows : List α} {found : α}
    (hfound : rowOf? name n rows = some found) :
    ∃ stored, rowOf? key (key found) rows = some stored :=
  -- A row found by its name is stored under its key, unless another row of that key comes
  -- before.
  Option.ne_none_iff_exists'.mp fun hnone =>
    rowOf?_eq_none.mp hnone found (mem_of_rowOf? hfound) rfl

theorem rowOf?_putRow_of_found {n : ρ} {rows : List α} {row found stored : α}
    (hfound : rowOf? name n rows = some found)
    (hstored : rowOf? key (key row) rows = some stored) (hname : name row = name stored) :
    rowOf? name n (putRow key row rows) = some found ∨
      found = stored ∧ rowOf? name n (putRow key row rows) = some row := by
  -- A row found by its name is found again once a row has taken the place of another of that
  -- name, or else that row is found, and has taken its place.
  let R (r r' : α) : Prop := r' = r ∨ r = stored ∧ r' = row
  have hnames (r r' : α) (h : R r r') : name r' = name r := by
    rcases h with rfl | ⟨rfl, rfl⟩
    · rfl
    · exact hname
  have hrel := rowOf?_forall₂ hnames (forall₂_putRow (R := R) (fun r => .inl rfl) hstored
    (.inr ⟨rfl, rfl⟩)) n
  rw [hfound] at hrel
  generalize rowOf? name n (putRow key row rows) = again at hrel ⊢
  cases hrel with
  | some h => exact h.imp (congrArg some) (And.imp_right (congrArg some))

variable (key) in
theorem edited_again (f : α → β) (row : α) (edit : α → α → α) {n : ρ} {rows : List α}
    {found stored : α}
    (hfound : rowOf? name n rows = some found)
    (hstored : rowOf? key (key found) rows = some stored)
    (hkey : key row = key stored) (hname : name row = name stored)
    (hedit : ∀ r, key (edit r row) = key row)
    (hsame : f (edit found row) = f row) (hsame' : found = stored → f (edit row row) = f row) :
    ∃ again, rowOf? name n (putRow key row rows) = some again ∧
      rowOf? key (key again) (putRow key row rows) = some row ∧
      f (edit again row) = f row ∧
      (putRow key (edit again row) (putRow key row rows)).map f = (putRow key row rows).map f := by
  have hkeyFound : key row = key found := hkey.trans (key_of_rowOf? hstored)
  obtain ⟨again, hagain, hkeyAgain, hf⟩ : ∃ again,
      rowOf? name n (putRow key row rows) = some again ∧ key row = key again ∧
        f (edit again row) = f row := by
    rcases rowOf?_putRow_of_found hfound (hkeyFound ▸ hstored) hname with h | ⟨heq, h⟩
    · exact ⟨found, h, hkeyFound, hsame⟩
    · exact ⟨row, h, rfl, hsame' heq⟩
  refine ⟨again, hagain, (rowOf?_putRow row _ rows).trans (if_pos hkeyAgain), hf, ?_⟩
  rw [putRow_putRow (hedit again).symm]
  exact (map_putRow_inj (hedit again) rows).mpr hf

theorem find?_putRow_of_qualifies {p : α → Bool} {row : α} {rows : List α} (hrow : p row = true)
    (hkey : ∀ found, rows.find? p = some found → key found = key row) :
    (putRow key row rows).find? p = some row := by
  -- A row that takes the place of the first that qualifies, or of none, is the first to
  -- qualify.
  induction rows with
  | nil => exact List.find?_cons_of_pos hrow
  | cons r rest ih =>
    by_cases h : key r = key row
    · rw [putRow, if_pos h]
      exact List.find?_cons_of_pos hrow
    · have hr : ¬ p r = true := fun hr => h (hkey r (List.find?_cons_of_pos hr))
      rw [putRow, if_neg h, List.find?_cons_of_neg hr]
      exact ih fun found hfound => hkey found ((List.find?_cons_of_neg hr).trans hfound)

end Rows

/-! ## Done twice on the tables -/

def Tables.SettledBy (f : Tables → α × Tables) (answer : α → Outcome) : Prop :=
  ∀ (t : Tables) (now : Timestamp), let second := f ((f t).2.atTime now)
    answer second.1 = answer (f t).1 ∧ second.2.undated = (f t).2.undated

namespace Outcome

variable {action : String}

theorem ofCard_congr {c c' : Card} (h : c.undated = c'.undated) :
    ofCard action (.ok c) = ofCard action (.ok c') := by
  have hout : ofCard action (.ok c.undated) = ofCard action (.ok c'.undated) := by rw [h]
  exact hout

theorem ofCardUser_congr {u u' : CardUser} (h : u.undated = u'.undated) :
    ofCardUser action (.ok u) = ofCardUser action (.ok u') := by
  have hout : ofCardUser action (.ok u.undated) = ofCardUser action (.ok u'.undated) := by rw [h]
  exact hout

end Outcome

namespace CardPatch

def write (p : CardPatch) (c : Card) (now : Timestamp) : Card := { p.apply c with updatedAt := now }

theorem write_again (p : CardPatch) (c : Card) (now later : Timestamp) :
    (p.write (p.write c now) later).undated = (p.write c now).undated := by
  cases hs : p.status <;> cases hf : p.isFrozen <;> cases hr : p.resetDeclineCount <;>
    simp [write, apply, Card.undated, hs, hf, hr, ← Option.or_assoc]

end CardPatch

theorem CardEvent.write_patch_again (e : CardEvent) {card stored : Card} (h : card = stored)
    (now later : Timestamp) :
    ((e.patch ((e.patch card.status).write stored now).status).write
      ((e.patch card.status).write stored now) later).undated =
      ((e.patch card.status).write stored now).undated := by
  -- The patch of the second delivery is made for the status that the first has set.
  subst h
  rcases hs : e.status with _ | provider
  · simp [patch, CardPatch.write, CardPatch.apply, Card.undated, hs, ← Option.or_assoc]
  · cases provider with
    | locked =>
      by_cases hb : card.status = .blocked <;>
        simp [patch, CardPatch.write, CardPatch.apply, Card.undated, hs,
          ProviderCardStatus.toCard, hb, ← Option.or_assoc]
    | _ =>
      simp [patch, CardPatch.write, CardPatch.apply, Card.undated, hs,
        ProviderCardStatus.toCard, ← Option.or_assoc]

namespace Tables

variable {t : Tables}

theorem updateCard_of_none {e : CardEvent} (h : t.cardByRef? e.cardRef = none) :
    t.updateCard e = (.error .cardNotFound, t) := by
  unfold updateCard
  rw [h]

theorem updateCard_of_some {e : CardEvent} {card stored : Card}
    (hcard : t.cardByRef? e.cardRef = some card) (hstored : t.card? card.id = some stored) :
    t.updateCard e = (.ok ((e.patch card.status).write stored t.now),
      t.putCard ((e.patch card.status).write stored t.now)) := by
  unfold updateCard call
  rw [hcard]
  dsimp only
  rw [hstored]
  rfl

theorem settledBy_updateCard (action : String) (e : CardEvent) :
    SettledBy (·.updateCard e) (.ofCard action) := by
  intro t now
  dsimp only
  cases hcard : t.cardByRef? e.cardRef with
  | none =>
    have hagain : (t.atTime now).cardByRef? e.cardRef = none := hcard
    rw [updateCard_of_none hcard, updateCard_of_none hagain]
    exact ⟨rfl, rfl⟩
  | some card =>
    obtain ⟨stored, hstored⟩ := exists_stored_of_found Card.id hcard
    have hsame := CardPatch.write_again (e.patch card.status) stored t.now now
    rw [updateCard_of_some hcard hstored]
    obtain ⟨again, hfound, hstoredAgain, hrow, hcards⟩ :=
      edited_again Card.id Card.undated ((e.patch card.status).write stored t.now)
        (fun found stored => (e.patch found.status).write stored now)
        hcard hstored rfl rfl (fun _ => rfl) hsame fun heq => e.write_patch_again heq t.now now
    have hsecond := updateCard_of_some
      (t := (t.putCard ((e.patch card.status).write stored t.now)).atTime now) hfound hstoredAgain
    dsimp only
    rw [hsecond]
    exact ⟨Outcome.ofCard_congr hrow,
      congrArg (fun cards => { t.undated with cards := cards }) hcards⟩

theorem updateCardUser_of_none {e : UserEvent} (h : t.cardUserByRef? e.userRef = none) :
    t.updateCardUser e = (.error .cardUserNotFound, t) := by
  unfold updateCardUser
  rw [h]

theorem updateCardUser_of_some {e : UserEvent} {owner : CardUser}
    (howner : t.cardUserByRef? e.userRef = some owner) (hstatus : e.applicationStatus = none) :
    t.updateCardUser e = (.ok owner, t) := by
  unfold updateCardUser
  rw [howner]
  dsimp only
  rw [hstatus]

theorem updateCardUser_of_status {e : UserEvent} {owner stored : CardUser} {status : String}
    (howner : t.cardUserByRef? e.userRef = some owner)
    (hstatus : e.applicationStatus = some status) (hstored : t.cardUser? owner.id = some stored) :
    t.updateCardUser e = (.ok { stored with status := status, updatedAt := t.now },
      t.putCardUser { stored with status := status, updatedAt := t.now }) := by
  unfold updateCardUser call
  rw [howner]
  dsimp only
  rw [hstatus]
  dsimp only
  rw [hstored]

theorem settledBy_updateCardUser (action : String) (e : UserEvent) :
    SettledBy (·.updateCardUser e) (.ofCardUser action) := by
  intro t now
  dsimp only
  cases howner : t.cardUserByRef? e.userRef with
  | none =>
    have hagain : (t.atTime now).cardUserByRef? e.userRef = none := howner
    rw [updateCardUser_of_none howner, updateCardUser_of_none hagain]
    exact ⟨rfl, rfl⟩
  | some owner =>
    cases hstatus : e.applicationStatus with
    | none =>
      have hagain : (t.atTime now).cardUserByRef? e.userRef = some owner := howner
      rw [updateCardUser_of_some howner hstatus, updateCardUser_of_some hagain hstatus]
      exact ⟨rfl, rfl⟩
    | some status =>
      obtain ⟨stored, hstored⟩ := exists_stored_of_found CardUser.id howner
      let row : CardUser := { stored with status := status, updatedAt := t.now }
      rw [updateCardUser_of_status howner hstatus hstored]
      obtain ⟨again, hfound, hstoredAgain, hrow, howners⟩ :=
        edited_again CardUser.id CardUser.undated row
          (fun _ stored => { stored with status := status, updatedAt := now })
          howner hstored rfl rfl (fun _ => rfl) rfl fun _ => rfl
      have hsecond := updateCardUser_of_status (t := (t.putCardUser row).atTime now) hfound hstatus
        hstoredAgain
      dsimp only
      rw [hsecond]
      exact ⟨Outcome.ofCardUser_congr hrow,
        congrArg (fun owners => { t.undated with cardUsers := owners }) howners⟩

section Addresses

variable {userId : Uuid} {chainId : Int} {address : String}

theorem registerAddress_of_some {a : DepositAddress} (h : t.address? chainId address = some a) :
    t.registerAddress userId chainId address =
      ({ a with userId := userId }, t.putAddress { a with userId := userId }) := by
  unfold registerAddress
  rw [h]

theorem address?_putAddress {row : DepositAddress} (hchain : row.chainId = chainId)
    (haddress : Text.sameUpToAsciiCase row.address address = true)
    (hid : ∀ a, t.address? chainId address = some a → a.id = row.id) :
    (t.putAddress row).address? chainId address = some row := by
  refine find?_putRow_of_qualifies ?_ hid
  simp [hchain, haddress]

theorem registerAddress_again (userId : Uuid) (chainId : Int) (address : String) (now : Timestamp) :
    let first := t.registerAddress userId chainId address
    (first.2.atTime now).registerAddress userId chainId address =
      (first.1, first.2.atTime now) := by
  -- The address is found under any spelling of its letters, and its row is there already.
  intro first
  obtain ⟨haddresses, huser, hfound⟩ : first.2.addresses = (t.putAddress first.1).addresses ∧
      first.1.userId = userId ∧
      (t.putAddress first.1).address? chainId address = some first.1 := by
    unfold first
    cases hold : t.address? chainId address with
    | some a =>
      have hqualifies := List.find?_some hold
      rw [Bool.and_eq_true, decide_eq_true_iff] at hqualifies
      rw [registerAddress_of_some hold]
      refine ⟨rfl, rfl, address?_putAddress hqualifies.1 hqualifies.2 fun b hb => ?_⟩
      obtain rfl : b = a := Option.some.inj (hb.symm.trans hold)
      rfl
    | none =>
      unfold registerAddress
      rw [hold]
      refine ⟨rfl, rfl, address?_putAddress rfl (beq_self_eq_true _) fun b hb => ?_⟩
      cases hb.symm.trans hold
  have hrow : { first.1 with userId := userId } = first.1 := by rw [← huser]
  have hagain : (first.2.atTime now).address? chainId address = some first.1 := by
    unfold address? at hfound ⊢
    rw [← hfound, ← haddresses]
    rfl
  have hput : (first.2.atTime now).putAddress first.1 = first.2.atTime now := by
    unfold putAddress atTime
    dsimp only
    rw [haddresses, putAddress, putRow_putRow rfl]
  rw [registerAddress_of_some hagain, hrow, hput]

end Addresses

theorem registerContract_of_none {e : ContractEvent} (h : t.cardUserByRef? e.userRef = none) :
    t.registerContract e = (.error .cardUserNotFound, t) := by
  unfold registerContract
  rw [h]

theorem registerContract_of_some {e : ContractEvent} {owner : CardUser}
    (h : t.cardUserByRef? e.userRef = some owner) :
    t.registerContract e =
      (.ok (t.registerAddress owner.userId e.chainId e.depositAddress).1,
        (t.registerAddress owner.userId e.chainId e.depositAddress).2) := by
  unfold registerContract
  rw [h]

theorem settledBy_registerContract (action : String) (e : ContractEvent) :
    SettledBy (·.registerContract e) (.ofAddress action) := by
  intro t now
  dsimp only
  cases howner : t.cardUserByRef? e.userRef with
  | none =>
    have hagain : (t.atTime now).cardUserByRef? e.userRef = none := howner
    rw [registerContract_of_none howner, registerContract_of_none hagain]
    exact ⟨rfl, rfl⟩
  | some owner =>
    have hagain : ((t.registerAddress owner.userId e.chainId e.depositAddress).2.atTime
        now).cardUserByRef? e.userRef = some owner := by
      rw [← howner]
      unfold registerAddress
      split <;> rfl
    rw [registerContract_of_some howner]
    dsimp only
    rw [registerContract_of_some hagain, registerAddress_again]
    exact ⟨rfl, rfl⟩

end Tables

/-! ## Dispatched twice -/

/-- Run again at whatever time, by whatever service, it gives its answer again and changes at most
when a row was changed last. -/
def Task.Repeats (reply : Task Outcome) : Prop :=
  ∀ (refusal refusal' : LockKey → Option LockError) (C C' : Collaborators) (w : World Memory)
    (now : Timestamp),
    let first := reply.runIn (Memory.backend refusal) C w
    let second := reply.runIn (Memory.backend refusal') C' (first.2.atTime now)
    second.1 = first.1 ∧ second.2.undated = first.2.undated

theorem Task.Computes.repeats {task : Task α} {f : Tables → α × Tables} {answer : α → Outcome}
    (h : task.Computes f) (hf : Tables.SettledBy f answer) :
    (do return answer (← task) : Task Outcome).Repeats := by
  intro refusal refusal' C C' w now
  obtain ⟨hanswer, htables⟩ := hf w.store.tables now
  dsimp only
  rw [runIn_return, runIn_return, h, h]
  exact ⟨congrArg Except.ok hanswer, congrArg w.withTables htables⟩

theorem Incoming.repeats_answer (s : Settings) (action : String) {incoming : Incoming}
    (h : incoming.resource? ≠ some "transaction") : (incoming.answer s action).Repeats := by
  cases incoming with
  | spend | collateral | authorization => exact absurd rfl h
  | card e => exact (Task.computes_updateCard e).repeats (Tables.settledBy_updateCard action e)
  | user e =>
    exact (Task.computes_updateCardUser e).repeats (Tables.settledBy_updateCardUser action e)
  | contract e =>
    exact (Task.computes_registerContract e).repeats (Tables.settledBy_registerContract action e)
  | closed o => exact fun _ _ _ _ _ _ => ⟨rfl, rfl⟩

/-- A profile event that is delivered once more, by whatever service and at whatever time, gets the
answer that it got the first time, and changes at most when a row was changed last. -/
theorem dispatch_profile_twice (s : Settings) {e : Envelope}
    (hresource : e.resource ∈ ["card", "user", "contract"])
    (refusal refusal' : LockKey → Option LockError) (C C' : Collaborators) (w : World Memory)
    (now : Timestamp) :
    let first := (dispatch s e).runIn (Memory.backend refusal) C w
    let second := (dispatch s e).runIn (Memory.backend refusal') C' (first.2.atTime now)
    second.1 = first.1 ∧ second.2.undated = first.2.undated := by
  have hprofile : e.incoming.resource? ≠ some "transaction" := fun h => by
    rw [Envelope.resource_of_incoming h] at hresource
    simp at hresource
  have hrepeats := Incoming.repeats_answer s e.action hprofile
  intro first second
  unfold second first
  rw [runIn_dispatch_answer, runIn_dispatch_answer]
  obtain ⟨hanswer, htables⟩ := hrepeats refusal refusal' C C' w now
  exact ⟨congrArg (Outcome.ofResult e.action) hanswer, htables⟩

namespace Specimen

def contract (address : String) : Envelope where
  id := "envelope"
  resource := "contract"
  action := "created"
  body := .object [("id", "c"), ("userId", "owner"), ("chainId", (1 : Int)),
    ("depositAddress", address)]

def registered : World Memory :=
  ((dispatch settings (contract "0xab")).runIn (Memory.backend fun _ => none) refusing world).2

end Specimen

theorem contract_twice_in_capitals :
    let first := (dispatch Specimen.settings (Specimen.contract "0xAB")).runIn
      (Memory.backend fun _ => none) Specimen.refusing Specimen.registered
    let second := (dispatch Specimen.settings (Specimen.contract "0xAB")).runIn
      (Memory.backend fun _ => none) Specimen.refusing (first.2.atTime ⟨7⟩)
    first.2.store.tables.addresses.map (·.address) = ["0xab"] ∧
      second.1 = first.1 ∧ second.2.undated = first.2.undated :=
  -- An address that is known in small letters is registered twice in capitals.
  ⟨by decide +kernel, dispatch_profile_twice Specimen.settings (List.mem_of_elem_eq_true rfl)
    (fun _ => none) (fun _ => none) Specimen.refusing Specimen.refusing Specimen.registered ⟨7⟩⟩

end PrepaidLedger
