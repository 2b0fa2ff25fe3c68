import PrepaidLedger.Proofs.Concurrent.Balances
import PrepaidLedger.Proofs.Specimen

/-! Deliveries that run at the same time. However their operations fall between one another, no
committed change is lost, each one starts from the balance that the one before it left, and as long
as one of them is not done, one of them can go on. -/

namespace PrepaidLedger

variable {ι : Type}

/-! ## Runners -/

/-- The delivery holds the locks it believes to hold, and what it has read of those rows is still
so. Outside its transaction it holds none. -/
def Runner.Sound (order : List Uuid) (holds : Uuid → Prop) (t : Tables) : Runner → Prop
  | .outside rest => (∀ id, ¬ holds id) ∧ rest.Opens order
  | .within rest p => ∃ held seen, (∀ id, holds id ↔ id ∈ held) ∧ seen.Spares held t ∧
    rest.Safe order Conclusion.Fits (.within held p seen)
  | .dropped => ∀ id, ¬ holds id

theorem Runner.Sound.frame {order : List Uuid} {holds holds' : Uuid → Prop} {t t' : Tables}
    {r : Runner} (h : r.Sound order holds t) (hholds : ∀ id, holds' id ↔ holds id)
    (hspares : ∀ held, (∀ id ∈ held, holds id) → t.Spares held t') : r.Sound order holds' t' := by
  cases r with
  | outside rest => exact ⟨fun id hid => h.1 id ((hholds id).mp hid), h.2⟩
  | within rest p =>
    obtain ⟨held, seen, hheld, hseen, hsafe⟩ := h
    refine ⟨held, seen, fun id => (hholds id).trans (hheld id), ?_, hsafe⟩
    exact hseen.trans (hspares held fun id hid => (hheld id).mpr hid)
  | dropped => exact fun id hid => h id ((hholds id).mp hid)

theorem Program.Safe.done_of_undone {order : List Uuid} {x : Program Conclusion}
    (h : x.Safe order Conclusion.Fits .undone) : ∃ c, x = .done c ∧ x.applied? = none := by
  cases x with
  | done c =>
    rcases c with e | dismissal | a
    · exact ⟨_, rfl, rfl⟩
    · exact ⟨_, rfl, rfl⟩
    · exact h.elim
  | ask r next => cases r <;> exact h.elim

theorem Program.Safe.applied_of_committed {order held : List Uuid} {p : Pending} {t : Tables}
    {x : Program Conclusion} (h : x.Safe order Conclusion.Fits (.committed held p t)) :
    ∃ a, x = .done (.ok (.ok a)) ∧ a.Commits held p t := by
  cases x with
  | done c =>
    rcases c with e | dismissal | a
    · exact h.elim
    · exact h.elim
    · exact ⟨a, rfl, h⟩
  | ask r next => cases r <;> exact h.elim

/-! ## The invariant -/

theorem Tables.spares_call (t : Tables) {c : StoreCall} {held : List Uuid}
    (h : ∀ id ∈ c.row?, id ∉ held) : t.Spares held (t.call c).2 := by
  cases c with
  | registerAddress userId chainId address =>
    unfold call registerAddress
    dsimp only
    split <;> exact .of_rows rfl rfl rfl
  | patchCard id patch =>
    unfold call
    dsimp only
    cases hc : t.card? id with
    | none => exact .refl t
    | some c =>
      refine ⟨fun k hk => ?_, fun _ _ => rfl, fun _ hnone => hnone⟩
      refine (rowOf?_putRow _ k t.cards).trans (if_neg ?_)
      rintro rfl
      exact h c.id (congrArg some (key_of_rowOf? hc).symm) hk
  | setCardUserStatus id status =>
    unfold call
    dsimp only
    cases hu : t.cardUser? id with
    | none => exact .refl t
    | some u =>
      refine ⟨fun _ _ => rfl, fun k hk => ?_, fun _ hnone => hnone⟩
      refine (rowOf?_putRow _ k t.cardUsers).trans (if_neg ?_)
      rintro rfl
      exact h u.id (congrArg some (key_of_rowOf? hu).symm) hk
  | settleFee id chargeRef =>
    unfold call
    dsimp only
    cases hl : t.line? id with
    | none => exact .refl t
    | some l =>
      refine ⟨fun _ _ => rfl, fun _ _ => rfl, fun k hnone => ?_⟩
      have hput : rowOf? Line.id k (putRow Line.id _ t.lines) = none := hnone
      rw [rowOf?_putRow] at hput
      split at hput
      · cases hput
      · exact hput
  | _ => exact .refl t

namespace Interleaving

variable {deliveries : ι → Delivery} {t₀ : Tables} {m m' : Interleaving ι} {i : ι}

structure Sound (t₀ : Tables) (deliveries : ι → Delivery) (m : Interleaving ι) : Prop where
  runner : ∀ i, (m.runner i).Sound (deliveries i).rows (fun id => m.holder id = some i) m.tables
  accounts : t₀.Accounts m.commits m.tables

/-! ### Locks -/

theorem take_of_ne {j : ι} (hj : j ≠ i) {row? : Option Uuid} (hgrants : m.Grants i row?)
    (id : Uuid) : m.take i row? id = some j ↔ m.holder id = some j := by
  unfold take
  split
  next hrow =>
    refine iff_of_false (fun h => hj (Option.some.inj h).symm) fun h => ?_
    rcases hgrants id hrow with hnone | hi
    · rw [hnone] at h
      cases h
    · rw [hi] at h
      exact hj (Option.some.inj h).symm
  · exact Iff.rfl

theorem take_self {row? : Option Uuid} (id : Uuid) :
    m.take i row? id = some i ↔ m.holder id = some i ∨ row? = some id := by
  unfold take
  split
  next hrow => exact iff_of_true rfl (.inr hrow)
  next hrow => exact ⟨.inl, fun h => h.resolve_right hrow⟩

theorem sound_start (s : Settings) (t : Tables) (deliveries : ι → Delivery) :
    (start s t deliveries).Sound t deliveries where
  runner i := ⟨nofun, Task.opens_write s (deliveries i)⟩
  accounts := .start t

theorem Sound.outside (h : m.Sound t₀ deliveries) {t : Tables} (hsteady : m.tables.Steady t)
    (hspares : ∀ held, (∀ id ∈ held, m.holder id ≠ none) → m.tables.Spares held t) :
    { m with tables := t }.Sound t₀ deliveries where
  runner i := (h.runner i).frame (fun _ => Iff.rfl) fun held hheld =>
    hspares held fun id hid => by
      rw [hheld id hid]
      exact nofun
  accounts := h.accounts.steady hsteady

theorem Sound.unfinished_of_holds (h : m.Sound t₀ deliveries) {id : Uuid}
    (hid : m.holder id = some i) : (m.runner i).isUnfinished := by
  have hrunner := h.runner i
  cases hr : m.runner i with
  | within rest p => rfl
  | outside rest =>
    rw [hr] at hrunner
    exact absurd hid (hrunner.1 id)
  | dropped =>
    rw [hr] at hrunner
    exact absurd hid (hrunner id)

variable [DecidableEq ι]

theorem holder_leave_of_ne {j : ι} (hj : j ≠ i) (r : Runner) (id : Uuid) :
    (m.leave i r).holder id = some j ↔ m.holder id = some j := by
  unfold leave
  dsimp only
  split
  next hi =>
    rw [hi]
    exact iff_of_false nofun fun h => hj (Option.some.inj h).symm
  · exact Iff.rfl

theorem holder_leave_self (r : Runner) (id : Uuid) : (m.leave i r).holder id ≠ some i := by
  unfold leave
  dsimp only
  split
  · exact nofun
  next hi => exact hi

/-! ### Steps -/

theorem Sound.own (h : m.Sound t₀ deliveries) {r : Runner}
    (hrunner : m'.runner = Function.update m.runner i r)
    (hown : r.Sound (deliveries i).rows (fun id => m'.holder id = some i) m'.tables)
    (hholder : ∀ j ≠ i, ∀ id, m'.holder id = some j ↔ m.holder id = some j)
    (hspares : ∀ j ≠ i, ∀ held, (∀ id ∈ held, m.holder id = some j) →
      m.tables.Spares held m'.tables)
    (haccounts : t₀.Accounts m'.commits m'.tables) : m'.Sound t₀ deliveries where
  runner j := by
    rw [hrunner]
    by_cases hj : j = i
    · rw [hj, Function.update_self]
      exact hown
    · rw [Function.update_of_ne hj]
      exact (h.runner j).frame (hholder j hj) (hspares j hj)
  accounts := haccounts

theorem Sound.leave (h : m.Sound t₀ deliveries) {r : Runner}
    (hr : ∀ holds t, (∀ id, ¬ holds id) → r.Sound (deliveries i).rows holds t) :
    (m.leave i r).Sound t₀ deliveries :=
  h.own rfl (hr _ _ (m.holder_leave_self r)) (fun _ hj => m.holder_leave_of_ne hj r)
    (fun _ _ _ _ => .refl _) h.accounts

theorem Sound.advance (h : m.Sound t₀ deliveries) (hm : m.advance i = some m') :
    m'.Sound t₀ deliveries := by
  have hrunner := h.runner i
  unfold Interleaving.advance at hm
  split at hm
  next on heq =>
    -- It opens its transaction, and has read nothing yet that it could rely on.
    obtain rfl := Option.some.inj hm
    rw [heq] at hrunner
    obtain ⟨hfree, hopens⟩ := hrunner
    have hspares (held : List Uuid) : m.tables.Spares held
        { m.tables with batches := m.tables.batches + 1 } := .of_rows rfl rfl rfl
    refine h.own rfl ⟨[], m.tables, fun id => ?_, hspares [], hopens m.tables⟩
      (fun _ _ _ => Iff.rfl) (fun _ _ held _ => hspares held) (h.accounts.steady ?_)
    · exact iff_of_false (hfree id) List.not_mem_nil
    · exact .of_eq rfl rfl rfl rfl rfl (Nat.le_succ _)
  next c on p heq =>
    split at hm
    next hgrants =>
      -- From here on it relies on the tables that just answered it.
      obtain rfl := Option.some.inj hm
      rw [heq] at hrunner
      obtain ⟨held, seen, hheld, hseen, -, hsafe⟩ := hrunner
      refine h.own rfl ⟨c.hold held, m.tables, fun id => ?_, .refl _, hsafe m.tables hseen⟩
        (fun _ hj => take_of_ne hj hgrants) (fun _ _ _ _ => .refl _) h.accounts
      exact (take_self id).trans ((or_congr_left (hheld id)).trans TxCall.mem_hold.symm)
    next => cases hm
  next on p heq =>
    obtain rfl := Option.some.inj hm
    rw [heq] at hrunner
    obtain ⟨held, seen, hheld, hseen, hsafe⟩ := hrunner
    obtain ⟨a, hdone, hcommits⟩ := (hsafe m.tables hseen).applied_of_committed
    have hlog : (on (.ok ())).applied?.toList = [a] := by
      rw [hdone]
      rfl
    -- Nobody else holds a row that comes into force now.
    have hapart (j : ι) (hj : j ≠ i) (held' : List Uuid)
        (hheld' : ∀ id ∈ held', m.holder id = some j) : ∀ id ∈ held', id ∉ held := by
      intro id hid hown
      exact hj (Option.some.inj ((hheld' id hid).symm.trans ((hheld id).mpr hown)))
    let r : Runner := .outside (on (.ok ()))
    refine h.own rfl ⟨m.holder_leave_self r, hdone ▸ trivial⟩
      (fun _ hj => m.holder_leave_of_ne hj r)
      (fun j hj held' hheld' => hcommits.spares (hapart j hj held' hheld')) ?_
    dsimp only
    rw [hlog]
    exact hcommits.accounts h.accounts
  next on p heq =>
    obtain rfl := Option.some.inj hm
    rw [heq] at hrunner
    obtain ⟨held, seen, -, -, hsafe⟩ := hrunner
    obtain ⟨c, hdone, -⟩ := Program.Safe.done_of_undone hsafe
    exact h.leave fun _ _ hfree => ⟨hfree, hdone ▸ trivial⟩
  next on p heq =>
    obtain rfl := Option.some.inj hm
    rw [heq] at hrunner
    obtain ⟨held, seen, -, -, hsafe⟩ := hrunner
    obtain ⟨c, hdone, -⟩ := Program.Safe.done_of_undone hsafe
    exact h.leave fun _ _ hfree => ⟨hfree, hdone ▸ trivial⟩
  next => cases hm

theorem Sound.step (h : m.Sound t₀ deliveries) (op : Op ι) : (m.step op).Sound t₀ deliveries := by
  cases op with
  | advance i =>
    change ((m.advance i).getD m).Sound t₀ deliveries
    cases hm : m.advance i with
    | none => exact h
    | some m' => exact h.advance hm
  | drop i =>
    unfold Interleaving.step
    dsimp only
    split
    · exact h.leave fun _ _ hfree => hfree
    · exact h
  | call c =>
    unfold Interleaving.step
    dsimp only
    split
    next hfree =>
      refine h.outside (m.tables.steady_call c) fun held hheld => ?_
      exact m.tables.spares_call fun id hid hmem => hheld id hmem (hfree id hid)
    · exact h
  | clock now =>
    exact h.outside (.of_eq rfl rfl rfl rfl rfl (Nat.le_refl _)) fun _ _ => .of_rows rfl rfl rfl

theorem sound_after (s : Settings) (t : Tables) (deliveries : ι → Delivery) (ops : List (Op ι)) :
    ((start s t deliveries).after ops).Sound t deliveries :=
  after_keeps (fun _ op h => h.step op) (sound_start s t deliveries) ops

/-! ### Waiting -/

theorem Sound.advances_outside (h : m.Sound t₀ deliveries) {rest : Program Conclusion}
    (hr : m.runner i = .outside rest) (hrest : (m.runner i).isUnfinished) :
    m.advance i ≠ none := by
  have hrunner := h.runner i
  rw [hr] at hrunner hrest
  unfold Interleaving.advance
  rw [hr]
  cases rest with
  | done c => cases hrest
  | ask r next =>
    cases r with
    | begin => exact nofun
    | _ => exact hrunner.2.elim

theorem Sound.waits (h : m.Sound t₀ deliveries) (hrest : (m.runner i).isUnfinished)
    (hstuck : m.advance i = none) :
    ∃ id j, j ≠ i ∧ m.holder id = some j ∧
      (id = (deliveries i).cardId ∨ id = (deliveries i).cardUserId) ∧
      ∀ id', m.holder id' = some i → id' = (deliveries i).cardId := by
  have hrunner := h.runner i
  cases hr : m.runner i with
  | outside rest => exact absurd hstuck (h.advances_outside hr hrest)
  | dropped =>
    rw [hr] at hrest
    cases hrest
  | within rest p =>
    rw [hr] at hrunner
    obtain ⟨held, seen, hheld, -, hsafe⟩ := hrunner
    unfold Interleaving.advance at hstuck
    rw [hr] at hstuck
    cases rest with
    | done c => rcases c with e | dismissal | a <;> exact hsafe.elim
    | ask r next =>
      cases r with
      | tx c =>
        have hdenied : ¬ m.Grants i c.row? := fun hgrants => by
          dsimp only at hstuck
          rw [if_pos hgrants] at hstuck
          cases hstuck
        obtain ⟨id, hid, hheldBy, hne⟩ :
            ∃ id ∈ c.row?, m.holder id ≠ none ∧ m.holder id ≠ some i := by
          simpa [Interleaving.Grants, not_or] using hdenied
        obtain ⟨j, hj⟩ := Option.ne_none_iff_exists'.mp hheldBy
        have hnot : id ∉ held := fun hmem => hne ((hheld id).mpr hmem)
        obtain ⟨hrow, hbefore⟩ := Delivery.row_of_prefix ((hsafe.1 id hid).resolve_left hnot)
        refine ⟨id, j, ?_, hj, hrow, fun id' hid' => hbefore id' ((hheld id').mp hid')⟩
        rintro rfl
        exact hne hj
      | commit | rollback | abandon => cases hstuck
      | _ => exact hsafe.elim

theorem Sound.advances (h : m.Sound t₀ deliveries)
    (hrows : ∀ i j, (deliveries i).cardId ≠ (deliveries j).cardUserId)
    (hrest : (m.runner i).isUnfinished) : ∃ j, (m.advance j).isSome := by
  by_contra hnone
  have hstuck (j : ι) : m.advance j = none := by
    have hj := not_exists.mp hnone j
    simpa using hj
  -- Whoever holds the row of a card-user waits for nothing more, so none of them is held.
  have hfree (j k : ι) : m.holder (deliveries j).cardUserId ≠ some k := fun hk => by
    obtain ⟨-, -, -, -, -, honly⟩ := h.waits (h.unfinished_of_holds hk) (hstuck k)
    exact hrows k j (honly _ hk).symm
  obtain ⟨id, j, hji, hj, hid, -⟩ := h.waits hrest (hstuck i)
  obtain rfl | rfl := hid
  · -- Whoever holds the card waits in turn, though not for the card, which it has.
    obtain ⟨id', k, hkj, hk, hid', honly⟩ := h.waits (h.unfinished_of_holds hj) (hstuck j)
    obtain rfl | rfl := hid'
    · rw [← honly _ hj, hj] at hk
      exact hkj (Option.some.inj hk).symm
    · exact hfree j k hk
  · exact hfree i j hj

end Interleaving

/-! ## Deliveries among others -/

/-- Over every interleaving: both balances are what the commits make of them, each commit follows on
the one before it, and where no card shares its lock with a card-user, something unfinished can go
on. What was prepared, and when, plays no part, nor does what else is called in between. -/
theorem interleaved_deliveries_account [DecidableEq ι] (s : Settings) (t : Tables)
    (deliveries : ι → Delivery) (ops : List (Interleaving.Op ι)) :
    let m := (Interleaving.start s t deliveries).after ops
    (∀ id, (m.tables.card? id).map (·.balance) =
      (t.card? id).map (·.balance + Applied.sumOn (·.card.id) m.commits id)) ∧
    (∀ id, (m.tables.cardUser? id).map (·.balance) =
      (t.cardUser? id).map (·.balance + Applied.sumOn (·.cardUser.id) m.commits id)) ∧
    (∀ before a after, m.commits = before ++ a :: after → a.Follows t before) ∧
    ((∀ i j, (deliveries i).cardId ≠ (deliveries j).cardUserId) →
      ∀ i, (m.runner i).isUnfinished → ∃ j, (m.advance j).isSome) := by
  intro m
  have hm : m.Sound t deliveries := Interleaving.sound_after s t deliveries ops
  exact ⟨hm.accounts.card, hm.accounts.cardUser, hm.accounts.follows,
    fun hrows _ hrest => hm.advances hrows hrest⟩

namespace Specimen

open Interleaving

def spendOf (c : Card) (reference : String) (status : SpendStatus) (amount : Nat) : Delivery :=
  ⟨c.id, c.userId, c.cardUserId,
    .ofSpend settings reference amount c (spendEvent c.providerRef status amount)⟩

def rest (i : Bool) : List (Op Bool) := List.replicate 12 (.advance i)

/-! Two cards of one owner. -/

def ownSpends : Bool → Delivery
  | false => spendOf (card 1 "first" 20) "t" .completed 5
  | true => spendOf (card 2 "second" 30) "u" .completed 7

def contention : List (Op Bool) :=
  [.advance false, .advance true, .advance true, .advance false, .advance false]

def contended : Interleaving Bool := (start settings tables ownSpends).after contention

def spent : Interleaving Bool :=
  (start settings tables ownSpends).after (contention ++ rest false ++ rest true)

end Specimen

/-- The second spend waits for the owner while the first one goes on, and in the end the owner has
lost both amounts. -/
theorem interleaved_spends_of_one_owner :
    (Specimen.contended.advance true).isNone ∧ (∃ j, (Specimen.contended.advance j).isSome) ∧
      (Specimen.spent.tables.cardUser? ⟨5⟩).map (·.balance) = some 38 ∧
      ∀ before a after, Specimen.spent.commits = before ++ a :: after →
        a.Follows Specimen.tables before := by
  obtain ⟨-, -, -, hadvances⟩ := interleaved_deliveries_account Specimen.settings Specimen.tables
    Specimen.ownSpends Specimen.contention
  obtain ⟨-, howner, hfollows, -⟩ := interleaved_deliveries_account Specimen.settings
    Specimen.tables Specimen.ownSpends
    (Specimen.contention ++ Specimen.rest false ++ Specimen.rest true)
  have hrows : ∀ i j, (Specimen.ownSpends i).cardId ≠ (Specimen.ownSpends j).cardUserId := by
    decide
  have hwaits : (Specimen.contended.runner true).isUnfinished := by decide +kernel
  have hmoved : Applied.sumOn (·.cardUser.id) Specimen.spent.commits ⟨5⟩ = -12 := by
    decide +kernel
  refine ⟨by decide +kernel, hadvances hrows true hwaits, ?_, hfollows⟩
  refine (howner ⟨5⟩).trans ?_
  change some (50 + Applied.sumOn (·.cardUser.id) Specimen.spent.commits ⟨5⟩) = some 38
  rw [hmoved]
  rfl

namespace Specimen

open Interleaving

/-! A hold of the first card is settled after another spend of it. -/

def heldTables : Tables :=
  (world.after settings [spendTurn "t" "first" "pending" 5]).store.tables

def settlements : Bool → Delivery
  | false => spendOf (card 1 "first" 20) "u" .completed 4
  | true => spendOf (card 1 "first" 20) "t" .completed 5

def settled : Interleaving Bool :=
  (start settings heldTables settlements).after (rest false ++ rest true)

/-! Two cards that go by the identities of each other's owners. -/

def crossedCard (id owner : BitVec 128) : Card :=
  { card id "crossed" 20 with cardUserId := ⟨owner⟩ }

def crossedTables : Tables :=
  { Tables.empty with
    cards := [crossedCard 1 2, crossedCard 2 1]
    cardUsers := [{ owner 20 with id := ⟨1⟩ }, { owner 20 with id := ⟨2⟩ }] }

def crossedSpends : Bool → Delivery
  | false => spendOf (crossedCard 1 2) "t" .completed 5
  | true => spendOf (crossedCard 2 1) "u" .completed 5

def crossed : Interleaving Bool :=
  (start settings crossedTables crossedSpends).after
    [.advance false, .advance true, .advance false, .advance true]

end Specimen

/-- Neither can be said of every change and of every row. A hold that is settled in full moves
nothing, so its line still tells of the balance before the hold. And a lock does not know a card
from a card-user. -/
theorem settled_hold_and_crossed_identities :
    let settlements := Specimen.settlements
    let spends := Specimen.crossedSpends
    (settlements false).posting.reference ≠ (settlements true).posting.reference ∧
    (¬ ∀ before a after, Specimen.settled.commits = before ++ a :: after →
      a.line.balanceBefore = Specimen.heldTables.balanceLeft before a.card.id) ∧
    (spends false).posting.reference ≠ (spends true).posting.reference ∧
    ¬ ∀ i, (Specimen.crossed.runner i).isUnfinished →
      ∃ j, (Specimen.crossed.advance j).isSome := by
  intro settlements spends
  have hcommits : Specimen.settled.commits.map
      (fun a => (a.card.id, a.card.balance, a.line.balanceBefore)) =
        [(⟨1⟩, 11, some 15), (⟨1⟩, 11, some 20)] := by decide +kernel
  refine ⟨by decide, fun hall => ?_, by decide, fun hall => ?_⟩
  · obtain ⟨a, as, hab, ha, has⟩ := List.map_eq_cons_iff.mp hcommits
    obtain ⟨b, bs, rfl, hb, hbs⟩ := List.map_eq_cons_iff.mp has
    have hbefore := hall [a] b bs hab
    simp only [Prod.mk.injEq] at ha hb
    rw [hb.2.2, Tables.balanceLeft, List.foldl_cons, ha.1, hb.1, if_pos rfl, ha.2.1] at hbefore
    cases hbefore
  · obtain ⟨j, hj⟩ := hall true (by decide +kernel)
    have hnone : ∀ j, (Specimen.crossed.advance j).isSome = false := by decide +kernel
    rw [hnone j] at hj
    cases hj

end PrepaidLedger
