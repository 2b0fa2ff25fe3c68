import PrepaidLedger.Proofs.Ledger.Filing
import PrepaidLedger.Proofs.Profile.Repeated

/-! The addresses for deposits are a map from places to users. A place is a chain and the letters of
an address without their case; the last who registered it has it, and other places stay as they
are. -/

namespace PrepaidLedger

/-! ## Places -/

def placeOf (chainId : Int) (address : String) : Int × List Char :=
  (chainId, address.toList.map Char.toLower)

def DepositAddress.place (a : DepositAddress) : Int × List Char := placeOf a.chainId a.address

theorem placeOf_eq_iff {chainId chainId' : Int} {address address' : String} :
    placeOf chainId address = placeOf chainId' address' ↔
      chainId = chainId' ∧ Text.sameUpToAsciiCase address address' = true := by
  unfold placeOf Text.sameUpToAsciiCase
  rw [Prod.mk.injEq, beq_iff_eq]

namespace Tables

variable {t : Tables}

theorem address?_eq_rowOf? (chainId : Int) (address : String) :
    t.address? chainId address =
      rowOf? DepositAddress.place (placeOf chainId address) t.addresses := by
  unfold address? rowOf?
  congr 1
  funext a
  rw [Bool.eq_iff_iff, Bool.and_eq_true, decide_eq_true_iff, decide_eq_true_iff]
  exact placeOf_eq_iff.symm

structure AddressBook (t : Tables) : Prop where
  ids : (t.addresses.map DepositAddress.id).Nodup
  places : (t.addresses.map DepositAddress.place).Nodup
  numbered : ∀ a ∈ t.addresses, a.id.IsBefore t.batches

theorem addressBook_of_no_addresses (h : t.addresses = []) : t.AddressBook := by
  constructor <;> simp [h]

variable {userId : Uuid} {chainId : Int} {address : String}

theorem AddressBook.fits (hb : t.AddressBook) (userId : Uuid) (chainId : Int) (address : String) :
    Fits DepositAddress.id DepositAddress.place (t.registerAddress userId chainId address).1
      t.addresses := by
  cases h : t.address? chainId address with
  | some a =>
    rw [registerAddress_of_some h]
    exact fits_of_stored hb.ids hb.places (List.mem_of_find?_eq_some h) rfl rfl
  | none =>
    unfold registerAddress
    rw [h]
    rw [address?_eq_rowOf?] at h
    refine fits_of_new (fun a ha he => ?_) h
    have hbefore := hb.numbered a ha
    rw [he] at hbefore
    exact Nat.lt_irrefl _ hbefore

theorem registerAddress_fst (t : Tables) (userId : Uuid) (chainId : Int) (address : String) :
    (t.registerAddress userId chainId address).1.userId = userId ∧
      (t.registerAddress userId chainId address).1.place = placeOf chainId address := by
  cases h : t.address? chainId address with
  | some a =>
    rw [registerAddress_of_some h]
    rw [address?_eq_rowOf?] at h
    exact ⟨rfl, (key_of_rowOf? h : a.place = _)⟩
  | none =>
    unfold registerAddress
    rw [h]
    exact ⟨rfl, rfl⟩

theorem addresses_registerAddress :
    (t.registerAddress userId chainId address).2.addresses =
      putRow DepositAddress.id (t.registerAddress userId chainId address).1 t.addresses := by
  unfold registerAddress
  cases t.address? chainId address <;> rfl

theorem AddressBook.registerAddress (hb : t.AddressBook) :
    (t.registerAddress userId chainId address).2.AddressBook where
  ids := by
    rw [addresses_registerAddress]
    exact (fits_self _ _).nodup_putRow hb.ids
  places := by
    rw [addresses_registerAddress]
    exact (hb.fits userId chainId address).nodup_putRow hb.places
  numbered a ha := by
    rw [addresses_registerAddress] at ha
    cases h : t.address? chainId address with
    | some stored =>
      rw [registerAddress_of_some h] at ha ⊢
      rcases mem_of_mem_putRow ha with rfl | ha
      · exact hb.numbered stored (List.mem_of_find?_eq_some h)
      · exact hb.numbered a ha
    | none =>
      unfold Tables.registerAddress at ha ⊢
      rw [h] at ha ⊢
      rcases mem_of_mem_putRow ha with rfl | ha
      · exact Nat.lt_succ_self t.batches
      · exact (hb.numbered a ha).mono (Nat.le_succ _)

theorem AddressBook.address?_registerAddress (hb : t.AddressBook) (chainId' : Int)
    (address' : String) :
    (t.registerAddress userId chainId address).2.address? chainId' address' =
      if placeOf chainId address = placeOf chainId' address' then
        some (t.registerAddress userId chainId address).1
      else t.address? chainId' address' := by
  rw [address?_eq_rowOf?, addresses_registerAddress,
    (hb.fits userId chainId address).rowOf?_putRow, ← address?_eq_rowOf?,
    (t.registerAddress_fst userId chainId address).2]

end Tables

/-! ## One registration -/

structure Registration where
  time : Timestamp
  event : ContractEvent

namespace Registration

def Names (r : Registration) (chainId : Int) (address : String) : Prop :=
  r.event.chainId = chainId ∧ Text.sameUpToAsciiCase r.event.depositAddress address = true

instance (r : Registration) (chainId : Int) (address : String) :
    Decidable (r.Names chainId address) := inferInstanceAs (Decidable (_ ∧ _))

def run (refusal : LockKey → Option LockError) (C : Collaborators) (r : Registration)
    (w : World Memory) : Except EngineError (Except Rejection DepositAddress) × World Memory :=
  (registerContract r.event).runIn (Memory.backend refusal) C (w.atTime r.time)

def runAll (refusal : LockKey → Option LockError) (C : Collaborators) :
    List Registration → World Memory →
      List (Except EngineError (Except Rejection DepositAddress)) × World Memory
  | [], w => ([], w)
  | r :: rest, w =>
    let (answer, w) := r.run refusal C w
    let (answers, w) := runAll refusal C rest w
    (answer :: answers, w)

end Registration

namespace Tables

def Answers (t : Tables) (r : Registration)
    (answer : Except EngineError (Except Rejection DepositAddress)) : Prop :=
  match t.cardUserByRef? r.event.userRef with
  | none => answer = .ok (.error .cardUserNotFound)
  | some owner => ∃ row, answer = .ok (.ok row) ∧ row.userId = owner.userId ∧
      r.Names row.chainId row.address

def registrant? (t : Tables) (chainId : Int) (address : String) (r : Registration) :
    Option CardUser :=
  if r.Names chainId address then t.cardUserByRef? r.event.userRef else none

def lastRegistrant? (t : Tables) (chainId : Int) (address : String) (rs : List Registration) :
    Option CardUser := (rs.filterMap (t.registrant? chainId address)).getLast?

def register (t : Tables) (r : Registration) : Tables :=
  ((t.atTime r.time).registerContract r.event).2

variable {t : Tables} {r : Registration} {chainId : Int} {address : String}

theorem AddressBook.atTime (hb : t.AddressBook) (now : Timestamp) : (t.atTime now).AddressBook :=
  ⟨hb.ids, hb.places, hb.numbered⟩

theorem AddressBook.register (hb : t.AddressBook) : (t.register r).AddressBook := by
  unfold Tables.register
  cases h : (t.atTime r.time).cardUserByRef? r.event.userRef with
  | none =>
    rw [registerContract_of_none h]
    exact hb.atTime r.time
  | some owner =>
    rw [registerContract_of_some h]
    exact (hb.atTime r.time).registerAddress

theorem cardUsers_register : (t.register r).cardUsers = t.cardUsers := by
  unfold register registerContract
  cases (t.atTime r.time).cardUserByRef? r.event.userRef with
  | none => rfl
  | some owner =>
    unfold registerAddress
    dsimp only
    cases (t.atTime r.time).address? r.event.chainId r.event.depositAddress <;> rfl

theorem answers_registerContract (t : Tables) (r : Registration) :
    t.Answers r (.ok ((t.atTime r.time).registerContract r.event).1) := by
  have huser : (t.atTime r.time).cardUserByRef? r.event.userRef =
      t.cardUserByRef? r.event.userRef := rfl
  unfold Answers
  cases h : t.cardUserByRef? r.event.userRef with
  | none => rw [registerContract_of_none (huser.trans h)]
  | some owner =>
    rw [registerContract_of_some (huser.trans h)]
    obtain ⟨hid, hplace⟩ := (t.atTime r.time).registerAddress_fst owner.userId r.event.chainId
      r.event.depositAddress
    exact ⟨_, rfl, hid, placeOf_eq_iff.mp hplace.symm⟩

theorem AddressBook.address?_register_of_not_names (hb : t.AddressBook)
    (h : ¬ r.Names chainId address) :
    (t.register r).address? chainId address = t.address? chainId address := by
  unfold Tables.register
  cases howner : (t.atTime r.time).cardUserByRef? r.event.userRef with
  | none =>
    rw [registerContract_of_none howner]
    rfl
  | some owner =>
    rw [registerContract_of_some howner]
    dsimp only
    rw [(hb.atTime r.time).address?_registerAddress, if_neg fun he => h (placeOf_eq_iff.mp he)]
    rfl

theorem AddressBook.user_register (hb : t.AddressBook) :
    ((t.register r).address? chainId address).map (·.userId) =
      ((t.registrant? chainId address r).map (·.userId)).or
        ((t.address? chainId address).map (·.userId)) := by
  unfold registrant?
  by_cases hnames : r.Names chainId address
  · rw [if_pos hnames]
    have huser : (t.atTime r.time).cardUserByRef? r.event.userRef =
        t.cardUserByRef? r.event.userRef := rfl
    unfold Tables.register
    cases h : t.cardUserByRef? r.event.userRef with
    | none =>
      rw [registerContract_of_none (huser.trans h)]
      rfl
    | some owner =>
      rw [registerContract_of_some (huser.trans h)]
      dsimp only
      rw [(hb.atTime r.time).address?_registerAddress, if_pos (placeOf_eq_iff.mpr hnames)]
      exact congrArg some (registerAddress_fst ..).1
  · rw [if_neg hnames, hb.address?_register_of_not_names hnames]
    rfl

end Tables

/-! ## A run of registrations -/

namespace Registration

variable (refusal : LockKey → Option LockError) (C : Collaborators) (w : World Memory)

theorem run_eq (r : Registration) :
    r.run refusal C w = (.ok ((w.store.tables.atTime r.time).registerContract r.event).1,
      w.withTables (w.store.tables.register r)) :=
  Task.computes_registerContract r.event refusal C (w.atTime r.time)

theorem tables_runAll (rs : List Registration) :
    (runAll refusal C rs w).2.store.tables = rs.foldl Tables.register w.store.tables := by
  induction rs generalizing w with
  | nil => rfl
  | cons r rest ih =>
    unfold runAll
    rw [run_eq]
    exact ih _

theorem answers_runAll (t : Tables) (hw : w.store.tables.cardUsers = t.cardUsers)
    (rs : List Registration) : List.Forall₂ t.Answers rs (runAll refusal C rs w).1 := by
  induction rs generalizing w with
  | nil => exact .nil
  | cons r rest ih =>
    unfold runAll
    rw [run_eq]
    refine .cons ?_ (ih _ (Tables.cardUsers_register.trans hw))
    have hanswers := w.store.tables.answers_registerContract r
    unfold Tables.Answers Tables.cardUserByRef? at hanswers ⊢
    rw [← hw]
    exact hanswers

end Registration

namespace Tables

variable {t : Tables} {chainId : Int} {address : String}

theorem AddressBook.foldl_register (hb : t.AddressBook) (rs : List Registration) :
    (rs.foldl Tables.register t).AddressBook := by
  induction rs generalizing t with
  | nil => exact hb
  | cons r rest ih => exact ih hb.register

theorem cardUsers_foldl_register (rs : List Registration) :
    (rs.foldl Tables.register t).cardUsers = t.cardUsers := by
  induction rs generalizing t with
  | nil => rfl
  | cons r rest ih => exact ih.trans cardUsers_register

theorem AddressBook.address?_foldl_register (hb : t.AddressBook) {rs : List Registration}
    (hother : ∀ r ∈ rs, ¬ r.Names chainId address) :
    (rs.foldl Tables.register t).address? chainId address = t.address? chainId address := by
  induction rs generalizing t with
  | nil => rfl
  | cons r rest ih =>
    rw [List.forall_mem_cons] at hother
    exact (ih hb.register hother.2).trans (hb.address?_register_of_not_names hother.1)

theorem registrant?_congr {t t' : Tables} (h : t'.cardUsers = t.cardUsers) :
    t'.registrant? chainId address = t.registrant? chainId address := by
  funext r
  unfold registrant? cardUserByRef?
  rw [h]

theorem AddressBook.user_foldl_register (hb : t.AddressBook) (rs : List Registration) :
    ((rs.foldl Tables.register t).address? chainId address).map (·.userId) =
      ((t.lastRegistrant? chainId address rs).map (·.userId)).or
        ((t.address? chainId address).map (·.userId)) := by
  -- The tables are general: what the first registration leaves is what the others find.
  induction rs generalizing t with
  | nil => rfl
  | cons r rest ih =>
    have hsame : (t.register r).registrant? chainId address = t.registrant? chainId address :=
      registrant?_congr cardUsers_register
    have hrest := ih (hb.register (r := r))
    unfold lastRegistrant? at hrest ⊢
    rw [List.foldl_cons, hrest, hb.user_register, hsame, List.filterMap_cons]
    cases t.registrant? chainId address r with
    | none => rfl
    | some owner =>
      dsimp only
      rw [List.getLast?_cons]
      cases (rest.filterMap (t.registrant? chainId address)).getLast? <;> rfl

theorem addressOwner?_of_map {e : CollateralEvent} {owner : Option CardUser}
    (husers : (t.cardUsers.map CardUser.userId).Nodup) (hmem : ∀ u ∈ owner, u ∈ t.cardUsers)
    (hchain : e.chainId = some chainId) (haddress : e.walletAddress = some address)
    (h : (t.address? chainId address).map (·.userId) = owner.map (·.userId)) :
    t.addressOwner? e = owner := by
  unfold addressOwner?
  rw [hchain, haddress]
  dsimp only
  cases hfound : t.address? chainId address with
  | none =>
    rw [hfound] at h
    exact (Option.map_eq_none_iff.mp h.symm).symm
  | some a =>
    rw [hfound] at h
    obtain ⟨u, rfl, hu⟩ := Option.map_eq_some_iff.mp h.symm
    refine Eq.trans ?_ (rowOf?_of_mem husers (hmem u rfl))
    exact congrArg (t.cardUserByUser? ·) hu.symm

theorem collateralOwner?_of_unknown {e : CollateralEvent}
    (h : ∀ ref, e.userRef = some ref → t.cardUserByRef? ref = none) :
    t.collateralOwner? e = t.addressOwner? e := by
  -- A payment that names no known user goes by its address.
  unfold collateralOwner?
  cases href : e.userRef with
  | none => rfl
  | some ref =>
    dsimp only
    rw [h ref href]

theorem mem_of_lastRegistrant? {rs : List Registration} {u : CardUser}
    (h : u ∈ t.lastRegistrant? chainId address rs) : u ∈ t.cardUsers := by
  obtain ⟨r, -, hr⟩ := List.mem_filterMap.mp (List.mem_of_getLast? h)
  unfold registrant? at hr
  split_ifs at hr
  exact mem_of_rowOf? hr

end Tables

/-- Of all who registered a place since the table was empty, the last one has it, however its
letters are written, and a payment that names no known user and comes to that place is theirs. -/
theorem last_registrant_has_address (refusal : LockKey → Option LockError) (C : Collaborators)
    (w : World Memory) (hnew : w.store.tables.addresses = []) (rs : List Registration) :
    let t := w.store.tables
    let after := Registration.runAll refusal C rs w
    List.Forall₂ t.Answers rs after.1 ∧
      (after.2.store.tables.addresses.Pairwise fun a b =>
        ¬ (a.chainId = b.chainId ∧ Text.sameUpToAsciiCase a.address b.address = true)) ∧
      ∀ chainId address,
        (after.2.store.tables.address? chainId address).map (·.userId) =
            (t.lastRegistrant? chainId address rs).map (·.userId) ∧
          (∀ others : List Registration, (∀ r ∈ others, ¬ r.Names chainId address) →
            (Registration.runAll refusal C others after.2).2.store.tables.address? chainId address =
              after.2.store.tables.address? chainId address) ∧
          ((t.cardUsers.map CardUser.userId).Nodup → ∀ e : CollateralEvent,
            e.chainId = some chainId → e.walletAddress = some address →
            (∀ ref, e.userRef = some ref → t.cardUserByRef? ref = none) →
            (collateralOwner e).runIn (Memory.backend refusal) C after.2 =
              (.ok (t.lastRegistrant? chainId address rs), after.2)) := by
  intro t after
  have hbook : t.AddressBook := Tables.addressBook_of_no_addresses hnew
  have htables : after.2.store.tables = rs.foldl Tables.register t :=
    Registration.tables_runAll refusal C w rs
  have hbook' : after.2.store.tables.AddressBook := htables ▸ hbook.foldl_register rs
  have huser (chainId : Int) (address : String) :
      (after.2.store.tables.address? chainId address).map (·.userId) =
        (t.lastRegistrant? chainId address rs).map (·.userId) := by
    have hnone : t.address? chainId address = none := by
      unfold Tables.address?
      rw [hnew]
      rfl
    rw [htables, hbook.user_foldl_register, hnone, Option.map_none, Option.or_none]
  refine ⟨Registration.answers_runAll refusal C w t rfl rs, ?_, fun chainId address =>
    ⟨huser chainId address, fun others hothers => ?_, fun husers e hchain haddress hunknown => ?_⟩⟩
  · exact (List.pairwise_map.mp hbook'.places).imp fun h he => h (placeOf_eq_iff.mpr he)
  · rw [Registration.tables_runAll, hbook'.address?_foldl_register hothers]
  · have husers' : after.2.store.tables.cardUsers = t.cardUsers := by
      rw [htables]
      exact Tables.cardUsers_foldl_register rs
    have howner : after.2.store.tables.addressOwner? e = t.lastRegistrant? chainId address rs :=
      Tables.addressOwner?_of_map (husers'.symm ▸ husers)
        (fun u hu => husers'.symm ▸ Tables.mem_of_lastRegistrant? hu) hchain haddress
        (huser chainId address)
    have hstranger : ∀ ref, e.userRef = some ref →
        after.2.store.tables.cardUserByRef? ref = none := by
      unfold Tables.cardUserByRef? at hunknown ⊢
      rwa [husers']
    rw [Task.runIn_collateralOwner, Tables.collateralOwner?_of_unknown hstranger, howner]

namespace Specimen

def neighbour : CardUser := ⟨⟨6⟩, ⟨8⟩, "neighbour", "approved", 0, ⟨0⟩, ⟨0⟩⟩

def nextDoor : World Memory :=
  .ofStore (.ofTables { tables with cardUsers := [owner 50, neighbour] })

def registration (userRef : String) (chainId : Int) (address : String) : Registration :=
  ⟨⟨3⟩, ⟨"contract", userRef, chainId, address⟩⟩

def registrations : List Registration :=
  [registration "owner" 1 "0xab", registration "neighbour" 1 "0xAB",
    registration "stranger" 1 "0xab", registration "owner" 2 "0xab"]

def payment : CollateralEvent :=
  { collateral .pending 20 with
    userRef := some "stranger", chainId := some 1, walletAddress := some "0XaB" }

end Specimen

theorem address_passes_to_neighbour :
    let after := Registration.runAll (fun _ => none) Specimen.refusing Specimen.registrations
      Specimen.nextDoor
    Specimen.nextDoor.store.tables.addresses = [] ∧
      after.2.store.tables.addresses.map (·.address) = ["0xab", "0xab"] ∧
      (after.2.store.tables.address? 1 "0XaB").map (·.userId) = some Specimen.neighbour.userId ∧
      (collateralOwner Specimen.payment).runIn (Memory.backend fun _ => none) Specimen.refusing
        after.2 = (.ok (some Specimen.neighbour), after.2) := by
  intro after
  obtain ⟨-, -, hplaces⟩ := last_registrant_has_address (fun _ => none) Specimen.refusing
    Specimen.nextDoor rfl Specimen.registrations
  have hlast : Specimen.nextDoor.store.tables.lastRegistrant? 1 "0XaB"
      Specimen.registrations = some Specimen.neighbour := by decide +kernel
  obtain ⟨huser, -, hpayment⟩ := hplaces 1 "0XaB"
  rw [hlast] at huser hpayment
  refine ⟨rfl, by decide +kernel, huser, hpayment (by decide) Specimen.payment rfl rfl ?_⟩
  intro ref href
  obtain rfl := Option.some.inj href
  decide

end PrepaidLedger
