import PrepaidLedger.Proofs.Ledger.Hold

/-! One reference that is delivered again and again. In whatever order a hold and its end come in
and however often, the ledger is left as the end alone leaves it. -/

namespace PrepaidLedger

structure Arrival where
  refusal : LockKey → Option LockError
  parties : Collaborators
  event : LedgerEvent

def Arrival.run (s : Settings) (reference : String) (x : Arrival) (w : World Memory) :
    World Memory :=
  ((x.event.apply s reference).runIn (Memory.backend x.refusal) x.parties w).2

def World.receive (s : Settings) (reference : String) (w : World Memory) (xs : List Arrival) :
    World Memory := xs.foldl (fun w x => x.run s reference w) w

/-! ## What a line lets through -/

def Tables.HeldAt (t : Tables) (reference : String) : Prop :=
  ∃ l, t.lineByRef? reference = some l ∧ l.status = .pending

def Tables.EndedAt (t : Tables) (reference : String) : Prop :=
  ∃ l, t.lineByRef? reference = some l ∧ l.status ≠ .pending

section Lines

variable {s : Settings} {reference : String} {w : World Memory} {xs : List Arrival}

theorem Arrival.run_of_line {x : Arrival} {l : Line}
    (hl : w.store.tables.lineByRef? reference = some l)
    (h : l.status ≠ .pending ∨ x.event.status = .pending) : x.run s reference w = w := by
  -- Over a line that has ended nothing is written, and over any line no hold is.
  unfold run
  rw [LedgerEvent.runIn_apply]
  rcases hd : x.event.delivery s w.store.tables reference with cause | dismissal | d
  · rfl
  · rfl
  · obtain ⟨card, owner, hposts, hscreen⟩ := LedgerEvent.delivery_eq_ok.mp hd
    obtain ⟨-, -, hproceed⟩ := Tables.screen_eq_ok.mp hscreen
    obtain ⟨hpending, hfinal⟩ := Tables.pending_of_proceeds hproceed (hposts.storedFor_eq.trans hl)
    rw [hposts.status_eq] at hfinal
    rcases h with hended | hhold
    · exact absurd hpending hended
    · exact absurd hhold hfinal

theorem World.receive_of_ended (h : w.store.tables.EndedAt reference) :
    w.receive s reference xs = w := by
  obtain ⟨l, hl, hended⟩ := h
  induction xs with
  | nil => rfl
  | cons x rest ih =>
    have hx : x.run s reference w = w := Arrival.run_of_line hl (.inl hended)
    change (x.run s reference w).receive s reference rest = w
    rw [hx, ih]

theorem World.receive_of_held (hheld : w.store.tables.HeldAt reference)
    (hfinal : ∃ x ∈ xs, x.event.status ≠ .pending)
    (hends : ∀ x ∈ xs, x.event.status ≠ .pending →
      (x.run s reference w).store.tables.EndedAt reference) :
    ∃ x ∈ xs, x.event.status ≠ .pending ∧ w.receive s reference xs = x.run s reference w := by
  obtain ⟨l, hl, -⟩ := hheld
  induction xs with
  | nil =>
    obtain ⟨x, hx, -⟩ := hfinal
    cases hx
  | cons z rest ih =>
    by_cases hz : z.event.status = .pending
    · have hrun : z.run s reference w = w := Arrival.run_of_line hl (.inr hz)
      have hrest : ∃ x ∈ rest, x.event.status ≠ .pending :=
        ((List.exists_mem_cons_iff _ z rest).mp hfinal).resolve_left (not_not_intro hz)
      obtain ⟨x, hx, hstatus, hreceive⟩ :=
        ih hrest fun x hx => hends x (List.mem_cons_of_mem z hx)
      refine ⟨x, List.mem_cons_of_mem z hx, hstatus, ?_⟩
      change (z.run s reference w).receive s reference rest = _
      rw [hrun, hreceive]
    · refine ⟨z, List.mem_cons_self .., hz, ?_⟩
      exact receive_of_ended (hends z (List.mem_cons_self ..) hz)

theorem World.receive_cases (hfinal : ∃ x ∈ xs, x.event.status ≠ .pending)
    (hends : ∀ x ∈ xs, x.event.status ≠ .pending →
      (x.run s reference w).store.tables.EndedAt reference)
    (hholds : ∀ y ∈ xs, y.event.status = .pending →
      (y.run s reference w).store.tables.HeldAt reference)
    (hends_held : ∀ y ∈ xs, y.event.status = .pending → ∀ x ∈ xs, x.event.status ≠ .pending →
      (x.run s reference (y.run s reference w)).store.tables.EndedAt reference) :
    ∃ x ∈ xs, x.event.status ≠ .pending ∧ (w.receive s reference xs = x.run s reference w ∨
      ∃ y ∈ xs, y.event.status = .pending ∧
        w.receive s reference xs = x.run s reference (y.run s reference w)) := by
  -- What comes first either ends it all or holds the amount until something does.
  cases xs with
  | nil =>
    obtain ⟨x, hx, -⟩ := hfinal
    cases hx
  | cons z rest =>
    have hmem : z ∈ z :: rest := List.mem_cons_self ..
    by_cases hz : z.event.status = .pending
    · have hrest : ∃ x ∈ rest, x.event.status ≠ .pending :=
        ((List.exists_mem_cons_iff _ z rest).mp hfinal).resolve_left (not_not_intro hz)
      obtain ⟨x, hx, hstatus, hreceive⟩ := receive_of_held (hholds z hmem hz) hrest
        fun x hx => hends_held z hmem hz x (List.mem_cons_of_mem z hx)
      exact ⟨x, List.mem_cons_of_mem z hx, hstatus, .inr ⟨z, hmem, hz, hreceive⟩⟩
    · exact ⟨z, hmem, hz, .inl (receive_of_ended (hends z hmem hz))⟩

end Lines

/-! ## What the arrivals come to -/

/-- Nothing but a hold and its end, the end at least once, and the lock free for each of them. -/
structure Arrival.Repeat (xs : List Arrival) (hold final : LedgerEvent) (key : LockKey) : Prop where
  events : ∀ x ∈ xs, x.event = hold ∨ x.event = final
  ends : ∃ x ∈ xs, x.event = final
  granted : ∀ x ∈ xs, x.refusal key = none

section Ends

variable {s : Settings} {reference : String} {w : World Memory} {x y : Arrival} {p q : Posting}
  {card : Card} {owner : CardUser} {hold final : LedgerEvent} {amount : Int} {xs : List Arrival}
  {key : LockKey}

theorem Arrival.Repeat.event_eq_hold (h : Repeat xs hold final key)
    (hcloses : final.Closes hold amount) (hy : y ∈ xs) (hstatus : y.event.status = .pending) :
    y.event = hold := by
  rcases h.events y hy with hevent | hevent
  · exact hevent
  · rw [hevent] at hstatus
    exact absurd hstatus hcloses.status_ne

theorem Arrival.Repeat.event_eq_final (h : Repeat xs hold final key)
    (hcloses : final.Closes hold amount) (hx : x ∈ xs) (hstatus : x.event.status ≠ .pending) :
    x.event = final := by
  rcases h.events x hx with hevent | hevent
  · rw [hevent, hcloses.hold_status] at hstatus
    exact absurd rfl hstatus
  · exact hevent

theorem LedgerEvent.Lands.settles_run
    (h : x.event.Lands s w.store.tables x.refusal reference card owner p)
    (hd : w.store.tables.Distinct) :
    (w.store.tables.apply (w.store.tables.changeOf s p card owner)).Settles
      (x.run s reference w).store.tables := by
  unfold Arrival.run
  rw [h.runIn_apply hd]
  exact Program.settles_startEffects s (w.store.tables.changeOf s p card owner).applied
    (w.resting (w.store.tables.apply (w.store.tables.changeOf s p card owner)))

theorem Tables.Ends.line_eq {t t' : Tables} (h : t.Ends s p card owner t')
    (hreference : p.reference = reference) :
    ∃ l, t'.lineByRef? reference = some l ∧ l.status = p.status := by
  have hline := h.line
  rw [hreference] at hline
  obtain ⟨l, hl, hsnapshot⟩ := Option.map_eq_some_iff.mp hline
  exact ⟨l, hl, congrArg Snapshot.status hsnapshot⟩

namespace Tables.Awaits

theorem ends_run (h : w.store.tables.Awaits s reference hold final amount card owner)
    (hp : final.Posts s w.store.tables reference card owner p) (hx : x.event = final)
    (hgranted : x.refusal (.ofTransaction card.userId reference card.id) = none) :
    w.store.tables.Ends s p card owner (x.run s reference w).store.tables := by
  rw [← hx] at hp
  have hlands := h.lands_new (by rw [hx]) (by rw [hx]; exact h.closes.final_amount) hp hgranted
  exact (hlands.settles_run h.distinct).ends h.keyed

theorem holds_run (h : w.store.tables.Awaits s reference hold final amount card owner)
    (hq : hold.Posts s w.store.tables reference card owner q) (hy : y.event = hold)
    (hgranted : y.refusal (.ofTransaction card.userId reference card.id) = none) :
    w.store.tables.Holds s q card owner (y.run s reference w).store.tables := by
  rw [← hy] at hq
  have hstatus : y.event.status = .pending := by
    rw [hy]
    exact h.closes.hold_status
  have hlands := h.lands_new (by rw [hy]; exact h.closes.kind_eq)
    (by rw [hy]; exact h.closes.hold_amount) hq hgranted
  exact hq.holds hstatus h.distinct h.keyed h.skew h.new (hlands.settles_run h.distinct)

theorem ends_run_held (h : w.store.tables.Awaits s reference hold final amount card owner)
    (hq : hold.Posts s w.store.tables reference card owner q)
    (hp : final.Posts s w.store.tables reference card owner p) {w' : World Memory}
    (hheld : w.store.tables.Holds s q card owner w'.store.tables) (hx : x.event = final)
    (hgranted : x.refusal (.ofTransaction card.userId reference card.id) = none) :
    w.store.tables.Ends s p card owner (x.run s reference w').store.tables := by
  obtain ⟨card', owner', p', hlands, hends⟩ := h.lands_held hq hp hheld hgranted
  rw [← hx] at hlands
  exact hends _ (hlands.settles_run hheld.distinct)

theorem ends_receive (h : w.store.tables.Awaits s reference hold final amount card owner)
    (hp : final.Posts s w.store.tables reference card owner p)
    (hxs : Arrival.Repeat xs hold final (.ofTransaction card.userId reference card.id)) :
    w.store.tables.Ends s p card owner (w.receive s reference xs).store.tables := by
  obtain ⟨q, hq, -⟩ := LedgerEvent.exists_posts h.closes.hold_amount h.hold_parties
    (h.closes.kind_eq.symm ▸ h.card_covers) reference
  have hended {t' : Tables} (hends : w.store.tables.Ends s p card owner t') :
      t'.EndedAt reference := by
    obtain ⟨l, hl, hstatus⟩ := hends.line_eq hp.reference_eq
    refine ⟨l, hl, ?_⟩
    rw [hstatus, hp.status_eq]
    exact h.closes.status_ne
  have hfirst : ∀ x ∈ xs, x.event.status ≠ .pending →
      w.store.tables.Ends s p card owner (x.run s reference w).store.tables := by
    intro x hx hstatus
    exact h.ends_run hp (hxs.event_eq_final h.closes hx hstatus) (hxs.granted x hx)
  have hholds : ∀ y ∈ xs, y.event.status = .pending →
      w.store.tables.Holds s q card owner (y.run s reference w).store.tables := by
    intro y hy hstatus
    exact h.holds_run hq (hxs.event_eq_hold h.closes hy hstatus) (hxs.granted y hy)
  have hsecond : ∀ y ∈ xs, y.event.status = .pending → ∀ x ∈ xs, x.event.status ≠ .pending →
      w.store.tables.Ends s p card owner
        (x.run s reference (y.run s reference w)).store.tables := by
    intro y hy hy_status x hx hx_status
    exact h.ends_run_held hq hp (hholds y hy hy_status) (hxs.event_eq_final h.closes hx hx_status)
      (hxs.granted x hx)
  have hheldAt : ∀ y ∈ xs, y.event.status = .pending →
      (y.run s reference w).store.tables.HeldAt reference := by
    intro y hy hstatus
    obtain ⟨l, hl, hl_status⟩ := (hholds y hy hstatus).ends.line_eq hq.reference_eq
    exact ⟨l, hl, hl_status.trans (hq.status_eq.trans h.closes.hold_status)⟩
  obtain ⟨z, hz, hz_event⟩ := hxs.ends
  obtain ⟨x, hx, hx_status, halone | ⟨y, hy, hy_status, hafter⟩⟩ := World.receive_cases
    ⟨z, hz, hz_event ▸ h.closes.status_ne⟩ (fun x hx hstatus => hended (hfirst x hx hstatus))
    hheldAt (fun y hy hy_status x hx hx_status => hended (hsecond y hy hy_status x hx hx_status))
  · rw [halone]
    exact hfirst x hx hx_status
  · rw [hafter]
    exact hsecond y hy hy_status x hx hx_status

end Tables.Awaits
end Ends

/-- Order and repetition of one reference's arrivals do not matter. Where a hold and its end, spends
of one card or deposits of one card-user, come in on a reference without a line, any two sequences
of them that contain the end leave the same balances, statuses and decline counts, and a line with
the status of the end and its amount. -/
theorem order_and_repetition_do_not_matter (s : Settings) {w : World Memory}
    (hd : w.store.tables.Distinct) (hk : w.store.tables.Keyed)
    (hskew : w.store.tables.balanceSkew = 0) {reference : String}
    (hnew : w.store.tables.lineByRef? reference = none) {hold final : LedgerEvent} {amount : Int}
    (hcloses : final.Closes hold amount) {card card' : Card} {owner owner' : CardUser}
    (hfinal : final.parties w.store.tables = .ok (card, owner))
    (hhold : hold.parties w.store.tables = .ok (card', owner'))
    (hspend : final.kind = .spend → card'.id = card.id)
    (hdeposit : final.kind = .deposit → owner'.id = owner.id)
    (hcard : InBounds card.balance) (hcovers : s.Covers final.kind amount card.balance)
    (howner : InBounds owner.balance) (hcovers' : s.Covers final.kind amount owner.balance)
    {xs ys : List Arrival}
    (hxs : Arrival.Repeat xs hold final (.ofTransaction card.userId reference card.id))
    (hys : Arrival.Repeat ys hold final (.ofTransaction card.userId reference card.id)) :
    let v := w.receive s reference xs
    let v' := w.receive s reference ys
    (∀ id, (v.store.tables.card? id).map Card.standing =
      (v'.store.tables.card? id).map Card.standing) ∧
    (∀ id, (v.store.tables.cardUser? id).map (·.balance) =
      (v'.store.tables.cardUser? id).map (·.balance)) ∧
    (v.store.tables.lineByRef? reference).map (·.snapshot) = some ⟨final.status, amount⟩ ∧
    (v'.store.tables.lineByRef? reference).map (·.snapshot) = some ⟨final.status, amount⟩ := by
  intro v v'
  obtain ⟨hcard', howner'⟩ :=
    LedgerEvent.parties_eq_of_same hd hfinal hhold hcloses.kind_eq.symm hspend hdeposit
  rw [hcard', howner'] at hhold
  obtain ⟨p, hp, hp_amount⟩ :=
    LedgerEvent.exists_posts hcloses.final_amount hfinal hcovers reference
  have hawaits : w.store.tables.Awaits s reference hold final amount card owner :=
    ⟨hd, hk, hskew, hnew, hcloses, hhold, hfinal, hcard, hcovers, howner, hcovers'⟩
  have hends : w.store.tables.Ends s p card owner v.store.tables := hawaits.ends_receive hp hxs
  have hends' : w.store.tables.Ends s p card owner v'.store.tables := hawaits.ends_receive hp hys
  have hsnapshot : p.snapshot = ⟨final.status, amount⟩ := by
    unfold Posting.snapshot
    rw [hp.status_eq, hp_amount]
  rw [← hsnapshot]
  refine ⟨fun id => ?_, fun id => ?_, ?_, ?_⟩
  · rw [hends.cards, hends'.cards]
  · rw [hends.cardUsers, hends'.cardUsers]
  · rw [← hp.reference_eq]
    exact hends.line
  · rw [← hp.reference_eq]
    exact hends'.line

namespace Specimen

def arrival (ev : LedgerEvent) : Arrival := ⟨fun _ => none, refusing, ev⟩

theorem repeat_arrivals {hold final : LedgerEvent} (events : List LedgerEvent)
    (hevents : ∀ ev ∈ events, ev = hold ∨ ev = final) (hends : final ∈ events) (key : LockKey) :
    Arrival.Repeat (events.map arrival) hold final key where
  events x hx := by
    obtain ⟨ev, hev, rfl⟩ := List.mem_map.mp hx
    exact hevents ev hev
  ends := ⟨arrival final, List.mem_map_of_mem hends, rfl⟩
  granted x hx := by
    obtain ⟨ev, -, rfl⟩ := List.mem_map.mp hx
    rfl

def holding (amount : Nat) : LedgerEvent := .spend (spendEvent "first" .pending amount)

def declining (reason : Option String) (amount : Nat) : LedgerEvent :=
  .spend { spendEvent "first" .declined amount with declinedReason := reason }

def brimful : World Memory :=
  .ofStore (.ofTables { Tables.empty with
    cards := [card 1 "first" (maxSafeAmount + 1)]
    cardUsers := [owner (maxSafeAmount + 1)] })

end Specimen

/-- A decline for want of funds, alone and among holds of its amount, is counted once. -/
theorem decline_among_holds_counted_once :
    let hold := Specimen.holding 20
    let final := Specimen.declining (some "insufficient funds") 20
    let alone := [final].map Specimen.arrival
    let mixed := [hold, hold, final, hold, final].map Specimen.arrival
    final.Closes hold 20 ∧
      ((Specimen.world.receive Specimen.settings "t" alone).store.tables.card? ⟨1⟩).map
        Card.standing = some (20, .active, 1) ∧
      ((Specimen.world.receive Specimen.settings "t" mixed).store.tables.card? ⟨1⟩).map
        Card.standing = some (20, .active, 1) ∧
      ((Specimen.world.receive Specimen.settings "t" mixed).store.tables.lineByRef? "t").map
        (·.snapshot) = some ⟨.declined, 20⟩ := by
  intro hold final alone mixed
  have hcloses : final.Closes hold 20 := ⟨rfl, rfl, rfl, rfl, rfl⟩
  have hfinal : final.parties Specimen.world.store.tables =
      .ok (Specimen.card 1 "first" 20, Specimen.owner 50) := rfl
  have hhold : hold.parties Specimen.world.store.tables =
      .ok (Specimen.card 1 "first" 20, Specimen.owner 50) := rfl
  have halone (key : LockKey) : Arrival.Repeat alone hold final key :=
    Specimen.repeat_arrivals [final] (by simp) (by simp) key
  have hmixed (key : LockKey) : Arrival.Repeat mixed hold final key :=
    Specimen.repeat_arrivals [hold, hold, final, hold, final] (by simp) (by simp) key
  obtain ⟨hcards, -, -, hline⟩ := order_and_repetition_do_not_matter Specimen.settings
    (w := Specimen.world) Specimen.distinct_tables (Tables.keyed_of_no_lines rfl) rfl rfl hcloses
    hfinal hhold (fun _ => rfl) (fun _ => rfl) (by decide) (by decide) (by decide) (by decide)
    (halone _) (hmixed _)
  have hcard : ((Specimen.world.receive Specimen.settings "t" alone).store.tables.card? ⟨1⟩).map
      Card.standing = some (20, .active, 1) := by decide +kernel
  refine ⟨hcloses, hcard, ?_, hline⟩
  rw [← hcards, hcard]

/-- Beyond the ceiling the order shows: a decline alone is refused, for it writes the balance as it
is, while a hold that comes first makes its way and then keeps the decline out. -/
theorem order_shows_beyond_ceiling :
    let hold := Specimen.holding 1
    let final := Specimen.declining none 1
    let card := Specimen.card 1 "first" (maxSafeAmount + 1)
    let owner := Specimen.owner (maxSafeAmount + 1)
    let t := Specimen.brimful.store.tables
    let alone := [final].map Specimen.arrival
    let mixed := [hold, final].map Specimen.arrival
    let v := Specimen.brimful.receive Specimen.settings "t" alone
    let v' := Specimen.brimful.receive Specimen.settings "t" mixed
    t.Distinct ∧ t.Keyed ∧ t.balanceSkew = 0 ∧ t.lineByRef? "t" = none ∧ final.Closes hold 1 ∧
      final.parties t = .ok (card, owner) ∧ hold.parties t = .ok (card, owner) ∧
      Specimen.settings.Covers .spend 1 card.balance ∧
      Specimen.settings.Covers .spend 1 owner.balance ∧
      (∀ key, Arrival.Repeat alone hold final key) ∧ (∀ key, Arrival.Repeat mixed hold final key) ∧
      (v.store.tables.card? ⟨1⟩).map (·.balance) = some (maxSafeAmount + 1) ∧
      (v.store.tables.lineByRef? "t").map (·.snapshot) = none ∧
      (v'.store.tables.card? ⟨1⟩).map (·.balance) = some maxSafeAmount ∧
      (v'.store.tables.lineByRef? "t").map (·.snapshot) = some ⟨.pending, 1⟩ := by
  intro hold final card owner t alone mixed v v'
  have halone (key : LockKey) : Arrival.Repeat alone hold final key :=
    Specimen.repeat_arrivals [final] (by simp) (by simp) key
  have hmixed (key : LockKey) : Arrival.Repeat mixed hold final key :=
    Specimen.repeat_arrivals [hold, final] (by simp) (by simp) key
  refine ⟨⟨by decide, by decide⟩, Tables.keyed_of_no_lines rfl, rfl, rfl,
    ⟨rfl, rfl, rfl, rfl, rfl⟩, rfl, rfl, by decide, by decide, halone, hmixed, ?_, ?_, ?_, ?_⟩
  all_goals decide +kernel

end PrepaidLedger
