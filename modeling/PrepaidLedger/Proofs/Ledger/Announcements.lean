import PrepaidLedger.Proofs.Engine.Course
import PrepaidLedger.Proofs.Ledger.Filing
import PrepaidLedger.Proofs.Specimen

/-! Announced changes of a balance replay to the balance. An announcement is made of the snapshots
of a line, whether it is made is decided by the movement, and the card in it is the one that was
written: all three tell of one change, since a line takes new snapshots whenever something moves. -/

namespace PrepaidLedger

/-! ## Announcements -/

def Outbound.announcement? : Outbound → Option BalanceChange
  | .balance c _ => some c
  | _ => none

def Applied.announcement? (a : Applied) : Option BalanceChange :=
  if a.delta ≠ 0 then some (.ofLine a.card a.line a.delta) else none

def World.announced {σ : Type} (w : World σ) : List BalanceChange :=
  w.outbound.filterMap Outbound.announcement?

namespace BalanceChange

def Replays : Int → List BalanceChange → Int → Prop
  | start, [], last => last = start
  | start, c :: rest, last =>
    c.previousBalance = start ∧ c.balance ≠ c.previousBalance ∧ Replays c.balance rest last

def Shows (c : BalanceChange) (balance : Int) : Prop :=
  ∀ sentAt, (c.toJson sentAt).get? "balance" = some (.int balance) ∧
    ((c.toJson sentAt).get? "wallet").bind (Json.get? "balance") = some (.int balance)

theorem shows_balance (c : BalanceChange) : c.Shows c.balance := fun _ => ⟨rfl, rfl⟩

theorem Replays.append {start middle last : Int} {xs ys : List BalanceChange}
    (h : Replays start xs middle) (h' : Replays middle ys last) :
    Replays start (xs ++ ys) last := by
  induction xs generalizing start with
  | nil =>
    obtain rfl : middle = start := h
    exact h'
  | cons c rest ih =>
    obtain ⟨hstart, hmoves, hrest⟩ := h
    exact ⟨hstart, hmoves, ih hrest⟩

theorem Replays.balance_eq {start last : Int} {changes : List BalanceChange}
    (h : Replays start changes last) {c : BalanceChange} (hc : c ∈ changes.getLast?) :
    c.balance = last := by
  induction changes generalizing start with
  | nil => cases hc
  | cons x rest ih =>
    obtain ⟨-, -, hrest⟩ := h
    cases rest with
    | nil =>
      obtain rfl := Option.some.inj hc
      exact Eq.symm hrest
    | cons y rest => exact ih hrest (by simpa using hc)

end BalanceChange

section Sending

variable {σ : Type} (B : Backend σ) (C : Collaborators)

theorem World.announced_send (w : World σ) (o : Outbound) :
    (w.send o).announced = w.announced ++ o.announcement?.toList := by
  unfold announced send
  rw [List.filterMap_append]
  cases o <;> rfl

namespace Program

variable {B C} in
theorem Asks.announced {α : Type} {p : Program α} (hp : p.Asks Request.IsSweep) (w : World σ) :
    (p.runIn B C w).2.announced = w.announced := by
  refine hp.keeps (R := fun w w' : World σ => w'.announced = w.announced) (fun _ => rfl)
    (fun _ _ _ h h' => h'.trans h) (fun r w h => ?_) w
  cases r with
  | store => rfl
  | charge => exact (World.announced_send w _).trans (List.append_nil _)
  | _ => exact h.elim

theorem announced_notify (n : Notice) (w : World σ) :
    ((notify n).runIn B C w).2.announced = w.announced :=
  (World.announced_send w _).trans (List.append_nil _)

theorem announced_tellOfBlock (a : Applied) (w : World σ) :
    ((tellOfBlock a).runIn B C w).2.announced = w.announced := by
  unfold tellOfBlock lockAtProvider
  split
  · rw [runIn_bind, runIn_request]
    refine (announced_notify B C _ _).trans ?_
    exact (World.announced_send w _).trans (List.append_nil _)
  · rfl

theorem announced_tellOfLine (a : Applied) (w : World σ) :
    ((tellOfLine a).runIn B C w).2.announced = w.announced := by
  unfold tellOfLine
  split
  · exact announced_notify B C _ w
  · rfl

theorem announced_tellOfBalance (a : Applied) (w : World σ) :
    ((tellOfBalance a).runIn B C w).2.announced = w.announced ++ a.announcement?.toList := by
  unfold tellOfBalance Applied.announcement?
  split
  · exact World.announced_send w _
  · exact (List.append_nil _).symm

theorem announced_runEffects (a : Applied) (w : World σ) :
    ((runEffects a).runIn B C w).2.announced = w.announced ++ a.announcement?.toList := by
  have hfee := ((asks_collectFee a.line a.cardUser.providerRef).mono
    fun _ => Request.isSweep_of_isCollection).announced (B := B) (C := C) w
  unfold runEffects
  rw [runIn_bind, runIn_bind, runIn_bind, announced_tellOfBalance, announced_tellOfLine,
    announced_tellOfBlock, hfee]

end Program
end Sending

/-! ## What is announced of a change -/

/-- Every balance of a card is reached from its earlier one by the changes that concern the card. -/
def Tables.ReplaysTo (t : Tables) (changes : List BalanceChange) (t' : Tables) : Prop :=
  ∀ id card, t.card? id = some card → ∃ card', t'.card? id = some card' ∧
    BalanceChange.Replays card.balance (changes.filter (·.walletId = id)) card'.balance

namespace Tables

variable {s : Settings} {t t' t'' : Tables} {d : Delivery} {p : Posting} {card : Card}
  {owner : CardUser} {xs ys : List BalanceChange}

theorem ReplaysTo.trans (h : t.ReplaysTo xs t') (h' : t'.ReplaysTo ys t'') :
    t.ReplaysTo (xs ++ ys) t'' := by
  intro id card hcard
  obtain ⟨card', hcard', hxs⟩ := h id card hcard
  obtain ⟨card'', hcard'', hys⟩ := h' id card' hcard'
  refine ⟨card'', hcard'', ?_⟩
  rw [List.filter_append]
  exact hxs.append hys

theorem Steady.replaysTo (h : t.Steady t') : t.ReplaysTo [] t' := by
  intro id card hcard
  have hbalance := h.quiet.map_balance id
  rw [hcard] at hbalance
  obtain ⟨card', hcard', hsame⟩ := Option.map_eq_some_iff.mp hbalance
  exact ⟨card', hcard', hsame⟩

theorem announcement?_changeOf (hmoved : t.deltaOf p ≠ 0) :
    ∃ c, (t.changeOf s p card owner).applied.announcement? = some c ∧ c.walletId = card.id ∧
      c.previousBalance = card.balance ∧ c.balance = card.balance + t.deltaOf p := by
  -- The snapshots of the line are those of this movement, whatever they were before.
  have hid : (t.cardOf s p card).card.id = card.id := t.id_cardOf s p card
  obtain ⟨hbefore, hafter⟩ : (t.lineOf p card owner).balanceBefore = some card.balance ∧
      (t.lineOf p card owner).balanceAfter = some (card.balance + t.deltaOf p) :=
    balances_lineOf hmoved
  refine ⟨_, if_pos hmoved, hid, ?_, ?_⟩
  · unfold BalanceChange.ofLine balanceTransition changeOf
    dsimp only
    rw [hbefore]
    rfl
  · unfold BalanceChange.ofLine balanceTransition changeOf
    dsimp only
    rw [hafter]
    rfl

theorem Carries.replaysTo (h : t.Carries s d card owner) :
    t.ReplaysTo (t.changeOf s d.posting card owner).applied.announcement?.toList
      (t.apply (t.changeOf s d.posting card owner)) := by
  intro id c hc
  have hbalance := h.map_balance_apply id
  rw [hc] at hbalance
  obtain ⟨c', hc', hmoves⟩ := Option.map_eq_some_iff.mp hbalance
  refine ⟨c', hc', ?_⟩
  rw [hmoves]
  by_cases hmoved : t.deltaOf d.posting = 0
  · -- Nothing moves, and nothing is announced.
    have hnone : (t.changeOf s d.posting card owner).applied.announcement? = none :=
      if_neg fun hne => hne hmoved
    rw [hnone, hmoved]
    simp [BalanceChange.Replays]
  · obtain ⟨x, hx, hwallet, hprevious, hnext⟩ :
        ∃ x, (t.changeOf s d.posting card owner).applied.announcement? = some x ∧
          x.walletId = card.id ∧ x.previousBalance = card.balance ∧
          x.balance = card.balance + t.deltaOf d.posting := announcement?_changeOf hmoved
    have hid : card.id = d.cardId := key_of_rowOf? h.card_eq
    rw [hx, Option.toList_some]
    by_cases hcard : d.cardId = id
    · obtain rfl : card = c := by
        have hfound := h.card_eq
        rw [hcard, hc] at hfound
        exact (Option.some.inj hfound).symm
      have hmine : [x].filter (·.walletId = id) = [x] := by simp [hwallet, hid, hcard]
      rw [hmine, if_pos hcard]
      refine ⟨hprevious, ?_, hnext.symm⟩
      omega
    · have hother : [x].filter (·.walletId = id) = [] := by simp [hwallet, hid, hcard]
      rw [hother, if_neg hcard]
      exact Int.add_zero _

end Tables

/-! ## Runs -/

theorem Turn.announces {s : Settings} (hs : s.effects = .inline) {w : World Memory}
    (hw : w.deferred = []) (turn : Turn) :
    ∃ changes, (turn.run s w).announced = w.announced ++ changes ∧
      w.store.tables.ReplaysTo changes (turn.run s w).store.tables := by
  cases turn.course hs hw with
  | aside haside hsteady =>
    refine ⟨[], ?_, hsteady.replaysTo⟩
    unfold World.announced
    rw [haside.outbound, List.append_nil]
  | swept limit hrun =>
    have hasks := Task.asks_sweepFees limit
    rw [hrun]
    refine ⟨[], ?_, (hasks.spares.plain.steady w).replaysTo⟩
    rw [List.append_nil]
    exact Program.Asks.announced (p := (sweepFees limit).run) hasks w
  | committed reference ev d card owner hcommits hrun =>
    let c := w.store.tables.changeOf s d.posting card owner
    have hsteady : (w.store.tables.apply c).Steady (turn.run s w).store.tables := by
      rw [hrun]
      exact Program.steady_runEffects c.applied (w.resting (w.store.tables.apply c))
    refine ⟨c.applied.announcement?.toList, ?_, ?_⟩
    · rw [hrun]
      exact Program.announced_runEffects _ _ c.applied (w.resting (w.store.tables.apply c))
    · rw [← List.append_nil c.applied.announcement?.toList]
      exact hcommits.carries.replaysTo.trans hsteady.replaysTo

theorem World.announces {s : Settings} (hs : s.effects = .inline) {w : World Memory}
    (hw : w.deferred = []) (turns : List Turn) :
    ∃ changes, (w.after s turns).announced = w.announced ++ changes ∧
      w.store.tables.ReplaysTo changes (w.after s turns).store.tables := by
  induction turns generalizing w with
  | nil => exact ⟨[], (List.append_nil _).symm, (Tables.Steady.refl _).replaysTo⟩
  | cons turn rest ih =>
    obtain ⟨first, hfirst, hmoved⟩ := turn.announces hs hw
    obtain ⟨later, hlater, hmoved'⟩ := ih (turn.deferred_run_inline hs hw)
    refine ⟨first ++ later, ?_, hmoved.trans hmoved'⟩
    rw [← List.append_assoc, ← hfirst]
    exact hlater

/-- Where effects run at once, the announced changes of a card start from its first balance, follow
on one another, each moves the balance, and the last one shows the balance that is stored. Where
there is none, the balance was the same at every point of the run. -/
theorem announced_changes_replay_balance {s : Settings} (hs : s.effects = .inline)
    {w : World Memory} (hnew : w.announced = []) (hw : w.deferred = []) (turns : List Turn)
    {id : Uuid} {card : Card} (hcard : w.store.tables.card? id = some card) :
    let changes := (w.after s turns).announced.filter (·.walletId = id)
    ∃ card', (w.after s turns).store.tables.card? id = some card' ∧
      BalanceChange.Replays card.balance changes card'.balance ∧
      (∀ last ∈ changes.getLast?, last.Shows card'.balance) ∧
      (changes = [] → ∀ past, past <+: turns →
        ((w.after s past).store.tables.card? id).map (·.balance) = some card.balance) := by
  intro changes
  obtain ⟨all, hall, hmoved⟩ := World.announces hs hw turns
  have hchanges : changes = all.filter (·.walletId = id) := by
    refine congrArg (List.filter _) (hall.trans ?_)
    rw [hnew, List.nil_append]
  obtain ⟨card', hcard', hreplays⟩ := hmoved id card hcard
  rw [← hchanges] at hreplays
  refine ⟨card', hcard', hreplays, fun last hlast => ?_, fun hnone past hpast => ?_⟩
  · rw [← hreplays.balance_eq hlast]
    exact last.shows_balance
  -- Announcements are never taken back, so there was none at an earlier point either.
  · obtain ⟨later, rfl⟩ := hpast
    obtain ⟨early, hearly, hmoved⟩ := World.announces hs hw past
    obtain ⟨late, hlate, -⟩ :=
      World.announces hs (World.deferred_after_inline hs hw past) later
    have hsplit : changes = early.filter (·.walletId = id) ++ late.filter (·.walletId = id) := by
      rw [← List.filter_append]
      refine congrArg (List.filter _) ?_
      rw [World.after_append, hlate, hearly, hnew, List.nil_append]
    rw [hnone] at hsplit
    have hnone' : early.filter (·.walletId = id) = [] := (List.append_eq_nil_iff.mp hsplit.symm).1
    obtain ⟨c, hc, hsame⟩ := hmoved id card hcard
    rw [hnone'] at hsame
    rw [hc]
    exact congrArg some hsame

def Specimen.heldAndReleased : List Turn :=
  [spendTurn "t" "first" "pending" 20, spendTurn "t" "first" "declined" 20]

theorem hold_and_release_replay :
    Specimen.settings.effects = .inline ∧ Specimen.world.announced = [] ∧
      Specimen.world.deferred = [] ∧
      Specimen.world.store.tables.card? ⟨1⟩ = some (Specimen.card 1 "first" 20) ∧
      ((Specimen.world.after Specimen.settings Specimen.heldAndReleased).announced.map
        fun c => (c.previousBalance, c.balance)) = [(20, 0), (0, 20)] ∧
      ∃ card', (Specimen.world.after Specimen.settings
          Specimen.heldAndReleased).store.tables.card? ⟨1⟩ = some card' ∧
        BalanceChange.Replays 20 ((Specimen.world.after Specimen.settings
          Specimen.heldAndReleased).announced.filter (·.walletId = ⟨1⟩)) card'.balance := by
  -- Two announcements tell of it, and the second one shows what is stored.
  have hcard : Specimen.world.store.tables.card? ⟨1⟩ = some (Specimen.card 1 "first" 20) := rfl
  obtain ⟨card', hcard', hreplays, -⟩ := announced_changes_replay_balance
    (s := Specimen.settings) rfl (w := Specimen.world) rfl rfl Specimen.heldAndReleased hcard
  exact ⟨rfl, rfl, rfl, hcard, by decide +kernel, card', hcard', hreplays⟩

end PrepaidLedger
