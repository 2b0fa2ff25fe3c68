import PrepaidLedger.Proofs.Engine.Charges
import PrepaidLedger.Proofs.Ledger.PendingDeposit

/-! Sweeps over the open fees. The store picks lines by their status alone, and a fee is collected
by kind and status. So the head of the queue may be taken by lines that no sweep collects. -/

namespace PrepaidLedger

/-! ## The batch -/

/-- The oldest lines that a sweep picks up, as many as the limit allows. -/
structure Tables.IsBatch (t : Tables) (limit : Int) (batch : List Line) : Prop where
  mem : ∀ l ∈ batch, l ∈ t.lines ∧ isSweepable l = true
  length_eq : batch.length = min limit.toNat (t.lines.countP isSweepable)
  sorted : batch.Pairwise fun a b => a.createdAt.seconds ≤ b.createdAt.seconds
  oldest : ∀ l ∈ batch, ∀ l' ∈ t.lines, isSweepable l' = true → l' ∉ batch →
    l.createdAt.seconds ≤ l'.createdAt.seconds

theorem Line.isSweepable_of_feeDue {l : Line} (h : l.feeDue = true) :
    Tables.isSweepable l = true := by
  unfold feeDue at h
  unfold Tables.isSweepable
  cases hk : l.kind <;> cases hs : l.status <;> simp_all

namespace Tables

variable (t : Tables) (limit : Int)

def queue : List Line :=
  (t.lines.filter isSweepable).mergeSort fun a b => a.createdAt.seconds ≤ b.createdAt.seconds

theorem unsettled_eq : t.unsettled limit = t.queue.take limit.toNat := rfl

theorem queue_perm : t.queue.Perm (t.lines.filter isSweepable) := List.mergeSort_perm ..

theorem mem_queue {t : Tables} {l : Line} :
    l ∈ t.queue ↔ l ∈ t.lines ∧ isSweepable l = true := by
  rw [t.queue_perm.mem_iff, List.mem_filter]

theorem sorted_queue :
    t.queue.Pairwise fun a b => a.createdAt.seconds ≤ b.createdAt.seconds := by
  have hsorted : t.queue.Pairwise
      fun a b => decide (a.createdAt.seconds ≤ b.createdAt.seconds) = true :=
    List.pairwise_mergeSort (fun a b c hab hbc => by simp at *; omega)
      (fun a b => by simp; omega) (t.lines.filter isSweepable)
  exact hsorted.imp fun h => of_decide_eq_true h

theorem isBatch_unsettled : t.IsBatch limit (t.unsettled limit) where
  mem l hl := mem_queue.mp (List.mem_of_mem_take hl)
  length_eq := by
    rw [unsettled_eq, List.length_take, t.queue_perm.length_eq, List.countP_eq_length_filter]
  sorted := t.sorted_queue.sublist (List.take_sublist ..)
  oldest l hl l' hl' hsweepable hout := by
    have hsplit := t.sorted_queue
    rw [← List.take_append_drop limit.toNat t.queue, List.pairwise_append] at hsplit
    have hqueue : l' ∈ t.queue := mem_queue.mpr ⟨hl', hsweepable⟩
    rw [← List.take_append_drop limit.toNat t.queue, List.mem_append] at hqueue
    exact hsplit.2.2 l hl l' (hqueue.resolve_left hout)

theorem Keyed.nodup_unsettled {t : Tables} (hk : t.Keyed) :
    ((t.unsettled limit).map Line.id).Nodup := by
  have hqueue : (t.queue.map Line.id).Nodup :=
    (t.queue_perm.map Line.id).nodup_iff.mpr (hk.ids.sublist (List.filter_sublist.map _))
  exact hqueue.sublist ((List.take_sublist ..).map _)

theorem countP_feeDue_queue : t.queue.countP Line.feeDue = t.lines.countP Line.feeDue := by
  rw [t.queue_perm.countP_eq, List.countP_filter]
  refine List.countP_congr fun l _ => ?_
  simpa using Line.isSweepable_of_feeDue

theorem unsettled_due_iff :
    let batch := t.unsettled limit
    let m := min limit.toNat (t.lines.countP Line.feeDue)
    (batch.length = m ∧ batch.countP Line.feeDue = m) ↔ ∀ l ∈ batch, l.feeDue = true := by
  intro batch m
  rw [← List.countP_eq_length]
  have hlength : batch.length = min limit.toNat t.queue.length := List.length_take ..
  have hle : batch.countP Line.feeDue ≤ t.queue.countP Line.feeDue :=
    (List.take_sublist ..).countP_le
  have htotal : t.queue.countP Line.feeDue ≤ t.queue.length := List.countP_le_length
  have hm : m = min limit.toNat (t.queue.countP Line.feeDue) := by rw [countP_feeDue_queue]
  omega

end Tables

/-! ## Collecting -/

def Line.settledBy (l : Line) (receipt : String) (now : Timestamp) : Line :=
  { l with feeSettled := true, feeChargeRef := some receipt, updatedAt := now }

structure World.Collects (w w' : World Memory) (due : List Line) : Prop where
  others : w' = { w with
    store.tables.lines := w'.store.tables.lines
    outbound := w'.outbound }
  lines : List.Forall₂
    (fun l l' => (l ∈ due → l.SettlesTo l' ∧ l'.feeSettled = true) ∧ (l ∉ due → l' = l))
    w.store.tables.lines w'.store.tables.lines
  charges : ∃ sent, w'.outbound = w.outbound ++ sent ∧
    List.Forall₂ (fun l o => ∃ owner receipt,
      w.store.tables.cardUser? l.cardUserId = some owner ∧
        o = .charge (.ofLine l owner.providerRef) (some receipt)) due sent

namespace World.Collects

variable {w w₁ w₂ : World Memory} {due due₁ : List Line}

theorem refl (w : World Memory) : w.Collects w [] where
  others := rfl
  lines := List.forall₂_same.mpr fun _ _ => ⟨nofun, fun _ => rfl⟩
  charges := ⟨[], (List.append_nil _).symm, .nil⟩

theorem eq_of_nil (h : w.Collects w₁ []) : w₁ = w := by
  have hlines : w₁.store.tables.lines = w.store.tables.lines := by
    simpa using map_eq_of_forall₂ (f := id) (fun _ _ h => h.2 List.not_mem_nil) h.lines
  obtain ⟨sent, hsent, hnone⟩ := h.charges
  cases hnone
  rw [h.others, hlines, hsent, List.append_nil]

theorem trans (h : w.Collects w₁ due) (h₁ : w₁.Collects w₂ due₁) :
    w.Collects w₂ (due ++ due₁) where
  others := by rw [h₁.others, h.others]
  lines := by
    refine forall₂_trans (fun a b c hab hbc => ?_) h.lines h₁.lines
    by_cases ha : a ∈ due
    · -- Whether the line is settled once more or left alone, settled it stays.
      obtain ⟨hsettles, hsettled⟩ := hab.1 ha
      refine ⟨fun _ => ?_, fun hnot => absurd (List.mem_append_left _ ha) hnot⟩
      by_cases hb : b ∈ due₁
      · exact ⟨hsettles.trans (hbc.1 hb).1, (hbc.1 hb).2⟩
      · rw [hbc.2 hb]
        exact ⟨hsettles, hsettled⟩
    · obtain rfl := hab.2 ha
      simpa [ha] using hbc
  charges := by
    obtain ⟨sent, heq, hsent⟩ := h.charges
    obtain ⟨sent₁, heq₁, hsent₁⟩ := h₁.charges
    refine ⟨sent ++ sent₁, by rw [heq₁, heq, List.append_assoc], ?_⟩
    rw [h.others] at hsent₁
    exact List.rel_append hsent hsent₁

end World.Collects

section Runs

variable (refusal : LockKey → Option LockError) {C : Collaborators} {w : World Memory}

theorem World.answer_store (c : StoreCall) :
    World.answer (Memory.backend refusal) C (.store c) w =
      (.ok (w.store.tables.call c).1,
        { w with store := { w.store with tables := (w.store.tables.call c).2 } }) := rfl

theorem Program.runIn_collectFee_of_due {l : Line} {userRef receipt : String}
    (hdue : l.feeDue = true) (hl : w.store.tables.line? l.id = some l)
    (hreceipt : C.charge w.outbound (.ofLine l userRef) = some receipt) :
    (collectFee l userRef).runIn (Memory.backend refusal) C w =
      (.settled receipt,
        { w.send (.charge (.ofLine l userRef) (some receipt)) with
          store := { w.store with
            tables := w.store.tables.putLine (l.settledBy receipt w.store.tables.now) } }) := by
  have hcall : w.store.tables.call (.settleFee l.id (some receipt)) =
      (some (l.settledBy receipt w.store.tables.now),
        w.store.tables.putLine (l.settledBy receipt w.store.tables.now)) := by
    unfold Tables.call
    dsimp only
    rw [hl]
    rfl
  unfold collectFee
  rw [if_pos hdue, runIn_bind, runIn_request]
  dsimp only [World.answer]
  rw [hreceipt]
  dsimp only
  rw [runIn_bind, runIn_request, World.answer_store]
  dsimp only [World.send]
  rw [hcall]
  rfl

theorem World.collects_one {l : Line} {owner : CardUser} (receipt : String)
    (hl : w.store.tables.line? l.id = some l)
    (howner : w.store.tables.cardUser? l.cardUserId = some owner)
    (hids : (w.store.tables.lines.map Line.id).Nodup) :
    w.Collects
      { w.send (.charge (.ofLine l owner.providerRef) (some receipt)) with
        store := { w.store with
          tables := w.store.tables.putLine (l.settledBy receipt w.store.tables.now) } } [l] where
  others := rfl
  lines := by
    have hput := @forall₂_putRow_of_nodup _ _ _ Line.id (l.settledBy receipt w.store.tables.now) l
      _ hids (mem_of_rowOf? hl) rfl
    refine hput.imp fun a a' h => ?_
    rw [List.mem_singleton]
    refine ⟨?_, h.2⟩
    rintro rfl
    rw [h.1 rfl]
    exact ⟨rfl, rfl⟩
  charges := ⟨_, rfl, .cons ⟨owner, receipt, howner, rfl⟩ .nil⟩

theorem Task.runIn_sweepLines (hC : ∀ sent c, (C.charge sent c).isSome) {lines : List Line}
    (hrows : ∀ l ∈ lines, w.store.tables.line? l.id = some l)
    (hids : (lines.map Line.id).Nodup) (hnodup : (w.store.tables.lines.map Line.id).Nodup)
    (howners : ∀ l ∈ lines, (w.store.tables.cardUser? l.cardUserId).isSome)
    (summary : SweepSummary) :
    ∃ w', (sweepLines summary lines).runIn (Memory.backend refusal) C w =
        (.ok ⟨summary.attempted + lines.length, summary.settled + lines.countP Line.feeDue,
          summary.failed⟩, w') ∧
      w.Collects w' (lines.filter Line.feeDue) := by
  induction lines generalizing summary w with
  | nil => exact ⟨w, rfl, .refl w⟩
  | cons l rest ih =>
    obtain ⟨owner, howner⟩ := Option.isSome_iff_exists.mp (howners l (List.mem_cons_self ..))
    have hl := hrows l (List.mem_cons_self ..)
    rw [List.map_cons, List.nodup_cons] at hids
    unfold sweepLines
    rw [runIn_bind, runIn_read refusal C w (a := some owner) (by rw [Tables.call, howner])]
    dsimp only
    rw [runIn_bind, runIn_ofProgram]
    by_cases hdue : l.feeDue = true
    · obtain ⟨receipt, hreceipt⟩ :=
        Option.isSome_iff_exists.mp (hC w.outbound (.ofLine l owner.providerRef))
      rw [Program.runIn_collectFee_of_due refusal hdue hl hreceipt]
      dsimp only
      let w₁ : World Memory := { w.send (.charge (.ofLine l owner.providerRef) (some receipt)) with
        store := { w.store with
          tables := w.store.tables.putLine (l.settledBy receipt w.store.tables.now) } }
      have hrows₁ : ∀ l' ∈ rest, w₁.store.tables.line? l'.id = some l' := by
        intro l' hl'
        have hne : l.id ≠ l'.id := fun he => hids.1 (he ▸ List.mem_map_of_mem hl')
        refine (rowOf?_putRow ..).trans ((if_neg hne).trans ?_)
        exact hrows l' (List.mem_cons_of_mem l hl')
      have hnodup₁ : (w₁.store.tables.lines.map Line.id).Nodup :=
        (fits_self _ _).nodup_putRow hnodup
      obtain ⟨w', hrun, hcollects⟩ := ih hrows₁ hids.2 hnodup₁
        (fun l' hl' => howners l' (List.mem_cons_of_mem l hl')) (summary.count (.settled receipt))
      refine ⟨w', hrun.trans ?_, ?_⟩
      · simp [SweepSummary.count, hdue]
        omega
      · rw [List.filter_cons_of_pos hdue]
        exact (World.collects_one receipt hl howner hnodup).trans hcollects
    · have hnone : (collectFee l owner.providerRef).runIn (Memory.backend refusal) C w =
          (.notDue, w) := by
        unfold collectFee
        rw [if_neg hdue]
        rfl
      rw [hnone]
      obtain ⟨w', hrun, hcollects⟩ := ih (fun l' hl' => hrows l' (List.mem_cons_of_mem l hl'))
        hids.2 hnodup (fun l' hl' => howners l' (List.mem_cons_of_mem l hl'))
        (summary.count .notDue)
      refine ⟨w', hrun.trans ?_, ?_⟩
      · simp [SweepSummary.count, hdue]
        omega
      · rw [List.filter_cons_of_neg hdue]
        exact hcollects

/-- In every state that is reached from tables without lines the sweep tries the oldest lines that
it picks up, and collects those among them that owe a fee. It collects as many fees as the limit
allows exactly if none of the lines it tries owes none; and where all of them owe none, it leaves
everything as it is, and so does every sweep after it. -/
theorem sweep_collects_due_lines_of_batch (s : Settings) (hC : ∀ sent c, (C.charge sent c).isSome)
    (hempty : w.store.tables.lines = []) (hd : w.store.tables.Distinct) (turns : List Turn)
    (limit : Int) :
    let w' := w.after s turns
    let batch := w'.store.tables.unsettled limit
    let due := batch.filter Line.feeDue
    let r := (sweepFees limit).runIn (Memory.backend refusal) C w'
    let m := min limit.toNat (w'.store.tables.lines.countP Line.feeDue)
    r.1 = .ok ⟨batch.length, due.length, 0⟩ ∧ w'.store.tables.IsBatch limit batch ∧
      w'.Collects r.2 due ∧
      (r.1 = .ok ⟨m, m, 0⟩ ↔ ∀ l ∈ batch, l.feeDue = true) ∧
      ((∀ l ∈ batch, l.feeDue = false) → r.2 = w') := by
  intro w' batch due r m
  have hbooked : w'.store.tables.Booked s := World.booked_after s hempty hd turns
  have hbatch : w'.store.tables.IsBatch limit batch := Tables.isBatch_unsettled _ _
  have howners : ∀ l ∈ batch, (w'.store.tables.cardUser? l.cardUserId).isSome := by
    intro l hl
    obtain ⟨-, -, owner, howner, -, hid, -⟩ := hbooked.owned l (hbatch.mem l hl).1
    rw [← hid]
    exact Option.isSome_of_eq_some (rowOf?_of_mem hbooked.distinct.cardUsers howner)
  obtain ⟨w₁, hrun, hcollects⟩ := Task.runIn_sweepLines refusal hC
    (fun l hl => rowOf?_of_mem hbooked.keyed.ids (hbatch.mem l hl).1)
    (hbooked.keyed.nodup_unsettled limit) hbooked.keyed.ids howners .empty
  have hr : r = (.ok ⟨batch.length, due.length, 0⟩, w₁) := by
    refine (Task.runIn_bind _ _ _ _ w').trans ?_
    rw [Task.runIn_read refusal C w' (a := batch) rfl]
    refine hrun.trans ?_
    rw [← List.countP_eq_length_filter]
    simp [SweepSummary.empty]
  rw [hr]
  refine ⟨rfl, hbatch, hcollects, ?_, fun hnone => ?_⟩
  · refine Iff.trans ?_ (w'.store.tables.unsettled_due_iff limit)
    simp [due, batch, m, List.countP_eq_length_filter]
  · have hdue : due = [] := List.filter_eq_nil_iff.mpr fun l hl => by simp [hnone l hl]
    change w'.Collects w₁ due at hcollects
    rw [hdue] at hcollects
    exact hcollects.eq_of_nil

end Runs

namespace Specimen

def charging : Settings := .standard ⟨⟨250, 0⟩, ⟨0, 3⟩, .providerCharge⟩

def accepting : Collaborators := { refusing with charge := fun _ _ => some "receipt" }

end Specimen

theorem sweep_collects_fee_of_decline :
    let w := Specimen.world.after Specimen.charging [Specimen.declinedTurn]
    ((sweepFees 10).runIn (Memory.backend fun _ => none) Specimen.accepting w).1 =
      .ok ⟨1, 1, 0⟩ := by
  -- The provider refuses a fee, and takes it from the sweep.
  intro w
  have haccepts : ∀ sent c, (Specimen.accepting.charge sent c).isSome := fun _ _ => rfl
  have hdue : ∀ l ∈ w.store.tables.lines, l.feeDue = true := by decide +kernel
  have hcount : w.store.tables.lines.countP Line.feeDue = 1 := by decide +kernel
  obtain ⟨-, hbatch, -, hall, -⟩ := sweep_collects_due_lines_of_batch (w := Specimen.world)
    (fun _ => none) Specimen.charging haccepts rfl Specimen.distinct_tables
    [Specimen.declinedTurn] 10
  refine (hall.mpr fun l hl => hdue l (hbatch.mem l hl).1).trans ?_
  rw [hcount]
  rfl

namespace Specimen

def failure : Posting := { deposit .failed 40 .free with credit := 0 }

def onItsWayCharged : World Memory := deposited charging .pending 40 ⟨1, true⟩

theorem lands_failure :
    (LedgerEvent.collateral (collateral .failed 40)).Lands charging onItsWayCharged.store.tables
      (fun _ => none) "t" (card 2 "second" 30) (owner 50) failure := by
  have hl : onItsWayCharged.store.tables.lineByRef? "t" =
      some (tables.lineOf (deposit .pending 40 ⟨1, true⟩) (card 2 "second" 30) (owner 50)) := rfl
  have hparties : (LedgerEvent.collateral (collateral .failed 40)).parties
      onItsWayCharged.store.tables = .ok (card 2 "second" 30, owner 50) :=
    LedgerEvent.parties_collateral rfl rfl (by decide +kernel) rfl (by decide)
      (by decide +kernel)
  refine ⟨⟨rfl, hparties, rfl⟩, fun l hl' => ?_, rfl, rfl⟩
  obtain rfl := Option.some.inj (hl.symm.trans hl')
  exact ⟨rfl, rfl, (by decide : LineStatus.declined ≠ .pending), by decide +kernel⟩

/-- Collateral is on its way and fails; later on a spend is declined, for a fee that the provider
refuses. -/
def jammed : List Turn :=
  [collateralTurn "t" .pending 40, collateralTurn "t" .failed 40,
    ⟨fun _ => none, refusing, .clock ⟨1⟩⟩, declinedTurn]

def failed : World Memory :=
  let c := onItsWayCharged.store.tables.changeOf charging failure (card 2 "second" 30) (owner 50)
  ((startEffects charging c.applied).runIn (Memory.backend fun _ => none) refusing
    (onItsWayCharged.resting (onItsWayCharged.store.tables.apply c))).2

def staleLine : Line :=
  onItsWayCharged.store.tables.lineOf failure (card 2 "second" 30) (owner 50)

theorem after_jammed :
    world.after charging jammed =
      failed.after charging [⟨fun _ => none, refusing, .clock ⟨1⟩⟩, declinedTurn] := by
  have hfirst : world.after charging [collateralTurn "t" .pending 40] = onItsWayCharged :=
    after_collateralTurn rfl rfl rfl rfl
  have hdistinct : onItsWayCharged.store.tables.Distinct := by
    rw [← hfirst]
    exact World.distinct_after distinct_tables charging _
  have hsecond : (collateralTurn "t" .failed 40).run charging onItsWayCharged = failed :=
    lands_failure.run_turn rfl hdistinct
  change ((collateralTurn "t" .failed 40).run charging
    (world.after charging [collateralTurn "t" .pending 40])).after charging _ = _
  rw [hfirst, hsecond]

end Specimen

/-- The fee of collateral that failed on its way is never due and always picked up, and being the
oldest it keeps the one fee that is due from being collected. -/
theorem stale_fee_jams_sweep :
    let w := Specimen.world.after Specimen.charging Specimen.jammed
    Specimen.world.store.tables.lines = [] ∧
      (∀ sent c, (Specimen.accepting.charge sent c).isSome) ∧
      w.store.tables.lines.countP Line.feeDue = 1 ∧
      (sweepFees 1).runIn (Memory.backend fun _ => none) Specimen.accepting w =
        (.ok ⟨1, 0, 0⟩, w) := by
  intro w
  have hw : w = Specimen.failed.after Specimen.charging
      [⟨fun _ => none, Specimen.refusing, .clock ⟨1⟩⟩, Specimen.declinedTurn] :=
    Specimen.after_jammed
  refine ⟨rfl, fun _ _ => rfl, ?_, ?_⟩
  · rw [hw]
    decide +kernel
  · have hsorted : (w.store.tables.lines.filter Tables.isSweepable).Pairwise
        fun a b => decide (a.createdAt.seconds ≤ b.createdAt.seconds) = true := by
      rw [hw]
      decide +kernel
    have hbatch : w.store.tables.unsettled 1 = [Specimen.staleLine] := by
      unfold Tables.unsettled
      rw [List.mergeSort_of_pairwise hsorted, hw]
      decide +kernel
    refine (Task.runIn_bind _ _ _ _ w).trans ?_
    have hread : w.store.tables.call (.unsettledFees 1) = ([Specimen.staleLine], w.store.tables) :=
      congrArg (·, w.store.tables) hbatch
    rw [Task.runIn_read _ _ w hread, hw]
    rfl

end PrepaidLedger
