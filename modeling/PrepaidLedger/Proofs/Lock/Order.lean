import PrepaidLedger.Proofs.Lock.Places

/-! Local locks keep apart and keep the order of arrival, whoever moves between two movements of
someone else. -/

namespace PrepaidLedger

/-! ## Tickets -/

def Waiter.place (w : Waiter) : String × LockKey := (w.who, w.key)

namespace Ticket

def place (t : Ticket) : String × LockKey := (t.who, t.key)

def IsWaiting (t : Ticket) : Bool := t.fate = .waiting

def InTurn (a b : Ticket) : Prop := a.key = b.key → b.fate = .granted → a.fate ≠ .waiting

def NotAhead (who : String) (a b : Ticket) : Prop :=
  a.fate = .waiting → b.fate = .waiting → b.who = who → a.key ≠ b.key

end Ticket

theorem map_place_handOver (mutex : Nat) (line : List Waiter) :
    (LocalLocks.handOver mutex line).map Waiter.place = line.map Waiter.place := by
  have hmap (l : List Waiter) :
      l.map Waiter.place = (l.map Waiter.grip).map fun g => (g.who, g.key) := by
    rw [List.map_map]
    rfl
  rw [hmap, hmap, map_grip_handOver]

section Settle

variable {who : String} {fate : Fate} {tickets : List Ticket}

theorem Ticket.settle_of_ne {t : Ticket} (h : t.who ≠ who) (fate : Fate) :
    t.settle who fate = t := if_neg fun hopen => h hopen.1

theorem Ticket.isWaiting_settle (hfate : fate ≠ .waiting) (t : Ticket) :
    (t.settle who fate).IsWaiting = (t.who ≠ who && t.IsWaiting) := by
  unfold settle IsWaiting
  by_cases hwho : t.who = who <;> by_cases hw : t.fate = .waiting <;> simp [hwho, hw, hfate]

theorem mem_settle_of_granted {key : LockKey} {other : String}
    (h : ⟨other, key, .granted⟩ ∈ tickets) (who : String) (fate : Fate) :
    ⟨other, key, .granted⟩ ∈ tickets.map (Ticket.settle who fate) := by
  refine List.mem_map.mpr ⟨_, h, if_neg fun hopen => ?_⟩
  cases hopen.2

theorem filter_settle (who : String) (hfate : fate ≠ .waiting) (tickets : List Ticket) :
    (tickets.map (.settle who fate)).filter Ticket.IsWaiting =
      (tickets.filter Ticket.IsWaiting).filter fun t => t.who ≠ who := by
  have hkeeps : Ticket.IsWaiting ∘ Ticket.settle who fate =
      fun t => decide (t.who ≠ who) && t.IsWaiting := funext (Ticket.isWaiting_settle hfate)
  rw [List.filter_map, List.filter_filter, hkeeps]
  refine (List.map_congr_left fun t ht => ?_).trans (List.map_id _)
  obtain ⟨hne, -⟩ := Bool.and_eq_true_iff.mp (List.mem_filter.mp ht).2
  exact Ticket.settle_of_ne (of_decide_eq_true hne) fate

theorem inTurn_settle_canceled (h : tickets.Pairwise Ticket.InTurn) (who : String) :
    (tickets.map (.settle who .canceled)).Pairwise Ticket.InTurn := by
  refine h.map _ fun a b hab => ?_
  unfold Ticket.InTurn Ticket.settle at *
  grind

theorem inTurn_settle_granted (h : tickets.Pairwise Ticket.InTurn)
    (hfirst : tickets.Pairwise (Ticket.NotAhead who)) :
    (tickets.map (.settle who .granted)).Pairwise Ticket.InTurn := by
  refine (h.and hfirst).map _ fun a b hab => ?_
  unfold Ticket.InTurn Ticket.NotAhead Ticket.settle at *
  grind

end Settle

namespace Crowd

/-- Those who wait are in the order of their arrival, and keys have been granted in that order. -/
structure Ticketed (c : Crowd) : Prop where
  line : (c.tickets.filter Ticket.IsWaiting).map Ticket.place = c.locks.waiters.map Waiter.place
  order : c.tickets.Pairwise Ticket.InTurn
  held : ∀ h ∈ c.locks.holders, ⟨h.who, h.key, .granted⟩ ∈ c.tickets

structure Kept (c : Crowd) : Prop where
  names : c.names.Nodup
  orderly : ∀ mutex, Orderly (c.locks.holdersOf mutex) (c.locks.lineOf mutex)
  referring : c.Referring
  ticketed : c.Ticketed

variable {c c' : Crowd} {move : LockMove}

theorem Kept.lined (h : c.Kept) : c.locks.Lined := ⟨names_locks h.names, h.orderly⟩

theorem mem_grips_of_waiter {w : Waiter} (h : w ∈ c.locks.waiters) : w.grip ∈ c.grips :=
  mem_grips.mpr (.inl (List.mem_append_right _ (List.mem_map_of_mem h)))

theorem mem_grips_of_holder {h : Holder} (hh : h ∈ c.locks.holders) : h.grip ∈ c.grips :=
  mem_grips.mpr (.inl (List.mem_append_left _ (List.mem_map_of_mem hh)))

theorem mem_grips_of_entering {g : Grip} (h : g ∈ c.entering) : g ∈ c.grips :=
  mem_grips.mpr (.inr (.inl h))

theorem Kept.waiter_key_eq_iff (h : c.Kept) {v w : Waiter} (hv : v ∈ c.locks.waiters)
    (hw : w ∈ c.locks.waiters) : v.key = w.key ↔ v.mutex = w.mutex :=
  h.referring.key_eq_iff (mem_grips_of_waiter hv) (mem_grips_of_waiter hw)

theorem Moved.orderly (hm : c.Moved move c') (h : c.Kept) (mutex : Nat) :
    Orderly (c'.locks.holdersOf mutex) (c'.locks.lineOf mutex) := by
  cases hm with
  | stayed => exact h.orderly mutex
  | @found who key =>
    obtain ⟨table, made, hlookUp⟩ := lookUp_eq c.locks key
    dsimp only
    rw [hlookUp]
    exact h.orderly mutex
  | joined => exact LocalLocks.orderly_enter h.orderly mutex
  | polled hfind => exact LocalLocks.orderly_poll h.lined hfind mutex
  | canceled hfind => exact LocalLocks.orderly_cancel h.lined hfind mutex
  | unlocked hfind => exact LocalLocks.orderly_giveUp h.lined (mem_of_rowOf? hfind) mutex
  | letGone => exact h.orderly mutex
  | @looked who key =>
    obtain ⟨table, hforget⟩ := forget_eq c key
    dsimp only
    rw [hforget]
    exact h.orderly mutex

theorem Kept.notAhead_of_handed (h : c.Kept) {w : Waiter} (hw : w ∈ c.locks.waiters)
    (hhanded : w.handed = true) : c.tickets.Pairwise (Ticket.NotAhead w.who) := by
  obtain ⟨-, rest, hline, -⟩ :=
    (h.orderly w.mutex).eq_cons_of_handed (LocalLocks.mem_lineOf hw) hhanded
  have hnames : ((w :: rest).map Waiter.who).Nodup := hline ▸ h.lined.nodup_line w.mutex
  have hinLine : (c.locks.lineOf w.mutex).Pairwise fun _ u => u.who ≠ w.who := by
    have hne : ∀ u ∈ rest, u.who ≠ w.who := fun u hu he =>
      (List.nodup_cons.mp hnames).1 (he ▸ List.mem_map_of_mem hu)
    rw [hline]
    exact .cons hne (List.pairwise_of_forall_mem_list fun _ _ u hu => hne u hu)
  have hwaiters : c.locks.waiters.Pairwise fun v u => u.who = w.who → v.key ≠ u.key := by
    refine (List.pairwise_filter.mp hinLine).imp_of_mem fun {v u} hv hu hne hwho hkey => ?_
    obtain rfl := h.lined.waiter_eq hu hw hwho
    exact hne (decide_eq_true ((h.waiter_key_eq_iff hv hu).mp hkey)) (decide_eq_true rfl) rfl
  have hplaces : (c.locks.waiters.map Waiter.place).Pairwise fun a b => b.1 = w.who → a.2 ≠ b.2 :=
    List.pairwise_map.mpr hwaiters
  rw [← h.ticketed.line] at hplaces
  refine (List.pairwise_filter.mp (List.pairwise_map.mp hplaces)).imp fun {a b} hab ha hb => ?_
  exact hab (decide_eq_true ha) (decide_eq_true hb)

theorem Ticketed.of_unchanged (h : c.Ticketed) (htickets : c'.tickets = c.tickets)
    (hwaiters : c'.locks.waiters.map Waiter.place = c.locks.waiters.map Waiter.place)
    (hholders : c'.locks.holders ⊆ c.locks.holders) : c'.Ticketed := by
  refine ⟨?_, ?_, ?_⟩
  · rw [htickets, hwaiters]
    exact h.line
  · rw [htickets]
    exact h.order
  · rw [htickets]
    exact fun holder hholder => h.held holder (hholders hholder)

theorem map_place_filter_ne (who : String) (tickets : List Ticket) (waiters : List Waiter)
    (h : tickets.map Ticket.place = waiters.map Waiter.place) :
    (tickets.filter fun t => t.who ≠ who).map Ticket.place =
      (waiters.filter fun w => w.who ≠ who).map Waiter.place := by
  have htickets : (tickets.filter fun t => t.who ≠ who).map Ticket.place =
      (tickets.map Ticket.place).filter (·.1 ≠ who) := by
    rw [List.filter_map]
    rfl
  have hwaiters : (waiters.filter fun w => w.who ≠ who).map Waiter.place =
      (waiters.map Waiter.place).filter (·.1 ≠ who) := by
    rw [List.filter_map]
    rfl
  rw [htickets, hwaiters, h]

theorem map_place_cancel (s : LocalLocks) (who : String) :
    (s.cancel who).waiters.map Waiter.place =
      (s.waiters.filter fun w => w.who ≠ who).map Waiter.place := by
  unfold LocalLocks.cancel
  split
  next hnone =>
    have hall : ∀ w ∈ s.waiters, decide (w.who ≠ who) = true := by
      simpa using List.find?_eq_none.mp hnone
    rw [List.filter_eq_self.mpr hall]
  · dsimp only
    split
    · exact map_place_handOver ..
    · rfl

theorem Ticketed.exists_waiter (h : c.Ticketed) {t : Ticket} (ht : t ∈ c.tickets)
    (hwaiting : t.fate = .waiting) : ∃ w ∈ c.locks.waiters, w.place = t.place := by
  have hplace : t.place ∈ c.locks.waiters.map Waiter.place := by
    rw [← h.line]
    exact List.mem_map_of_mem (List.mem_filter.mpr ⟨ht, decide_eq_true hwaiting⟩)
  exact List.mem_map.mp hplace

theorem Ticketed.exists_ticket (h : c.Ticketed) {w : Waiter} (hw : w ∈ c.locks.waiters) :
    ∃ t ∈ c.tickets, t.fate = .waiting ∧ t.place = w.place := by
  have hplace : w.place ∈ (c.tickets.filter Ticket.IsWaiting).map Ticket.place := by
    rw [h.line]
    exact List.mem_map_of_mem hw
  obtain ⟨t, ht, hsame⟩ := List.mem_map.mp hplace
  obtain ⟨hmem, hwaiting⟩ := List.mem_filter.mp ht
  exact ⟨t, hmem, of_decide_eq_true hwaiting, hsame⟩

theorem holders_cancel (s : LocalLocks) (who : String) : (s.cancel who).holders = s.holders := by
  unfold LocalLocks.cancel
  split <;> rfl

theorem Ticketed.wait (h : c.Ticketed) {g : Grip} (hlocked : c.locks.isLocked g.mutex = true)
    (entering : List Grip) :
    Ticketed { c with
      locks := c.locks.enter g
      entering := entering
      tickets := c.tickets ++ [⟨g.who, g.key, .waiting⟩] } := by
  refine ⟨?_, List.pairwise_append.mpr ⟨h.order, List.pairwise_singleton _ _, ?_⟩, ?_⟩
  · dsimp only
    rw [LocalLocks.enter_of_locked hlocked, List.filter_append, List.map_append, h.line,
      List.map_append]
    rfl
  · intro a _ b hb _ hgranted
    rw [List.mem_singleton.mp hb] at hgranted
    cases hgranted
  · dsimp only
    rw [LocalLocks.enter_of_locked hlocked]
    exact fun holder hholder => List.mem_append_left _ (h.held holder hholder)

theorem Kept.enter_free (h : c.Kept) {g : Grip} (hg : g ∈ c.grips)
    (hfree : c.locks.isLocked g.mutex = false) (entering : List Grip) :
    Ticketed { c with
      locks := c.locks.enter g
      entering := entering
      tickets := c.tickets ++ [⟨g.who, g.key, .granted⟩] } := by
  -- Who finds the mutex free comes after nobody who waits for the key.
  obtain ⟨-, hline⟩ := (LocalLocks.isLocked_eq_false_iff (h.orderly g.mutex)).mp hfree
  refine ⟨?_, List.pairwise_append.mpr ⟨h.ticketed.order, List.pairwise_singleton _ _, ?_⟩, ?_⟩
  · dsimp only
    rw [LocalLocks.enter_of_free hfree, List.filter_append, List.map_append, h.ticketed.line]
    exact List.append_nil _
  · intro a ha b hb hkey _ hwaiting
    rw [List.mem_singleton.mp hb] at hkey
    obtain ⟨v, hv, hplace⟩ := h.ticketed.exists_waiter ha hwaiting
    have hvkey : v.grip.key = g.key := (congrArg Prod.snd hplace).trans hkey
    have hmutex : v.mutex = g.mutex :=
      (h.referring.key_eq_iff (mem_grips_of_waiter hv) hg).mp hvkey
    have hinLine : v ∈ c.locks.lineOf g.mutex := hmutex ▸ LocalLocks.mem_lineOf hv
    rw [hline] at hinLine
    cases hinLine
  · dsimp only
    rw [LocalLocks.enter_of_free hfree]
    intro holder hholder
    rcases List.mem_append.mp hholder with hholder | hholder
    · exact List.mem_append_left _ (h.ticketed.held holder hholder)
    · rw [List.mem_singleton.mp hholder]
      exact List.mem_append_right _ (List.mem_singleton_self _)

theorem Moved.ticketed (hm : c.Moved move c') (h : c.Kept) : c'.Ticketed := by
  cases hm with
  | stayed => exact h.ticketed
  | @found who key =>
    obtain ⟨table, made, hlookUp⟩ := lookUp_eq c.locks key
    refine h.ticketed.of_unchanged rfl ?_ ?_ <;> dsimp only <;> rw [hlookUp]
    exact List.Subset.refl _
  | @joined who g hfind =>
    have hg : g ∈ c.grips := mem_grips_of_entering (mem_of_rowOf? hfind)
    cases hlocked : c.locks.isLocked g.mutex with
    | true => exact h.ticketed.wait hlocked _
    | false => exact h.enter_free hg hlocked _
  | @polled who w hfind =>
    obtain ⟨rfl, hhanded⟩ : w.who = who ∧ w.handed = true := by simpa using List.find?_some hfind
    have hwaiter : w ∈ c.locks.waiters := List.mem_of_find?_eq_some hfind
    refine ⟨?_, inTurn_settle_granted h.ticketed.order (h.notAhead_of_handed hwaiter hhanded), ?_⟩
      <;> dsimp only <;> rw [LocalLocks.poll_of_handed hfind]
    · rw [filter_settle _ (by decide)]
      exact map_place_filter_ne w.who _ _ h.ticketed.line
    · intro holder hholder
      rcases List.mem_append.mp hholder with hholder | hholder
      · exact mem_settle_of_granted (h.ticketed.held holder hholder) w.who .granted
      · obtain ⟨t, ht, hwaiting, hplace⟩ := h.ticketed.exists_ticket hwaiter
        obtain ⟨hwho, hkey⟩ : t.who = w.who ∧ t.key = w.key := Prod.mk.inj hplace
        rw [List.mem_singleton.mp hholder]
        refine List.mem_map.mpr ⟨t, ht, (if_pos ⟨hwho, hwaiting⟩).trans ?_⟩
        rw [hwho, hkey]
  | @canceled who w hfind =>
    refine ⟨?_, inTurn_settle_canceled h.ticketed.order who, fun holder hholder => ?_⟩
    · dsimp only
      rw [filter_settle _ (by decide), map_place_cancel]
      exact map_place_filter_ne who _ _ h.ticketed.line
    · have hheld : holder ∈ c.locks.holders := by
        dsimp only at hholder
        rwa [holders_cancel] at hholder
      exact mem_settle_of_granted (h.ticketed.held holder hheld) who .canceled
  | unlocked =>
    exact h.ticketed.of_unchanged rfl (map_place_handOver ..) List.filter_sublist.subset
  | letGone => exact h.ticketed.of_unchanged rfl rfl (List.Subset.refl _)
  | @looked who key =>
    obtain ⟨table, hforget⟩ := forget_eq c key
    refine h.ticketed.of_unchanged rfl ?_ ?_ <;> dsimp only <;> rw [hforget]
    exact List.Subset.refl _

theorem Kept.step (h : c.Kept) (move : LockMove) : (c.step move).Kept :=
  have hm := c.moved_step move
  ⟨hm.nodup_names h.names, hm.orderly h, hm.referring h.referring, hm.ticketed h⟩

theorem kept_empty : empty.Kept where
  names := List.nodup_nil
  orderly _ := .free
  referring := ⟨⟨List.nodup_nil, List.nodup_nil, fun _ h => absurd h List.not_mem_nil⟩,
    fun _ h => absurd h List.not_mem_nil⟩
  ticketed := ⟨rfl, .nil, fun _ h => absurd h List.not_mem_nil⟩

theorem kept_after (moves : List LockMove) : (empty.after moves).Kept :=
  after_keeps (P := Kept) (fun _ move h => h.step move) kept_empty moves

/-! ## Other keys -/

def IsAbout (c : Crowd) (key : LockKey) : LockMove → Prop
  | .find _ k => k = key
  | move => (∃ g ∈ c.grips, g.who = move.who ∧ g.key = key) ∨ (move.who, key) ∈ c.looking

structure SameFor (key : LockKey) (s s' : LocalLocks) : Prop where
  people : LocalLocks.SameAt (·.key = key) s s'
  mutex : s'.mutexOf? key = s.mutexOf? key

variable {key : LockKey}

theorem mutexOf?_congr {s s' : LocalLocks} (h : s'.table = s.table) (key : LockKey) :
    s'.mutexOf? key = s.mutexOf? key := by
  unfold LocalLocks.mutexOf?
  rw [h]

theorem sameFor_lookUp (s : LocalLocks) {other : LockKey} (hne : other ≠ key) :
    SameFor key s (s.lookUp other).2 := by
  unfold LocalLocks.lookUp
  split
  · exact ⟨.refl _ _, rfl⟩
  · refine ⟨⟨rfl, rfl⟩, ?_⟩
    unfold LocalLocks.mutexOf?
    simp [List.find?_append, hne]

theorem sameFor_forget (c : Crowd) {other : LockKey} (hne : other ≠ key) :
    SameFor key c.locks (c.forget other) := by
  unfold forget
  split
  · exact ⟨.refl _ _, rfl⟩
  · split
    · exact ⟨.refl _ _, rfl⟩
    · refine ⟨⟨rfl, rfl⟩, congrArg (Option.map Prod.snd) ?_⟩
      rw [List.find?_filter]
      refine congrArg (fun p => List.find? p _) (funext fun entry => ?_)
      by_cases hentry : entry.1 = key <;> simp [hentry, Ne.symm hne]

theorem Moved.sameFor (hm : c.Moved move c') (h : c.Kept) (habout : ¬ c.IsAbout key move) :
    SameFor key c.locks c'.locks := by
  have haway {who : String} {g : Grip}
      (hnot : ¬ ((∃ g ∈ c.grips, g.who = who ∧ g.key = key) ∨ (who, key) ∈ c.looking))
      (hg : g ∈ c.grips) (hwho : g.who = who) : decide (g.key = key) = false :=
    decide_eq_false fun hkey => hnot (.inl ⟨g, hg, hwho, hkey⟩)
  cases hm with
  | stayed => exact ⟨.refl _ _, rfl⟩
  | @found who other => exact sameFor_lookUp c.locks habout
  | @joined who g hfind =>
    have hg := haway habout (mem_grips_of_entering (mem_of_rowOf? hfind)) (key_of_rowOf? hfind)
    exact ⟨LocalLocks.sameAt_enter hg, mutexOf?_congr (table_enter c.locks g).1 key⟩
  | @polled who w hfind =>
    obtain ⟨hwho, -⟩ : w.who = who ∧ w.handed = true := by simpa using List.find?_some hfind
    have hw := haway habout (mem_grips_of_waiter (List.mem_of_find?_eq_some hfind)) hwho
    exact ⟨LocalLocks.sameAt_poll h.lined hfind hw, mutexOf?_congr (table_poll c.locks who).1 key⟩
  | @canceled who w hfind =>
    have hwaiter := mem_of_rowOf? hfind
    have hwho : w.who = who := key_of_rowOf? hfind
    have hw := haway habout (mem_grips_of_waiter hwaiter) hwho
    refine ⟨LocalLocks.sameAt_cancel h.lined hfind hw fun v hv hmutex => ?_,
      mutexOf?_congr (table_cancel c.locks who).1 key⟩
    have hkey : v.key = w.key := (h.waiter_key_eq_iff hv hwaiter).mpr hmutex
    exact (congrArg (fun k => decide (k = key)) hkey).trans hw
  | @unlocked who holder hfind =>
    have hholder := mem_of_rowOf? hfind
    have hgrip := mem_grips_of_holder hholder
    have hwho : holder.who = who := key_of_rowOf? hfind
    have hgiven := haway habout hgrip hwho
    refine ⟨LocalLocks.sameAt_giveUp (fun g hg hsame => ?_) fun v hv hmutex => ?_, rfl⟩
    · obtain rfl := h.lined.holder_eq hg hholder hsame
      exact hgiven
    · have hkey : v.key = holder.key :=
        (h.referring.key_eq_iff (mem_grips_of_waiter hv) hgrip).mpr hmutex
      exact (congrArg (fun k => decide (k = key)) hkey).trans hgiven
  | letGone => exact ⟨.refl _ _, rfl⟩
  | @looked who other hfind =>
    exact sameFor_forget c fun he => habout (.inr (he ▸ mem_of_rowOf? hfind))

/-! ## What the locks promise -/

theorem Kept.length_holders_le (h : c.Kept) (key : LockKey) :
    (c.locks.holders.filter (·.key = key)).length ≤ 1 := by
  cases hkey : c.locks.holders.filter (·.key = key) with
  | nil => exact Nat.zero_le 1
  | cons first rest =>
    have hfirst : first ∈ c.locks.holders.filter (·.key = key) := hkey ▸ List.mem_cons_self ..
    obtain ⟨hmem, hfirstKey⟩ := List.mem_filter.mp hfirst
    have hsame : c.locks.holders.filter (·.key = key) = c.locks.holdersOf first.mutex := by
      refine List.filter_congr fun holder hholder => ?_
      have hiff := h.referring.key_eq_iff (mem_grips_of_holder hholder) (mem_grips_of_holder hmem)
      exact decide_eq_decide.mpr ((of_decide_eq_true hfirstKey : first.key = key) ▸ hiff)
    rw [← hkey, hsame]
    have hstands := h.orderly first.mutex
    generalize c.locks.holdersOf first.mutex = holders, c.locks.lineOf first.mutex = line at hstands
    cases hstands <;> simp

/-- What the local locks promise at every moment. -/
structure Promises (c : Crowd) : Prop where
  exclusive : ∀ key, (c.locks.holders.filter (·.key = key)).length ≤ 1
  -- A key that is waited for is held, once all who wait have polled.
  progress : ∀ w ∈ c.locks.pollAll.waiters, ∃ h ∈ c.locks.pollAll.holders, h.key = w.key
  inOrder : c.Ticketed
  apart : ∀ key move, ¬ c.IsAbout key move → SameFor key c.locks (c.step move).locks
  -- The mutex that anyone refers to is in the table, so no key has two.
  stored : ∀ g ∈ c.grips, c.locks.mutexOf? g.key = some g.mutex

theorem Kept.promises (h : c.Kept) : c.Promises where
  exclusive := h.length_holders_le
  progress w hw := by
    obtain ⟨holder, hholder, hmutex⟩ := h.lined.holder_of_pollAll hw
    have hgrip : w.grip ∈ c.grips := mem_grips.mpr (.inl (LocalLocks.mem_grips_of_pollAll
      (List.mem_append_right _ (List.mem_map_of_mem hw))))
    have hgrip' : holder.grip ∈ c.grips := mem_grips.mpr (.inl (LocalLocks.mem_grips_of_pollAll
      (List.mem_append_left _ (List.mem_map_of_mem hholder))))
    exact ⟨holder, hholder, (h.referring.key_eq_iff hgrip' hgrip).mpr hmutex⟩
  inOrder := h.ticketed
  apart _ move habout := (c.moved_step move).sameFor h habout
  stored _ hg := h.referring.mutexOf?_eq hg

end Crowd

/-- However the movements of any number of people at any keys come between each other, the locks
keep their promises; and a run of whole steps is one of these. -/
theorem local_locks_keep_promises :
    (∀ moves : List LockMove, (Crowd.empty.after moves).Promises) ∧
    ∀ steps : List LockStep, (Crowd.empty.after (steps.flatMap LockStep.moves)).locks =
      steps.foldl LocalLocks.step .empty :=
  ⟨fun moves => (Crowd.kept_after moves).promises,
    fun steps => (Crowd.comes_steps (c := .empty) ⟨rfl, rfl, rfl⟩ steps).2⟩

end PrepaidLedger
