import PrepaidLedger.Proofs.Lock.Lines
import PrepaidLedger.Proofs.Store.Rows

/-! Where the people of a crowd are. Each has one place, and every mutex that one of them refers to
is the one that the table has for the key. -/

namespace PrepaidLedger

namespace LocalLocks

structure Tabled (s : LocalLocks) : Prop where
  keys : (s.table.map Prod.fst).Nodup
  mutexes : (s.table.map Prod.snd).Nodup
  made : ∀ entry ∈ s.table, entry.2 < s.made

variable {s : LocalLocks} {key : LockKey} {mutex : Nat}

theorem Tabled.mutexOf?_eq_some_iff (hs : s.Tabled) :
    s.mutexOf? key = some mutex ↔ (key, mutex) ∈ s.table := by
  change (rowOf? Prod.fst key s.table).map Prod.snd = some mutex ↔ _
  constructor
  · intro h
    obtain ⟨entry, hentry, rfl⟩ := Option.map_eq_some_iff.mp h
    exact key_of_rowOf? hentry ▸ mem_of_rowOf? hentry
  · intro hmem
    have hentry := rowOf?_of_mem hs.keys hmem
    exact congrArg (Option.map Prod.snd) hentry

theorem mutexOf?_eq_none_iff : s.mutexOf? key = none ↔ ∀ entry ∈ s.table, entry.1 ≠ key :=
  Option.map_eq_none_iff.trans rowOf?_eq_none

theorem lookUp_of_some (h : s.mutexOf? key = some mutex) : s.lookUp key = (mutex, s) := by
  unfold lookUp
  rw [h]

theorem lookUp_of_none (h : s.mutexOf? key = none) :
    s.lookUp key =
      (s.made, { s with table := s.table ++ [(key, s.made)], made := s.made + 1 }) := by
  unfold lookUp
  rw [h]

theorem Tabled.lookUp (hs : s.Tabled) (key : LockKey) :
    (s.lookUp key).2.Tabled ∧ (key, (s.lookUp key).1) ∈ (s.lookUp key).2.table ∧
      ∀ entry ∈ s.table, entry ∈ (s.lookUp key).2.table := by
  cases h : s.mutexOf? key with
  | some mutex =>
    rw [lookUp_of_some h]
    exact ⟨hs, hs.mutexOf?_eq_some_iff.mp h, fun _ he => he⟩
  | none =>
    have hnew := mutexOf?_eq_none_iff.mp h
    rw [lookUp_of_none h]
    refine ⟨⟨?_, ?_, ?_⟩, ?_, ?_⟩
    · rw [List.map_append, List.nodup_append]
      refine ⟨hs.keys, List.nodup_singleton _, fun k hk k' hk' => ?_⟩
      obtain ⟨entry, hentry, rfl⟩ := List.mem_map.mp hk
      rw [List.mem_singleton.mp hk']
      exact hnew entry hentry
    · rw [List.map_append, List.nodup_append]
      refine ⟨hs.mutexes, List.nodup_singleton _, fun m hm m' hm' => ?_⟩
      obtain ⟨entry, hentry, rfl⟩ := List.mem_map.mp hm
      rw [List.mem_singleton.mp hm']
      exact Nat.ne_of_lt (hs.made entry hentry)
    · intro entry hentry
      rcases List.mem_append.mp hentry with hentry | hentry
      · exact Nat.lt_succ_of_lt (hs.made entry hentry)
      · rw [List.mem_singleton.mp hentry]
        exact Nat.lt_succ_self _
    · exact List.mem_append_right _ (List.mem_singleton_self _)
    · exact fun entry hentry => List.mem_append_left _ hentry

end LocalLocks

namespace Crowd

inductive Moved (c : Crowd) : LockMove → Crowd → Prop
  | stayed (move : LockMove) : Moved c move c
  | found {who : String} (key : LockKey) (hnew : who ∉ c.names) :
    Moved c (.find who key)
      { c with
        locks := (c.locks.lookUp key).2
        entering := c.entering ++ [⟨who, key, (c.locks.lookUp key).1⟩] }
  | joined {who : String} {g : Grip} (hfind : rowOf? Grip.who who c.entering = some g) :
    Moved c (.join who)
      { c with
        locks := c.locks.enter g
        entering := c.entering.filter (·.who ≠ who)
        tickets := c.tickets ++
          [⟨g.who, g.key, if c.locks.isLocked g.mutex then .waiting else .granted⟩] }
  | polled {who : String} {w : Waiter}
    (hfind : (c.locks.waiters.find? fun w => w.who = who ∧ w.handed) = some w) :
    Moved c (.poll who)
      { c with locks := c.locks.poll who, tickets := c.tickets.map (.settle who .granted) }
  | canceled {who : String} {w : Waiter}
    (hfind : rowOf? Waiter.who who c.locks.waiters = some w) :
    Moved c (.cancel who)
      { c with
        locks := c.locks.cancel who
        leaving := c.leaving ++ [⟨w.grip, false⟩]
        tickets := c.tickets.map (.settle who .canceled) }
  | unlocked {who : String} {h : Holder} (hfind : rowOf? Holder.who who c.locks.holders = some h) :
    Moved c (.unlock who)
      { c with locks := c.locks.giveUp h, leaving := c.leaving ++ [⟨h.grip, true⟩] }
  | letGone {who : String} {l : Leaver}
    (hfind : rowOf? (fun l : Leaver => l.grip.who) who c.leaving = some l) :
    Moved c (.letGo who)
      { c with
        leaving := c.leaving.filter (·.grip.who ≠ who)
        looking := if l.looks then c.looking ++ [(who, l.grip.key)] else c.looking }
  | looked {who : String} {key : LockKey} (hfind : rowOf? Prod.fst who c.looking = some (who, key)) :
    Moved c (.look who) { c with locks := c.forget key, looking := c.looking.filter (·.1 ≠ who) }

theorem moved_step (c : Crowd) (move : LockMove) : c.Moved move (c.step move) := by
  cases move with
  | find who key =>
    change c.Moved _ (c.find who key)
    unfold find
    split
    · exact .stayed _
    · exact .found key ‹_›
  | join who =>
    change c.Moved _ (c.join who)
    unfold join
    split
    · exact .stayed _
    · exact .joined ‹_›
  | poll who =>
    change c.Moved _ (c.poll who)
    unfold poll
    split
    · exact .stayed _
    · exact .polled ‹_›
  | cancel who =>
    change c.Moved _ (c.cancel who)
    unfold cancel
    split
    · exact .stayed _
    · exact .canceled ‹_›
  | unlock who =>
    change c.Moved _ (c.unlock who)
    unfold unlock
    split
    · exact .stayed _
    · exact .unlocked ‹_›
  | letGo who =>
    change c.Moved _ (c.letGo who)
    unfold letGo
    split
    · exact .stayed _
    · exact .letGone ‹_›
  | look who =>
    change c.Moved _ (c.look who)
    unfold look
    split
    · exact .stayed _
    next entry hfind =>
      obtain rfl : entry.1 = who := key_of_rowOf? hfind
      exact .looked hfind

variable {c : Crowd}

/-! ## Names -/

theorem count_names (c : Crowd) (x : String) :
    c.names.count x = c.locks.names.count x + (c.entering.map Grip.who).count x +
      (c.leaving.map fun l => l.grip.who).count x + (c.looking.map Prod.fst).count x := by
  simp only [names, grips, LocalLocks.names, List.map_append, List.map_map, List.count_append]
  rfl

theorem names_locks (h : c.names.Nodup) : c.locks.names.Nodup := by
  rw [List.nodup_iff_count_le_one] at *
  intro x
  have hx := h x
  rw [count_names] at hx
  omega

theorem lookUp_eq (s : LocalLocks) (key : LockKey) :
    ∃ table made, (s.lookUp key).2 = { s with table := table, made := made } := by
  unfold LocalLocks.lookUp
  split
  · exact ⟨s.table, s.made, rfl⟩
  · exact ⟨_, _, rfl⟩

theorem forget_eq (c : Crowd) (key : LockKey) :
    ∃ table, c.forget key = { c.locks with table := table } := by
  unfold forget
  split
  · exact ⟨c.locks.table, rfl⟩
  · split
    · exact ⟨c.locks.table, rfl⟩
    · exact ⟨_, rfl⟩

theorem Moved.nodup_names {move : LockMove} {c' : Crowd} (hm : c.Moved move c')
    (h : c.names.Nodup) : c'.names.Nodup := by
  rw [List.nodup_iff_count_le_one] at *
  intro x
  have hx := h x
  rw [count_names] at hx ⊢
  cases hm with
  | stayed => exact hx
  | @found who key hnew =>
    obtain ⟨table, made, hlookUp⟩ := lookUp_eq c.locks key
    have hlocks : (c.locks.lookUp key).2.names = c.locks.names := by
      rw [hlookUp]
      rfl
    rw [hlocks, List.map_append, List.count_append, List.map_singleton]
    dsimp only
    by_cases hxw : x = who
    · have hzero : c.names.count x = 0 := List.count_eq_zero.mpr (hxw ▸ hnew)
      rw [count_names] at hzero
      have hone : [who].count x ≤ 1 := List.count_le_length
      omega
    · have hzero : [who].count x = 0 := List.count_eq_zero.mpr (by simpa using hxw)
      omega
  | @joined who g hfind =>
    obtain rfl : g.who = who := key_of_rowOf? hfind
    have hremoved := count_remove_add Grip.who (mem_of_rowOf? hfind) x
    rw [LocalLocks.count_names_enter]
    dsimp only
    omega
  | polled hfind =>
    have hpolled := LocalLocks.count_names_poll hfind x
    dsimp only
    omega
  | canceled hfind =>
    have hcanceled := LocalLocks.count_names_cancel hfind x
    rw [List.map_append, List.count_append, List.map_singleton, Waiter.grip]
    dsimp only
    omega
  | unlocked hfind =>
    have hgiven := LocalLocks.count_names_giveUp (mem_of_rowOf? hfind) x
    rw [List.map_append, List.count_append, List.map_singleton, Holder.grip]
    dsimp only
    omega
  | @letGone who l hfind =>
    obtain rfl : who = l.grip.who := (key_of_rowOf? hfind).symm
    have hremoved := count_remove_add (fun l : Leaver => l.grip.who) (mem_of_rowOf? hfind) x
    dsimp only
    split
    · rw [List.map_append, List.count_append, List.map_singleton]
      dsimp only
      omega
    · omega
  | @looked who key hfind =>
    have hremoved := count_remove_add Prod.fst (mem_of_rowOf? hfind) x
    obtain ⟨table, hforget⟩ := forget_eq c key
    have hlocks : (c.forget key).names = c.locks.names := by
      rw [hforget]
      rfl
    dsimp only at hremoved ⊢
    rw [hlocks]
    omega

/-! ## References -/

structure Referring (c : Crowd) : Prop where
  tabled : c.locks.Tabled
  stored : ∀ g ∈ c.grips, (g.key, g.mutex) ∈ c.locks.table

theorem Referring.mutexOf?_eq (h : c.Referring) {g : Grip} (hg : g ∈ c.grips) :
    c.locks.mutexOf? g.key = some g.mutex := h.tabled.mutexOf?_eq_some_iff.mpr (h.stored g hg)

theorem Referring.key_eq_iff (h : c.Referring) {g g' : Grip} (hg : g ∈ c.grips)
    (hg' : g' ∈ c.grips) : g.key = g'.key ↔ g.mutex = g'.mutex := by
  have hentry := h.stored g hg
  have hentry' := h.stored g' hg'
  constructor
  · intro hkey
    exact congrArg Prod.snd (List.inj_on_of_nodup_map h.tabled.keys hentry hentry' hkey)
  · intro hmutex
    exact congrArg Prod.fst (List.inj_on_of_nodup_map h.tabled.mutexes hentry hentry' hmutex)

theorem mem_grips {g : Grip} :
    g ∈ c.grips ↔ g ∈ c.locks.grips ∨ g ∈ c.entering ∨ ∃ l ∈ c.leaving, l.grip = g := by
  change g ∈ c.locks.grips ++ c.entering ++ c.leaving.map Leaver.grip ↔ _
  rw [List.mem_append, List.mem_append, List.mem_map, or_assoc]

theorem Referring.of_subset {c' : Crowd} (h : c.Referring)
    (htable : c'.locks.table = c.locks.table) (hmade : c'.locks.made = c.locks.made)
    (hgrips : c'.grips ⊆ c.grips) : c'.Referring := by
  refine ⟨⟨?_, ?_, ?_⟩, fun g hg => ?_⟩
  · rw [htable]
    exact h.tabled.keys
  · rw [htable]
    exact h.tabled.mutexes
  · rw [htable, hmade]
    exact h.tabled.made
  · rw [htable]
    exact h.stored g (hgrips hg)

theorem Referring.leave (h : c.Referring) {locks : LocalLocks} {l : Leaver}
    {tickets : List Ticket} (htable : locks.table = c.locks.table)
    (hmade : locks.made = c.locks.made) (hgrips : locks.grips ⊆ c.locks.grips)
    (hl : l.grip ∈ c.locks.grips) :
    Referring { c with locks := locks, leaving := c.leaving ++ [l], tickets := tickets } := by
  refine h.of_subset htable hmade fun x hx => ?_
  rcases mem_grips.mp hx with hx | hx | ⟨k, hk, rfl⟩
  · exact mem_grips.mpr (.inl (hgrips hx))
  · exact mem_grips.mpr (.inr (.inl hx))
  · rcases List.mem_append.mp hk with hk | hk
    · exact mem_grips.mpr (.inr (.inr ⟨k, hk, rfl⟩))
    · rw [List.mem_singleton.mp hk]
      exact mem_grips.mpr (.inl hl)

theorem Referring.forget (h : c.Referring) (key : LockKey) :
    (c.forget key).Tabled ∧ ∀ g ∈ c.grips, (g.key, g.mutex) ∈ (c.forget key).table := by
  -- A key whose mutex someone refers to is not forgotten.
  unfold Crowd.forget
  split
  · exact ⟨h.tabled, h.stored⟩
  next mutex hmutex =>
    split
    · exact ⟨h.tabled, h.stored⟩
    next hany =>
      have hsub : (c.locks.table.filter fun entry => entry.1 ≠ key).Sublist c.locks.table :=
        List.filter_sublist
      refine ⟨⟨h.tabled.keys.sublist (hsub.map _), h.tabled.mutexes.sublist (hsub.map _),
        fun entry hentry => h.tabled.made entry (hsub.subset hentry)⟩, fun g hg => ?_⟩
      refine List.mem_filter.mpr ⟨h.stored g hg, ?_⟩
      have hne : g.key ≠ key := fun hkey => by
        have hsame : some g.mutex = some mutex := (h.mutexOf?_eq hg).symm.trans (hkey ▸ hmutex)
        exact hany (List.any_eq_true.mpr ⟨g, hg, decide_eq_true (Option.some.inj hsame)⟩)
      simpa using hne

theorem table_enter (s : LocalLocks) (g : Grip) :
    (s.enter g).table = s.table ∧ (s.enter g).made = s.made := by
  unfold LocalLocks.enter
  split <;> exact ⟨rfl, rfl⟩

theorem table_cancel (s : LocalLocks) (who : String) :
    (s.cancel who).table = s.table ∧ (s.cancel who).made = s.made := by
  unfold LocalLocks.cancel
  split <;> exact ⟨rfl, rfl⟩

theorem table_poll (s : LocalLocks) (who : String) :
    (s.poll who).table = s.table ∧ (s.poll who).made = s.made := by
  unfold LocalLocks.poll
  split <;> exact ⟨rfl, rfl⟩

theorem Moved.referring {move : LockMove} {c' : Crowd} (hm : c.Moved move c')
    (h : c.Referring) : c'.Referring := by
  cases hm with
  | stayed => exact h
  | @found who key hnew =>
    obtain ⟨htabled, hentry, hold⟩ := h.tabled.lookUp key
    refine ⟨htabled, fun g hg => ?_⟩
    obtain ⟨table, made, hlookUp⟩ := lookUp_eq c.locks key
    have hlocks : (c.locks.lookUp key).2.grips = c.locks.grips := by
      rw [hlookUp]
      rfl
    rcases mem_grips.mp hg with hg | hg | hg
    · rw [hlocks] at hg
      exact hold _ (h.stored g (mem_grips.mpr (.inl hg)))
    · rcases List.mem_append.mp hg with hg | hg
      · exact hold _ (h.stored g (mem_grips.mpr (.inr (.inl hg))))
      · rw [List.mem_singleton.mp hg]
        exact hentry
    · exact hold _ (h.stored g (mem_grips.mpr (.inr (.inr hg))))
  | @joined who g hfind =>
    obtain ⟨htable, hmade⟩ := table_enter c.locks g
    refine h.of_subset htable hmade fun x hx => ?_
    rcases mem_grips.mp hx with hx | hx | hx
    · rcases LocalLocks.mem_grips_of_enter hx with hx | rfl
      · exact mem_grips.mpr (.inl hx)
      · exact mem_grips.mpr (.inr (.inl (mem_of_rowOf? hfind)))
    · exact mem_grips.mpr (.inr (.inl (List.mem_filter.mp hx).1))
    · exact mem_grips.mpr (.inr (.inr hx))
  | @polled who w hfind =>
    obtain ⟨htable, hmade⟩ := table_poll c.locks who
    refine h.of_subset htable hmade fun x hx => ?_
    rcases mem_grips.mp hx with hx | hx
    · exact mem_grips.mpr (.inl (c.locks.grips_poll_subset who hx))
    · exact mem_grips.mpr (.inr hx)
  | @canceled who w hfind =>
    have hgrip : w.grip ∈ c.locks.grips :=
      List.mem_append_right _ (List.mem_map_of_mem (mem_of_rowOf? hfind))
    obtain ⟨htable, hmade⟩ := table_cancel c.locks who
    exact h.leave htable hmade (c.locks.grips_cancel_subset who) hgrip
  | @unlocked who holder hfind =>
    have hgrip : holder.grip ∈ c.locks.grips :=
      List.mem_append_left _ (List.mem_map_of_mem (mem_of_rowOf? hfind))
    exact h.leave rfl rfl (c.locks.grips_giveUp_subset holder) hgrip
  | letGone =>
    refine h.of_subset rfl rfl fun x hx => ?_
    rcases mem_grips.mp hx with hx | hx | ⟨l, hl, rfl⟩
    · exact mem_grips.mpr (.inl hx)
    · exact mem_grips.mpr (.inr (.inl hx))
    · exact mem_grips.mpr (.inr (.inr ⟨l, (List.mem_filter.mp hl).1, rfl⟩))
  | @looked who key =>
    obtain ⟨htabled, hstored⟩ := h.forget key
    obtain ⟨table, hforget⟩ := forget_eq c key
    have hlocks : (c.forget key).grips = c.locks.grips := by
      rw [hforget]
      rfl
    refine ⟨htabled, fun g hg => hstored g ?_⟩
    rcases mem_grips.mp hg with hg | hg
    · rw [hlocks] at hg
      exact mem_grips.mpr (.inl hg)
    · exact mem_grips.mpr (.inr hg)

end Crowd
end PrepaidLedger
