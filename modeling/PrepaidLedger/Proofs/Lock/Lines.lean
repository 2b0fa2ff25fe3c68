import Mathlib.Data.List.Nodup
import PrepaidLedger.Proofs.Lock.Crowd

/-! The line for a mutex. It is free, or held with nobody in line ahead of the others, or handed to
the first in line; each operation on the locks moves one line on and leaves the others alone. -/

namespace PrepaidLedger

/-- How the holders of a mutex and the line for it stand. -/
inductive Orderly : List Holder → List Waiter → Prop
  | free : Orderly [] []
  | held (h : Holder) {line : List Waiter} (hline : ∀ w ∈ line, w.handed = false) :
    Orderly [h] line
  | handed {w : Waiter} {rest : List Waiter} (hw : w.handed = true)
    (hrest : ∀ v ∈ rest, v.handed = false) : Orderly [] (w :: rest)

theorem Orderly.eq_cons_of_handed {hs : List Holder} {line : List Waiter} {w : Waiter}
    (h : Orderly hs line) (hw : w ∈ line) (hhanded : w.handed = true) :
    hs = [] ∧ ∃ rest, line = w :: rest ∧ ∀ v ∈ rest, v.handed = false := by
  cases h with
  | free => cases hw
  | held h hline => simp [hline w hw] at hhanded
  | @handed first rest hfirst hrest =>
    rcases List.mem_cons.mp hw with rfl | hmem
    · exact ⟨rfl, rest, rfl, hrest⟩
    · simp [hrest w hmem] at hhanded

/-! ## Removing and handing over -/

section Lists

variable {α : Type} {name : α → String} {who : String} {p : α → Bool} {l : List α}

variable (name) in
theorem filter_filter_ne (h : ∀ x ∈ l, name x = who → p x = false) :
    (l.filter fun x => name x ≠ who).filter p = l.filter p := by
  rw [List.filter_filter]
  refine List.filter_congr fun x hx => ?_
  by_cases hname : name x = who
  · simp [hname, h x hx hname]
  · simp [hname]

theorem filter_ne_cons {x : α} (hx : name x = who) (hn : ((x :: l).map name).Nodup) :
    ((x :: l).filter fun y => name y ≠ who) = l := by
  rw [List.map_cons, List.nodup_cons] at hn
  rw [List.filter_cons_of_neg (by simp [hx]), List.filter_eq_self]
  intro y hy
  have hne : name y ≠ who := fun hname => hn.1 (hx ▸ hname ▸ List.mem_map_of_mem hy)
  simpa using hne

variable (name) in
theorem count_remove_add {a : α} (ha : a ∈ l) (x : String) :
    ((l.filter fun y => name y ≠ name a).map name).count x + [name a].count x ≤
      (l.map name).count x := by
  have hmap : (l.filter fun y => name y ≠ name a).map name =
      (l.map name).filter (· ≠ name a) := by
    rw [List.filter_map]
    rfl
  have hpresent : 0 < (l.map name).count (name a) :=
    List.count_pos_iff.mpr (List.mem_map_of_mem ha)
  rw [hmap]
  by_cases hx : x = name a
  · have hgone : ((l.map name).filter (· ≠ name a)).count x = 0 := by
      rw [List.count_eq_zero]
      simp [hx]
    rw [hgone, hx, List.count_singleton_self]
    omega
  · have hother : [name a].count x = 0 := List.count_eq_zero.mpr (by simpa using hx)
    rw [List.count_filter (by simpa using hx), hother]
    exact Nat.le_refl _

end Lists

section HandOver

variable {mutex : Nat} {p : Grip → Bool} {line : List Waiter}

theorem map_grip_handOver (mutex : Nat) (line : List Waiter) :
    (LocalLocks.handOver mutex line).map Waiter.grip = line.map Waiter.grip := by
  induction line with
  | nil => rfl
  | cons w rest ih =>
    unfold LocalLocks.handOver
    split
    · rfl
    · rw [List.map_cons, List.map_cons, ih]

theorem filter_handOver_of_ne (h : ∀ w ∈ line, w.mutex = mutex → p w.grip = false) :
    ((LocalLocks.handOver mutex line).filter fun w => p w.grip) =
      line.filter fun w => p w.grip := by
  induction line with
  | nil => rfl
  | cons w rest ih =>
    unfold LocalLocks.handOver
    split
    next hw =>
      have hp : p w.grip = false := h w (List.mem_cons_self ..) hw
      have hp' : p (Waiter.grip { w with handed := true }) = false := hp
      simp only [List.filter_cons, hp, hp', Bool.false_eq_true, if_false]
    next hw =>
      rw [List.filter_cons, List.filter_cons,
        ih fun v hv => h v (List.mem_cons_of_mem w hv)]

theorem filter_handOver_eq (mutex : Nat) (line : List Waiter) :
    (LocalLocks.handOver mutex line).filter (·.mutex = mutex) =
      LocalLocks.handOver mutex (line.filter (·.mutex = mutex)) := by
  induction line with
  | nil => rfl
  | cons w rest ih =>
    by_cases hw : w.mutex = mutex
    · simp [LocalLocks.handOver, hw]
    · simp [LocalLocks.handOver, hw, ih]

theorem Orderly.handOver (hmutex : ∀ w ∈ line, w.mutex = mutex)
    (hline : ∀ w ∈ line, w.handed = false) :
    Orderly [] (LocalLocks.handOver mutex line) := by
  cases line with
  | nil => exact .free
  | cons w rest =>
    rw [LocalLocks.handOver, if_pos (hmutex w (List.mem_cons_self ..))]
    exact .handed rfl fun v hv => hline v (List.mem_cons_of_mem w hv)

theorem Orderly.join {hs : List Holder} {w : Waiter} (h : Orderly hs line)
    (hbusy : ¬ (hs = [] ∧ line = [])) (hw : w.handed = false) : Orderly hs (line ++ [w]) := by
  have hlast {rest : List Waiter} (hrest : ∀ v ∈ rest, v.handed = false) :
      ∀ v ∈ rest ++ [w], v.handed = false := by
    intro v hv
    rcases List.mem_append.mp hv with hv | hv
    · exact hrest v hv
    · rw [List.mem_singleton.mp hv, hw]
  cases h with
  | free => exact absurd ⟨rfl, rfl⟩ hbusy
  | held h hwaiting => exact .held h (hlast hwaiting)
  | handed hfirst hrest => exact .handed hfirst (hlast hrest)

theorem Orderly.leave {hs : List Holder} {w : Waiter} (h : Orderly hs line) (hw : w ∈ line)
    (hnames : (line.map Waiter.who).Nodup) (hmutex : ∀ v ∈ line, v.mutex = mutex) :
    Orderly hs (if w.handed then LocalLocks.handOver mutex (line.filter (·.who ≠ w.who))
      else line.filter (·.who ≠ w.who)) := by
  cases hhanded : w.handed with
  | true =>
    obtain ⟨rfl, rest, rfl, hwaiting⟩ := h.eq_cons_of_handed hw hhanded
    rw [if_pos rfl, filter_ne_cons rfl hnames]
    exact .handOver (fun v hv => hmutex v (List.mem_cons_of_mem w hv)) hwaiting
  | false =>
    rw [if_neg Bool.false_ne_true]
    cases h with
    | free => cases hw
    | held h hwaiting => exact .held h fun v hv => hwaiting v (List.mem_filter.mp hv).1
    | @handed first rest hfirst hwaiting =>
      -- The first in line has the mutex already, so it is not the one who leaves.
      have hne : first.who ≠ w.who := fun he => by
        have hsame := List.inj_on_of_nodup_map hnames (List.mem_cons_self ..) hw he
        rw [← hsame, hfirst] at hhanded
        cases hhanded
      rw [List.filter_cons_of_pos (by simpa using hne)]
      exact .handed hfirst fun v hv => hwaiting v (List.mem_filter.mp hv).1

end HandOver

/-! ## The locks -/

namespace LocalLocks

def holdersOf (s : LocalLocks) (mutex : Nat) : List Holder := s.holders.filter (·.mutex = mutex)

def lineOf (s : LocalLocks) (mutex : Nat) : List Waiter := s.waiters.filter (·.mutex = mutex)

def names (s : LocalLocks) : List String := s.holders.map Holder.who ++ s.waiters.map Waiter.who

def grips (s : LocalLocks) : List Grip := s.holders.map Holder.grip ++ s.waiters.map Waiter.grip

structure Lined (s : LocalLocks) : Prop where
  names : s.names.Nodup
  orderly : ∀ mutex, Orderly (s.holdersOf mutex) (s.lineOf mutex)

structure SameAt (p : Grip → Bool) (s s' : LocalLocks) : Prop where
  holders : (s'.holders.filter fun h => p h.grip) = s.holders.filter fun h => p h.grip
  waiters : (s'.waiters.filter fun w => p w.grip) = s.waiters.filter fun w => p w.grip

variable {s : LocalLocks} {who : String} {p : Grip → Bool}

theorem SameAt.refl (p : Grip → Bool) (s : LocalLocks) : SameAt p s s := ⟨rfl, rfl⟩

theorem SameAt.orderly {s' : LocalLocks} {mutex : Nat} (h : SameAt (·.mutex = mutex) s s')
    (hs : Orderly (s.holdersOf mutex) (s.lineOf mutex)) :
    Orderly (s'.holdersOf mutex) (s'.lineOf mutex) := by
  have hholders : s'.holdersOf mutex = s.holdersOf mutex := h.holders
  have hline : s'.lineOf mutex = s.lineOf mutex := h.waiters
  rw [hholders, hline]
  exact hs

/-! ### A person's place -/

theorem Lined.waiter_eq (hs : s.Lined) {v w : Waiter} (hv : v ∈ s.waiters) (hw : w ∈ s.waiters)
    (h : v.who = w.who) : v = w :=
  List.inj_on_of_nodup_map (List.nodup_append.mp hs.names).2.1 hv hw h

theorem Lined.holder_eq (hs : s.Lined) {g h : Holder} (hg : g ∈ s.holders) (hh : h ∈ s.holders)
    (he : g.who = h.who) : g = h :=
  List.inj_on_of_nodup_map (List.nodup_append.mp hs.names).1 hg hh he

theorem Lined.nodup_line (hs : s.Lined) (mutex : Nat) :
    ((s.lineOf mutex).map Waiter.who).Nodup :=
  (List.nodup_append.mp hs.names).2.1.sublist (List.filter_sublist.map _)

theorem mem_lineOf {w : Waiter} (hw : w ∈ s.waiters) : w ∈ s.lineOf w.mutex :=
  List.mem_filter.mpr ⟨hw, decide_eq_true rfl⟩

theorem mutex_of_mem_lineOf {w : Waiter} {mutex : Nat} (hw : w ∈ s.lineOf mutex) :
    w.mutex = mutex := of_decide_eq_true (List.mem_filter.mp hw).2

theorem isLocked_eq_false_iff {mutex : Nat} (hs : Orderly (s.holdersOf mutex) (s.lineOf mutex)) :
    s.isLocked mutex = false ↔ s.holdersOf mutex = [] ∧ s.lineOf mutex = [] := by
  have hheld : s.holders.any (·.mutex = mutex) = false ↔ s.holdersOf mutex = [] := by
    simp [holdersOf]
  have hhanded : (s.waiters.any fun w => w.handed && w.mutex = mutex) = false ↔
      ∀ w ∈ s.lineOf mutex, w.handed = false := by
    simp only [List.any_eq_false, lineOf, List.mem_filter]
    grind
  unfold isLocked
  rw [Bool.or_eq_false_iff, hheld, hhanded]
  generalize s.holdersOf mutex = holders, s.lineOf mutex = line at hs
  cases hs with
  | free => simp
  | held => simp
  | handed hw => simp [hw]

/-! ### Operations -/

theorem enter_of_free {g : Grip} (h : s.isLocked g.mutex = false) :
    s.enter g = { s with holders := s.holders ++ [⟨g.who, g.key, g.mutex⟩] } := by
  simp [enter, h]

theorem enter_of_locked {g : Grip} (h : s.isLocked g.mutex = true) :
    s.enter g = { s with waiters := s.waiters ++ [⟨g.who, g.key, g.mutex, false⟩] } := by
  simp [enter, h]

theorem count_names_enter (g : Grip) (x : String) :
    (s.enter g).names.count x = s.names.count x + [g.who].count x := by
  unfold names
  cases hlocked : s.isLocked g.mutex with
  | false =>
    rw [enter_of_free hlocked]
    simp only [List.map_append, List.count_append, List.map_cons, List.map_nil]
    omega
  | true =>
    rw [enter_of_locked hlocked]
    simp only [List.map_append, List.count_append, List.map_cons, List.map_nil]
    omega

theorem sameAt_enter {g : Grip} (h : p g = false) : SameAt p s (s.enter g) := by
  cases hlocked : s.isLocked g.mutex with
  | false =>
    rw [enter_of_free hlocked]
    exact ⟨by simp [Holder.grip, h], rfl⟩
  | true =>
    rw [enter_of_locked hlocked]
    exact ⟨rfl, by simp [Waiter.grip, h]⟩

theorem orderly_enter {g : Grip} (hs : ∀ mutex, Orderly (s.holdersOf mutex) (s.lineOf mutex))
    (mutex : Nat) : Orderly ((s.enter g).holdersOf mutex) ((s.enter g).lineOf mutex) := by
  by_cases hm : g.mutex = mutex
  · subst hm
    have hstands := hs g.mutex
    cases hlocked : s.isLocked g.mutex with
    | false =>
      obtain ⟨hholders, hline⟩ := (isLocked_eq_false_iff hstands).mp hlocked
      have hgranted : (s.enter g).holdersOf g.mutex = [⟨g.who, g.key, g.mutex⟩] := by
        rw [enter_of_free hlocked, holdersOf, List.filter_append, ← holdersOf, hholders]
        simp
      have hempty : (s.enter g).lineOf g.mutex = [] := by
        rw [enter_of_free hlocked]
        exact hline
      rw [hgranted, hempty]
      exact .held _ fun w hw => absurd hw List.not_mem_nil
    | true =>
      have hholders : (s.enter g).holdersOf g.mutex = s.holdersOf g.mutex := by
        rw [enter_of_locked hlocked]
        rfl
      have hline : (s.enter g).lineOf g.mutex =
          s.lineOf g.mutex ++ [⟨g.who, g.key, g.mutex, false⟩] := by
        rw [enter_of_locked hlocked, lineOf, List.filter_append, ← lineOf]
        simp
      have hnotFree : ¬ (s.holdersOf g.mutex = [] ∧ s.lineOf g.mutex = []) := fun hfree => by
        rw [(isLocked_eq_false_iff hstands).mpr hfree] at hlocked
        cases hlocked
      rw [hholders, hline]
      exact hstands.join hnotFree rfl
  · have hp : decide (g.mutex = mutex) = false := decide_eq_false hm
    exact (sameAt_enter (p := (·.mutex = mutex)) hp).orderly (hs mutex)

theorem map_who_handOver (mutex : Nat) (line : List Waiter) :
    (handOver mutex line).map Waiter.who = line.map Waiter.who := by
  have hmap (l : List Waiter) : l.map Waiter.who = (l.map Waiter.grip).map Grip.who := by
    rw [List.map_map]
    rfl
  rw [hmap, hmap, map_grip_handOver]

theorem count_names_giveUp {holder : Holder} (hholder : holder ∈ s.holders) (x : String) :
    (s.giveUp holder).names.count x + [holder.who].count x ≤ s.names.count x := by
  have hremoved := count_remove_add Holder.who hholder x
  unfold names giveUp
  rw [List.count_append, List.count_append, map_who_handOver]
  dsimp only
  omega

theorem sameAt_giveUp {holder : Holder}
    (hheld : ∀ h ∈ s.holders, h.who = holder.who → p h.grip = false)
    (hline : ∀ w ∈ s.waiters, w.mutex = holder.mutex → p w.grip = false) :
    SameAt p s (s.giveUp holder) :=
  ⟨filter_filter_ne Holder.who (p := fun h => p h.grip) hheld,
    filter_handOver_of_ne hline⟩

theorem orderly_giveUp (hs : s.Lined) {holder : Holder} (hholder : holder ∈ s.holders)
    (mutex : Nat) :
    Orderly ((s.giveUp holder).holdersOf mutex) ((s.giveUp holder).lineOf mutex) := by
  by_cases hm : holder.mutex = mutex
  · subst hm
    have hstands := hs.orderly holder.mutex
    have hmem : holder ∈ s.holdersOf holder.mutex := by
      simpa [holdersOf] using hholder
    have hleft : (s.giveUp holder).holdersOf holder.mutex =
        (s.holdersOf holder.mutex).filter (·.who ≠ holder.who) := by
      unfold holdersOf giveUp
      rw [List.filter_comm]
    have hline : (s.giveUp holder).lineOf holder.mutex =
        handOver holder.mutex (s.lineOf holder.mutex) := filter_handOver_eq ..
    have hmutex : ∀ w ∈ s.lineOf holder.mutex, w.mutex = holder.mutex := fun _ => mutex_of_mem_lineOf
    rw [hleft, hline]
    generalize s.holdersOf holder.mutex = holders, s.lineOf holder.mutex = line
      at hstands hmem hmutex
    cases hstands with
    | free => cases hmem
    | held h hwaiting =>
      obtain rfl := List.mem_singleton.mp hmem
      rw [List.filter_cons_of_neg (by simp), List.filter_nil]
      exact .handOver hmutex hwaiting
    | handed => cases hmem
  · refine SameAt.orderly (sameAt_giveUp ?_ ?_) (hs.orderly mutex)
    · intro h hh hwho
      obtain rfl := hs.holder_eq hh hholder hwho
      exact decide_eq_false hm
    · exact fun w _ hw => decide_eq_false fun he => hm (hw.symm.trans he)

theorem count_names_cancel {w : Waiter} (hfind : s.waiters.find? (·.who = who) = some w)
    (x : String) : (s.cancel who).names.count x + [w.who].count x ≤ s.names.count x := by
  obtain rfl : w.who = who := by simpa using List.find?_some hfind
  have hremoved := count_remove_add Waiter.who (List.mem_of_find?_eq_some hfind) x
  have hleft : (s.cancel w.who).names = s.holders.map Holder.who ++
      (s.waiters.filter fun v => v.who ≠ w.who).map Waiter.who := by
    unfold names cancel
    rw [hfind]
    dsimp only
    split
    · rw [map_who_handOver]
    · rfl
  rw [hleft, names, List.count_append, List.count_append]
  omega

theorem sameAt_cancel {w : Waiter} (hs : s.Lined)
    (hfind : s.waiters.find? (·.who = who) = some w) (hw : p w.grip = false)
    (hline : ∀ v ∈ s.waiters, v.mutex = w.mutex → p v.grip = false) :
    SameAt p s (s.cancel who) := by
  have hwho : w.who = who := by simpa using List.find?_some hfind
  have hleft : ((s.waiters.filter fun v => v.who ≠ who).filter fun v => p v.grip) =
      s.waiters.filter fun v => p v.grip := by
    refine filter_filter_ne Waiter.who fun v hv hname => ?_
    obtain rfl := hs.waiter_eq hv (List.mem_of_find?_eq_some hfind) (hname.trans hwho.symm)
    exact hw
  unfold cancel
  rw [hfind]
  dsimp only
  refine ⟨rfl, ?_⟩
  split
  · exact (filter_handOver_of_ne fun v hv => hline v (List.mem_filter.mp hv).1).trans hleft
  · exact hleft

theorem orderly_cancel (hs : s.Lined) {w : Waiter}
    (hfind : s.waiters.find? (·.who = who) = some w) (mutex : Nat) :
    Orderly ((s.cancel who).holdersOf mutex) ((s.cancel who).lineOf mutex) := by
  obtain rfl : w.who = who := by simpa using List.find?_some hfind
  by_cases hm : w.mutex = mutex
  · subst hm
    have hplace : w ∈ s.lineOf w.mutex := mem_lineOf (List.mem_of_find?_eq_some hfind)
    have hrest : (s.waiters.filter fun v => v.who ≠ w.who).filter (·.mutex = w.mutex) =
        (s.lineOf w.mutex).filter fun v => v.who ≠ w.who := List.filter_comm ..
    have hholders : (s.cancel w.who).holdersOf w.mutex = s.holdersOf w.mutex := by
      unfold cancel
      rw [hfind]
      rfl
    have hline : (s.cancel w.who).lineOf w.mutex =
        if w.handed then handOver w.mutex ((s.lineOf w.mutex).filter fun v => v.who ≠ w.who)
        else (s.lineOf w.mutex).filter fun v => v.who ≠ w.who := by
      unfold cancel
      rw [hfind]
      dsimp only
      split
      · exact (filter_handOver_eq ..).trans (congrArg _ hrest)
      · exact hrest
    rw [hholders, hline]
    exact (hs.orderly w.mutex).leave hplace (hs.nodup_line w.mutex) fun _ => mutex_of_mem_lineOf
  · refine SameAt.orderly (sameAt_cancel hs hfind (decide_eq_false hm) ?_) (hs.orderly mutex)
    exact fun v _ hv => decide_eq_false fun he => hm (hv.symm.trans he)

theorem poll_of_none (h : (s.waiters.find? fun w => w.who = who ∧ w.handed) = none) :
    s.poll who = s := by
  unfold poll
  rw [h]

theorem poll_of_handed {w : Waiter}
    (hfind : (s.waiters.find? fun w => w.who = who ∧ w.handed) = some w) :
    s.poll who = { s with
      holders := s.holders ++ [⟨w.who, w.key, w.mutex⟩]
      waiters := s.waiters.filter (·.who ≠ who) } := by
  unfold poll
  rw [hfind]

theorem count_names_poll {w : Waiter}
    (hfind : (s.waiters.find? fun w => w.who = who ∧ w.handed) = some w) (x : String) :
    (s.poll who).names.count x ≤ s.names.count x := by
  obtain ⟨rfl, -⟩ : w.who = who ∧ w.handed = true := by simpa using List.find?_some hfind
  have hremoved := count_remove_add Waiter.who (List.mem_of_find?_eq_some hfind) x
  rw [poll_of_handed hfind]
  unfold names
  rw [List.map_append, List.count_append, List.count_append, List.count_append, List.map_singleton]
  dsimp only
  omega

theorem sameAt_poll {w : Waiter} (hs : s.Lined)
    (hfind : (s.waiters.find? fun w => w.who = who ∧ w.handed) = some w)
    (hw : p w.grip = false) : SameAt p s (s.poll who) := by
  have hwho : w.who = who ∧ w.handed = true := by simpa using List.find?_some hfind
  have hgrip : p (Holder.grip ⟨w.who, w.key, w.mutex⟩) = false := hw
  rw [poll_of_handed hfind]
  refine ⟨by simp [hgrip], filter_filter_ne Waiter.who fun v hv hname => ?_⟩
  obtain rfl := hs.waiter_eq hv (List.mem_of_find?_eq_some hfind) (hname.trans hwho.1.symm)
  exact hw

theorem orderly_poll (hs : s.Lined) {w : Waiter}
    (hfind : (s.waiters.find? fun w => w.who = who ∧ w.handed) = some w) (mutex : Nat) :
    Orderly ((s.poll who).holdersOf mutex) ((s.poll who).lineOf mutex) := by
  obtain ⟨hwho, hhanded⟩ : w.who = who ∧ w.handed = true := by simpa using List.find?_some hfind
  by_cases hm : w.mutex = mutex
  · subst hm
    have hplace : w ∈ s.lineOf w.mutex := mem_lineOf (List.mem_of_find?_eq_some hfind)
    have hnames := hs.nodup_line w.mutex
    obtain ⟨hholders, rest, hline, hwaiting⟩ :=
      (hs.orderly w.mutex).eq_cons_of_handed hplace hhanded
    have hgranted : (s.poll who).holdersOf w.mutex = [⟨w.who, w.key, w.mutex⟩] := by
      rw [poll_of_handed hfind, holdersOf, List.filter_append, ← holdersOf, hholders]
      simp
    have hleft : (s.poll who).lineOf w.mutex = rest := by
      rw [poll_of_handed hfind, lineOf, List.filter_comm, ← lineOf, hline]
      rw [hline] at hnames
      exact filter_ne_cons hwho hnames
    rw [hgranted, hleft]
    exact .held _ hwaiting
  · exact (sameAt_poll hs hfind (decide_eq_false hm)).orderly (hs.orderly mutex)

/-! ### References -/

theorem mem_grips_of_enter {g x : Grip} (h : x ∈ (s.enter g).grips) : x ∈ s.grips ∨ x = g := by
  unfold grips at *
  cases hlocked : s.isLocked g.mutex with
  | false =>
    rw [enter_of_free hlocked] at h
    simp only [List.map_append, List.mem_append, List.map_singleton, List.mem_singleton] at h ⊢
    rcases h with (h | rfl) | h
    · exact .inl (.inl h)
    · exact .inr rfl
    · exact .inl (.inr h)
  | true =>
    rw [enter_of_locked hlocked] at h
    simp only [List.map_append, List.mem_append, List.map_singleton, List.mem_singleton] at h ⊢
    rcases h with h | h | rfl
    · exact .inl (.inl h)
    · exact .inl (.inr h)
    · exact .inr rfl

theorem grips_giveUp_subset (s : LocalLocks) (holder : Holder) :
    (s.giveUp holder).grips ⊆ s.grips := by
  unfold grips giveUp
  rw [map_grip_handOver]
  intro x hx
  rcases List.mem_append.mp hx with hx | hx
  · exact List.mem_append_left _ ((List.filter_sublist.map _).subset hx)
  · exact List.mem_append_right _ hx

theorem grips_cancel_subset (s : LocalLocks) (who : String) : (s.cancel who).grips ⊆ s.grips := by
  have hrest : (s.cancel who).holders = s.holders ∧
      (s.cancel who).waiters.map Waiter.grip ⊆ s.waiters.map Waiter.grip := by
    have hleft : (s.waiters.filter (·.who ≠ who)).map Waiter.grip ⊆ s.waiters.map Waiter.grip :=
      (List.filter_sublist.map _).subset
    unfold cancel
    split
    · exact ⟨rfl, List.Subset.refl _⟩
    · dsimp only
      split
      · rw [map_grip_handOver]
        exact ⟨rfl, hleft⟩
      · exact ⟨rfl, hleft⟩
  unfold grips
  rw [hrest.1]
  intro x hx
  rcases List.mem_append.mp hx with hx | hx
  · exact List.mem_append_left _ hx
  · exact List.mem_append_right _ (hrest.2 hx)

theorem grips_poll_subset (s : LocalLocks) (who : String) : (s.poll who).grips ⊆ s.grips := by
  cases hfind : s.waiters.find? fun w => w.who = who ∧ w.handed with
  | none =>
    rw [poll_of_none hfind]
    exact List.Subset.refl _
  | some w =>
    have hmem : w.grip ∈ s.waiters.map Waiter.grip :=
      List.mem_map_of_mem (List.mem_of_find?_eq_some hfind)
    rw [poll_of_handed hfind]
    unfold grips
    intro x hx
    simp only [List.map_append, List.mem_append, List.map_singleton, List.mem_singleton] at hx
    rcases hx with (hx | rfl) | hx
    · exact List.mem_append_left _ hx
    · exact List.mem_append_right _ hmem
    · exact List.mem_append_right _ ((List.filter_sublist.map _).subset hx)

/-! ### Polling -/

theorem Lined.poll (hs : s.Lined) (who : String) : (s.poll who).Lined := by
  cases hfind : s.waiters.find? fun w => w.who = who ∧ w.handed with
  | none =>
    rw [poll_of_none hfind]
    exact hs
  | some w =>
    refine ⟨List.nodup_iff_count_le_one.mpr fun x => ?_, orderly_poll hs hfind⟩
    exact Nat.le_trans (count_names_poll hfind x) (List.nodup_iff_count_le_one.mp hs.names x)

theorem handed_of_poll {w : Waiter} (h : w ∈ (s.poll who).waiters) (hhanded : w.handed = true) :
    w ∈ s.waiters ∧ w.who ≠ who := by
  cases hfind : s.waiters.find? fun w => w.who = who ∧ w.handed with
  | none =>
    rw [poll_of_none hfind] at h
    have hnone := List.find?_eq_none.mp hfind w h
    exact ⟨h, fun he => hnone (by simp [he, hhanded])⟩
  | some v =>
    rw [poll_of_handed hfind] at h
    simpa using h

theorem polled_keeps {P : LocalLocks → Prop} (hpoll : ∀ s who, P s → P (s.poll who)) (hs : P s)
    (ws : List Waiter) : P (ws.foldl (fun s w => s.poll w.who) s) := by
  induction ws generalizing s with
  | nil => exact hs
  | cons w rest ih => exact ih (hpoll s w.who hs)

theorem handed_of_polled {w : Waiter} (ws : List Waiter)
    (h : w ∈ (ws.foldl (fun s w => s.poll w.who) s).waiters) (hhanded : w.handed = true) :
    w ∈ s.waiters ∧ ∀ v ∈ ws, v.who ≠ w.who := by
  induction ws generalizing s with
  | nil => exact ⟨h, fun v hv => absurd hv List.not_mem_nil⟩
  | cons v rest ih =>
    obtain ⟨hmem, hrest⟩ := ih h
    obtain ⟨hwaiter, hne⟩ := handed_of_poll hmem hhanded
    exact ⟨hwaiter, List.forall_mem_cons.mpr ⟨hne.symm, hrest⟩⟩

theorem not_handed_of_pollAll {w : Waiter} (h : w ∈ s.pollAll.waiters) : w.handed = false := by
  refine Bool.eq_false_iff.mpr fun hhanded => ?_
  obtain ⟨hmem, hne⟩ := handed_of_polled s.waiters h hhanded
  exact hne w hmem rfl

theorem Lined.holder_of_pollAll (hs : s.Lined) {w : Waiter} (hw : w ∈ s.pollAll.waiters) :
    ∃ h ∈ s.pollAll.holders, h.mutex = w.mutex := by
  have hall : s.pollAll.Lined := polled_keeps (P := Lined) (fun _ who hs => hs.poll who) hs s.waiters
  have hplace : w ∈ s.pollAll.lineOf w.mutex := mem_lineOf hw
  have hstands := hall.orderly w.mutex
  generalize hheld : s.pollAll.holdersOf w.mutex = holders,
    hline : s.pollAll.lineOf w.mutex = line at hstands
  cases hstands with
  | free =>
    rw [hline] at hplace
    cases hplace
  | held h =>
    have hmem : h ∈ s.pollAll.holdersOf w.mutex := hheld ▸ List.mem_cons_self ..
    obtain ⟨hholder, hmutex⟩ := List.mem_filter.mp hmem
    exact ⟨h, hholder, by simpa using hmutex⟩
  | @handed first rest hfirst =>
    have hmem : first ∈ s.pollAll.lineOf w.mutex := hline ▸ List.mem_cons_self ..
    rw [not_handed_of_pollAll (List.mem_filter.mp hmem).1] at hfirst
    cases hfirst

theorem mem_grips_of_pollAll {g : Grip} (h : g ∈ s.pollAll.grips) : g ∈ s.grips :=
  polled_keeps (P := fun s' => ∀ g ∈ s'.grips, g ∈ s.grips)
    (fun s' who hP g hg => hP g (s'.grips_poll_subset who hg)) (fun _ hg => hg) s.waiters g h

end LocalLocks
end PrepaidLedger
