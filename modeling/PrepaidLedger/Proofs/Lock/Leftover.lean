import Mathlib.Data.List.Induction
import PrepaidLedger.Proofs.Lock.Order

/-! Entries that are left in the table of the local locks when nobody holds or waits for their key.
Who releases a lock looks at the table, but who cancels does not; so an entry stays behind exactly
if the last one at a key cancels, and that is one to whom the mutex has been handed already. -/

namespace PrepaidLedger.LocalLocks

variable {s s' : LocalLocks} {key : LockKey} {who : String}

def Idle (s : LocalLocks) (key : LockKey) : Prop :=
  (∀ h ∈ s.holders, h.key ≠ key) ∧ ∀ w ∈ s.waiters, w.key ≠ key

def Leftover (s : LocalLocks) (key : LockKey) : Prop := s.Idle key ∧ s.mutexOf? key ≠ none

def LastHanded (s : LocalLocks) (key : LockKey) (who : String) : Prop :=
  (∀ h ∈ s.holders, h.key ≠ key) ∧
    ∃ w ∈ s.waiters, w.who = who ∧ w.key = key ∧ w.handed = true ∧
      ∀ v ∈ s.waiters, v.key = key → v = w

/-! ## Invariants of steps -/

def atRest (s : LocalLocks) : Crowd := ⟨s, [], [], [], []⟩

structure Sound (s : LocalLocks) : Prop where
  lined : s.Lined
  referring : s.atRest.Referring

theorem mem_grips_atRest {g : Grip} : g ∈ s.atRest.grips ↔ g ∈ s.grips := by
  rw [Crowd.mem_grips]
  simp [atRest]

theorem sound_steps (steps : List LockStep) : (steps.foldl step empty).Sound := by
  obtain ⟨hsettled, hlocks⟩ := Crowd.comes_steps (c := Crowd.empty) ⟨rfl, rfl, rfl⟩ steps
  have hkept := Crowd.kept_after (steps.flatMap LockStep.moves)
  change _ = steps.foldl step empty at hlocks
  rw [← hlocks]
  refine ⟨hkept.lined, hkept.referring.tabled, fun g hg => hkept.referring.stored g ?_⟩
  exact Crowd.mem_grips.mpr (.inl (mem_grips_atRest.mp hg))

theorem idle_iff : s.Idle key ↔ ∀ g ∈ s.grips, g.key ≠ key := by
  unfold Idle grips
  rw [List.forall_mem_append, List.forall_mem_map, List.forall_mem_map]
  rfl

theorem mem_grips_of_holder {h : Holder} (hh : h ∈ s.holders) : h.grip ∈ s.grips :=
  List.mem_append_left _ (List.mem_map_of_mem hh)

theorem mem_grips_of_waiter {w : Waiter} (hw : w ∈ s.waiters) : w.grip ∈ s.grips :=
  List.mem_append_right _ (List.mem_map_of_mem hw)

theorem not_idle {g : Grip} (hg : g ∈ s.grips) (hkey : g.key = key) : ¬ s.Idle key :=
  fun hidle => idle_iff.mp hidle g hg hkey

theorem Sound.mutexOf?_eq (hs : s.Sound) {g : Grip} (hg : g ∈ s.grips) :
    s.mutexOf? g.key = some g.mutex := hs.referring.mutexOf?_eq (mem_grips_atRest.mpr hg)

theorem Sound.key_eq_iff (hs : s.Sound) {g g' : Grip} (hg : g ∈ s.grips) (hg' : g' ∈ s.grips) :
    g.key = g'.key ↔ g.mutex = g'.mutex :=
  hs.referring.key_eq_iff (mem_grips_atRest.mpr hg) (mem_grips_atRest.mpr hg')

theorem Sound.grip_eq (hs : s.Sound) {g g' : Grip} (hg : g ∈ s.grips) (hg' : g' ∈ s.grips)
    (h : g.who = g'.who) : g = g' := by
  refine List.inj_on_of_nodup_map (f := Grip.who) ?_ hg hg' h
  have hnames : s.grips.map Grip.who = s.names := by
    unfold grips names
    rw [List.map_append, List.map_map, List.map_map]
    rfl
  rw [hnames]
  exact hs.lined.names

/-! ## Steps at other keys -/

def IsAbout (s : LocalLocks) (key : LockKey) : LockStep → Prop
  | .acquire _ k => k = key
  | .release who | .cancel who | .poll who => ∃ g ∈ s.grips, g.who = who ∧ g.key = key

theorem sameFor_forget (s : LocalLocks) {other : LockKey} (hne : other ≠ key) :
    Crowd.SameFor key s (s.forget other) := by
  have hforget := Crowd.sameFor_forget s.atRest hne
  rw [Crowd.forget_of_settled rfl rfl] at hforget
  exact hforget

theorem sameFor_trans {s'' : LocalLocks} (h : Crowd.SameFor key s s')
    (h' : Crowd.SameFor key s' s'') : Crowd.SameFor key s s'' where
  people := ⟨h'.people.holders.trans h.people.holders, h'.people.waiters.trans h.people.waiters⟩
  mutex := h'.mutex.trans h.mutex

theorem acquire_of_new (h : s.isActive who = false) (key : LockKey) :
    s.acquire who key = (s.lookUp key).2.enter ⟨who, key, (s.lookUp key).1⟩ := by
  unfold acquire
  rw [h]
  rfl

theorem release_of_holder {h : Holder} (hfind : s.holders.find? (·.who = who) = some h) :
    s.release who = (s.giveUp h).forget h.key := by
  have hwho : h.who = who := by simpa using List.find?_some hfind
  unfold release giveUp
  rw [hfind, hwho]

theorem sameFor_self (s : LocalLocks) (key : LockKey) : Crowd.SameFor key s s := ⟨.refl _ _, rfl⟩

theorem sameFor_acquire (s : LocalLocks) (who : String) {other : LockKey} (hne : other ≠ key) :
    Crowd.SameFor key s (s.acquire who other) := by
  cases hactive : s.isActive who with
  | true =>
    rw [acquire, if_pos hactive]
    exact sameFor_self s key
  | false =>
    rw [acquire_of_new hactive]
    exact sameFor_trans (Crowd.sameFor_lookUp s hne)
      ⟨sameAt_enter (decide_eq_false hne), Crowd.mutexOf?_congr (Crowd.table_enter ..).1 key⟩

section Away

variable (hs : s.Sound) (haway : ∀ g ∈ s.grips, g.who = who → g.key ≠ key)

include hs haway

theorem Sound.sameFor_release : Crowd.SameFor key s (s.release who) := by
  cases hfind : s.holders.find? (·.who = who) with
  | none =>
    rw [release, hfind]
    exact sameFor_self s key
  | some h =>
    have hmem := List.mem_of_find?_eq_some hfind
    have hwho : h.who = who := by simpa using List.find?_some hfind
    have hgrip := mem_grips_of_holder hmem
    have hkey : h.key ≠ key := haway _ hgrip hwho
    rw [release_of_holder hfind]
    -- Whoever shares the mutex that is handed over is at the holder's key, not at this one.
    refine sameFor_trans ⟨sameAt_giveUp (fun g hg hsame => ?_) fun w hw hmutex => ?_, rfl⟩
      (sameFor_forget _ hkey)
    · obtain rfl := hs.lined.holder_eq hg hmem hsame
      exact decide_eq_false hkey
    · have hkeys := (hs.key_eq_iff (mem_grips_of_waiter hw) hgrip).mpr hmutex
      exact decide_eq_false fun hw => hkey (hkeys.symm.trans hw)

theorem Sound.sameFor_cancel : Crowd.SameFor key s (s.cancel who) := by
  cases hfind : s.waiters.find? (·.who = who) with
  | none =>
    rw [cancel, hfind]
    exact sameFor_self s key
  | some w =>
    have hmem := List.mem_of_find?_eq_some hfind
    have hwho : w.who = who := by simpa using List.find?_some hfind
    have hkey : w.key ≠ key := haway _ (mem_grips_of_waiter hmem) hwho
    refine ⟨sameAt_cancel hs.lined hfind (decide_eq_false hkey) fun v hv hmutex => ?_,
      Crowd.mutexOf?_congr (Crowd.table_cancel ..).1 key⟩
    have hkeys := (hs.key_eq_iff (mem_grips_of_waiter hv) (mem_grips_of_waiter hmem)).mpr hmutex
    exact decide_eq_false fun hv => hkey (hkeys.symm.trans hv)

theorem Sound.sameFor_poll : Crowd.SameFor key s (s.poll who) := by
  cases hfind : s.waiters.find? fun w => w.who = who ∧ w.handed with
  | none =>
    rw [poll_of_none hfind]
    exact sameFor_self s key
  | some w =>
    obtain ⟨hwho, -⟩ : w.who = who ∧ w.handed = true := by simpa using List.find?_some hfind
    have hkey := haway _ (mem_grips_of_waiter (List.mem_of_find?_eq_some hfind)) hwho
    exact ⟨sameAt_poll hs.lined hfind (decide_eq_false hkey),
      Crowd.mutexOf?_congr (Crowd.table_poll ..).1 key⟩

end Away

theorem Sound.sameFor_step (hs : s.Sound) {a : LockStep} (habout : ¬ s.IsAbout key a) :
    Crowd.SameFor key s (s.step a) := by
  have haway {who : String} (hnot : ¬ ∃ g ∈ s.grips, g.who = who ∧ g.key = key) :
      ∀ g ∈ s.grips, g.who = who → g.key ≠ key :=
    fun g hg hwho hkey => hnot ⟨g, hg, hwho, hkey⟩
  cases a with
  | acquire who other => exact sameFor_acquire s who habout
  | release who => exact hs.sameFor_release (haway habout)
  | cancel who => exact hs.sameFor_cancel (haway habout)
  | poll who => exact hs.sameFor_poll (haway habout)

theorem idle_congr (h : Crowd.SameFor key s s') : s'.Idle key ↔ s.Idle key := by
  have hiff (t : LocalLocks) : t.Idle key ↔
      (t.holders.filter fun h => h.grip.key = key) = [] ∧
        (t.waiters.filter fun w => w.grip.key = key) = [] := by
    unfold Idle
    rw [List.filter_eq_nil_iff, List.filter_eq_nil_iff]
    simp only [decide_eq_true_eq]
    rfl
  rw [hiff, hiff, h.people.holders, h.people.waiters]

theorem leftover_congr (h : Crowd.SameFor key s s') : s'.Leftover key ↔ s.Leftover key := by
  unfold Leftover
  rw [idle_congr h, h.mutex]

/-! ## Steps at the key -/

theorem mem_grips_enter_self (s : LocalLocks) (g : Grip) : g ∈ (s.enter g).grips := by
  cases hlocked : s.isLocked g.mutex with
  | false =>
    rw [enter_of_free hlocked]
    exact mem_grips_of_holder (h := ⟨g.who, g.key, g.mutex⟩)
      (List.mem_append_right _ (List.mem_singleton_self _))
  | true =>
    rw [enter_of_locked hlocked]
    exact mem_grips_of_waiter (w := ⟨g.who, g.key, g.mutex, false⟩)
      (List.mem_append_right _ (List.mem_singleton_self _))

theorem acquire_stays_or_not_idle (s : LocalLocks) (who : String) (key : LockKey) :
    s.acquire who key = s ∨ ¬ (s.acquire who key).Idle key := by
  cases hactive : s.isActive who with
  | true => exact .inl (if_pos hactive)
  | false =>
    rw [acquire_of_new hactive]
    exact .inr (not_idle (mem_grips_enter_self ..) rfl)

theorem Sound.poll_stays_or_not_idle (hs : s.Sound) {g : Grip} (hg : g ∈ s.grips)
    (hwho : g.who = who) : s.poll who = s ∨ ¬ (s.poll who).Idle g.key := by
  cases hfind : s.waiters.find? fun w => w.who = who ∧ w.handed with
  | none => exact .inl (poll_of_none hfind)
  | some w =>
    obtain ⟨hw, -⟩ : w.who = who ∧ w.handed = true := by simpa using List.find?_some hfind
    have hgrip : w.grip = g :=
      hs.grip_eq (mem_grips_of_waiter (List.mem_of_find?_eq_some hfind)) hg (hw.trans hwho.symm)
    rw [poll_of_handed hfind]
    refine .inr (not_idle (mem_grips_of_holder (h := ⟨w.who, w.key, w.mutex⟩) ?_)
      (congrArg Grip.key hgrip))
    exact List.mem_append_right _ (List.mem_singleton_self _)

theorem Sound.not_leftover_release (hs : s.Sound) {h : Holder}
    (hfind : s.holders.find? (·.who = who) = some h) : ¬ (s.release who).Leftover h.key := by
  -- Of a key that is looked at, nothing is left unless somebody is at it.
  have hgrip := mem_grips_of_holder (List.mem_of_find?_eq_some hfind)
  have hmutex : (s.giveUp h).mutexOf? h.key = some h.mutex := hs.mutexOf?_eq hgrip
  rw [release_of_holder hfind]
  unfold forget
  rw [hmutex]
  dsimp only
  split
  next hreferred =>
    rintro ⟨hidle, -⟩
    obtain ⟨g, hg, hsame⟩ : ∃ g ∈ (s.giveUp h).grips, g.mutex = h.mutex := by
      unfold isReferred at hreferred
      rw [Bool.or_eq_true, List.any_eq_true, List.any_eq_true] at hreferred
      rcases hreferred with ⟨x, hx, he⟩ | ⟨x, hx, he⟩
      · exact ⟨x.grip, mem_grips_of_holder hx, of_decide_eq_true he⟩
      · exact ⟨x.grip, mem_grips_of_waiter hx, of_decide_eq_true he⟩
    exact idle_iff.mp hidle g hg
      ((hs.key_eq_iff (s.grips_giveUp_subset h hg) hgrip).mpr hsame)
  next =>
    rintro ⟨-, hentry⟩
    refine hentry (mutexOf?_eq_none_iff.mpr fun entry hmem => ?_)
    exact of_decide_eq_true (List.mem_filter.mp hmem).2

theorem Sound.handed_of_last (hs : s.Sound) {w : Waiter} (hw : w ∈ s.waiters)
    (hholders : ∀ h ∈ s.holders, h.key ≠ w.key) (hlast : ∀ v ∈ s.waiters, v.key = w.key → v = w) :
    w.handed = true := by
  have hnobody : s.holdersOf w.mutex = [] := by
    refine List.filter_eq_nil_iff.mpr fun h hh hmutex => hholders h hh ?_
    exact (hs.key_eq_iff (mem_grips_of_holder hh) (mem_grips_of_waiter hw)).mpr
      (of_decide_eq_true hmutex)
  have halone : ∀ v ∈ s.lineOf w.mutex, v = w := fun v hv =>
    hlast v (List.mem_filter.mp hv).1 ((hs.key_eq_iff
      (mem_grips_of_waiter (List.mem_filter.mp hv).1) (mem_grips_of_waiter hw)).mpr
        (mutex_of_mem_lineOf hv))
  have hline := mem_lineOf hw
  have horderly := hs.lined.orderly w.mutex
  rw [hnobody] at horderly
  generalize s.lineOf w.mutex = line at hline horderly halone
  cases horderly with
  | free => cases hline
  | @handed first rest hfirst => rw [← halone first (List.mem_cons_self ..), hfirst]

theorem Sound.leftover_cancel_iff (hs : s.Sound) {w : Waiter}
    (hfind : s.waiters.find? (·.who = who) = some w) :
    (s.cancel who).Leftover w.key ↔ (s.cancel who).Idle w.key ∧ s.LastHanded w.key who := by
  have hmem := List.mem_of_find?_eq_some hfind
  have hwho : w.who = who := by simpa using List.find?_some hfind
  constructor
  · rintro ⟨hidle, -⟩
    have hholders : ∀ h ∈ s.holders, h.key ≠ w.key := by
      have := hidle.1
      rwa [Crowd.holders_cancel] at this
    have hlast : ∀ v ∈ s.waiters, v.key = w.key → v = w := by
      intro v hv hkey
      by_contra hne
      have hother : v.who ≠ who := fun he => hne (hs.lined.waiter_eq hv hmem (he.trans hwho.symm))
      have hplace : v.place ∈ (s.cancel who).waiters.map Waiter.place := by
        rw [Crowd.map_place_cancel]
        exact List.mem_map_of_mem (List.mem_filter.mpr ⟨hv, by simpa using hother⟩)
      obtain ⟨x, hx, he⟩ := List.mem_map.mp hplace
      exact hidle.2 x hx ((congrArg Prod.snd he).trans hkey)
    exact ⟨hidle, hholders, w, hmem, hwho, rfl, hs.handed_of_last hmem hholders hlast, hlast⟩
  · rintro ⟨hidle, -⟩
    refine ⟨hidle, ?_⟩
    rw [Crowd.mutexOf?_congr (Crowd.table_cancel s who).1,
      show s.mutexOf? w.key = some w.mutex from hs.mutexOf?_eq (mem_grips_of_waiter hmem)]
    exact Option.some_ne_none _

/-- The step is the cancellation of the last one at the key. -/
def Strands (s : LocalLocks) (key : LockKey) (a : LockStep) : Prop :=
  ∃ who, a = .cancel who ∧ s.LastHanded key who

/-- An entry is left over after a step if it was before and the key is idle still, or if the step
strands it. -/
def StepRule (s : LocalLocks) (key : LockKey) (a : LockStep) : Prop :=
  (s.step a).Leftover key ↔ (s.step a).Idle key ∧ (s.Leftover key ∨ s.Strands key a)

theorem stepRule_of_stays {a : LockStep} (h : s.step a = s) (hnot : ¬ s.Strands key a) :
    s.StepRule key a := by
  unfold StepRule
  rw [h]
  exact ⟨fun hleft => ⟨hleft.1, .inl hleft⟩, fun hleft => hleft.2.resolve_right hnot⟩

theorem stepRule_of_not_idle {a : LockStep} (h : ¬ (s.step a).Idle key) : s.StepRule key a :=
  iff_of_false (fun hleft => h hleft.1) fun hleft => h hleft.1

theorem not_strands {a : LockStep} (h : ∀ who, a ≠ .cancel who) : ¬ s.Strands key a :=
  fun ⟨who, ha, _⟩ => h who ha

theorem stepRule_acquire (s : LocalLocks) (who : String) (key : LockKey) :
    s.StepRule key (.acquire who key) := by
  rcases s.acquire_stays_or_not_idle who key with hstays | hbusy
  · exact stepRule_of_stays hstays (not_strands fun _ => nofun)
  · exact stepRule_of_not_idle hbusy

section AtKey

variable {g : Grip}

theorem Sound.stepRule_poll (hs : s.Sound) (hg : g ∈ s.grips) (hwho : g.who = who) :
    s.StepRule g.key (.poll who) := by
  rcases hs.poll_stays_or_not_idle hg hwho with hstays | hbusy
  · exact stepRule_of_stays hstays (not_strands fun _ => nofun)
  · exact stepRule_of_not_idle hbusy

theorem Sound.stepRule_release (hs : s.Sound) (hg : g ∈ s.grips) (hwho : g.who = who) :
    s.StepRule g.key (.release who) := by
  cases hfind : s.holders.find? (·.who = who) with
  | none =>
    refine stepRule_of_stays ?_ (not_strands fun _ => nofun)
    change s.release who = s
    rw [release, hfind]
  | some h =>
    have hholder : h.who = who := by simpa using List.find?_some hfind
    have hgrip : h.grip = g := hs.grip_eq (mem_grips_of_holder (List.mem_of_find?_eq_some hfind)) hg
      (hholder.trans hwho.symm)
    have hkey : h.key = g.key := congrArg Grip.key hgrip
    refine iff_of_false (hkey ▸ hs.not_leftover_release hfind) fun hleft => ?_
    exact hleft.2.elim (fun hleft => not_idle hg rfl hleft.1) (not_strands fun _ => nofun)

theorem Sound.stepRule_cancel (hs : s.Sound) (hg : g ∈ s.grips) (hwho : g.who = who) :
    s.StepRule g.key (.cancel who) := by
  cases hfind : s.waiters.find? (·.who = who) with
  | none =>
    refine stepRule_of_stays ?_ ?_
    · change s.cancel who = s
      rw [cancel, hfind]
    · rintro ⟨_, ha, -, w, hw, he, -⟩
      obtain rfl := LockStep.cancel.inj ha
      exact List.find?_eq_none.mp hfind w hw (decide_eq_true he)
  | some w =>
    have hwaiter : w.who = who := by simpa using List.find?_some hfind
    have hgrip : w.grip = g := hs.grip_eq (mem_grips_of_waiter (List.mem_of_find?_eq_some hfind)) hg
      (hwaiter.trans hwho.symm)
    have hkey : w.key = g.key := congrArg Grip.key hgrip
    refine (hkey ▸ hs.leftover_cancel_iff hfind).trans (and_congr_right fun _ => ?_)
    refine ⟨fun hlast => .inr ⟨who, rfl, hlast⟩, ?_⟩
    rintro (hleft | ⟨_, ha, hlast⟩)
    · exact absurd hleft.1 (not_idle hg rfl)
    · obtain rfl := LockStep.cancel.inj ha
      exact hlast

end AtKey

theorem Sound.stepRule (hs : s.Sound) (key : LockKey) (a : LockStep) : s.StepRule key a := by
  by_cases habout : s.IsAbout key a
  · cases a with
    | acquire who other =>
      obtain rfl : other = key := habout
      exact stepRule_acquire s who other
    | release who =>
      obtain ⟨g, hg, hwho, rfl⟩ := habout
      exact hs.stepRule_release hg hwho
    | cancel who =>
      obtain ⟨g, hg, hwho, rfl⟩ := habout
      exact hs.stepRule_cancel hg hwho
    | poll who =>
      obtain ⟨g, hg, hwho, rfl⟩ := habout
      exact hs.stepRule_poll hg hwho
  · have hsame := hs.sameFor_step habout
    have hnot : ¬ s.Strands key a := by
      rintro ⟨who, rfl, -, w, hw, hwho, hkey, -⟩
      exact habout ⟨w.grip, mem_grips_of_waiter hw, hwho, hkey⟩
    unfold StepRule
    rw [leftover_congr hsame, idle_congr hsame]
    exact ⟨fun h => ⟨h.1, .inl h⟩, fun h => h.2.resolve_right hnot⟩

/-! ## Runs -/

def after (steps : List LockStep) : LocalLocks := steps.foldl step empty

theorem after_append_singleton (xs : List LockStep) (a : LockStep) :
    after (xs ++ [a]) = (after xs).step a := by
  unfold after
  rw [List.foldl_append]
  rfl

/-- Whatever is acquired, released, polled and canceled, and in whatever order: the table keeps the
entry of a key that nobody holds or waits for exactly if the last one there was canceled between
being handed the mutex and taking it, and nobody has come to the key since. -/
theorem entry_left_over_iff (steps : List LockStep) (key : LockKey) :
    (after steps).Leftover key ↔
      ∃ xs who ys, steps = xs ++ .cancel who :: ys ∧ (after xs).LastHanded key who ∧
        ∀ zs, zs <+: ys → (after (xs ++ .cancel who :: zs)).Idle key := by
  -- By induction from the end: the last step strands the entry itself or finds it stranded.
  induction steps using List.reverseRecOn with
  | nil =>
    refine iff_of_false (fun hleft => hleft.2 rfl) ?_
    rintro ⟨xs, who, ys, hsplit, -⟩
    cases xs <;> cases hsplit
  | append_singleton steps a ih =>
    have hrule : (after (steps ++ [a])).Leftover key ↔ (after (steps ++ [a])).Idle key ∧
        ((after steps).Leftover key ∨ (after steps).Strands key a) := by
      rw [after_append_singleton]
      exact (sound_steps steps).stepRule key a
    rw [hrule]
    constructor
    · rintro ⟨hidle, hleft | ⟨who, rfl, hlast⟩⟩
      · obtain ⟨xs, who, ys, rfl, hlast, hsince⟩ := ih.mp hleft
        refine ⟨xs, who, ys ++ [a], List.append_assoc .., hlast, fun zs hzs => ?_⟩
        rcases List.prefix_concat_iff.mp hzs with rfl | hzs
        · rwa [List.append_assoc] at hidle
        · exact hsince zs hzs
      · refine ⟨steps, who, [], rfl, hlast, fun zs hzs => ?_⟩
        obtain rfl := List.prefix_nil.mp hzs
        exact hidle
    · rintro ⟨xs, who, ys, hsplit, hlast, hsince⟩
      have hidle := hsince ys List.prefix_rfl
      rw [← hsplit] at hidle
      refine ⟨hidle, ?_⟩
      rcases List.eq_nil_or_concat ys with rfl | ⟨ys, b, rfl⟩
      · obtain ⟨rfl, ha⟩ := List.append_inj' hsplit rfl
        exact .inr ⟨who, List.head_eq_of_cons_eq ha, hlast⟩
      · rw [List.concat_eq_append, ← List.cons_append, ← List.append_assoc] at hsplit
        obtain ⟨rfl, -⟩ := List.append_inj' hsplit rfl
        refine .inl (ih.mpr ⟨xs, who, ys, rfl, hlast, fun zs hzs => hsince zs ?_⟩)
        rw [List.concat_eq_append]
        exact hzs.trans (List.prefix_append ..)

/-- The second in line is handed the mutex and gives up before taking it. -/
theorem canceled_waiter_leaves_entry :
    let key : LockKey := ⟨"card-ledger:user:tx_1:card"⟩
    let s := after [.acquire "a" key, .acquire "b" key, .release "a", .cancel "b"]
    s.holders = [] ∧ s.waiters = [] ∧ s.mutexOf? key = some 0 := by
  decide

end PrepaidLedger.LocalLocks
