import Mathlib.Data.List.Induction
import PrepaidLedger.Proofs.Lock.Lending

/-! Locks that are left on a session when it goes back to the pool. A guard has its key alone in
every run; but a caller that is stopped while a statement is under way, or hears of an error where a
lock was granted, leaves the lock to nobody. -/

namespace PrepaidLedger.Sql

/-- The caller has yet to give the lock of a hash back. -/
inductive Caller.Owes {σ η : Type} (hash : LockKey → η) (session : Session) : Caller σ → η → Prop
  | granted {key : LockKey} {s : σ} {a : Attempt} {answer : Answer}
    (sent : session.answer = some answer) (changed : answer.changed = true) :
    Owes hash session (.trying key s a) (hash key)
  | guarding {key : LockKey} {s : σ} : Owes hash session (.guarding key s) (hash key)
  | unlocking {key : LockKey} {s : σ}
    (unchanged : ∀ answer, session.answer = some answer → answer.changed = false) :
    Owes hash session (.releasing key s) (hash key)

theorem Caller.Owes.of_pending {σ η : Type} {hash : LockKey → η} {session : Session}
    {holds : η → Prop} {c : Caller σ} {q : Query} {k : η} (h : c.Owes hash session k)
    (hsuits : c.Suits hash session holds) (hq : session.pending = some q) :
    ∃ key s, c = .releasing key s ∧ q = .unlock key ∧ k = hash key := by
  cases h with
  | granted sent =>
    cases hsuits with
    | asked _ _ silent =>
      rw [silent] at sent
      cases sent
    | answered _ idle =>
      rw [idle] at hq
      cases hq
  | guarding =>
    cases hsuits with
    | guarding _ idle =>
      rw [idle] at hq
      cases hq
  | unlocking =>
    cases hsuits with
    | unlocking _ pending =>
      exact ⟨_, _, rfl, Option.some.inj (hq.symm.trans pending), rfl⟩
    | unlocked _ idle =>
      rw [idle] at hq
      cases hq

theorem Caller.Owes.changed_of_trying {σ η : Type} {hash : LockKey → η} {session : Session}
    {key : LockKey} {s : σ} {a : Attempt} {answer : Answer} {k : η}
    (h : (Caller.trying key s a).Owes hash session k) (hanswer : session.answer = some answer) :
    answer.changed = true := by
  -- Who waits for a lock owes it from the moment that it is granted.
  cases h with
  | granted sent changed =>
    obtain rfl := Option.some.inj (sent.symm.trans hanswer)
    exact changed

namespace Pool

variable {ι σ η : Type} {hash : LockKey → η} {m m' : Pool ι σ η} {s : σ}

def Accounted (hash : LockKey → η) (m : Pool ι σ η) : Prop :=
  ∀ h s n, m.locks h = some (s, n) →
    n = 0 ∧ ∃ i, (m.caller i).session? = some s ∧ (m.caller i).Owes hash (m.session s) h

theorem Accounted.clean (h : m.Accounted hash) (hm : m.Sound hash) : m.Clean := by
  rintro s hplace k ⟨n, hn⟩
  obtain ⟨-, i, hi, -⟩ := h k s n hn
  rw [(hm.suits i s hi).lent] at hplace
  cases hplace

theorem Accounted.owes (h : m.Accounted hash) (hm : m.Sound hash) {i : ι} {k : η} {n : Nat}
    (hi : (m.caller i).session? = some s) (hn : m.locks k = some (s, n)) :
    n = 0 ∧ (m.caller i).Owes hash (m.session s) k := by
  obtain ⟨hzero, j, hj, howes⟩ := h k s n hn
  obtain rfl := hm.alone i j s hi hj
  exact ⟨hzero, howes⟩

theorem Accounted.onlyAt (h : m.Accounted hash) (hm : OnlyAt s m m')
    (hcaller : ∀ j t, t ≠ s → (m.caller j).session? = some t → m'.caller j = m.caller j)
    (hs : ∀ k n, m'.locks k = some (s, n) → n = 0 ∧
      ∃ i, (m'.caller i).session? = some s ∧ (m'.caller i).Owes hash (m'.session s) k) :
    m'.Accounted hash := by
  intro k t n hn
  by_cases ht : t = s
  · subst ht
    exact hs k n hn
  · obtain ⟨hzero, i, hi, howes⟩ := h k t n ((hm.locks k t n ht).mp hn)
    refine ⟨hzero, i, ?_⟩
    rw [hcaller i t ht hi, hm.session t ht]
    exact ⟨hi, howes⟩

theorem Sound.guards_alone (h : m.Sound hash) {i j : ι} {key key' : LockKey} {s t : σ}
    (hi : m.caller i = .guarding key s) (hj : m.caller j = .guarding key' t)
    (hkeys : hash key = hash key') : i = j := by
  have hat : (m.caller i).session? = some s := by rw [hi]; rfl
  have hat' : (m.caller j).session? = some t := by rw [hj]; rfl
  have hsuits := h.suits i s hat
  have hsuits' := h.suits j t hat'
  rw [hi] at hsuits
  rw [hj] at hsuits'
  cases hsuits with
  | guarding _ _ lock =>
    cases hsuits' with
    | guarding _ _ lock' =>
      obtain ⟨n, hn⟩ := lock
      obtain ⟨n', hn'⟩ := lock'
      rw [hkeys, hn'] at hn
      obtain rfl : t = s := (Prod.mk.inj (Option.some.inj hn)).1
      exact h.alone i j t hat hat'

section Callers

variable [DecidableEq ι] {i : ι} {c : Caller σ}

theorem Accounted.become (h : m.Accounted hash) (hi : (m.caller i).session? = none) :
    (m.become i c).Accounted hash := by
  intro k t n hn
  obtain ⟨hzero, j, hj, howes⟩ := h k t n hn
  have hji : j ≠ i := by
    rintro rfl
    rw [hi] at hj
    cases hj
  refine ⟨hzero, j, ?_⟩
  rw [caller_become_of_ne hji]
  exact ⟨hj, howes⟩

theorem Accounted.become_at (h : m.Accounted hash) (hi : (m.caller i).session? = some s)
    (hat : OnlyAt s m m') (hcaller : m'.caller = m.caller)
    (hs : ∀ k n, m'.locks k = some (s, n) →
      n = 0 ∧ c.session? = some s ∧ c.Owes hash (m'.session s) k) :
    (m'.become i c).Accounted hash := by
  refine h.onlyAt ⟨hat.session, hat.locks⟩ (fun j t ht hj => ?_) fun k n hn => ?_
  · have hji : j ≠ i := by
      rintro rfl
      exact ht (Option.some.inj (hj.symm.trans hi))
    exact (caller_become_of_ne hji).trans (congrFun hcaller j)
  · obtain ⟨hzero, hc, howes⟩ := hs k n hn
    refine ⟨hzero, i, ?_⟩
    rw [caller_become]
    exact ⟨hc, howes⟩

end Callers

theorem Accounted.not_holds (h : m.Accounted hash) (hm : m.Sound hash) {key : LockKey}
    (hq : (m.session s).pending = some (.tryLock key)) (k : η) : ¬ m.Holds s k := by
  rintro ⟨n, hn⟩
  obtain ⟨-, i, hi, howes⟩ := h k s n hn
  obtain ⟨_, _, -, hunlock, -⟩ := howes.of_pending (hm.suits i s hi) hq
  cases hunlock

theorem Accounted.eq_of_unlock (h : m.Accounted hash) (hm : m.Sound hash) {key : LockKey}
    (hq : (m.session s).pending = some (.unlock key)) {k : η} {n : Nat}
    (hn : m.locks k = some (s, n)) : n = 0 ∧ k = hash key := by
  obtain ⟨hzero, i, hi, howes⟩ := h k s n hn
  obtain ⟨_, _, -, hunlock, hk⟩ := howes.of_pending (hm.suits i s hi) hq
  obtain rfl := Query.unlock.inj hunlock
  exact ⟨hzero, hk⟩

theorem Sound.exists_trying (h : m.Sound hash) {key : LockKey}
    (hq : (m.session s).pending = some (.tryLock key)) (hplace : (m.session s).place ≠ .pooled) :
    ∃ i a, m.caller i = .trying key s a := by
  -- Who waits for a lock is at the session that asks for it, unless that is in the pool.
  have hlent : (m.session s).place = .lent := by
    cases hp : (m.session s).place with
    | pooled => exact absurd hp hplace
    | lent => rfl
    | closed =>
      rw [h.closed s hp] at hq
      cases hq
  obtain ⟨i, hi⟩ := h.lent s hlent
  have hsuits := h.suits i s hi
  generalize hc : m.caller i = c at hi hsuits
  cases hsuits with
  | @asked key' t a _ pending =>
    obtain rfl := Option.some.inj hi
    obtain rfl := Query.tryLock.inj (Option.some.inj (hq.symm.trans pending))
    exact ⟨i, a, hc⟩
  | unlocking _ pending => cases hq.symm.trans pending
  | answered _ idle | pausing _ idle | guarding _ idle | unlocked _ idle =>
    rw [idle] at hq
    cases hq

section Sessions

variable [DecidableEq σ]

theorem Accounted.failed (h : m.Accounted hash) (hm : m.Sound hash) {q : Query}
    (hq : (m.session s).pending = some q) (message : String) :
    (m.respond s ⟨.error message, false⟩).Accounted hash := by
  refine h.onlyAt (onlyAt_setSession ..) (fun _ _ _ _ => rfl) fun k n hn => ?_
  obtain ⟨hzero, i, hi, howes⟩ := h k s n hn
  have hsuits := hm.suits i s hi
  obtain ⟨key, t, hcaller, -, rfl⟩ := howes.of_pending hsuits hq
  refine ⟨hzero, i, hi, ?_⟩
  change (m.caller i).Owes hash ((m.respond s ⟨.error message, false⟩).session s) (hash key)
  rw [session_respond _ hsuits.lent, hcaller]
  refine .unlocking fun answer hanswer => ?_
  rw [← Option.some.inj hanswer]

variable [DecidableEq η]

theorem Accounted.asked (h : m.Accounted hash) (hm : m.Sound hash) {key : LockKey} {reply : Reply}
    (hq : (m.session s).pending = some (.tryLock key))
    (hheard : m.locks (hash key) = none → (m.session s).place ≠ .pooled) :
    ((m.execute hash s (.tryLock key)).2.respond s
      ⟨reply, (m.execute hash s (.tryLock key)).1⟩).Accounted hash := by
  have hnone := h.not_holds hm hq
  refine h.onlyAt (onlyAt_executed ..) (fun _ _ _ _ => rfl) fun k n hn => ?_
  change Function.update m.locks (hash key)
    ((Query.tryLock key).change s (m.locks (hash key))).1 k = _ at hn
  by_cases hk : k = hash key
  · rw [hk, Function.update_self] at hn
    obtain ⟨hfree, hzero, hgranted⟩ :=
      change_tryLock_new (fun n hlock => hnone (hash key) ⟨n, hlock⟩) hn
    obtain ⟨i, a, hi⟩ := hm.exists_trying hq (hheard hfree)
    have hat : (m.caller i).session? = some s := by rw [hi]; rfl
    have hplace : ((m.execute hash s (.tryLock key)).2.session s).place = .lent :=
      (hm.suits i s hat).lent
    refine ⟨hzero, i, hat, ?_⟩
    change (m.caller i).Owes hash _ k
    rw [session_respond _ hplace, hi, hk]
    exact .granted rfl hgranted
  · rw [Function.update_of_ne hk] at hn
    exact absurd ⟨n, hn⟩ (hnone k)

theorem Accounted.unlocked (h : m.Accounted hash) (hm : m.Sound hash) {key : LockKey}
    {answer : Answer} (hq : (m.session s).pending = some (.unlock key)) :
    ((m.execute hash s (.unlock key)).2.respond s answer).Accounted hash := by
  refine h.onlyAt (onlyAt_executed ..) (fun _ _ _ _ => rfl) fun k n hn => ?_
  change Function.update m.locks (hash key)
    ((Query.unlock key).change s (m.locks (hash key))).1 k = _ at hn
  by_cases hk : k = hash key
  · rw [hk, Function.update_self] at hn
    exact absurd hn (change_unlock_ne key (fun n hlock => (h.eq_of_unlock hm hq hlock).1) n)
  · rw [Function.update_of_ne hk] at hn
    exact absurd (h.eq_of_unlock hm hq hn).2 hk

theorem not_clean_granted (hplace : (m.session s).place = .pooled) {key : LockKey}
    (hfree : m.locks (hash key) = none) (answer : Answer) :
    ¬ ((m.execute hash s (.tryLock key)).2.respond s answer).Clean := by
  -- Whatever the caller hears, nobody is there to hear it.
  intro hclean
  refine hclean s ((place_respond ..).trans hplace) (hash key) ⟨0, ?_⟩
  have hgranted : ((Query.tryLock key).change s (m.locks (hash key))).1 = some (s, 0) := by
    rw [hfree]
    rfl
  exact (locks_execute m s (.tryLock key)).trans hgranted

end Sessions

section Machine

variable [DecidableEq ι] [DecidableEq σ] {i : ι} {c : Caller σ}

theorem Accounted.set (h : m.Accounted hash) (hm : m.Sound hash)
    (hi : (m.caller i).session? = some s) {session : Session}
    (hs : ∀ k, (m.caller i).Owes hash (m.session s) k →
      c.session? = some s ∧ c.Owes hash session k) :
    ((m.setSession s session).become i c).Accounted hash := by
  refine h.become_at hi (onlyAt_setSession ..) rfl fun k n hn => ?_
  obtain ⟨hzero, howes⟩ := h.owes hm hi hn
  rw [session_setSession]
  exact ⟨hzero, hs k howes⟩

theorem Accounted.close (h : m.Accounted hash) (hi : (m.caller i).session? = some s) :
    ((m.close s).become i .away).Accounted hash :=
  h.become_at hi (onlyAt_close m s) rfl fun k n hn => absurd ⟨n, hn⟩ (not_holds_close m s k)

theorem not_clean_giveBack {k : η} (h : m.Holds s k) (i : ι) :
    ¬ ((m.giveBack s).become i .away).Clean :=
  fun hclean => hclean s (congrArg Session.place (session_setSession ..)) k h

variable [DecidableEq η] {op : Op ι σ}

theorem Accounted.moved (h : m.Accounted hash) (hm : m.Sound hash) (hmoved : m.Moved hash op m')
    (hop : ¬ m.Strands hash op) : m'.Accounted hash := by
  cases hmoved with
  | stayed => exact h
  | called _ hi | refused hi | withdrawn hi => exact h.become (by rw [hi]; rfl)
  | @connected i s key hi hplace hidle =>
    refine h.onlyAt (s := s) ⟨fun _ ht => Function.update_of_ne ht .., fun _ _ _ _ => Iff.rfl⟩
      (fun j t ht hj => caller_become_of_ne ?_) fun k n hn => ?_
    · rintro rfl
      rw [hi] at hj
      cases hj
    · exact absurd ⟨n, hn⟩ (h.clean hm s hplace k)
  | failed message hq => exact h.failed hm hq message
  | @executed s q course reply hq hcourse hreply =>
    cases q with
    | tryLock key => exact h.asked hm hq fun hfree hplace => hop (.unheard hplace hq hfree hcourse)
    | unlock key => exact h.unlocked hm hq
  | @granted i late key s a answer hi hanswer hflag =>
    refine h.set hm (by rw [hi]; rfl) fun k howes => ⟨rfl, ?_⟩
    rw [hi] at howes
    cases howes
    exact .guarding
  | @paused i late key s a answer next hi hanswer hflag =>
    obtain ⟨-, -, hchanged, -⟩ := hm.heard hi hanswer
    refine h.set hm (by rw [hi]; rfl) fun k howes => ?_
    rw [hi] at howes
    have hkept := (howes.changed_of_trying hanswer).symm.trans (hchanged false hflag)
    cases hkept
  | @denied i late key s a answer hi hanswer hflag =>
    obtain ⟨-, -, hchanged, -⟩ := hm.heard hi hanswer
    refine h.set hm (by rw [hi]; rfl) fun k howes => ?_
    rw [hi] at howes
    have hchange := howes.changed_of_trying hanswer
    rcases hflag with hflag | ⟨e, hflag⟩
    · have hkept := hchange.symm.trans (hchanged false hflag)
      cases hkept
    · exact absurd (.misread hi hanswer hchange hflag) hop
  | @unlocked i late key s answer b hi hanswer hflag =>
    have hat : (m.caller i).session? = some s := by rw [hi]; rfl
    have hsuits := hm.suits i s hat
    refine h.set hm hat fun k howes => ?_
    rw [hi] at howes hsuits
    cases howes with
    | unlocking unchanged =>
      cases hsuits with
      | unlocking _ _ silent =>
        rw [silent] at hanswer
        cases hanswer
      | unlocked _ _ sent flag =>
        obtain rfl := Option.some.inj (sent.symm.trans hanswer)
        rw [unchanged _ hanswer] at flag
        cases flag b hflag
  | broken hi | dropped hi => exact h.close (by rw [hi]; rfl)
  | @woken i key s a hi =>
    refine h.set hm (by rw [hi]; rfl) fun k howes => ?_
    rw [hi] at howes
    cases howes
  | @released i key s hi =>
    refine h.set hm (by rw [hi]; rfl) fun k howes => ⟨rfl, ?_⟩
    rw [hi] at howes
    cases howes
    exact .unlocking fun _ => nofun
  | @canceled i s hi hguard =>
    refine h.set hm hi fun k howes => absurd ?_ hop
    generalize hc : m.caller i = c at hi howes
    cases howes with
    | granted sent changed =>
      obtain rfl := Option.some.inj hi
      exact .unread hc sent changed
    | guarding =>
      obtain rfl := Option.some.inj hi
      exact absurd hc (hguard _)
    | unlocking unchanged =>
      obtain rfl := Option.some.inj hi
      exact .unfinished hc unchanged
  | @drained s hplace =>
    exact h.onlyAt (onlyAt_close m s) (fun _ _ _ _ => rfl)
      fun k n hn => absurd ⟨n, hn⟩ (not_holds_close m s k)

theorem Strands.not_clean (hop : m.Strands hash op) (hm : m.Sound hash) (wait : Nat) :
    ¬ (m.step hash wait op).Clean := by
  cases hop with
  | @unread i key s a answer trying sent changed =>
    simp only [step, trying]
    exact not_clean_giveBack ((hm.heard trying sent).2.2.2 changed) i
  | @unfinished i key s releasing unchanged =>
    have hsuits := hm.suits i s (by rw [releasing]; rfl)
    have hlock : m.Holds s (hash key) := by
      rw [releasing] at hsuits
      cases hsuits with
      | unlocking _ _ _ lock => exact lock
      | unlocked _ _ sent _ lock => exact lock (unchanged _ sent)
    simp only [step, releasing]
    exact not_clean_giveBack hlock i
  | @misread i late key s a answer e trying sent changed failed =>
    simp only [step, receive, trying, sent, failed, Attempt.hear]
    exact not_clean_giveBack ((hm.heard trying sent).2.2.2 changed) i
  | @unheard s course key pooled pending free served =>
    cases course with
    | carriedOut | cutShort =>
      simp only [step, serve, pending]
      exact not_clean_granted pooled free _
    | failed message => exact absurd rfl (served message)

variable {wait : Nat}

theorem sound_after (ops : List (Op ι σ)) :
    (after hash wait (start : Pool ι σ η) ops).Sound hash := by
  suffices h : ∀ m : Pool ι σ η, m.Sound hash → (after hash wait m ops).Sound hash from
    h start ⟨fun _ _ => nofun, fun _ _ _ => nofun, fun _ => nofun, fun _ => nofun⟩
  induction ops with
  | nil => exact fun m hm => hm
  | cons op rest ih => exact fun m hm => ih _ (hm.moved (m.moved_step op))

theorem after_append (m : Pool ι σ η) (xs ys : List (Op ι σ)) :
    after hash wait m (xs ++ ys) = after hash wait (after hash wait m xs) ys := List.foldl_append

theorem accounted_after {ops : List (Op ι σ)}
    (hops : ∀ xs op ys, ops = xs ++ op :: ys → ¬ (after hash wait start xs).Strands hash op) :
    (after hash wait (start : Pool ι σ η) ops).Accounted hash := by
  induction ops using List.reverseRecOn with
  | nil => exact fun _ _ _ => nofun
  | append_singleton xs op ih =>
    have hxs := ih fun ys op' zs hxs => hops ys op' (zs ++ [op]) (by rw [hxs]; simp)
    rw [after_append]
    exact hxs.moved (sound_after xs) ((after hash wait start xs).moved_step op)
      (hops xs op [] rfl)

/-- In every run a guard has its key alone; and the sessions in the pool have no lock at any time
exactly if no lock is left to nobody. -/
theorem pooled_sessions_hold_nothing_iff (hash : LockKey → η) (wait : Nat) (ops : List (Op ι σ)) :
    (∀ i j key s t, (after hash wait (start : Pool ι σ η) ops).caller i = .guarding key s →
      (after hash wait (start : Pool ι σ η) ops).caller j = .guarding key t → i = j) ∧
    ((∀ xs ys, ops = xs ++ ys → (after hash wait (start : Pool ι σ η) xs).Clean) ↔
      ∀ xs op ys, ops = xs ++ op :: ys →
        ¬ (after hash wait (start : Pool ι σ η) xs).Strands hash op) := by
  refine ⟨fun i j key s t hi hj => (sound_after ops).guards_alone hi hj rfl, ?_, ?_⟩
  · intro hclean xs op ys hops hop
    refine hop.not_clean (sound_after xs) wait ?_
    have hprefix := hclean (xs ++ [op]) ys (by rw [hops]; simp)
    rwa [after_append] at hprefix
  · intro hops xs ys hxs
    refine Accounted.clean (accounted_after fun zs op rest hzs => ?_) (sound_after xs)
    exact hops zs op (rest ++ ys) (by rw [hxs, hzs]; simp)

end Machine

/-- A caller is stopped when its lock has been granted, or when it has asked for the unlocking; the
lock goes to the pool with the session. -/
theorem canceled_caller_leaves_lock :
    let key : LockKey := ⟨"card-ledger:user:tx_1:card"⟩
    let granted : List (Op Unit Unit) := [.call () key, .connect () (), .serve () .carriedOut]
    let run := after id 0 (start : Pool Unit Unit LockKey)
    ¬ (run (granted ++ [.cancel ()])).Clean ∧
      ¬ (run (granted ++ [.receive () 0, .release (), .cancel ()])).Clean := by
  intro key granted run
  exact ⟨fun h => h () rfl key ⟨0, rfl⟩, fun h => h () rfl key ⟨0, rfl⟩⟩

end Pool
end PrepaidLedger.Sql
