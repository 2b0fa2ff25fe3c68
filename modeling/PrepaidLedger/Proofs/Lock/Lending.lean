import PrepaidLedger.Proofs.Lock.Pool

/-! Sessions in use. Each is lent to one caller, and what the caller can rely on follows from the
statement that it has sent last and from what it has heard. -/

namespace PrepaidLedger.Sql

/-! ## Steps -/

namespace Attempt

variable {key : LockKey} {wait : Nat} {a : Attempt} {flag : Except StoreError Bool}

theorem flag_of_granted (h : a.hear key wait flag = .granted) : flag = .ok true := by
  unfold hear at h
  split at h
  · cases h
  · rfl
  · split at h <;> cases h

theorem flag_of_again {next : Attempt} (h : a.hear key wait flag = .again next) :
    flag = .ok false := by
  unfold hear at h
  split at h
  · cases h
  · cases h
  · rfl

theorem flag_of_denied {cause : LockError} (h : a.hear key wait flag = .denied cause) :
    flag = .ok false ∨ ∃ e, flag = .error e := by
  unfold hear at h
  split at h
  · exact .inr ⟨_, rfl⟩
  · cases h
  · exact .inl rfl

end Attempt

namespace Pool

variable {ι σ η : Type} [DecidableEq ι] [DecidableEq σ] [DecidableEq η] {hash : LockKey → η}
  {wait : Nat}

theorem flag_flagRow (flag : Bool) : (Reply.rows [flagRow flag]).flag = .ok flag := by
  cases flag <;> rfl

inductive Moved (hash : LockKey → η) (m : Pool ι σ η) : Op ι σ → Pool ι σ η → Prop
  | stayed (op : Op ι σ) : Moved hash m op m
  | called {i : ι} (key : LockKey) (h : m.caller i = .away) :
    Moved hash m (.call i key) (m.become i (.connecting key))
  | connected {i : ι} {s : σ} {key : LockKey} (h : m.caller i = .connecting key)
    (hplace : (m.session s).place = .pooled) (hidle : (m.session s).pending = none) :
    Moved hash m (.connect i s) ((m.send s (.tryLock key)).become i (.trying key s .start))
  | refused {i : ι} {key : LockKey} (h : m.caller i = .connecting key) :
    Moved hash m (.refuse i) (m.become i .away)
  | failed {s : σ} {q : Query} (message : String) (h : (m.session s).pending = some q) :
    Moved hash m (.serve s (.failed message)) (m.respond s ⟨.error message, false⟩)
  | executed {s : σ} {q : Query} {course : Course} {reply : Reply}
    (h : (m.session s).pending = some q) (hcourse : ∀ message, course ≠ .failed message)
    (hreply : ∀ b, reply.flag = .ok b → (m.execute hash s q).1 = b) :
    Moved hash m (.serve s course)
      ((m.execute hash s q).2.respond s ⟨reply, (m.execute hash s q).1⟩)
  | granted {i : ι} {late : Nat} {key : LockKey} {s : σ} {a : Attempt} {answer : Answer}
    (h : m.caller i = .trying key s a) (hanswer : (m.session s).answer = some answer)
    (hflag : answer.reply.flag = .ok true) :
    Moved hash m (.receive i late) ((m.read s).become i (.guarding key s))
  | paused {i : ι} {late : Nat} {key : LockKey} {s : σ} {a : Attempt} {answer : Answer}
    (next : Attempt) (h : m.caller i = .trying key s a)
    (hanswer : (m.session s).answer = some answer) (hflag : answer.reply.flag = .ok false) :
    Moved hash m (.receive i late) ((m.read s).become i (.pausing key s next))
  | denied {i : ι} {late : Nat} {key : LockKey} {s : σ} {a : Attempt} {answer : Answer}
    (h : m.caller i = .trying key s a) (hanswer : (m.session s).answer = some answer)
    (hflag : answer.reply.flag = .ok false ∨ ∃ e, answer.reply.flag = .error e) :
    Moved hash m (.receive i late) ((m.giveBack s).become i .away)
  | unlocked {i : ι} {late : Nat} {key : LockKey} {s : σ} {answer : Answer} {b : Bool}
    (h : m.caller i = .releasing key s) (hanswer : (m.session s).answer = some answer)
    (hflag : answer.reply.flag = .ok b) :
    Moved hash m (.receive i late) ((m.giveBack s).become i .away)
  | broken {i : ι} {late : Nat} {key : LockKey} {s : σ} (h : m.caller i = .releasing key s) :
    Moved hash m (.receive i late) ((m.close s).become i .away)
  | woken {i : ι} {key : LockKey} {s : σ} {a : Attempt} (h : m.caller i = .pausing key s a) :
    Moved hash m (.wake i) ((m.send s (.tryLock key)).become i (.trying key s a))
  | released {i : ι} {key : LockKey} {s : σ} (h : m.caller i = .guarding key s) :
    Moved hash m (.release i) ((m.send s (.unlock key)).become i (.releasing key s))
  | dropped {i : ι} {key : LockKey} {s : σ} (h : m.caller i = .guarding key s) :
    Moved hash m (.drop i) ((m.close s).become i .away)
  | withdrawn {i : ι} {key : LockKey} (h : m.caller i = .connecting key) :
    Moved hash m (.cancel i) (m.become i .away)
  | canceled {i : ι} {s : σ} (h : (m.caller i).session? = some s)
    (hguard : ∀ key, m.caller i ≠ .guarding key s) :
    Moved hash m (.cancel i) ((m.giveBack s).become i .away)
  | drained {s : σ} (hplace : (m.session s).place = .pooled) :
    Moved hash m (.drain s) (m.close s)

theorem moved_serve (m : Pool ι σ η) (s : σ) (course : Course) :
    m.Moved hash (.serve s course) (m.serve hash s course) := by
  unfold serve
  split
  · exact .stayed _
  next q hq =>
    cases course with
    | carriedOut =>
      have hreply (b : Bool) (hb : (Reply.rows [flagRow (m.execute hash s q).1]).flag = .ok b) :
          (m.execute hash s q).1 = b := Except.ok.inj ((flag_flagRow _).symm.trans hb)
      exact .executed hq (fun _ => nofun) hreply
    | failed message => exact .failed message hq
    | cutShort message =>
      have hreply (b : Bool) (hb : (Reply.error message).flag = .ok b) :
          (m.execute hash s q).1 = b := by cases hb
      exact .executed hq (fun _ => nofun) hreply

theorem moved_receive (m : Pool ι σ η) (i : ι) (late : Nat) :
    m.Moved hash (.receive i late) (m.receive wait i late) := by
  unfold receive
  split
  next key s a h =>
    split
    · exact .stayed _
    next answer hanswer =>
      split
      next hheard => exact .granted h hanswer (Attempt.flag_of_granted hheard)
      next next hheard => exact .paused next h hanswer (Attempt.flag_of_again hheard)
      next cause hheard => exact .denied h hanswer (Attempt.flag_of_denied hheard)
  next key s h =>
    split
    · exact .stayed _
    next answer hanswer =>
      split
      next b hflag => exact .unlocked h hanswer hflag
      · exact .broken h
  · exact .stayed _

theorem moved_step (m : Pool ι σ η) (op : Op ι σ) : m.Moved hash op (m.step hash wait op) := by
  unfold step
  split
  · split
    · exact .called _ ‹_›
    · exact .stayed _
  · split
    · split
      next key h hfree => exact .connected h hfree.1 (Option.isNone_iff_eq_none.mp hfree.2)
      · exact .stayed _
    · exact .stayed _
  · split
    · exact .refused ‹_›
    · exact .stayed _
  · exact moved_serve ..
  · exact moved_receive ..
  · split
    · exact .woken ‹_›
    · exact .stayed _
  · split
    · exact .released ‹_›
    · exact .stayed _
  · split
    · exact .dropped ‹_›
    · exact .stayed _
  · split
    next key h => exact .withdrawn h
    next key s a h => exact .canceled (by rw [h]; rfl) (by simp [h])
    next key s a h => exact .canceled (by rw [h]; rfl) (by simp [h])
    next key s h => exact .canceled (by rw [h]; rfl) (by simp [h])
    · exact .stayed _
  · split
    next h => exact .drained h.1
    · exact .stayed _

end Pool

/-! ## What holds in every run -/

inductive Caller.Suits {σ η : Type} (hash : LockKey → η) (session : Session) (holds : η → Prop) :
    Caller σ → Prop
  | asked {key : LockKey} {s : σ} {a : Attempt} (place : session.place = .lent)
    (pending : session.pending = some (.tryLock key)) (silent : session.answer = none) :
    Suits hash session holds (.trying key s a)
  | answered {key : LockKey} {s : σ} {a : Attempt} {answer : Answer}
    (place : session.place = .lent) (idle : session.pending = none)
    (sent : session.answer = some answer)
    (flag : ∀ b, answer.reply.flag = .ok b → answer.changed = b)
    (lock : answer.changed = true → holds (hash key)) :
    Suits hash session holds (.trying key s a)
  | pausing {key : LockKey} {s : σ} {a : Attempt} (place : session.place = .lent)
    (idle : session.pending = none) : Suits hash session holds (.pausing key s a)
  | guarding {key : LockKey} {s : σ} (place : session.place = .lent)
    (idle : session.pending = none) (lock : holds (hash key)) :
    Suits hash session holds (.guarding key s)
  | unlocking {key : LockKey} {s : σ} (place : session.place = .lent)
    (pending : session.pending = some (.unlock key)) (silent : session.answer = none)
    (lock : holds (hash key)) : Suits hash session holds (.releasing key s)
  | unlocked {key : LockKey} {s : σ} {answer : Answer} (place : session.place = .lent)
    (idle : session.pending = none) (sent : session.answer = some answer)
    (flag : ∀ b, answer.reply.flag = .ok b → answer.changed = true)
    (lock : answer.changed = false → holds (hash key)) :
    Suits hash session holds (.releasing key s)

theorem Caller.Suits.lent {σ η : Type} {hash : LockKey → η} {session : Session} {holds : η → Prop}
    {c : Caller σ} (h : c.Suits hash session holds) : session.place = .lent := by
  cases h <;> assumption

theorem Caller.Suits.respond {σ η : Type} {hash : LockKey → η} {session : Session}
    {holds holds' : η → Prop} {c : Caller σ} {q : Query} {answer : Answer}
    (h : c.Suits hash session holds) (hq : session.pending = some q)
    (htry : ∀ key, q = .tryLock key → (∀ b, answer.reply.flag = .ok b → answer.changed = b) ∧
      (answer.changed = true → holds' (hash key)))
    (hunlock : ∀ key, q = .unlock key → holds (hash key) →
      (∀ b, answer.reply.flag = .ok b → answer.changed = true) ∧
        (answer.changed = false → holds' (hash key))) :
    c.Suits hash { session with pending := none, answer := some answer } holds' := by
  cases h with
  | asked place pending =>
    obtain rfl := Option.some.inj (hq.symm.trans pending)
    obtain ⟨hflag, hlock⟩ := htry _ rfl
    exact .answered place rfl rfl hflag hlock
  | unlocking place pending _ lock =>
    obtain rfl := Option.some.inj (hq.symm.trans pending)
    obtain ⟨hflag, hlock⟩ := hunlock _ rfl lock
    exact .unlocked place rfl rfl hflag hlock
  | answered _ idle | pausing _ idle | guarding _ idle | unlocked _ idle =>
    rw [idle] at hq
    cases hq

namespace Pool

section Sound

variable {ι σ η : Type} {hash : LockKey → η} {m m' : Pool ι σ η} {i : ι} {s : σ}

structure Sound (hash : LockKey → η) (m : Pool ι σ η) : Prop where
  suits : ∀ i s, (m.caller i).session? = some s →
    (m.caller i).Suits hash (m.session s) (m.Holds s)
  alone : ∀ i j s, (m.caller i).session? = some s → (m.caller j).session? = some s → i = j
  lent : ∀ s, (m.session s).place = .lent → ∃ i, (m.caller i).session? = some s
  closed : ∀ s, (m.session s).place = .closed → (m.session s).pending = none

structure OnlyAt (s : σ) (m m' : Pool ι σ η) : Prop where
  session : ∀ t, t ≠ s → m'.session t = m.session t
  locks : ∀ h t n, t ≠ s → (m'.locks h = some (t, n) ↔ m.locks h = some (t, n))

theorem OnlyAt.holds_eq (h : OnlyAt s m m') {t : σ} (ht : t ≠ s) : m'.Holds t = m.Holds t :=
  funext fun k => propext (exists_congr fun n => h.locks k t n ht)

theorem OnlyAt.trans {m'' : Pool ι σ η} (h : OnlyAt s m m') (h' : OnlyAt s m' m'') :
    OnlyAt s m m'' :=
  ⟨fun t ht => (h'.session t ht).trans (h.session t ht),
    fun k t n ht => (h'.locks k t n ht).trans (h.locks k t n ht)⟩

theorem Sound.onlyAt (h : m.Sound hash) (hm : OnlyAt s m m') (i? : Option ι)
    (hothers : ∀ j, j ∉ i? → m'.caller j = m.caller j ∧ (m.caller j).session? ≠ some s)
    (hbefore : ∀ i ∈ i?, ∀ t, (m.caller i).session? = some t → t = s)
    (hself : ∀ i ∈ i?, ∀ t, (m'.caller i).session? = some t →
      t = s ∧ (m'.caller i).Suits hash (m'.session s) (m'.Holds s))
    (hlent : (m'.session s).place = .lent → ∃ i, (m'.caller i).session? = some s)
    (hclosed : (m'.session s).place = .closed → (m'.session s).pending = none) :
    m'.Sound hash := by
  -- The callers stay where they are, but for one, which is at the session if anywhere.
  refine ⟨fun i t hi => ?_, fun i j t hi hj => ?_, fun t ht => ?_, fun t ht => ?_⟩
  · by_cases hmem : i ∈ i?
    · obtain ⟨rfl, hsuits⟩ := hself i hmem t hi
      exact hsuits
    · obtain ⟨hcaller, haway⟩ := hothers i hmem
      rw [hcaller] at hi ⊢
      have hne : t ≠ s := fun he => haway (he ▸ hi)
      rw [hm.session t hne, hm.holds_eq hne]
      exact h.suits i t hi
  · by_cases hi? : i ∈ i?
    · obtain ⟨rfl, -⟩ := hself i hi? t hi
      by_cases hj? : j ∈ i?
      · exact Option.mem_unique hi? hj?
      · obtain ⟨hcaller, haway⟩ := hothers j hj?
        exact absurd (hcaller ▸ hj) haway
    · obtain ⟨hcaller, haway⟩ := hothers i hi?
      rw [hcaller] at hi
      by_cases hj? : j ∈ i?
      · obtain ⟨rfl, -⟩ := hself j hj? t hj
        exact absurd hi haway
      · rw [(hothers j hj?).1] at hj
        exact h.alone i j t hi hj
  · by_cases he : t = s
    · subst he
      exact hlent ht
    · rw [hm.session t he] at ht
      obtain ⟨i, hi⟩ := h.lent t ht
      have hi? : i ∉ i? := fun hmem => he (hbefore i hmem t hi)
      exact ⟨i, (hothers i hi?).1 ▸ hi⟩
  · by_cases he : t = s
    · subst he
      exact hclosed ht
    · rw [hm.session t he] at ht ⊢
      exact h.closed t ht

theorem Sound.respond (h : m.Sound hash) (hm : OnlyAt s m m') (hcaller : m'.caller = m.caller)
    (hsuits : ∀ i, (m.caller i).session? = some s →
      (m.caller i).Suits hash (m.session s) (m.Holds s) →
      (m.caller i).Suits hash (m'.session s) (m'.Holds s))
    (hplace : (m'.session s).place = .lent → (m.session s).place = .lent)
    (hidle : (m'.session s).pending = none) : m'.Sound hash := by
  have hlent (ht : (m'.session s).place = .lent) : ∃ i, (m'.caller i).session? = some s :=
    hcaller ▸ h.lent s (hplace ht)
  by_cases hat : ∃ i, (m.caller i).session? = some s
  · obtain ⟨i, hi⟩ := hat
    refine h.onlyAt hm (some i) (fun j hj => ?_) (fun j hj t ht => ?_) (fun j hj t ht => ?_)
      hlent fun _ => hidle
    · exact ⟨congrFun hcaller j, fun hjs => hj (h.alone i j s hi hjs ▸ rfl)⟩
    · obtain rfl := Option.mem_some.mp hj
      exact Option.some.inj (ht.symm.trans hi)
    · obtain rfl := Option.mem_some.mp hj
      rw [hcaller] at ht ⊢
      obtain rfl : t = s := Option.some.inj (ht.symm.trans hi)
      exact ⟨rfl, hsuits i hi (h.suits i t hi)⟩
  · refine h.onlyAt hm none (fun j _ => ?_) (fun _ => nofun) (fun _ => nofun) hlent
      fun _ => hidle
    exact ⟨congrFun hcaller j, fun hjs => hat ⟨j, hjs⟩⟩

theorem Sound.heard (h : m.Sound hash) {key : LockKey} {a : Attempt} {answer : Answer}
    (hi : m.caller i = .trying key s a) (hanswer : (m.session s).answer = some answer) :
    (m.session s).place = .lent ∧ (m.session s).pending = none ∧
      (∀ b, answer.reply.flag = .ok b → answer.changed = b) ∧
      (answer.changed = true → m.Holds s (hash key)) := by
  have hsuits := h.suits i s (by rw [hi]; rfl)
  rw [hi] at hsuits
  cases hsuits with
  | asked place pending silent =>
    rw [silent] at hanswer
    cases hanswer
  | answered place idle sent flag lock =>
    obtain rfl := Option.some.inj (sent.symm.trans hanswer)
    exact ⟨place, idle, flag, lock⟩

end Sound

/-! ### The parts of a step -/

section Sessions

variable {ι σ η : Type} [DecidableEq σ] {hash : LockKey → η} {m : Pool ι σ η}

theorem onlyAt_setSession (m : Pool ι σ η) (s : σ) (session : Session) :
    OnlyAt s m (m.setSession s session) :=
  ⟨fun _ ht => Function.update_of_ne ht .., fun _ _ _ _ => Iff.rfl⟩

theorem onlyAt_close (m : Pool ι σ η) (s : σ) : OnlyAt s m (m.close s) := by
  refine ⟨fun _ ht => Function.update_of_ne ht .., fun h t n ht => ?_⟩
  change (m.locks h).filter _ = some (t, n) ↔ _
  rw [Option.filter_eq_some_iff]
  exact and_iff_left (by simpa using ht)

theorem not_holds_close (m : Pool ι σ η) (s : σ) (h : η) : ¬ (m.close s).Holds s h := by
  rintro ⟨n, hn⟩
  have hfilter : (m.locks h).filter (fun lock => lock.1 ≠ s) = some (s, n) := hn
  rw [Option.filter_eq_some_iff] at hfilter
  simp at hfilter

@[simp] theorem session_setSession (m : Pool ι σ η) (s : σ) (session : Session) :
    (m.setSession s session).session s = session := Function.update_self ..

theorem change_of_ne (s : σ) (q : Query) (lock : Option (σ × Nat)) {t : σ} (ht : t ≠ s) (n : Nat) :
    (q.change s lock).1 = some (t, n) ↔ lock = some (t, n) := by
  have hts : s ≠ t := Ne.symm ht
  unfold Query.change
  split
  · simp [hts]
  · split <;> simp_all
  · rfl
  · split <;> simp_all
  · split <;> simp_all

theorem change_tryLock_granted {s : σ} {key : LockKey} {lock : Option (σ × Nat)}
    (h : ((Query.tryLock key).change s lock).2 = true) :
    ∃ n, ((Query.tryLock key).change s lock).1 = some (s, n) := by
  rcases lock with _ | ⟨t, n⟩
  · exact ⟨0, rfl⟩
  · by_cases ht : t = s <;> simp_all [Query.change]

theorem change_tryLock_new {s : σ} {key : LockKey} {lock : Option (σ × Nat)} {n : Nat}
    (hlock : ∀ n, lock ≠ some (s, n)) (h : ((Query.tryLock key).change s lock).1 = some (s, n)) :
    lock = none ∧ n = 0 ∧ ((Query.tryLock key).change s lock).2 = true := by
  -- A lock that a session did not have was free, if the session has it now.
  rcases lock with _ | ⟨t, k⟩
  · exact ⟨rfl, (Prod.mk.inj (Option.some.inj h)).2.symm, rfl⟩
  · have ht : t ≠ s := fun he => hlock k (he ▸ rfl)
    rw [Query.change, if_neg ht] at h
    exact absurd (Prod.mk.inj (Option.some.inj h)).1 ht

theorem change_unlock_ne {s : σ} (key : LockKey) {lock : Option (σ × Nat)}
    (hlock : ∀ n, lock = some (s, n) → n = 0) (n : Nat) :
    ((Query.unlock key).change s lock).1 ≠ some (s, n) := by
  rcases lock with _ | ⟨t, k⟩
  · nofun
  · by_cases ht : t = s
    · subst ht
      obtain rfl := hlock k rfl
      simp [Query.change]
    · cases k <;> simp [Query.change, ht]

theorem change_unlock_of_held (s : σ) (key : LockKey) (n : Nat) :
    ((Query.unlock key).change s (some (s, n))).2 = true := by
  cases n <;> simp [Query.change]

theorem session_close (m : Pool ι σ η) (s : σ) : (m.close s).session s = ⟨.closed, none, none⟩ :=
  session_setSession ..

theorem session_respond {s : σ} (answer : Answer) (hplace : (m.session s).place = .lent) :
    (m.respond s answer).session s =
      { m.session s with pending := none, answer := some answer } := by
  unfold Pool.respond
  rw [session_setSession, if_pos hplace]

theorem place_respond (m : Pool ι σ η) (s : σ) (answer : Answer) :
    ((m.respond s answer).session s).place = (m.session s).place := by
  unfold Pool.respond
  rw [session_setSession]

theorem pending_respond (m : Pool ι σ η) (s : σ) (answer : Answer) :
    ((m.respond s answer).session s).pending = none := by
  unfold Pool.respond
  rw [session_setSession]

theorem Sound.failed {s : σ} (h : m.Sound hash) {q : Query} (hq : (m.session s).pending = some q)
    (message : String) : (m.respond s ⟨.error message, false⟩).Sound hash := by
  refine h.respond (onlyAt_setSession ..) rfl (fun j _ hsuits => ?_) (fun ht => ?_)
    (pending_respond ..)
  · rw [session_respond _ hsuits.lent]
    exact hsuits.respond hq (fun _ _ => ⟨fun _ => nofun, nofun⟩)
      fun _ _ hlock => ⟨fun _ => nofun, fun _ => hlock⟩
  · exact (place_respond ..).symm.trans ht

variable [DecidableEq η]

theorem locks_execute (m : Pool ι σ η) (s : σ) (q : Query) :
    (m.execute hash s q).2.locks (hash q.key) = (q.change s (m.locks (hash q.key))).1 :=
  Function.update_self ..

theorem onlyAt_execute (m : Pool ι σ η) (s : σ) (q : Query) :
    OnlyAt s m (m.execute hash s q).2 := by
  refine ⟨fun _ _ => rfl, fun h t n ht => ?_⟩
  change Function.update m.locks (hash q.key) (q.change s (m.locks (hash q.key))).1 h = _ ↔ _
  by_cases hh : h = hash q.key
  · subst hh
    rw [Function.update_self]
    exact change_of_ne s q _ ht n
  · rw [Function.update_of_ne hh]

theorem holds_execute {s : σ} {key : LockKey}
    (h : (m.execute hash s (.tryLock key)).1 = true) :
    (m.execute hash s (.tryLock key)).2.Holds s (hash key) := by
  obtain ⟨n, hn⟩ := change_tryLock_granted h
  exact ⟨n, (locks_execute m s (.tryLock key)).trans hn⟩

theorem execute_unlock_of_holds {s : σ} {key : LockKey} (h : m.Holds s (hash key)) :
    (m.execute hash s (.unlock key)).1 = true := by
  obtain ⟨n, hn⟩ := h
  change ((Query.unlock key).change s (m.locks (hash key))).2 = true
  rw [hn]
  exact change_unlock_of_held s key n

theorem onlyAt_executed (m : Pool ι σ η) (s : σ) (q : Query) (answer : Answer) :
    OnlyAt s m ((m.execute hash s q).2.respond s answer) :=
  (onlyAt_execute m s q).trans (onlyAt_setSession ..)

theorem Sound.executed {s : σ} (h : m.Sound hash) {q : Query} {reply : Reply}
    (hq : (m.session s).pending = some q)
    (hreply : ∀ b, reply.flag = .ok b → (m.execute hash s q).1 = b) :
    ((m.execute hash s q).2.respond s ⟨reply, (m.execute hash s q).1⟩).Sound hash := by
  refine h.respond (onlyAt_executed ..) rfl (fun j _ hsuits => ?_) (fun ht => ?_)
    (pending_respond ..)
  · have hplace : ((m.execute hash s q).2.session s).place = .lent := hsuits.lent
    rw [session_respond _ hplace]
    refine hsuits.respond hq (fun key hkey => ?_) fun key hkey hlock => ?_
    · subst hkey
      exact ⟨hreply, holds_execute⟩
    · subst hkey
      have hflag := execute_unlock_of_holds hlock
      exact ⟨fun _ _ => hflag, fun hkept => by simp [hflag] at hkept⟩
  · exact (place_respond ..).symm.trans ht

end Sessions

section Callers

variable {ι σ η : Type} [DecidableEq ι] {hash : LockKey → η} {m m' : Pool ι σ η} {s : σ} {i : ι}
  {c : Caller σ}

theorem caller_become (m : Pool ι σ η) (i : ι) (c : Caller σ) : (m.become i c).caller i = c :=
  Function.update_self ..

theorem caller_become_of_ne {j : ι} (hj : j ≠ i) : (m.become i c).caller j = m.caller j :=
  Function.update_of_ne hj ..

theorem Sound.become (h : m.Sound hash) (hi : (m.caller i).session? = none)
    (hc : c.session? = none) : (m.become i c).Sound hash := by
  have hback (j : ι) (t : σ) (hj : ((m.become i c).caller j).session? = some t) :
      (m.become i c).caller j = m.caller j := by
    by_cases hji : j = i
    · subst hji
      rw [caller_become, hc] at hj
      cases hj
    · exact caller_become_of_ne hji
  refine ⟨fun j t hj => ?_, fun j k t hj hk => ?_, fun t ht => ?_, h.closed⟩
  · have hsame := hback j t hj
    rw [hsame] at hj ⊢
    exact h.suits j t hj
  · have hj' := hback j t hj
    have hk' := hback k t hk
    rw [hj'] at hj
    rw [hk'] at hk
    exact h.alone j k t hj hk
  · obtain ⟨j, hj⟩ := h.lent t ht
    have hji : j ≠ i := by
      rintro rfl
      rw [hi] at hj
      cases hj
    exact ⟨j, (caller_become_of_ne hji).symm ▸ hj⟩

theorem Sound.become_at (h : m.Sound hash) (hs : ∀ j, (m.caller j).session? = some s → j = i)
    (hbefore : ∀ t, (m.caller i).session? = some t → t = s)
    (hm : OnlyAt s m m') (hcaller : m'.caller = m.caller)
    (hc : ∀ t, c.session? = some t → t = s ∧ c.Suits hash (m'.session s) (m'.Holds s))
    (hlent : (m'.session s).place = .lent → c.session? = some s)
    (hclosed : (m'.session s).place = .closed → (m'.session s).pending = none) :
    (m'.become i c).Sound hash := by
  refine h.onlyAt ⟨hm.session, hm.locks⟩ (some i) (fun j hj => ?_) (fun j hj t ht => ?_)
    (fun j hj t ht => ?_) (fun ht => ⟨i, ?_⟩) hclosed
  · have hji : j ≠ i := fun he => hj (he ▸ rfl)
    refine ⟨?_, fun hjs => hji (hs j hjs)⟩
    exact (caller_become_of_ne hji).trans (congrFun hcaller j)
  · obtain rfl := Option.mem_some.mp hj
    exact hbefore t ht
  · obtain rfl := Option.mem_some.mp hj
    rw [caller_become] at ht ⊢
    exact hc t ht
  · rw [caller_become]
    exact hlent ht

end Callers

section Machine

variable {ι σ η : Type} [DecidableEq ι] [DecidableEq σ] {hash : LockKey → η} {m m' : Pool ι σ η}
  {i : ι} {s : σ} {c : Caller σ}

theorem Sound.set (h : m.Sound hash) (hi : (m.caller i).session? = some s) {session : Session}
    (hc : ∀ t, c.session? = some t → t = s ∧ c.Suits hash session (m.Holds s))
    (hlent : session.place = .lent → c.session? = some s) (hplace : session.place ≠ .closed) :
    ((m.setSession s session).become i c).Sound hash := by
  refine h.become_at (fun j hj => h.alone j i s hj hi)
    (fun t ht => Option.some.inj (ht.symm.trans hi)) (onlyAt_setSession ..) rfl (fun t ht => ?_)
    (fun ht => ?_) fun hclosed => ?_
  · rw [session_setSession]
    exact hc t ht
  · rw [session_setSession] at ht
    exact hlent ht
  · rw [session_setSession] at hclosed
    exact absurd hclosed hplace

theorem Sound.giveBack (h : m.Sound hash) (hi : (m.caller i).session? = some s) :
    ((m.giveBack s).become i .away).Sound hash :=
  h.set hi (fun _ => nofun) nofun nofun

theorem Sound.close (h : m.Sound hash) (hi : (m.caller i).session? = some s) :
    ((m.close s).become i .away).Sound hash := by
  refine h.become_at (fun j hj => h.alone j i s hj hi)
    (fun t ht => Option.some.inj (ht.symm.trans hi)) (onlyAt_close m s) rfl (fun _ => nofun)
    (fun ht => ?_) fun _ => ?_
  · rw [session_close] at ht
    cases ht
  · rw [session_close]

variable [DecidableEq η] {op : Op ι σ}

theorem Sound.moved (h : m.Sound hash) (hm : m.Moved hash op m') : m'.Sound hash := by
  cases hm with
  | stayed => exact h
  | called _ hi | refused hi | withdrawn hi => exact h.become (by rw [hi]; rfl) rfl
  | @connected i s key hi hplace hidle =>
    refine h.become_at (fun j hj => ?_) (fun t ht => ?_) (onlyAt_setSession ..) rfl
      (fun t ht => ⟨(Option.some.inj ht).symm, ?_⟩) (fun _ => rfl) fun ht => ?_
    · rw [(h.suits j s hj).lent] at hplace
      cases hplace
    · rw [hi] at ht
      cases ht
    · rw [send, session_setSession]
      exact .asked rfl rfl rfl
    · rw [send, session_setSession] at ht
      cases ht
  | failed message hq => exact h.failed hq message
  | executed hq hcourse hreply => exact h.executed hq hreply
  | @granted i late key s a answer hi hanswer hflag =>
    obtain ⟨hplace, hidle, hchanged, hlock⟩ := h.heard hi hanswer
    refine h.set (by rw [hi]; rfl) (fun t ht => ⟨(Option.some.inj ht).symm, ?_⟩) (fun _ => rfl)
      (by simp [hplace])
    exact .guarding hplace hidle (hlock (hchanged true hflag))
  | @paused i late key s a answer next hi hanswer hflag =>
    obtain ⟨hplace, hidle, -, -⟩ := h.heard hi hanswer
    exact h.set (by rw [hi]; rfl)
      (fun t ht => ⟨(Option.some.inj ht).symm, .pausing hplace hidle⟩) (fun _ => rfl)
      (by simp [hplace])
  | denied hi | unlocked hi => exact h.giveBack (by rw [hi]; rfl)
  | broken hi | dropped hi => exact h.close (by rw [hi]; rfl)
  | @woken i key s a hi =>
    exact h.set (by rw [hi]; rfl) (fun t ht => ⟨(Option.some.inj ht).symm, .asked rfl rfl rfl⟩)
      (fun _ => rfl) nofun
  | @released i key s hi =>
    have hat : (m.caller i).session? = some s := by rw [hi]; rfl
    have hsuits := h.suits i s hat
    rw [hi] at hsuits
    cases hsuits with
    | guarding place idle lock =>
      exact h.set hat (fun t ht => ⟨(Option.some.inj ht).symm, .unlocking rfl rfl rfl lock⟩)
        (fun _ => rfl) nofun
  | canceled hi => exact h.giveBack hi
  | @drained s hplace =>
    refine h.respond (onlyAt_close m s) rfl (fun j hj hsuits => ?_) (fun ht => ?_) ?_
    · rw [hsuits.lent] at hplace
      cases hplace
    · rw [session_close] at ht
      cases ht
    · rw [session_close]

end Machine

end Pool
end PrepaidLedger.Sql
