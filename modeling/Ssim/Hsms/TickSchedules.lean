import Ssim.Hsms.SessionInvariant

/-!
# Schedules of ticks

What a whole schedule of ticks reports and whether it closes the connection.  Two
schedules that end at the same time need not agree.  A link timer that expires
discards the open transactions, so an earlier tick may report a T3 expiry that a
later one does not see, and the T6 of a Linktest starts at the tick that sends it.
Without these two effects the schedule makes no difference.
-/

namespace Ssim.Hsms

open Ssim.Core (Error Result)
open Std (ExtTreeMap)
open Library.Runs

namespace Session

/-- Ticks at these times with no other call between them, and their outputs. -/
def ticks (session : Session) : List TimePoint → Option (List SessionOutput)
  | [] => some []
  | now :: times => do
      let (next, out) ← session.onTick now
      let outs ← next.ticks times
      return out :: outs

/-- The system bytes reported over a whole schedule. -/
def reported (outs : List SessionOutput) : List UInt32 :=
  outs.flatMap (·.timedOut)

/-- Whether some tick of the schedule closes the connection. -/
def closes (outs : List SessionOutput) : Bool :=
  outs.any (·.close)

/-- Times that do not decrease, from `start` on, the last of them `finish`. -/
structure Schedule (start finish : TimePoint) (times : List TimePoint) : Prop where
  ordered : times.Pairwise (· ≤ ·)
  from_start : ∀ time ∈ times, start ≤ time
  ends : times.getLast? = some finish

/-- Any two schedules of ticks from `start` to `finish` report and close the same. -/
def ScheduleIndependent (session : Session) (start finish : TimePoint) : Prop :=
  ∀ first second, Schedule start finish first → Schedule start finish second →
    ∃ outs others, session.ticks first = some outs ∧ session.ticks second = some others ∧
      (∀ system, system ∈ reported outs ↔ system ∈ reported others) ∧
      closes outs = closes others

/-! ## The condition -/

/-- T7, T8 or the T6 of the pending Linktest has expired. -/
def linkExpired (session : Session) (now : TimePoint) : Bool :=
  (session.state = .notSelected && session.t7.expired now) || session.t8.expired now ||
    (session.pendingLinktest.isSome && session.t6.expired now)

/-- The first tick from this time on sends a Linktest, if the link stays idle. -/
def linktestDue (session : Session) : TimePoint :=
  session.lastActivity.after session.config.linktestInterval

/-- Ticks from `start` on can send a Linktest and find it unanswered by `finish`. -/
def linktestCanExpire (session : Session) (start finish : TimePoint) : Prop :=
  session.state = .selected ∧ session.pendingLinktest = none ∧
    (max start session.linktestDue).after (max 0 session.config.t6) ≤ finish

/--
Nothing of a connected session depends on the schedule: either the link expires
by the end, and no transaction's deadline comes before that, or it does not, and no
Linktest can be sent and expire on the way.
-/
def TickIndependent (session : Session) (start finish : TimePoint) : Prop :=
  session.state = .notConnected ∨
    (session.linkExpired finish = true ∧
      ∀ (system : UInt32) (deadline : TimePoint),
        session.transactions[system]? = some deadline →
          session.linkExpired (max start deadline) = true) ∨
    (session.linkExpired finish = false ∧ ¬ session.linktestCanExpire start finish)

theorem timer_expired_mono {timer : Timer} {now later : TimePoint} (order : now ≤ later)
    (expired : timer.expired now = true) : timer.expired later = true := by
  unfold Timer.expired at *
  cases deadline : timer.deadline with
  | none => simp [deadline] at expired
  | some deadline =>
      simp only [deadline, ge_iff_le, decide_eq_true_eq] at expired ⊢
      exact Int.le_trans expired order

theorem linkExpired_mono {session : Session} {now later : TimePoint} (order : now ≤ later)
    (expired : session.linkExpired now = true) : session.linkExpired later = true := by
  simp only [linkExpired, Bool.or_eq_true, Bool.and_eq_true] at *
  rcases expired with (⟨waiting, t7⟩ | t8) | ⟨pending, t6⟩
  · exact .inl (.inl ⟨waiting, timer_expired_mono order t7⟩)
  · exact .inl (.inr (timer_expired_mono order t8))
  · exact .inr ⟨pending, timer_expired_mono order t6⟩

/-! ## One tick -/

/-- A tick at which a link timer has expired closes the connection and reports nothing. -/
theorem onTick_of_linkExpired {session : Session} {now : TimePoint}
    (connected : session.state ≠ .notConnected) (expired : session.linkExpired now = true) :
    ∃ reason, session.onTick now = some (session.closeConnection reason {}) := by
  unfold onTick
  rw [if_neg connected]
  split
  next late =>
    refine ⟨"T7 timeout: not selected in time", ?_⟩
    have same : (session.fire .t7Timeout).resetLinkState = session.onDisconnect := by
      rw [onDisconnect_of_connected connected]
      simp [fire, ConnectionState.apply, late.1]
    rw [same]
    rfl
  next inTime =>
    split
    · exact ⟨_, rfl⟩
    next moving =>
      split
      · exact ⟨_, rfl⟩
      next answered => simp_all [linkExpired]

/-- A tick sends a Linktest if the selected link has been idle long enough. -/
def linktestAt (session : Session) (now : TimePoint) : Prop :=
  session.state = .selected ∧ session.pendingLinktest = none ∧ session.linktestDue ≤ now

/-- A tick at which no link timer has expired: everything it does. -/
structure Passed (session : Session) (now : TimePoint) (next : Session) (out : SessionOutput) :
    Prop where
  reports : out.timedOut = expired now session.transactions.toList
  staysOpen : out.close = false
  transactions : next.transactions = session.swept now
  state : next.state = session.state
  config : next.config = session.config
  t7 : next.t7 = session.t7
  t8 : next.t8 = session.t8
  linktest :
    (¬ session.linktestAt now ∧ next.pendingLinktest = session.pendingLinktest ∧
        next.t6 = session.t6 ∧ next.lastActivity = session.lastActivity) ∨
      (session.linktestAt now ∧ next.pendingLinktest.isSome = true ∧
        next.t6 = .started now session.config.t6)

theorem onTick_of_alive {session : Session} {now : TimePoint}
    (connected : session.state ≠ .notConnected) (alive : session.linkExpired now = false) :
    session.onTick now = session.tickConnected now := by
  simp only [linkExpired, Bool.or_eq_false_iff] at alive
  obtain ⟨⟨t7, t8⟩, t6⟩ := alive
  unfold onTick
  rw [if_neg connected, if_neg, if_neg, if_neg]
  · simpa using t6
  · simpa using t8
  · simpa using t7

theorem onTick_passed {session : Session} {now : TimePoint}
    (connected : session.state ≠ .notConnected) (alive : session.linkExpired now = false)
    (room : session.openTransactions + 3 ≤ 2 ^ 32) :
    ∃ next out, session.onTick now = some (next, out) ∧ session.Passed now next out := by
  obtain ⟨⟨next, out⟩, ticked⟩ := onTick_total room now
  refine ⟨next, out, ticked, ?_⟩
  rw [onTick_of_alive connected alive] at ticked
  have linktest : (session.state = .selected ∧ session.pendingLinktest = none ∧
      now - session.lastActivity ≥ session.config.linktestInterval * 1000000) ↔
      session.linktestAt now := by
    unfold linktestAt linktestDue TimePoint.after
    refine and_congr_right' (and_congr_right' ?_)
    exact le_sub_iff_add_le'
  rw [tickConnected_eq] at ticked
  split at ticked
  next idle =>
    obtain ⟨⟨system, allocated⟩, found, same⟩ := Option.map_eq_some_iff.mp ticked
    obtain ⟨_, _, _, generator, rfl⟩ := allocateSystemBytes_eq_some found
    obtain ⟨rfl, rfl⟩ := Prod.mk.inj same
    exact ⟨rfl, rfl, rfl, rfl, rfl, rfl, rfl, .inr ⟨linktest.mp idle, rfl, rfl⟩⟩
  next active =>
    obtain ⟨rfl, rfl⟩ := Prod.mk.inj (Option.some.inj ticked)
    exact ⟨rfl, rfl, rfl, rfl, rfl, rfl, rfl, .inl ⟨mt linktest.mpr active, rfl, rfl, rfl⟩⟩

namespace Passed

variable {session next : Session} {now : TimePoint} {out : SessionOutput}

theorem room (passed : session.Passed now next out) (few : session.openTransactions + 3 ≤ 2 ^ 32) :
    next.openTransactions + 3 ≤ 2 ^ 32 := by
  have fewer : next.openTransactions ≤ session.openTransactions := by
    unfold openTransactions
    rw [passed.transactions]
    exact size_expireTransactions_le now _ _ _
  omega

theorem connected (passed : session.Passed now next out)
    (before : session.state ≠ .notConnected) : next.state ≠ .notConnected := by
  rwa [passed.state]

/-- No tick postpones the end of the link. -/
theorem linkExpired (passed : session.Passed now next out) {later : TimePoint}
    (expired : session.linkExpired later = true) : next.linkExpired later = true := by
  simp only [Session.linkExpired, passed.state, passed.t7, passed.t8] at *
  rcases passed.linktest with ⟨_, pending, t6, _⟩ | ⟨sent, _, _⟩
  · rwa [pending, t6]
  · rw [sent.2.1, Option.isSome_none, Bool.false_and, Bool.or_false] at expired
    rw [expired, Bool.true_or]

/-- A transaction is open after the tick if it was before and its deadline has not come. -/
theorem getElem?_eq_some (passed : session.Passed now next out) {system : UInt32}
    {deadline : TimePoint} :
    next.transactions[system]? = some deadline ↔
      session.transactions[system]? = some deadline ∧ now < deadline := by
  rw [passed.transactions]
  exact swept_getElem?_eq_some

theorem mem_timedOut (passed : session.Passed now next out) {system : UInt32} :
    system ∈ out.timedOut ↔
      ∃ deadline, session.transactions[system]? = some deadline ∧ deadline ≤ now := by
  rw [passed.reports]
  exact mem_expired_toList

/-- Where no Linktest can expire on the way, a tick leaves the link alive to the end. -/
theorem alive (passed : session.Passed now next out) {start finish : TimePoint}
    (began : start ≤ now) (within : now ≤ finish) (alive : session.linkExpired finish = false)
    (never : ¬ session.linktestCanExpire start finish) :
    next.linkExpired finish = false ∧ ¬ next.linktestCanExpire start finish := by
  rcases passed.linktest with ⟨_, pending, t6, activity⟩ | ⟨sent, pending, t6⟩
  · have due : next.linktestDue = session.linktestDue := by
      rw [linktestDue, activity, passed.config]
      rfl
    constructor
    · simpa only [Session.linkExpired, passed.state, passed.t7, passed.t8, pending, t6] using alive
    · rwa [linktestCanExpire, passed.state, pending, passed.config, due]
  · have running : ¬ (now.after session.config.t6 ≤ finish) := by
      intro reached
      refine never ⟨sent.1, sent.2.1, ?_⟩
      have sentLate : max start session.linktestDue ≤ now := max_le began sent.2.2
      unfold TimePoint.after at *
      rcases max_choice 0 session.config.t6 with short | long
      · rw [short]
        exact Int.le_trans (by simpa using sentLate) within
      · rw [long]
        exact Int.le_trans (Int.add_le_add_right sentLate _) reached
    constructor
    · simp only [Session.linkExpired, Bool.or_eq_false_iff, passed.state, passed.t7,
        passed.t8] at alive ⊢
      refine ⟨alive.1, ?_⟩
      rw [t6, pending]
      simpa [Timer.expired, Timer.started] using running
    · rintro ⟨_, none, _⟩
      simp [none] at pending

end Passed

/-! ## A whole schedule -/

namespace Schedule

variable {start finish now : TimePoint} {times : List TimePoint}

theorem single (order : start ≤ finish) : Schedule start finish [finish] :=
  ⟨List.pairwise_singleton _ _, by simpa using order, rfl⟩

theorem two (began : start ≤ now) (order : now ≤ finish) : Schedule start finish [now, finish] :=
  ⟨by simpa using order, by simpa using ⟨began, Int.le_trans began order⟩, rfl⟩

/-- Either the first tick is the last one, or a schedule to the same end follows it. -/
theorem uncons (schedule : Schedule start finish (now :: times)) :
    start ≤ now ∧ now ≤ finish ∧
      ((times = [] ∧ now = finish) ∨ Schedule start finish times) := by
  have began := schedule.from_start now List.mem_cons_self
  have ordered := List.pairwise_cons.mp schedule.ordered
  have ends := schedule.ends
  cases times with
  | nil =>
      obtain rfl := Option.some.inj ends
      exact ⟨began, Int.le_refl _, .inl ⟨rfl, rfl⟩⟩
  | cons later times =>
      rw [List.getLast?_cons_cons] at ends
      have within := ordered.1 finish (List.mem_of_getLast? ends)
      exact ⟨began, within, .inr ⟨ordered.2,
        fun time member => schedule.from_start time (List.mem_cons_of_mem _ member), ends⟩⟩

end Schedule

theorem ticks_cons {session next : Session} {now : TimePoint} {out : SessionOutput}
    {times : List TimePoint} {outs : List SessionOutput}
    (ticked : session.onTick now = some (next, out)) (later : next.ticks times = some outs) :
    session.ticks (now :: times) = some (out :: outs) := by
  rw [ticks, ticked]
  change (next.ticks times).bind _ = _
  rw [later]
  rfl

/-- Ticks of a closed session do nothing. -/
theorem ticks_offline {session : Session} (idle : session.state = .notConnected)
    (times : List TimePoint) :
    ∃ outs, session.ticks times = some outs ∧ reported outs = [] ∧ closes outs = false := by
  induction times with
  | nil => exact ⟨[], rfl, rfl, rfl⟩
  | cons now times ih =>
      obtain ⟨outs, ticked, quiet, stays⟩ := ih
      have first : session.onTick now = some (session, {}) := by rw [onTick, if_pos idle]
      exact ⟨{} :: outs, ticks_cons first ticked, quiet, stays⟩

/-- The tick that finds the link expired ends the schedule in effect. -/
theorem ticks_of_linkExpired {session : Session} {now : TimePoint}
    (connected : session.state ≠ .notConnected) (expired : session.linkExpired now = true)
    (times : List TimePoint) :
    ∃ outs, session.ticks (now :: times) = some outs ∧ reported outs = [] ∧
      closes outs = true := by
  obtain ⟨reason, closed⟩ := onTick_of_linkExpired connected expired
  have idle : session.onDisconnect.state = .notConnected := by
    rw [onDisconnect_of_connected connected]
    rfl
  obtain ⟨outs, ticked, quiet, _⟩ := ticks_offline idle times
  exact ⟨_, ticks_cons closed ticked, quiet, rfl⟩

/--
A link that expires by the end, and before every open deadline, is closed by every
schedule without a report.
-/
theorem ticks_expiring {session : Session} {start finish : TimePoint} {times : List TimePoint}
    (schedule : Schedule start finish times) (connected : session.state ≠ .notConnected)
    (room : session.openTransactions + 3 ≤ 2 ^ 32) (expires : session.linkExpired finish = true)
    (first : ∀ (system : UInt32) (deadline : TimePoint),
      session.transactions[system]? = some deadline →
        session.linkExpired (max start deadline) = true) :
    ∃ outs, session.ticks times = some outs ∧ reported outs = [] ∧ closes outs = true := by
  induction times generalizing session with
  | nil => simpa using schedule.ends
  | cons now times ih =>
      by_cases expired : session.linkExpired now = true
      · exact ticks_of_linkExpired connected expired times
      have alive := Bool.eq_false_of_not_eq_true expired
      obtain ⟨began, within, rest⟩ := schedule.uncons
      rcases rest with ⟨rfl, rfl⟩ | later
      · exact absurd expires expired
      obtain ⟨next, out, ticked, passed⟩ := onTick_passed connected alive room
      have quiet : out.timedOut = [] := by
        refine List.eq_nil_iff_forall_not_mem.mpr fun system member => expired ?_
        obtain ⟨deadline, isOpen, due⟩ := passed.mem_timedOut.mp member
        exact linkExpired_mono (max_le began due) (first system deadline isOpen)
      obtain ⟨outs, rest, silent, closed⟩ := ih later (passed.connected connected)
        (passed.room room) (passed.linkExpired expires) fun system deadline isOpen =>
          passed.linkExpired (first system deadline (passed.getElem?_eq_some.mp isOpen).1)
      refine ⟨out :: outs, ticks_cons ticked rest, ?_, ?_⟩
      · simpa [reported, quiet] using silent
      · simpa [closes, passed.staysOpen] using closed

/--
A link that stays alive to the end, with no Linktest to expire on the way, stays
open under every schedule, and what is reported are the deadlines up to the end.
-/
theorem ticks_alive {session : Session} {start finish : TimePoint} {times : List TimePoint}
    (schedule : Schedule start finish times) (connected : session.state ≠ .notConnected)
    (room : session.openTransactions + 3 ≤ 2 ^ 32) (alive : session.linkExpired finish = false)
    (never : ¬ session.linktestCanExpire start finish) :
    ∃ outs, session.ticks times = some outs ∧ closes outs = false ∧
      ∀ system, system ∈ reported outs ↔
        ∃ deadline, session.transactions[system]? = some deadline ∧ deadline ≤ finish := by
  induction times generalizing session with
  | nil => simpa using schedule.ends
  | cons now times ih =>
      obtain ⟨began, within, rest⟩ := schedule.uncons
      have aliveNow : session.linkExpired now = false :=
        Bool.eq_false_of_not_eq_true fun expired =>
          absurd (linkExpired_mono within expired) (by simp [alive])
      obtain ⟨next, out, ticked, passed⟩ := onTick_passed connected aliveNow room
      rcases rest with ⟨rfl, rfl⟩ | later
      · refine ⟨[out], ticks_cons ticked rfl, by simp [closes, passed.staysOpen], ?_⟩
        intro system
        simpa [reported] using passed.mem_timedOut
      obtain ⟨stillAlive, stillNever⟩ := passed.alive began within alive never
      obtain ⟨outs, rest, stays, reports⟩ :=
        ih later (passed.connected connected) (passed.room room) stillAlive stillNever
      refine ⟨out :: outs, ticks_cons ticked rest, ?_, ?_⟩
      · simpa [closes, passed.staysOpen] using stays
      intro system
      have split : system ∈ reported (out :: outs) ↔
          system ∈ out.timedOut ∨ system ∈ reported outs := by simp [reported]
      rw [split, passed.mem_timedOut, reports]
      constructor
      · rintro (⟨deadline, isOpen, due⟩ | ⟨deadline, isOpen, due⟩)
        · exact ⟨deadline, isOpen, Int.le_trans due within⟩
        · exact ⟨deadline, (passed.getElem?_eq_some.mp isOpen).1, due⟩
      · rintro ⟨deadline, isOpen, due⟩
        by_cases already : deadline ≤ now
        · exact .inl ⟨deadline, isOpen, already⟩
        · exact .inr ⟨deadline, passed.getElem?_eq_some.mpr ⟨isOpen, Int.not_le.mp already⟩, due⟩

/-! ## Independence of the schedule -/

/-- A tick between a deadline and the end of the link reports what the last tick alone does not. -/
theorem depends_on_expiry {session : Session} {start finish deadline : TimePoint}
    {system : UInt32} (connected : session.state ≠ .notConnected)
    (room : session.openTransactions + 3 ≤ 2 ^ 32) (order : start ≤ finish)
    (expires : session.linkExpired finish = true)
    (isOpen : session.transactions[system]? = some deadline)
    (alive : session.linkExpired (max start deadline) = false) :
    ¬ session.ScheduleIndependent start finish := by
  have within : max start deadline ≤ finish := by
    by_contra late
    have expired := linkExpired_mono (Int.le_of_lt (Int.not_le.mp late)) expires
    simp [alive] at expired
  intro independent
  obtain ⟨outs, others, first, second, same, _⟩ := independent [max start deadline, finish]
    [finish] (.two (le_max_left _ _) within) (.single order)
  obtain ⟨silent, quickly, quiet, _⟩ := ticks_of_linkExpired connected expires []
  obtain rfl := Option.some.inj (second.symm.trans quickly)
  obtain ⟨next, out, ticked, passed⟩ := onTick_passed connected alive room
  obtain ⟨last, rest, _⟩ := ticks_of_linkExpired (passed.connected connected)
    (passed.linkExpired expires) []
  obtain rfl := Option.some.inj (first.symm.trans (ticks_cons ticked rest))
  have early : system ∈ out.timedOut := passed.mem_timedOut.mpr ⟨deadline, isOpen, le_max_right _ _⟩
  have also := (same system).mp (List.mem_flatMap.mpr ⟨out, List.mem_cons_self, early⟩)
  rw [quiet] at also
  cases also

/-- A Linktest sent early enough expires by the end; one sent by the last tick does not. -/
theorem depends_on_linktest {session : Session} {start finish : TimePoint}
    (room : session.openTransactions + 3 ≤ 2 ^ 32) (order : start ≤ finish)
    (alive : session.linkExpired finish = false)
    (expires : session.linktestCanExpire start finish) :
    ¬ session.ScheduleIndependent start finish := by
  obtain ⟨isSelected, none, inTime⟩ := expires
  have connected : session.state ≠ .notConnected := by simp [isSelected]
  have reply : (max start session.linktestDue).after session.config.t6 ≤ finish := by
    refine Int.le_trans ?_ inTime
    exact Int.add_le_add_left (Int.mul_le_mul_of_nonneg_right (le_max_right _ _) (by decide)) _
  have within : max start session.linktestDue ≤ finish := by
    refine Int.le_trans ?_ inTime
    exact Int.le_add_of_nonneg_right (Int.mul_nonneg (le_max_left _ _) (by decide))
  intro independent
  obtain ⟨outs, others, first, second, _, same⟩ :=
    independent [max start session.linktestDue, finish] [finish]
      (.two (le_max_left _ _) within) (.single order)
  obtain ⟨next, out, ticked, passed⟩ := onTick_passed connected alive room
  obtain rfl := Option.some.inj (second.symm.trans (ticks_cons ticked rfl))
  have aliveFirst : session.linkExpired (max start session.linktestDue) = false :=
    Bool.eq_false_of_not_eq_true fun expired =>
      absurd (linkExpired_mono within expired) (by simp [alive])
  obtain ⟨middle, sent, early, sends⟩ := onTick_passed connected aliveFirst room
  have closing : middle.linkExpired finish = true := by
    rcases sends.linktest with ⟨quiet, _⟩ | ⟨_, pending, t6⟩
    · exact absurd ⟨isSelected, none, le_max_right _ _⟩ quiet
    · simpa [Session.linkExpired, pending, t6, Timer.expired, Timer.started] using .inr reply
  obtain ⟨last, rest, _, closed⟩ :=
    ticks_of_linkExpired (sends.connected connected) closing []
  obtain rfl := Option.some.inj (first.symm.trans (ticks_cons early rest))
  have stays : closes [out] = false := by simp [closes, passed.staysOpen]
  have ends : closes (sent :: last) = true := by
    simpa [closes, sends.staysOpen] using closed
  rw [stays, ends] at same
  cases same

theorem scheduleIndependent_iff {session : Session} (room : session.openTransactions + 3 ≤ 2 ^ 32)
    {start finish : TimePoint} (order : start ≤ finish) :
    session.ScheduleIndependent start finish ↔ session.TickIndependent start finish := by
  by_cases connected : session.state = .notConnected
  · refine iff_of_true ?_ (.inl connected)
    intro first second _ _
    obtain ⟨outs, ticked, quiet, stays⟩ := ticks_offline connected first
    obtain ⟨others, other, alsoQuiet, alsoStays⟩ := ticks_offline connected second
    exact ⟨outs, others, ticked, other, by simp [quiet, alsoQuiet], stays.trans alsoStays.symm⟩
  constructor
  · intro independent
    refine .inr ?_
    cases expires : session.linkExpired finish with
    | true =>
        refine .inl ⟨rfl, fun system deadline isOpen => ?_⟩
        by_contra alive
        exact depends_on_expiry connected room order expires isOpen
          (Bool.eq_false_of_not_eq_true alive) independent
    | false =>
        exact .inr ⟨rfl, fun sent => depends_on_linktest room order expires sent independent⟩
  · rintro (offline | ⟨expires, late⟩ | ⟨alive, never⟩) first second one other
    · exact absurd offline connected
    · obtain ⟨outs, ticked, quiet, closed⟩ := ticks_expiring one connected room expires late
      obtain ⟨others, also, alsoQuiet, alsoClosed⟩ :=
        ticks_expiring other connected room expires late
      exact ⟨outs, others, ticked, also, by simp [quiet, alsoQuiet], closed.trans alsoClosed.symm⟩
    · obtain ⟨outs, ticked, stays, reports⟩ := ticks_alive one connected room alive never
      obtain ⟨others, also, alsoStays, alsoReports⟩ := ticks_alive other connected room alive never
      exact ⟨outs, others, ticked, also, fun system => (reports system).trans
        (alsoReports system).symm, stays.trans alsoStays.symm⟩

end Session

/--
When expiry does not depend on how often ticks come.  For every session that calls
can reach, all schedules of ticks from `start` to `finish` report the same
transactions and agree on closing the connection exactly if the session meets
`TickIndependent`.
-/
theorem tick_schedules_agree_iff (config : SessionConfig)
    (small : config.maxOpenTransactions < 2 ^ 32 - 2) (calls : List SessionCall)
    (session : Session) (reached : run Session.advance (.fresh config) calls = some session)
    (start finish : TimePoint) (order : start ≤ finish) :
    session.ScheduleIndependent start finish ↔ session.TickIndependent start finish := by
  obtain ⟨same, reachedToo, unchanged, holds⟩ := Session.run_fresh small calls
  obtain rfl := Option.some.inj (reached.symm.trans reachedToo)
  have few := holds.openBounded
  rw [unchanged] at few
  exact Session.scheduleIndependent_iff (by omega) order

/-- Select.req with system bytes 9, received at once after the connect. -/
def selectedCalls : List SessionCall :=
  [.onConnect 0, .onBytes 0 [0, 0, 0, 10, 255, 255, 0, 0, 0, 1, 0, 0, 0, 9]]

/-- A request at 0 s (T3 ends at 45 s) and the first byte of a frame at 42 s (T8 ends at 47 s). -/
def stalledCalls : List SessionCall :=
  selectedCalls ++
    [.sendRequest 0 { stream := 1, function := 1, wBit := true, body := none },
      .onBytes 42000000000 [0]]

/-- An idle selected link depends on its ticks from T6 after its Linktest is due. -/
theorem tick_schedules_agree_iff_idle :
    ∃ session, run Session.advance (.fresh {}) selectedCalls = some session ∧
      session.ScheduleIndependent 0 64999999999 ∧
      ¬ session.ScheduleIndependent 0 65000000000 := by
  have checked : (run Session.advance (.fresh {}) selectedCalls).any (fun session =>
      session.state = .selected ∧ session.pendingLinktest = none ∧
        session.linktestDue = 60000000000 ∧
        session.config.t6 = 5000 ∧ session.linkExpired 64999999999 = false ∧
        session.linkExpired 65000000000 = false) = true := by decide
  obtain ⟨session, reached, facts⟩ := (Option.any_eq_true _ _).mp checked
  simp only [decide_eq_true_eq] at facts
  obtain ⟨isSelected, none, due, t6, before, after⟩ := facts
  have condition := fun finish order =>
    tick_schedules_agree_iff {} (by decide) selectedCalls session reached 0 finish order
  refine ⟨session, reached, (condition 64999999999 (by decide)).mpr (.inr (.inr ⟨before, ?_⟩)), ?_⟩
  · rintro ⟨_, _, inTime⟩
    rw [due, t6] at inTime
    exact absurd inTime (by decide)
  · rw [condition 65000000000 (by decide)]
    rintro (offline | ⟨expires, _⟩ | ⟨_, never⟩)
    · simp [isSelected] at offline
    · simp [after] at expires
    · exact never ⟨isSelected, none, by rw [due, t6]; decide⟩

/--
A tick at 45 s reports the request, and the tick at 47 s closes the stalled link.
Without the first one the request is never reported.
-/
theorem skipped_tick_loses_expiry :
    ∃ session outs others, run Session.advance (.fresh {}) stalledCalls = some session ∧
      session.ticks [45000000000, 47000000000] = some outs ∧
      session.ticks [47000000000] = some others ∧
      Session.reported outs = [1] ∧ Session.reported others = [] ∧
      ¬ session.ScheduleIndependent 42000000000 47000000000 := by
  have checked : (run Session.advance (.fresh {}) stalledCalls).any (fun session =>
      (session.ticks [45000000000, 47000000000]).any (Session.reported · = [1]) ∧
        (session.ticks [47000000000]).any (Session.reported · = [])) = true := by decide
  obtain ⟨session, reached, facts⟩ := (Option.any_eq_true _ _).mp checked
  simp only [decide_eq_true_eq, Option.any_eq_true] at facts
  obtain ⟨⟨outs, often, one⟩, others, once, none⟩ := facts
  refine ⟨session, outs, others, reached, often, once, one, none, ?_⟩
  intro independent
  obtain ⟨first, second, ticked, also, same, _⟩ :=
    independent [45000000000, 47000000000] [47000000000] (.two (by decide) (by decide))
      (.single (by decide))
  obtain rfl := Option.some.inj (ticked.symm.trans often)
  obtain rfl := Option.some.inj (also.symm.trans once)
  have both := same 1
  rw [one, none] at both
  simp at both

end Ssim.Hsms
