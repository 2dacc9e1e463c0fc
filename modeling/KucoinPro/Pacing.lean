import KucoinPro.GuardedRuns

namespace Pacing
open GuardedRuns

-- What the events of a stream say of its connection: a timer with the two clocks
-- it carries, the connection is gone, the peer has announced an interval.
inductive Signal where
  | timer (time now : Nat)
  | disconnected
  | announced (interval : Nat)
  | other
  deriving DecidableEq, Repr

-- A ping that was sent, and the interval that was announced by then.
structure Ping where
  time : Nat
  announced : Option Nat
  deriving DecidableEq, Repr

-- What an observer of these events has on record: the last clock, and in this
-- session the interval that was announced and the last ping.
structure Record where
  clock : Nat
  announced : Option Nat
  last : Option Ping
  deriving DecidableEq, Repr

namespace Record

def fresh : Record := ⟨0,none,none⟩

-- The two clocks agree and never go back.
def permits (record : Record) : Signal → Bool
  | .timer time now => decide (time = now ∧ record.clock ≤ time)
  | .disconnected | .announced _ | .other => true

def follow (record : Record) (pinged : Bool) : Signal → Record
  | .timer time _ => {record with clock := time, last := if pinged then some ⟨time,record.announced⟩ else record.last}
  | .disconnected => {record with announced := none, last := none}
  | .announced interval => {record with announced := some interval}
  | .other => record

-- What was announced in the session is `fine`.
structure Admits (fine : Nat → Prop) (record : Record) : Prop where
  announced : ∀ interval, record.announced = some interval → fine interval
  last : ∀ ping interval, record.last = some ping → ping.announced = some interval → fine interval

theorem Admits.follow {record : Record} (admits : record.Admits fine) (pinged : Bool)
    (announces : ∀ interval, signal = .announced interval → fine interval) : (record.follow pinged signal).Admits fine := by
  obtain ⟨announced,last⟩ := admits
  cases signal with
  | timer time now =>
      cases pinged with
      | true =>
          refine ⟨announced,?_⟩
          intro ping interval sent known
          cases sent
          exact announced interval known
      | false => exact ⟨announced,last⟩
  | disconnected => exact ⟨nofun,nofun⟩
  | announced interval =>
      refine ⟨?_,last⟩
      intro known same
      cases same
      exact announces interval rfl
  | other => exact ⟨announced,last⟩

theorem Admits.unannounced {record : Record} (admits : record.Admits fun _ => False) : record.announced = none :=
  Option.eq_none_iff_forall_ne_some.mpr admits.announced

end Record

def Signal.at? : Signal → Option Nat
  | .timer time _ => some time
  | .disconnected | .announced _ | .other => none

theorem Signal.at?_timer {signal : Signal} (known : signal.at? = some time) : ∃ now, signal = .timer time now := by
  cases signal with
  | timer earlier now =>
      cases known
      exact ⟨now,rfl⟩
  | disconnected | announced | other => cases known

-- A stream that sends pings on its timers; `pings` counts those that carry a time,
-- `configured` is its interval as long as none is announced.
structure Machine (σ ε : Type) where
  step : σ → ε → Option σ
  signal : σ → ε → Signal
  pings : Nat → σ → Nat
  configured : Nat

structure Recorded (σ : Type) where
  record : Record
  system : σ

namespace Machine
variable {σ ε : Type} (m : Machine σ ε)

def pinged (signal : Signal) (before after : σ) : Bool :=
  signal.at?.any fun time => decide (m.pings time before < m.pings time after)

-- The stream together with the observer; a clock that goes back is no step.
def recorded (s : Recorded σ) (input : ε) : Option (Recorded σ) :=
  let signal := m.signal s.system input
  if s.record.permits signal then
    (m.step s.system input).map fun after => ⟨s.record.follow (m.pinged signal s.system after) signal,after⟩
  else none

def interval (announced : Option Nat) : Nat := announced.getD m.configured

-- A timer sends at most one ping, half an interval or more after the last one of
-- the session.
structure Paced (before : Recorded σ) (input : ε) (after : Recorded σ) : Prop where
  once : ∀ time, (m.signal before.system input).at? = some time →
    m.pings time after.system ≤ m.pings time before.system + 1
  apart : ∀ time ping, (m.signal before.system input).at? = some time →
    m.pings time before.system < m.pings time after.system → before.record.last = some ping →
    2 * ping.time + m.interval ping.announced ≤ 2 * time

-- How such a stream paces itself: a ping that is `due` is `slack` or more past a
-- deadline, and puts it off by a `wait` that depends on the interval. The intervals
-- that are announced are `fine`.
structure Deadline (m : Machine σ ε) where
  deadline : σ → Nat
  due : σ → ε → Bool
  wait : Nat → Nat
  slack : Nat
  fine : Nat → Prop

variable {m}

def Deadline.next (d : Deadline m) (s : Recorded σ) (input : ε) : Signal → Nat
  | .timer time _ => if d.due s.system input then time + d.wait (m.interval s.record.announced) else d.deadline s.system
  | .disconnected => 0
  | .announced _ | .other => d.deadline s.system

-- A step where the clocks agree, in all states that are `valid`.
structure Keeps (d : Deadline m) (valid : Recorded σ → Prop) (start : Recorded σ) : Prop where
  valid_start : valid start
  valid_step : ∀ s input after, valid s → m.recorded s input = some after → valid after
  silent : start.record = .fresh
  idle : d.deadline start.system = 0
  announces : ∀ s input interval, m.signal s input = .announced interval → d.fine interval
  sends : ∀ s input after time, valid s → m.signal s.system input = .timer time time → m.step s.system input = some after →
    m.pings time after = m.pings time s.system + if d.due s.system input then 1 else 0
  moves : ∀ s input after, valid s → s.record.Admits d.fine → s.record.permits (m.signal s.system input) = true →
    m.step s.system input = some after → d.deadline after = d.next s input (m.signal s.system input)
  waits : ∀ s input time, (m.signal s input).at? = some time → d.due s input = true → d.deadline s + d.slack ≤ time

variable {d : Deadline m} {valid : Recorded σ → Prop} {start s after : Recorded σ}

theorem recorded_parts (ran : m.recorded s input = some after) :
    s.record.permits (m.signal s.system input) = true ∧ m.step s.system input = some after.system ∧
      after.record = s.record.follow (m.pinged (m.signal s.system input) s.system after.system) (m.signal s.system input) := by
  unfold recorded at ran
  simp only at ran
  split at ran
  · rename_i permitted
    obtain ⟨system,stepped,rfl⟩ := Option.map_eq_some_iff.mp ran
    exact ⟨permitted,stepped,rfl⟩
  · cases ran

-- The deadline is what the last ping of the session has made it.
structure Sound (d : Deadline m) (valid : Recorded σ → Prop) (s : Recorded σ) : Prop where
  valid : valid s
  admits : s.record.Admits d.fine
  silent : s.record.last = none → d.deadline s.system = 0
  pinged : ∀ ping, s.record.last = some ping → d.deadline s.system = ping.time + d.wait (m.interval ping.announced)

-- On a timer, what was sent and put on record is what was due.
theorem Keeps.timed (keeps : Keeps d valid start) (sound : Sound d valid s) (ran : m.recorded s input = some after)
    (signal : m.signal s.system input = .timer time now) :
    m.pings time after.system = m.pings time s.system + (if d.due s.system input then 1 else 0) ∧
      after.record.last = (if d.due s.system input then some ⟨time,s.record.announced⟩ else s.record.last) ∧
      d.deadline after.system =
        (if d.due s.system input then time + d.wait (m.interval s.record.announced) else d.deadline s.system) := by
  obtain ⟨permitted,stepped,followed⟩ := recorded_parts ran
  have moved := keeps.moves s input _ sound.valid sound.admits permitted stepped
  rw [signal] at permitted followed moved
  simp only [Record.permits,decide_eq_true_iff] at permitted
  obtain ⟨rfl,_⟩ := permitted
  have sent := keeps.sends s input _ time sound.valid signal stepped
  refine ⟨sent,?_,moved⟩
  rw [followed]
  simp only [Record.follow,pinged,Signal.at?,Option.any_some,sent]
  cases d.due s.system input with
  | true => simp
  | false => simp

-- One step, a case for each signal.
theorem Keeps.step (keeps : Keeps d valid start) (sound : Sound d valid s) (ran : m.recorded s input = some after) :
    Sound d valid after := by
  have held := keeps.valid_step s input after sound.valid ran
  obtain ⟨permitted,stepped,followed⟩ := recorded_parts ran
  have admits : after.record.Admits d.fine := followed ▸ sound.admits.follow _ (keeps.announces s.system input)
  have moved := keeps.moves s input _ sound.valid sound.admits permitted stepped
  cases signal : m.signal s.system input with
  | timer time now =>
      obtain ⟨_,last,deadline⟩ := keeps.timed sound ran signal
      refine ⟨held,admits,?_,?_⟩
      all_goals
        rw [last,deadline]
        cases d.due s.system input with
        | true => simp
        | false => first | exact sound.silent | exact sound.pinged
  | disconnected =>
      rw [signal] at followed moved
      refine ⟨held,admits,fun _ => moved,?_⟩
      intro ping pinged
      rw [followed] at pinged
      cases pinged
  | announced | other =>
      rw [signal] at followed moved
      refine ⟨held,admits,?_,?_⟩
      · rw [followed,moved]
        exact sound.silent
      · rw [followed,moved]
        exact sound.pinged

theorem Keeps.run (keeps : Keeps d valid start) (path : Reached start m.recorded allowed s) : Sound d valid s := by
  refine path.invariant ⟨keeps.valid_start,?_,fun _ => keeps.idle,?_⟩ fun _ _ _ sound _ ran => keeps.step sound ran
  · rw [keeps.silent]
    exact ⟨nofun,nofun⟩
  · rw [keeps.silent]
    nofun

-- What is left of the spacing is a matter of the pings that are due.
theorem Keeps.paced_iff (keeps : Keeps d valid start) (sound : Sound d valid s) (ran : m.recorded s input = some after) :
    m.Paced s input after ↔ ∀ time ping, (m.signal s.system input).at? = some time → d.due s.system input = true →
      s.record.last = some ping → 2 * ping.time + m.interval ping.announced ≤ 2 * time := by
  cases signal : m.signal s.system input with
  | timer time now =>
      have sent := (keeps.timed sound ran signal).1
      constructor
      · intro paced clock ping same due pinged
        cases same
        have apart := paced.apart time ping (by rw [signal]; rfl)
        refine apart ?_ pinged
        rw [sent,if_pos due]
        exact Nat.lt_succ_self _
      · intro apart
        refine ⟨?_,?_⟩
        · rw [signal]
          intro clock same
          cases same
          rw [sent]
          split <;> omega
        · rw [signal]
          intro clock ping same more pinged
          cases same
          refine apart time ping rfl ?_ pinged
          by_contra idle
          rw [sent,if_neg idle] at more
          exact Nat.lt_irrefl _ more
  | disconnected | announced | other =>
      refine iff_of_true ⟨?_,?_⟩ ?_
      · rw [signal]
        nofun
      · rw [signal]
        nofun
      · nofun

-- Where the wait and what is past it make half an interval, every run is paced.
theorem Keeps.every_paced (keeps : Keeps d valid start)
    (enough : ∀ announced, (∀ interval, announced = some interval → d.fine interval) →
      m.interval announced ≤ 2 * (d.wait (m.interval announced) + d.slack))
    (inputs : List ε) : EveryStep m.recorded start inputs m.Paced := by
  intro earlier input later before after _ executed ran
  have sound := keeps.run (execute_reached executed)
  refine (keeps.paced_iff sound ran).mpr ?_
  intro time ping timed due pinged
  have wait := sound.pinged ping pinged
  have past := keeps.waits before.system input time timed due
  have long := enough ping.announced fun interval => sound.admits.last ping interval pinged
  omega

-- A ping that is due comes too soon after the one that has set the deadline.
def Deadline.hurried (d : Deadline m) (s : Recorded σ) (input : ε) : Bool :=
  (m.signal s.system input).at?.any fun time => d.due s.system input &&
    decide (d.deadline s.system ≠ 0 ∧ 2 * (time + d.wait m.configured) < 2 * d.deadline s.system + m.configured)

theorem hurried_iff : d.hurried s input = true ↔ ∃ time, (m.signal s.system input).at? = some time ∧
    d.due s.system input = true ∧ d.deadline s.system ≠ 0 ∧
    2 * (time + d.wait m.configured) < 2 * d.deadline s.system + m.configured := by
  rw [Deadline.hurried,Option.any_eq_true]
  refine exists_congr fun time => and_congr_right fun _ => ?_
  rw [Bool.and_eq_true,decide_eq_true_iff]

theorem Keeps.paced_hurried (keeps : Keeps d valid start) (waiting : d.wait m.configured ≠ 0)
    (unannounced : ∀ interval, ¬ d.fine interval)
    (sound : Sound d valid s) (ran : m.recorded s input = some after) : m.Paced s input after ↔ d.hurried s input = false := by
  rw [keeps.paced_iff sound ran,Bool.eq_false_iff,Ne,hurried_iff]
  have set : ∀ ping, s.record.last = some ping →
      d.deadline s.system = ping.time + d.wait m.configured ∧ m.interval ping.announced = m.configured := by
    intro ping pinged
    have wait := sound.pinged ping pinged
    have configured : ping.announced = none :=
      Option.eq_none_iff_forall_ne_some.mpr fun interval known => unannounced interval (sound.admits.last ping interval pinged known)
    rw [configured] at wait ⊢
    exact ⟨wait,rfl⟩
  constructor
  · intro apart hurried
    obtain ⟨time,timed,due,running,soon⟩ := hurried
    cases last : s.record.last with
    | none => exact running (sound.silent last)
    | some ping =>
        obtain ⟨wait,interval⟩ := set ping last
        have spaced := apart time ping timed due last
        omega
  · intro unhurried time ping timed due last
    obtain ⟨wait,interval⟩ := set ping last
    by_contra soon
    refine unhurried ⟨time,timed,due,?_,?_⟩
    · omega
    · omega

-- Where they do not, it is a matter of the timers.
theorem Keeps.paced_exactly (keeps : Keeps d valid start) (waiting : d.wait m.configured ≠ 0)
    (unannounced : ∀ interval, ¬ d.fine interval) (inputs : List ε) :
    EveryStep m.recorded start inputs m.Paced ↔
      EveryStep m.recorded start inputs (fun s input _ => d.hurried s input = false) := by
  refine everyStep_exactly ?_ ?_ inputs
  · intro s input after path ran hurried paced
    have unhurried := (keeps.paced_hurried waiting unannounced (keeps.run path) ran).mp paced
    rw [hurried] at unhurried
    cases unhurried
  · intro s input after path ran unhurried
    exact (keeps.paced_hurried waiting unannounced (keeps.run path) ran).mpr unhurried

end Machine
end Pacing
