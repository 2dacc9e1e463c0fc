import KucoinPro.GuardedRuns

namespace Watchdog
open GuardedRuns

-- What the events of a stream say of its connection: the handshake is complete,
-- the peer has said welcome, the connection is gone, a timer has asked it at
-- `time` and got the answer `refresh`.
inductive Signal where
  | ready
  | disconnected
  | welcome
  | timer (time : Nat) (refresh : Bool)
  | other
  deriving DecidableEq, Repr

def Signal.hears (known : Bool) : Signal → Bool
  | .welcome => true
  | .disconnected => false
  | .ready | .timer _ _ | .other => known

def Signal.at? : Signal → Option Nat
  | .timer time _ => some time
  | .ready | .disconnected | .welcome | .other => none

theorem Signal.at?_timer {signal : Signal} (known : signal.at? = some time) : ∃ refresh, signal = .timer time refresh := by
  cases signal with
  | timer now refresh =>
      cases known
      exact ⟨refresh,rfl⟩
  | ready | disconnected | welcome | other => cases known

-- One session, as an observer of these events sees it.
structure Link where
  established : Bool
  welcomed : Bool
  deriving DecidableEq, Repr

namespace Link

def down : Link := ⟨false,false⟩

-- From the handshake until it is gone refresh answers true, and only there the
-- peer is heard.
def permits (link : Link) : Signal → Bool
  | .welcome => link.established
  | .timer _ refresh => refresh || !link.established
  | .ready | .disconnected | .other => true

def follow (link : Link) : Signal → Link
  | .ready => {link with established := true}
  | .disconnected => down
  | .welcome => {link with welcomed := true}
  | .timer _ _ | .other => link

theorem follow_welcomed (link : Link) (signal : Signal) : (link.follow signal).welcomed = signal.hears link.welcomed := by
  cases signal <;> rfl

theorem follow_established {link : Link} {signal : Signal} (known : link.welcomed = true → link.established = true)
    (permitted : link.permits signal = true) : (link.follow signal).welcomed = true → (link.follow signal).established = true := by
  cases signal with
  | ready => exact fun _ => rfl
  | disconnected => exact id
  | welcome => exact fun _ => permitted
  | timer | other => exact known

end Link

-- A stream that closes its connection when a deadline has passed.
structure Machine (σ ε : Type) where
  step : σ → ε → Option σ
  signal : σ → ε → Signal
  welcome : σ → Bool
  deadline : σ → Nat
  closings : σ → Nat

structure Watched (σ : Type) where
  link : Link
  system : σ

namespace Machine
variable {σ ε : Type} (m : Machine σ ε)

-- The stream together with the observer; what the connection does not do is no step.
def watched (s : Watched σ) (input : ε) : Option (Watched σ) :=
  if s.link.permits (m.signal s.system input) then
    (m.step s.system input).map fun after => ⟨s.link.follow (m.signal s.system input),after⟩
  else none

def Closes (before after : σ) : Prop := m.closings before < m.closings after

-- The watchdog of one step: a timer that finds no welcome in time closes the
-- connection, after the welcome none does, and the stream has no welcome on
-- record (the assertion that precedes the close) where one does.
structure Timely (before : Watched σ) (input : ε) (after : Watched σ) : Prop where
  closes : ∀ time, (m.signal before.system input).at? = some time → before.link.established = true →
    before.link.welcomed = false → m.deadline before.system < time → m.Closes before.system after.system
  spares : ∀ time, (m.signal before.system input).at? = some time → before.link.welcomed = true →
    ¬ m.Closes before.system after.system
  asserts : ∀ time, (m.signal before.system input).at? = some time → m.Closes before.system after.system →
    m.welcome before.system = false

def late (s : σ) (input : ε) : Bool := (m.signal s input).at?.any fun time => decide (m.deadline s < time)

-- A timer comes upon a peer that has not said welcome in time.
def overdue (s : Watched σ) (input : ε) : Bool := s.link.established && !s.link.welcomed && m.late s.system input

-- Past a deadline, it comes upon a peer that was heard on a stream that is not
-- ready, or upon one that was not while no deadline is set.
def astray (ready : σ → Bool) (s : Watched σ) (input : ε) : Bool :=
  s.link.established && m.late s.system input &&
    if s.link.welcomed then !ready s.system && decide (m.deadline s.system ≠ 0) else decide (m.deadline s.system = 0)

-- The record of the welcome follows the signals, in all states that are `valid`.
structure Hears (valid : σ → Prop) (start : σ) : Prop where
  valid_start : valid start
  valid_step : ∀ s input after, valid s → m.step s input = some after → valid after
  silent : m.welcome start = false
  hears : ∀ s input after, valid s → m.step s input = some after →
    m.welcome after = (m.signal s input).hears (m.welcome s)

-- The deadline is looked at where refresh answers false,
def TestsRefused (valid : σ → Prop) : Prop :=
  ∀ s input after time refresh, valid s → m.signal s input = .timer time refresh → m.step s input = some after →
    m.closings after = m.closings s + if refresh = false ∧ m.deadline s ≠ 0 ∧ m.deadline s < time then 1 else 0

-- or where it answers true and the stream is not ready.
def TestsUnready (valid : σ → Prop) (ready : σ → Bool) : Prop :=
  ∀ s input after time refresh, valid s → m.signal s input = .timer time refresh → m.step s input = some after →
    m.closings after = m.closings s + if refresh = true ∧ ready s = false ∧ m.deadline s ≠ 0 ∧ m.deadline s < time then 1 else 0

variable {m} {valid : σ → Prop} {start : σ} {s after : Watched σ}

theorem watched_parts (ran : m.watched s input = some after) : s.link.permits (m.signal s.system input) = true ∧
    m.step s.system input = some after.system ∧ after.link = s.link.follow (m.signal s.system input) := by
  unfold watched at ran
  split at ran
  · rename_i permitted
    obtain ⟨system,stepped,rfl⟩ := Option.map_eq_some_iff.mp ran
    exact ⟨permitted,stepped,rfl⟩
  · cases ran

structure Sound (m : Machine σ ε) (valid : σ → Prop) (s : Watched σ) : Prop where
  valid : valid s.system
  welcomed : m.welcome s.system = s.link.welcomed
  established : s.link.welcomed = true → s.link.established = true

theorem Hears.step (hears : m.Hears valid start) (sound : m.Sound valid s) (ran : m.watched s input = some after) :
    m.Sound valid after := by
  obtain ⟨permitted,stepped,followed⟩ := watched_parts ran
  refine ⟨hears.valid_step _ _ _ sound.valid stepped,?_,?_⟩
  · rw [hears.hears _ _ _ sound.valid stepped,sound.welcomed,followed,Link.follow_welcomed]
  · rw [followed]
    exact Link.follow_established sound.established permitted

theorem Hears.run (hears : m.Hears valid start) (path : Reached ⟨.down,start⟩ m.watched allowed s) : m.Sound valid s :=
  path.invariant ⟨hears.valid_start,hears.silent,Bool.noConfusion⟩ fun _ _ _ sound _ ran => hears.step sound ran

theorem late_iff : m.late s.system input = true ↔
    ∃ time, (m.signal s.system input).at? = some time ∧ m.deadline s.system < time := by
  rw [late,Option.any_eq_true]
  exact exists_congr fun time => and_congr_right fun _ => decide_eq_true_iff

theorem more_iff (count : Nat) (met : Prop) [Decidable met] : (count < count + if met then 1 else 0) ↔ met := by
  split
  · rename_i holds
    exact iff_of_true (Nat.lt_succ_self count) holds
  · rename_i fails
    exact iff_of_false (Nat.lt_irrefl count) fails

-- What was closed, where the test stands.
theorem TestsRefused.closes_iff (tests : m.TestsRefused valid) (sound : m.Sound valid s) (ran : m.watched s input = some after)
    (known : (m.signal s.system input).at? = some time) : m.Closes s.system after.system ↔
      m.signal s.system input = .timer time false ∧ m.deadline s.system ≠ 0 ∧ m.deadline s.system < time := by
  obtain ⟨refresh,signal⟩ := Signal.at?_timer known
  obtain ⟨_,stepped,_⟩ := watched_parts ran
  rw [Closes,tests _ _ _ time refresh sound.valid signal stepped,more_iff,signal]
  simp

theorem TestsUnready.closes_iff {ready : σ → Bool} (tests : m.TestsUnready valid ready) (sound : m.Sound valid s)
    (ran : m.watched s input = some after) (known : (m.signal s.system input).at? = some time) :
    m.Closes s.system after.system ↔ m.signal s.system input = .timer time true ∧ ready s.system = false ∧
      m.deadline s.system ≠ 0 ∧ m.deadline s.system < time := by
  obtain ⟨refresh,signal⟩ := Signal.at?_timer known
  obtain ⟨_,stepped,_⟩ := watched_parts ran
  rw [Closes,tests _ _ _ time refresh sound.valid signal stepped,more_iff,signal]
  simp

-- On an established connection no timer is refused.
theorem established_refreshes (ran : m.watched s input = some after) (established : s.link.established = true)
    (known : (m.signal s.system input).at? = some time) : m.signal s.system input = .timer time true := by
  obtain ⟨refresh,signal⟩ := Signal.at?_timer known
  have permitted := (watched_parts ran).1
  rw [signal,Link.permits,established] at permitted
  rw [signal]
  simpa using permitted

theorem refused_timely_iff (tests : m.TestsRefused valid) (sound : m.Sound valid s) (ran : m.watched s input = some after) :
    m.Timely s input after ↔ m.overdue s input = false := by
  have idle : ∀ time, (m.signal s.system input).at? = some time → s.link.established = true →
      ¬ m.Closes s.system after.system := by
    intro time known established closed
    have refused := ((tests.closes_iff sound ran known).mp closed).1
    rw [established_refreshes ran established known] at refused
    cases refused
  constructor
  · intro timely
    rw [Bool.eq_false_iff]
    intro late
    simp only [overdue,Bool.and_eq_true,Bool.not_eq_true'] at late
    obtain ⟨⟨established,unheard⟩,past⟩ := late
    obtain ⟨time,known,past⟩ := late_iff.mp past
    exact idle time known established (timely.closes time known established unheard past)
  · intro inTime
    refine ⟨?_,?_,?_⟩
    · intro time known established unheard past
      have late : m.late s.system input = true := late_iff.mpr ⟨time,known,past⟩
      simp [overdue,established,unheard,late] at inTime
    · intro time known heard
      exact idle time known (sound.established heard)
    · intro time known closed
      rw [sound.welcomed,Bool.eq_false_iff]
      intro heard
      exact idle time known (sound.established heard) closed

theorem unready_timely_iff {ready : σ → Bool} (tests : m.TestsUnready valid ready) (sound : m.Sound valid s)
    (waits : ready s.system = true → m.welcome s.system = true) (ran : m.watched s input = some after) :
    m.Timely s input after ↔ m.astray ready s input = false := by
  constructor
  · intro timely
    rw [Bool.eq_false_iff]
    intro lost
    rw [astray,Bool.and_eq_true,Bool.and_eq_true] at lost
    obtain ⟨⟨established,past⟩,lost⟩ := lost
    obtain ⟨time,known,past⟩ := late_iff.mp past
    have asked := established_refreshes ran established known
    cases heard : s.link.welcomed with
    | true =>
        simp only [heard,if_true,Bool.and_eq_true,Bool.not_eq_true',decide_eq_true_eq] at lost
        exact timely.spares time known heard ((tests.closes_iff sound ran known).mpr ⟨asked,lost.1,lost.2,past⟩)
    | false =>
        simp only [heard,Bool.false_eq_true,if_false,decide_eq_true_eq] at lost
        exact ((tests.closes_iff sound ran known).mp (timely.closes time known established heard past)).2.2.1 lost
  · intro inOrder
    have spared : ∀ time, (m.signal s.system input).at? = some time → s.link.welcomed = true →
        ¬ m.Closes s.system after.system := by
      intro time known heard closed
      obtain ⟨_,unready,set,past⟩ := (tests.closes_iff sound ran known).mp closed
      have late : m.late s.system input = true := late_iff.mpr ⟨time,known,past⟩
      simp [astray,sound.established heard,late,heard,unready,set] at inOrder
    refine ⟨?_,spared,?_⟩
    · intro time known established unheard past
      have late : m.late s.system input = true := late_iff.mpr ⟨time,known,past⟩
      have unready : ready s.system = false := by
        rw [Bool.eq_false_iff]
        intro claimed
        have recorded := waits claimed
        rw [sound.welcomed,unheard] at recorded
        cases recorded
      have set : m.deadline s.system ≠ 0 := by
        simpa [astray,established,late,unheard] using inOrder
      exact (tests.closes_iff sound ran known).mpr ⟨established_refreshes ran established known,unready,set,past⟩
    · intro time known closed
      rw [sound.welcomed,Bool.eq_false_iff]
      intro heard
      exact spared time known heard closed

theorem refused_exactly (hears : m.Hears valid start) (tests : m.TestsRefused valid) (inputs : List ε) :
    EveryStep m.watched ⟨.down,start⟩ inputs m.Timely ↔
      EveryStep m.watched ⟨.down,start⟩ inputs (fun s input _ => m.overdue s input = false) := by
  refine everyStep_exactly ?_ ?_ inputs
  · intro s input after path ran late timely
    have inTime := (refused_timely_iff tests (hears.run path) ran).mp timely
    rw [late] at inTime
    cases inTime
  · intro s input after path ran inTime
    exact (refused_timely_iff tests (hears.run path) ran).mpr inTime

theorem unready_exactly {ready : σ → Bool} (hears : m.Hears valid start) (tests : m.TestsUnready valid ready)
    (waits : ∀ s, valid s → ready s = true → m.welcome s = true) (inputs : List ε) :
    EveryStep m.watched ⟨.down,start⟩ inputs m.Timely ↔
      EveryStep m.watched ⟨.down,start⟩ inputs (fun s input _ => m.astray ready s input = false) := by
  refine everyStep_exactly ?_ ?_ inputs
  · intro s input after path ran lost timely
    have sound := hears.run path
    have inOrder := (unready_timely_iff tests sound (waits _ sound.valid) ran).mp timely
    rw [lost] at inOrder
    cases inOrder
  · intro s input after path ran inOrder
    have sound := hears.run path
    exact (unready_timely_iff tests sound (waits _ sound.valid) ran).mpr inOrder

-- Runs that end so are not in time.
theorem refused_fails (hears : m.Hears valid start) (tests : m.TestsRefused valid) (inputs : List ε) (input : ε)
    (ran : (execute m.watched ⟨.down,start⟩ inputs).any (fun s => m.overdue s input && (m.watched s input).isSome) = true) :
    ¬ ∀ inputs, EveryStep m.watched ⟨.down,start⟩ inputs m.Timely := by
  intro all
  obtain ⟨before,after,executed,stepped,late⟩ := met_at_last ⟨.down,start⟩ m.watched m.overdue inputs input ran
  have inTime := (refused_timely_iff tests (hears.run (execute_reached executed)) stepped).mp ((all _).last executed stepped)
  rw [late] at inTime
  cases inTime

theorem unready_fails {ready : σ → Bool} (hears : m.Hears valid start) (tests : m.TestsUnready valid ready)
    (waits : ∀ s, valid s → ready s = true → m.welcome s = true) (inputs : List ε) (input : ε)
    (ran : (execute m.watched ⟨.down,start⟩ inputs).any (fun s => m.astray ready s input && (m.watched s input).isSome) = true) :
    ¬ ∀ inputs, EveryStep m.watched ⟨.down,start⟩ inputs m.Timely := by
  intro all
  obtain ⟨before,after,executed,stepped,lost⟩ := met_at_last ⟨.down,start⟩ m.watched (m.astray ready) inputs input ran
  have sound := hears.run (execute_reached executed)
  have inOrder := (unready_timely_iff tests sound (waits _ sound.valid) stepped).mp ((all _).last executed stepped)
  rw [lost] at inOrder
  cases inOrder

end Machine
end Watchdog
