import KucoinPro.Types

namespace KucoinPro.Throttle

def DEFAULT_BACKOFF : Nanoseconds := 5 * 1000000000
def BLOCKED_BACKOFF : Nanoseconds := 10 * 60 * 1000000000

def FORBIDDEN : Nat := 403
def TOO_MANY_REQUESTS : Nat := 429

inductive Header where
  | unknown
  | gwRatelimitRemaining
  | gwRatelimitLimit
  | gwRatelimitReset
  deriving DecidableEq, Repr

def HEADERS : List String := ["gw-ratelimit-remaining","gw-ratelimit-limit","gw-ratelimit-reset"]

-- FNV::compute and from_chars. The values of the three names differ or the switch
-- would not compile.
structure Utils where
  compute : String → Nat
  distinct : (HEADERS.map compute).Nodup
  fromChars : String → Int

def parseHeader (utils : Utils) (text : String) : Header :=
  let key := utils.compute (text.map Char.toLower)
  if key = utils.compute "gw-ratelimit-remaining" then .gwRatelimitRemaining
  else if key = utils.compute "gw-ratelimit-limit" then .gwRatelimitLimit
  else if key = utils.compute "gw-ratelimit-reset" then .gwRatelimitReset
  else .unknown

-- As asserted next to it.
theorem parseHeader_headers (utils : Utils) :
    HEADERS.map (parseHeader utils) = [.gwRatelimitRemaining,.gwRatelimitLimit,.gwRatelimitReset] := by
  have apart := utils.distinct
  simp only [HEADERS,List.map_cons,List.map_nil,List.nodup_cons,List.mem_cons,List.not_mem_nil,or_false,not_or] at apart
  obtain ⟨⟨limit,reset⟩,last,_⟩ := apart
  have lowered : HEADERS.map (fun text => text.map Char.toLower) = HEADERS := by decide +kernel
  simp only [HEADERS,List.map_cons,List.map_nil,List.cons.injEq,and_true] at lowered
  obtain ⟨one,two,three⟩ := lowered
  simp only [HEADERS,List.map_cons,List.map_nil,parseHeader,one,two,three,if_true,Ne.symm limit,Ne.symm reset,Ne.symm last,if_false]

structure Params where
  remaining : Int
  limit : Int
  reset : Int
  deriving DecidableEq, Repr

structure State where
  enabled : Bool
  params : Params
  suspendUntil : Nanoseconds
  deriving DecidableEq, Repr

def create (enabled : Bool) : State := ⟨enabled,⟨0,0,0⟩,0⟩

-- What the interceptor of every REST and websocket connection is told. The end
-- of a message is stamped with the clock value its handler reads.
inductive Event where
  | messageBegin
  | messageHeader (name value : String)
  | messageEnd (now : Nanoseconds) (status : Nat)
  deriving DecidableEq, Repr

-- The part of update_suspend_until that would follow is commented out.
def messageHeader (utils : Utils) (s : State) (name value : String) : State :=
  match parseHeader utils name with
  | .unknown => s
  | .gwRatelimitRemaining => {s with params.remaining := utils.fromChars value}
  | .gwRatelimitLimit => {s with params.limit := utils.fromChars value}
  | .gwRatelimitReset => {s with params.reset := utils.fromChars value}

def messageEnd (s : State) (now : Nanoseconds) (status : Nat) : State :=
  if !s.enabled then s
  else if status = FORBIDDEN then {s with suspendUntil := max s.suspendUntil (now + BLOCKED_BACKOFF)}
  else if status = TOO_MANY_REQUESTS then
    if s.suspendUntil = 0 then {s with suspendUntil := now + DEFAULT_BACKOFF} else s
  else s

def step (utils : Utils) (s : State) : Event → State
  | .messageBegin => s
  | .messageHeader name value => messageHeader utils s name value
  | .messageEnd now status => messageEnd s now status

def run (utils : Utils) (s : State) (events : List Event) : State := events.foldl (step utils) s

theorem run_append : run utils s (earlier ++ later) = run utils (run utils s earlier) later := by
  simp [run]

-- What one handled event owes, given the throttle before and after it.
structure BacksOff (before : State) (event : Event) (after : State) : Prop where
  disabled : before.enabled = false → after.suspendUntil = 0
  monotone : before.enabled = true → before.suspendUntil ≤ after.suspendUntil
  rejected : before.enabled = true → ∀ now, event = .messageEnd now TOO_MANY_REQUESTS → now + DEFAULT_BACKOFF ≤ after.suspendUntil
  blocked : before.enabled = true → ∀ now, event = .messageEnd now FORBIDDEN → now + BLOCKED_BACKOFF ≤ after.suspendUntil
  others : before.enabled = true → (∀ now, event ≠ .messageEnd now TOO_MANY_REQUESTS ∧ event ≠ .messageEnd now FORBIDDEN) →
    after.suspendUntil = before.suspendUntil

-- The condition of the 429 branch under which it does suspend.
def Suspends (s : State) (now : Nanoseconds) : Prop :=
  s.suspendUntil = 0 ∨ now + DEFAULT_BACKOFF ≤ s.suspendUntil

@[simp] theorem messageHeader_enabled (s : State) : (messageHeader utils s name value).enabled = s.enabled := by
  unfold messageHeader; split <;> rfl

@[simp] theorem messageHeader_suspendUntil (s : State) :
    (messageHeader utils s name value).suspendUntil = s.suspendUntil := by
  unfold messageHeader; split <;> rfl

theorem messageEnd_forbidden (enabled : s.enabled = true) :
    messageEnd s now FORBIDDEN = {s with suspendUntil := max s.suspendUntil (now + BLOCKED_BACKOFF)} := by
  simp [messageEnd,enabled]

theorem messageEnd_tooManyRequests (enabled : s.enabled = true) : messageEnd s now TOO_MANY_REQUESTS =
    if s.suspendUntil = 0 then {s with suspendUntil := now + DEFAULT_BACKOFF} else s := by
  simp [messageEnd,enabled,TOO_MANY_REQUESTS,FORBIDDEN]

theorem messageEnd_other (blocked : status ≠ FORBIDDEN) (rejected : status ≠ TOO_MANY_REQUESTS) :
    messageEnd s now status = s := by
  simp [messageEnd,blocked,rejected]

theorem messageEnd_disabled (disabled : s.enabled = false) : messageEnd s now status = s := by
  simp [messageEnd,disabled]

theorem step_enabled (utils : Utils) (s : State) (event : Event) : (step utils s event).enabled = s.enabled := by
  cases event with
  | messageBegin => rfl
  | messageHeader name value => exact messageHeader_enabled s
  | messageEnd now status =>
      show (messageEnd s now status).enabled = s.enabled
      unfold messageEnd
      split
      · rfl
      · split
        · rfl
        · split
          · split <;> rfl
          · rfl

theorem run_enabled (s : State) (events : List Event) : (run utils s events).enabled = s.enabled := by
  induction events generalizing s with
  | nil => rfl
  | cons event rest ih => exact (ih (step utils s event)).trans (step_enabled utils s event)

theorem step_disabled (disabled : s.enabled = false) (event : Event) :
    (step utils s event).suspendUntil = s.suspendUntil := by
  cases event with
  | messageBegin => rfl
  | messageHeader name value => exact messageHeader_suspendUntil s
  | messageEnd now status => exact congrArg State.suspendUntil (messageEnd_disabled disabled)

theorem run_disabled (disabled : s.enabled = false) (events : List Event) :
    (run utils s events).suspendUntil = s.suspendUntil := by
  induction events generalizing s with
  | nil => rfl
  | cons event rest ih =>
      have still := (step_enabled utils s event).trans disabled
      exact (ih still).trans (step_disabled disabled event)

theorem step_monotone (enabled : s.enabled = true) (event : Event) :
    s.suspendUntil ≤ (step utils s event).suspendUntil := by
  cases event with
  | messageBegin => exact Nat.le_refl _
  | messageHeader name value => exact Nat.le_of_eq (messageHeader_suspendUntil s).symm
  | messageEnd now status =>
      by_cases blocked : status = FORBIDDEN
      · subst blocked
        simp only [step,messageEnd_forbidden enabled]
        exact Nat.le_max_left _ _
      · by_cases rejected : status = TOO_MANY_REQUESTS
        · subst rejected
          simp only [step,messageEnd_tooManyRequests enabled]
          split
          · rename_i fresh
            simp [fresh]
          · exact Nat.le_refl _
        · simp only [step,messageEnd_other blocked rejected]
          exact Nat.le_refl _

theorem step_unchanged
    (other : ∀ now, event ≠ .messageEnd now TOO_MANY_REQUESTS ∧ event ≠ .messageEnd now FORBIDDEN) :
    (step utils s event).suspendUntil = s.suspendUntil := by
  cases event with
  | messageBegin => rfl
  | messageHeader name value => exact messageHeader_suspendUntil s
  | messageEnd now status =>
      have blocked : status ≠ FORBIDDEN := fun equal => (other now).2 (by rw [equal])
      have rejected : status ≠ TOO_MANY_REQUESTS := fun equal => (other now).1 (by rw [equal])
      simp only [step,messageEnd_other blocked rejected]

-- One event of an enabled throttle backs off exactly when it is not a 429 that
-- meets a suspension ending before its own backoff would.
theorem step_backsOff_iff (enabled : s.enabled = true) : BacksOff s event (step utils s event) ↔
    ∀ now, event = .messageEnd now TOO_MANY_REQUESTS → Suspends s now := by
  constructor
  · rintro owed now rfl
    have reached := owed.rejected enabled now rfl
    simp only [step,messageEnd_tooManyRequests enabled] at reached
    split at reached
    · rename_i fresh
      exact .inl fresh
    · exact .inr reached
  · intro suspends
    refine ⟨by simp [enabled],fun _ => step_monotone enabled event,?_,?_,fun _ other => step_unchanged other⟩
    · rintro _ now rfl
      simp only [step,messageEnd_tooManyRequests enabled]
      split
      · exact Nat.le_refl _
      · rename_i running
        exact (suspends now rfl).resolve_left running
    · rintro _ now rfl
      simp only [step,messageEnd_forbidden enabled]
      exact Nat.le_max_right _ _

def BacksOffAlong (utils : Utils) (enabled : Bool) (events : List Event) : Prop :=
  ∀ earlier event later, events = earlier ++ event :: later →
    BacksOff (run utils (create enabled) earlier) event (run utils (create enabled) (earlier ++ [event]))

theorem backsOffAlong_iff (utils : Utils) (enabled : Bool) (events : List Event) :
    BacksOffAlong utils enabled events ↔ enabled = false ∨
      ∀ earlier now later, events = earlier ++ .messageEnd now TOO_MANY_REQUESTS :: later →
        Suspends (run utils (create enabled) earlier) now := by
  have last : ∀ earlier event, run utils (create enabled) (earlier ++ [event]) =
      step utils (run utils (create enabled) earlier) event := fun _ _ => run_append
  have flag : ∀ earlier, (run utils (create enabled) earlier).enabled = enabled := run_enabled (create enabled)
  cases enabled with
  | false =>
      refine ⟨fun _ => .inl rfl,fun _ earlier event later _ => ?_⟩
      have off := flag earlier
      refine ⟨fun _ => run_disabled rfl _,?_,?_,?_,?_⟩
      all_goals intro on; rw [off] at on; cases on
  | true =>
      constructor
      · intro owed
        refine .inr fun earlier now later split => ?_
        have one := owed earlier _ later split
        rw [last] at one
        exact (step_backsOff_iff (flag earlier)).mp one now rfl
      · rintro (off | suspends) earlier event later split
        · cases off
        · rw [last]
          exact (step_backsOff_iff (flag earlier)).mpr (fun now equal => suspends earlier now later (equal ▸ split))

-- The ends of the suspensions that a run has had, from its events alone. The first
-- rejection has one whatever its status is, behind it only a 403 has.
def suspensions (rejected : Bool) : List Event → List Nanoseconds
  | [] => []
  | .messageEnd now status :: rest =>
      if status = FORBIDDEN then (now + BLOCKED_BACKOFF) :: suspensions true rest
      else if status = TOO_MANY_REQUESTS ∧ !rejected then (now + DEFAULT_BACKOFF) :: suspensions true rest
      else suspensions rejected rest
  | .messageBegin :: rest | .messageHeader _ _ :: rest => suspensions rejected rest

theorem suspensions_positive (listed : ending ∈ suspensions rejected events) : 0 < ending := by
  induction events generalizing rejected with
  | nil => cases listed
  | cons event rest ih =>
      cases event with
      | messageBegin | messageHeader => exact ih listed
      | messageEnd now status =>
          rw [suspensions] at listed
          split at listed
          · obtain rfl | later := List.mem_cons.mp listed
            · exact Nat.add_pos_right _ (by decide)
            · exact ih later
          · split at listed
            · obtain rfl | later := List.mem_cons.mp listed
              · exact Nat.add_pos_right _ (by decide)
              · exact ih later
            · exact ih listed

-- The throttle is suspended up to the last of these ends.
theorem run_reaches (enabled : s.enabled = true) (known : rejected = true ↔ 0 < s.suspendUntil) (events : List Event)
    (time : Nanoseconds) : time ≤ (run utils s events).suspendUntil ↔
      time ≤ s.suspendUntil ∨ ∃ ending ∈ suspensions rejected events, time ≤ ending := by
  induction events generalizing s rejected with
  | nil => simp [run,suspensions]
  | cons event rest ih =>
      have next {rejected : Bool} := @ih rejected (step utils s event) ((step_enabled utils s event).trans enabled)
      show time ≤ (run utils (step utils s event) rest).suspendUntil ↔ _
      cases event with
      | messageBegin => exact next known
      | messageHeader name value =>
          simp only [step,messageHeader_suspendUntil] at next ⊢
          exact next known
      | messageEnd now status =>
          have backoff : 0 < now + DEFAULT_BACKOFF := Nat.add_pos_right _ (by decide)
          rw [suspensions]
          by_cases blocked : status = FORBIDDEN
          · subst blocked
            simp only [step,messageEnd_forbidden enabled,if_true] at next ⊢
            have running : 0 < max s.suspendUntil (now + BLOCKED_BACKOFF) :=
              Nat.lt_of_lt_of_le (Nat.add_pos_right _ (by decide)) (Nat.le_max_right _ _)
            rw [next (iff_of_true rfl running),List.exists_mem_cons_iff,Std.le_max,or_assoc]
          · by_cases first : status = TOO_MANY_REQUESTS ∧ s.suspendUntil = 0
            · obtain ⟨rfl,fresh⟩ := first
              have free : rejected = false := by simpa [fresh] using known
              simp only [step,messageEnd_tooManyRequests enabled,fresh,if_true] at next ⊢
              rw [next (iff_of_true rfl backoff),if_neg blocked,if_pos (by simp [free]),List.exists_mem_cons_iff]
              constructor
              · exact .inr
              · rintro (zero | reached)
                · exact .inl (Nat.le_trans zero (Nat.zero_le _))
                · exact reached
            · have same : messageEnd s now status = s := by
                by_cases limited : status = TOO_MANY_REQUESTS
                · subst limited
                  rw [messageEnd_tooManyRequests enabled,if_neg (first ⟨rfl,·⟩)]
                · exact messageEnd_other blocked limited
              simp only [step,same] at next ⊢
              have passed : ¬ (status = TOO_MANY_REQUESTS ∧ (!rejected) = true) := by
                rintro ⟨limited,free⟩
                have idle : ¬ 0 < s.suspendUntil := fun running => by simp [known.mpr running] at free
                exact first ⟨limited,Nat.eq_zero_of_not_pos idle⟩
              rw [next known,if_neg blocked,if_neg passed]

theorem suspends_iff (utils : Utils) (events : List Event) (now : Nanoseconds) :
    Suspends (run utils (create true) events) now ↔
      suspensions false events = [] ∨ ∃ ending ∈ suspensions false events, now + DEFAULT_BACKOFF ≤ ending := by
  have reaches (time : Nanoseconds) : time ≤ (run utils (create true) events).suspendUntil ↔
      time ≤ 0 ∨ ∃ ending ∈ suspensions false events, time ≤ ending := run_reaches rfl (by decide) events time
  have idle : (run utils (create true) events).suspendUntil = 0 ↔ suspensions false events = [] := by
    have one := reaches 1
    constructor
    · intro zero
      refine List.eq_nil_iff_forall_not_mem.mpr fun ending listed => ?_
      have running := one.mpr (.inr ⟨ending,listed,suspensions_positive listed⟩)
      rw [zero] at running
      cases running
    · intro none
      simp only [none,List.not_mem_nil,false_and,exists_false,or_false] at one
      exact Nat.eq_zero_of_not_pos fun running => absurd (one.mp running) (by decide)
  rw [Suspends,idle,reaches]
  have positive : ¬ now + DEFAULT_BACKOFF ≤ 0 := Nat.not_le_of_gt (Nat.add_pos_right _ (by decide))
  rw [or_iff_right positive]

-- A 429 is backed off from where no rejection came before it, or one whose
-- suspension is the longer.
theorem backs_off_iff (utils : Utils) (enabled : Bool) (events : List Event) :
    (BacksOffAlong utils enabled events ↔ enabled = false ∨
      ∀ earlier now later, events = earlier ++ .messageEnd now TOO_MANY_REQUESTS :: later →
        Suspends (run utils (create enabled) earlier) now) ∧
    (BacksOffAlong utils enabled events ↔ enabled = false ∨
      ∀ earlier now later, events = earlier ++ .messageEnd now TOO_MANY_REQUESTS :: later →
        suspensions false earlier = [] ∨ ∃ ending ∈ suspensions false earlier, now + DEFAULT_BACKOFF ≤ ending) := by
  refine ⟨backsOffAlong_iff utils enabled events,?_⟩
  rw [backsOffAlong_iff]
  cases enabled with
  | false => simp only [true_or]
  | true => simp only [suspends_iff]

def clock : Event → Option Nanoseconds
  | .messageEnd now _ => some now
  | _ => none

theorem second_rejection_ignored : ¬ ∀ events : List Event, (events.filterMap clock).Pairwise (· ≤ ·) →
    BacksOffAlong ⟨fnv,by decide +kernel,fun _ => 0⟩ true events := by
  intro all
  have owed := all [.messageEnd 1000000000 429,.messageEnd 100000000000 429] (by simp [clock])
    [.messageEnd 1000000000 429] _ [] rfl
  have reached := owed.rejected rfl 100000000000 rfl
  revert reached
  decide

end KucoinPro.Throttle
