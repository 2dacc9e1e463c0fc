import KucoinPro.StaleOrderBatches

namespace KucoinPro.StaleOrderDownload
open GuardedRuns StagedWalk AccountSystem OrderEntryREST StaleOrderBatches

variable {E D R : Type} (config : Config) [Download2 D DropCopy.State] [LimitRequest R]

-- The check of GET_STALE_ORDERS finds an empty set, and the queue of the drop
-- copy is checked without log::fatal.
structure Safe (w : World E D R) : Prop where
  emptied : ∀ stream, w.dropCopy = some stream → Walker.state stream.download = (.getStaleOrders : DropCopy.State) →
    (w.request.hasResponse .staleOrders).1 = true → w.request.detailsStaleOrders = []
  checked : ∀ stream, w.dropCopy = some stream → ∀ t staleOrders,
    (DropCopy.checkRequestQueue config t staleOrders (session stream w)).isSome = true

-- The drop copy waits for stale orders that nobody has picked up yet.
def isWaiting (w : World E D R) : Bool :=
  w.dropCopy.any (fun stream => Walker.state stream.download == (.getStaleOrders : DropCopy.State)) &&
    !w.request.detailsStaleOrders.isEmpty

-- The last answer to what was asked for before comes in meanwhile.
def comesLate (w : World E D R) (event : Event) : Bool := commits w event && isWaiting w

def Waiting (c : Session D R) : Prop :=
  DropCopy.stateOf c = .getStaleOrders → c.stream.connectionStatus = .downloading ∧
    (c.request.response .staleOrders = true → c.request.detailsStaleOrders = [])

variable {config}

section dropCopy
variable {c after : Session D R}

theorem Waiting.keeps (waiting : Waiting c) (keeps : DropCopy.Keeps c after) : Waiting after := by
  intro here
  have earlier : DropCopy.stateOf c = .getStaleOrders := keeps.state.symm.trans here
  obtain ⟨status,empty⟩ := waiting earlier
  have unready : DropCopy.isReady c = false := by
    rw [DropCopy.isReady,status]
    rfl
  refine ⟨keeps.status.trans status,?_⟩
  intro set
  rw [keeps.details earlier unready]
  exact empty (keeps.response _ set)

variable [LawfulLimitRequest R]

theorem Waiting.chore (waiting : Waiting c) (chore : DropCopy.Chore c after) : Waiting after := by
  cases chore with
  | keeps keeps => exact waiting.keeps keeps
  | stale =>
      intro here
      refine ⟨(waiting here).1,?_⟩
      intro set
      simp [DropCopy.markRequest] at set
  | token asked =>
      rw [DropCopy.requestPrivateToken_marks _ asked]
      intro here
      obtain ⟨status,empty⟩ := waiting here
      refine ⟨status,?_⟩
      intro set
      exact empty (by simpa [DropCopy.markRequest,Session.emit] using set)

-- Wherever a walk comes to rest in GET_STALE_ORDERS, it has just asked for them.
theorem walk_waiting {during : Session D R} (walk : Walk (DropCopy.onDownload config t) s c d during) :
    Waiting (DropCopy.withDownload (d,during)) := by
  refine walk.rule (fun _ _ => True) (fun s c => s = .getStaleOrders → c.stream.connectionStatus = .downloading ∧
    (c.request.response .staleOrders = true → c.request.detailsStaleOrders = [])) ?_ (fun _ _ _ _ _ _ => trivial) nofun trivial
  intro walker s c _ _ stays here
  subst here
  by_cases empty : c.request.detailsStaleOrders = []
  · simp [DropCopy.onDownload,empty] at stays
  · have waits := DropCopy.onDownload_waits config stays
    simp only [DropCopy.onDownload,empty,if_false] at waits ⊢
    refine ⟨rfl,?_⟩
    intro set
    rw [waits.response] at set
    simp [DropCopy.State.kind] at set

theorem Waiting.moves [LawfulDownload2 D] (waiting : Waiting c) (moves : DropCopy.Moves config event c after) : Waiting after := by
  obtain ⟨moved,stage,chores⟩ := moves
  refine chores.rule (fun _ _ known chore => known.chore chore) ?_
  cases stage with
  | stays => exact waiting
  | dropped _ =>
      intro here
      rw [DropCopy.onDisconnected_state] at here
      cases here
  | walked _ _ walk => exact walk_waiting walk

end dropCopy

def Settled (w : World E D R) : Prop := ∀ stream, w.dropCopy = some stream → Waiting (session stream w)

-- A new query changes nothing else, and a new drop copy has not begun.
theorem renewed_earlier [LawfulDownload2 D] {before : Option (DropCopy D)} (renewed : Renewed before (some stream))
    (here : Walker.state stream.download = (.getStaleOrders : DropCopy.State)) : ∃ earlier, before = some earlier ∧
      stream.download = earlier.download ∧ stream.connectionStatus = earlier.connectionStatus := by
  cases renewed with
  | same => exact ⟨stream,rfl,rfl,rfl⟩
  | created _ =>
      have begins : Walker.state (Download2.create : D) = (.undefined : DropCopy.State) := LawfulDownload2.create_state
      exact absurd (begins.symm.trans here) nofun
  | renewed _ => exact ⟨_,rfl,rfl,rfl⟩

theorem renewed_later {after : Option (DropCopy D)} (renewed : Renewed (some stream) after) :
    ∃ later, after = some later ∧ later.download = stream.download := by
  cases renewed with
  | same => exact ⟨stream,rfl,rfl⟩
  | renewed _ => exact ⟨_,rfl,rfl⟩

omit [LimitRequest R] in
theorem isWaiting_iff {w : World E D R} : isWaiting w = true ↔ (∃ stream, w.dropCopy = some stream ∧
    Walker.state stream.download = (.getStaleOrders : DropCopy.State)) ∧ w.request.detailsStaleOrders ≠ [] := by
  cases present : w.dropCopy <;> simp [isWaiting,present]

variable [Download2 E OrderEntryREST.State]

section safe

variable [LawfulLimitRequest R]

theorem checkResponse_runs {c : Session D R} {before : Session D R → Option (Session D R)}
    (prepared : c.request.response kind = true → (before (DropCopy.hasResponse kind c).2).isSome = true) :
    (DropCopy.checkResponse config t s kind before c).isSome = true := by
  simp only [DropCopy.checkResponse,DropCopy.hasResponse_fst]
  split
  · rename_i set
    rw [Option.isSome_map]
    exact prepared set
  · rfl

omit [Download2 E OrderEntryREST.State] in
theorem settled_safe {w : World E D R} (settled : Settled w) : Safe config w := by
  have emptied : ∀ stream, w.dropCopy = some stream → Walker.state stream.download = (.getStaleOrders : DropCopy.State) →
      w.request.response .staleOrders = true → w.request.detailsStaleOrders = [] :=
    fun stream present here => (settled stream present here).2
  refine ⟨fun stream present here set => emptied stream present here (by simpa using set),?_⟩
  intro stream present t staleOrders
  have known : Walker.state (session stream w).stream.download = (Walker.state stream.download : DropCopy.State) := rfl
  unfold DropCopy.checkRequestQueue
  simp only [known]
  cases here : (Walker.state stream.download : DropCopy.State) with
  | undefined | subscribeBalances | subscribePositions | subscribeOrders | subscribeTrades | done => rfl
  | getBalances | getPositions | getOpenOrders | getTrades => exact checkResponse_runs fun _ => rfl
  | getStaleOrders =>
      apply checkResponse_runs
      intro set
      have empty : (DropCopy.hasResponse .staleOrders (session stream w)).2.request.detailsStaleOrders = [] :=
        emptied stream present here set
      rw [if_pos empty]
      rfl

variable [LawfulDownload2 E] [LawfulDownload2 D]

theorem step_settled {w after : World E D R} (settled : Settled w) (timely : comesLate w event = false)
    (ran : AccountSystem.step config w event = some after) : Settled after := by
  intro stream now
  cases event with
  | dropCopy happened =>
      rcases step_dropCopy config ran with ⟨absent,rfl⟩ | ⟨earlier,c,present,stepped,rfl⟩
      · exact settled stream now
      · obtain rfl := Option.some.inj now
        have start : Waiting (session earlier (receive (.dropCopy happened) w)) := settled earlier present
        exact start.moves (DropCopy.step_moves config stepped)
  | rest happened =>
      intro here
      have renewed := rest_renewed ran
      rw [now] at renewed
      obtain ⟨earlier,present,download,status⟩ := renewed_earlier renewed here
      have waits : Walker.state earlier.download = (.getStaleOrders : DropCopy.State) := by
        rw [← download]
        exact here
      obtain ⟨unready,empty⟩ := settled earlier present waits
      refine ⟨status.trans unready,?_⟩
      intro set
      cases step_batches ran with
      | copied other => cases other
      | kept _ _ _ same flag => exact same.details.trans (empty (flag set))
      | picked _ _ batched => exact batched.details
      | answered _ _ detail counter _ details flag =>
          refine details.trans ?_
          have reached : after.request.response .staleOrders = true := set
          rw [flag,Bool.or_eq_true] at reached
          rcases reached with last | before
          · have late : commits w (.rest happened) = true := by
              simp only [decide_eq_true_eq] at last
              simp only [commits,detail,Bool.true_and,beq_iff_eq]
              omega
            rw [comesLate,late,Bool.true_and] at timely
            by_contra filled
            rw [isWaiting_iff.mpr ⟨⟨earlier,present,waits⟩,filled⟩] at timely
            cases timely
          · exact empty before

theorem reached_settled {w : World E D R} (path : Run config (fun w event => comesLate w event = false) w) : Settled w := by
  induction path with
  | start => intro stream none; cases none
  | step _ kept ran ih => exact step_settled ih kept ran

theorem late_endangers {w after : World E D R} (late : comesLate w event = true)
    (ran : AccountSystem.step config w event = some after) : ¬ Safe config after := by
  intro safe
  simp only [comesLate,Bool.and_eq_true] at late
  obtain ⟨last,waiting⟩ := late
  obtain ⟨⟨stream,present,here⟩,filled⟩ := isWaiting_iff.mp waiting
  have detail : isDetail w event = true := by
    simp only [commits,Bool.and_eq_true] at last
    exact last.1
  have set := commits_exactly ran detail
  rw [last,Bool.true_or] at set
  cases step_batches ran with
  | copied same => subst same; cases detail
  | kept _ _ other => rw [other] at detail; cases detail
  | picked same => subst same; cases detail
  | answered same _ _ _ _ details =>
      subst same
      have renewed := rest_renewed ran
      rw [present] at renewed
      obtain ⟨later,now,download⟩ := renewed_later renewed
      apply filled
      rw [← details]
      refine safe.emptied later now ?_ (by simpa using set)
      rw [download]
      exact here

-- The check is safe in exactly the runs in which no such answer comes late.
theorem stale_check_is_safe (config : Config) (events : List Event) :
    EveryStep (AccountSystem.step config) (initial : World E D R) events (fun _ _ after => Safe config after) ↔
      EveryStep (AccountSystem.step config) (initial : World E D R) events (fun w event _ => comesLate w event = false) := by
  apply everyStep_exactly
  · intro w event after _ ran late
    exact late_endangers late ran
  · intro w event after path ran timely
    exact settled_safe (step_settled (reached_settled path) timely ran)

end safe

section closed
open Smallest

def order : Order := ⟨1,7,"XBTUSDTM","C1","E1"⟩

def later : TraceInfo := ⟨1,1⟩

-- A session that is READY and finds the order stale: it is asked for.
def readyWithBatch : List Event :=
  toStaleOrders [] ++ [ack "SUBSCRIBE_TRADES",.dropCopy (.timer later 1 true [order]),
    .rest (.timer t true (fun _ => true) (fun _ _ => some order) [])]

-- The next session finds another one before the answer is there.
def nextSession : List Event :=
  [drop,welcome,ack "SUBSCRIBE_BALANCES",poll,answer 5 (reply "ok"),tick,
    ack "SUBSCRIBE_POSITIONS",poll,answer 6 (reply "ok"),tick,
    ack "SUBSCRIBE_ORDERS",poll,answer 7 (reply "ok"),stale [⟨1,8,"XBTUSDTM","C2","E2"⟩]]

theorem stale_check_is_safe_timely :
    EveryStep (AccountSystem.step (setup true)) (initial : Small) (readyWithBatch ++ [answer 4 (reply "ok")] ++ nextSession)
      (fun _ _ after => Safe (setup true) after) := by
  apply (stale_check_is_safe (setup true) (readyWithBatch ++ [answer 4 (reply "ok")] ++ nextSession)).mpr
  apply everyStep_never (fun (w : Small) event => comesLate w event)
  decide +kernel

theorem late_answer_is_fatal : ¬ ∀ events,
    EveryStep (AccountSystem.step (setup true)) (initial : Small) events (fun _ _ after => Safe (setup true) after) := by
  intro all
  obtain ⟨w,after,executed,stepped,late⟩ := met_at_last (initial : Small) (AccountSystem.step (setup true))
    comesLate (readyWithBatch ++ nextSession) (answer 4 (reply "ok")) (by decide +kernel)
  exact late_endangers late stepped ((all _).last executed stepped)

-- And the timer that comes next ends the process.
example : execute (AccountSystem.step (setup true)) (initial : Small)
    (readyWithBatch ++ nextSession ++ [answer 4 (reply "ok"),tick]) = none := by
  have none : (execute (AccountSystem.step (setup true)) (initial : Small)
    (readyWithBatch ++ nextSession ++ [answer 4 (reply "ok"),tick])).isNone = true := by decide +kernel
  exact Option.isNone_iff_eq_none.mp none

end closed
end KucoinPro.StaleOrderDownload
