import Mathlib.Logic.Relation
import KucoinPro.DropCopy
import KucoinPro.History

namespace KucoinPro.DropCopy
open StagedWalk Relation

variable {D R : Type} (config : Config)

def stateOf [Download2 D State] (c : Session D R) : State := Walker.state c.stream.download

-- Effects that neither publish a status nor come from the download.
def quiet : Effect → Bool
  | .sendText _ | .suspendFor _ | .close => true
  | _ => false

variable [Download2 D State] [LimitRequest R]

-- A part of a handler that leaves the download where it is and no response
-- flagged that was not.
structure Tame (before after : Session D R) : Prop where
  state : stateOf after = stateOf before
  response : ∀ k, after.request.response k = true → before.request.response k = true
  log : ∃ fresh : List Effect, after.log = fresh.map .effect ++ before.log ∧ ∀ e ∈ fresh, quiet e = true

theorem Tame.trans {a b c : Session D R} (one : Tame a b) (two : Tame b c) : Tame a c :=
  ⟨two.state.trans one.state,fun k flagged => one.response k (two.response k flagged),History.newer_trans one.log two.log⟩

-- One that asks for nothing either, and adds to the stale orders only while no
-- one waits for them.
structure Keeps (before after : Session D R) : Prop extends Tame before after where
  query : after.stream.query = before.stream.query
  pending : ∀ k, after.request.pending k = before.request.pending k
  status : after.stream.connectionStatus = before.stream.connectionStatus
  details : stateOf before = .getStaleOrders → isReady before = false →
    after.request.detailsStaleOrders = before.request.detailsStaleOrders

theorem Keeps.fields {before after : Session D R} (download : after.stream.download = before.stream.download)
    (query : after.stream.query = before.stream.query) (limit : after.request.limit = before.request.limit)
    (log : after.log = before.log) (status : after.stream.connectionStatus = before.stream.connectionStatus)
    (details : stateOf before = .getStaleOrders → isReady before = false →
      after.request.detailsStaleOrders = before.request.detailsStaleOrders) : Keeps before after := by
  refine ⟨⟨congrArg Walker.state download,?_,[],log,by simp⟩,query,?_,status,details⟩
  · intro k
    simp [Request.response,limit]
  · intro k
    simp [Request.pending,limit]

theorem Keeps.refl (c : Session D R) : Keeps c c := .fields rfl rfl rfl rfl rfl fun _ _ => rfl

theorem Keeps.trans {a b c : Session D R} (one : Keeps a b) (two : Keeps b c) : Keeps a c :=
  ⟨one.toTame.trans two.toTame,two.query.trans one.query,fun k => (two.pending k).trans (one.pending k),
    two.status.trans one.status,fun waits unready => (two.details (one.state.trans waits)
      (by rwa [isReady,one.status])).trans (one.details waits unready)⟩

theorem Keeps.emit (c : Session D R) (silent : quiet e = true) : Keeps c (c.emit e) :=
  ⟨⟨rfl,fun _ h => h,[e],rfl,by simpa using silent⟩,rfl,fun _ => rfl,rfl,fun _ _ => rfl⟩

-- The stages at which an event may start a walk of the download.
inductive Starts (event : DropCopyEvent) (c : Session D R) : State → Prop where
  | welcome : event = .welcome t → Starts event c .subscribeBalances
  | again : event = .welcome t → Download2.downloading c.stream.download = true → Starts event c (stateOf c)
  | acked : event = .ack t message → State.ofName message.id = some (stateOf c) →
      Download2.downloading c.stream.download = true → Starts event c (stateOf c).next
  | ackedIdle : event = .ack t message → State.ofName message.id = some (stateOf c) →
      Download2.downloading c.stream.download = false → Starts event c .subscribeBalances
  | answered : event = .timer t now refresh staleOrders → (stateOf c).kind = some kind →
      c.request.response kind = true → Starts event c (stateOf c).next

-- What an event does to the download.
inductive Stage (event : DropCopyEvent) (c : Session D R) : Session D R → Prop where
  | stays : Stage event c c
  | dropped : event = .disconnected t → Stage event c (onDisconnected config c)
  | walked : Starts event c s → Keeps c during → Walk (onDownload config t) s during d after →
      Stage event c (withDownload (d,after))

-- What is done besides: nothing that moves the download.
inductive Chore : Session D R → Session D R → Prop where
  | keeps : Keeps before after → Chore before after
  | stale : Chore before (markRequest t .staleOrders before)
  | token : before.stream.query ≠ "" → Chore before (requestPrivateToken t before)

abbrev Chores : Session D R → Session D R → Prop := ReflTransGen Chore

-- All that a handler of the drop copy can do, in one place: every invariant of
-- the stream is shown for a stage and for a chore and nothing else.
def Moves (event : DropCopyEvent) (c after : Session D R) : Prop := ∃ moved, Stage config event c moved ∧ Chores moved after

section lemmas
variable {config} {c during moved after : Session D R}

theorem Stage.moves (stage : Stage config event c moved) : Moves config event c moved := ⟨moved,stage,.refl⟩

theorem Chores.moves (chores : Chores c after) : Moves config event c after := ⟨c,.stays,chores⟩

theorem Keeps.moves (keeps : Keeps c after) : Moves config event c after := Chores.moves (.single (.keeps keeps))

theorem Moves.chores (moves : Moves config event c during) (chores : Chores during after) : Moves config event c after := by
  obtain ⟨moved,stage,first⟩ := moves
  exact ⟨moved,stage,first.trans chores⟩

variable (config)

-- What the download leaves behind at a state it waits in: the state announced,
-- its request marked, and perhaps a subscription sent.
structure Waits (s : State) (before after : Session D R) : Prop where
  query : after.stream.query = before.stream.query
  pending : ∀ k, after.request.pending k = (decide (s.kind = some k) || before.request.pending k)
  response : ∀ k, after.request.response k = (!decide (s.kind = some k) && before.request.response k)
  log : ∃ fresh : List Effect, after.log = fresh.map .effect ++
    .effect (.streamStatus (streamStatus config .downloading s.name)) :: before.log ∧ ∀ e ∈ fresh, quiet e = true

omit [Download2 D State] in
theorem subscribe_waits {c : Session D R} (message : String) (own : s.kind = none) :
    Waits config s c ((onConnectionStatus config .downloading s.name c).emit (.sendText message)) := by
  refine ⟨rfl,?_,?_,[.sendText message],rfl,by simp [quiet]⟩
  all_goals simp [own,onConnectionStatus,Session.emit]

omit [Download2 D State] in
theorem mark_waits [LawfulLimitRequest R] {c : Session D R} (t : TraceInfo) (own : s.kind = some kind) :
    Waits config s c (markRequest t kind (onConnectionStatus config .downloading s.name c)) := by
  refine ⟨rfl,?_,?_,[],rfl,by simp⟩
  all_goals
    intro k
    simp [own,markRequest,onConnectionStatus,Session.emit,eq_comm]

omit [Download2 D State] in
theorem onDownload_waits [LawfulLimitRequest R] {c : Session D R} (waiting : (onDownload config t d s c).1 ≠ 0) :
    Waits config s c (onDownload config t d s c).2 := by
  cases s with
  | undefined => exact absurd rfl waiting
  | subscribeBalances | subscribePositions | subscribeOrders | subscribeTrades => exact subscribe_waits config _ rfl
  | getBalances | getPositions | getOpenOrders => exact mark_waits config t rfl
  | getStaleOrders =>
      by_cases empty : c.request.detailsStaleOrders = []
      · simp [onDownload,empty] at waiting
      · simp only [onDownload,empty,if_false]
        exact mark_waits config t rfl
  | getTrades =>
      by_cases none : config.settings.downloadTradesLookback = 0
      · simp [onDownload,none] at waiting
      · simp only [onDownload,none,if_false]
        exact mark_waits config t rfl
  | done => exact absurd rfl waiting

omit [Download2 D State] in
theorem subscribe_pauses {c : Session D R} (subscribing : s.isSubscribe = true) : (onDownload config t d s c).1 ≠ 0 := by
  cases s <;> first | cases subscribing; done | nofun

omit [Download2 D State] in
theorem onDownload_passes {c : Session D R} (working : s ≠ .done) (passing : (onDownload config t d s c).1 = 0) :
    (onDownload config t d s c).2 = c := by
  cases s with
  | undefined => rfl
  | subscribeBalances | subscribePositions | subscribeOrders | subscribeTrades => cases passing
  | getBalances | getPositions | getOpenOrders => cases passing
  | getStaleOrders =>
      by_cases empty : c.request.detailsStaleOrders = []
      · simp [onDownload,empty]
      · simp [onDownload,empty] at passing
  | getTrades =>
      by_cases none : config.settings.downloadTradesLookback = 0
      · simp [onDownload,none]
      · simp [onDownload,none] at passing
  | done => exact absurd rfl working

theorem Chores.rule {valid : Session D R → Prop} (each : ∀ before after, valid before → Chore before after → valid after)
    (chores : Chores c after) (start : valid c) : valid after := by
  induction chores with
  | refl => exact start
  | tail _ chore ih => exact each _ _ ih chore

omit [Download2 D State] in
theorem requestPrivateToken_marks (t : TraceInfo) {c : Session D R} (asked : c.stream.query ≠ "") :
    requestPrivateToken t c = markRequest t .privateToken ({c with stream.query := ""}.emit (.suspendFor SUSPEND_FOR)) := by
  rw [requestPrivateToken,if_neg asked]

theorem Chore.tame [LawfulLimitRequest R] {before after : Session D R} (chore : Chore before after) : Tame before after := by
  cases chore with
  | keeps keeps => exact keeps.toTame
  | stale => exact ⟨rfl,by simp [markRequest],[],rfl,by simp⟩
  | token asked =>
      rw [requestPrivateToken_marks _ asked]
      exact ⟨rfl,by simp [markRequest,Session.emit],[.suspendFor SUSPEND_FOR],rfl,by simp [quiet]⟩

theorem Chores.tame [LawfulLimitRequest R] {before after : Session D R} (chores : Chores before after) : Tame before after :=
  chores.rule (fun _ _ earlier chore => earlier.trans chore.tame) (Keeps.refl before).toTame

theorem hasResponse_keeps [LawfulLimitRequest R] (kind : Kind) (c : Session D R) : Keeps c (hasResponse kind c).2 :=
  ⟨⟨rfl,fun _ => Request.hasResponse_response,[],rfl,by simp⟩,rfl,fun _ => Request.hasResponse_pending,rfl,fun _ _ => rfl⟩

omit [Download2 D State] in
@[simp] theorem hasResponse_fst [LawfulLimitRequest R]
    (kind : Kind) (c : Session D R) : (hasResponse kind c).1 = c.request.response kind := by
  simp [hasResponse]

theorem checkStaleOrders_keeps (staleOrders : List Order) (c : Session D R)
    (settled : stateOf c = .getStaleOrders → isReady c = true) : Keeps c (checkStaleOrders staleOrders c).2 := by
  unfold checkStaleOrders
  refine (List.foldlRecOn (motive := fun walked : Bool × Session D R =>
    Keeps c walked.2 ∧ (stateOf walked.2 = .getStaleOrders → isReady walked.2 = true)) staleOrders _ ⟨.refl c,settled⟩ ?_).1
  intro walked earlier order _
  obtain ⟨found,walked⟩ := walked
  obtain ⟨keeps,settled⟩ := earlier
  simp only
  split
  · exact ⟨keeps,settled⟩
  · have one : Keeps walked {walked with
        request.detailsStaleOrders := (order.userId,order.orderId) :: walked.request.detailsStaleOrders} :=
      .fields rfl rfl rfl rfl rfl fun waits unready => by rw [settled waits] at unready; cases unready
    exact ⟨keeps.trans one,settled⟩

omit [Download2 D State] [LimitRequest R] in
theorem checkStaleOrders_stream (staleOrders : List Order) (c : Session D R) :
    (checkStaleOrders staleOrders c).2.stream = c.stream := by
  unfold checkStaleOrders
  refine List.foldlRecOn (motive := fun walked : Bool × Session D R => walked.2.stream = c.stream) staleOrders _ rfl ?_
  intro walked same order _
  simp only
  split
  · exact same
  · exact same

theorem ping_keeps (t : TraceInfo) (now : Nanoseconds) (c : Session D R) : Keeps c (ping t now c) := by
  unfold ping
  split
  · have one : Keeps c {c with stream.nextPing := t.originCreateTime + PING_FREQUENCY / 2} := .fields rfl rfl rfl rfl rfl fun _ _ => rfl
    exact one.trans (.emit _ rfl)
  · exact .refl c

theorem requestPrivateToken_chores (t : TraceInfo) (c : Session D R) : Chores c (requestPrivateToken t c) := by
  by_cases empty : c.stream.query = ""
  · rw [requestPrivateToken,if_pos empty]
  · exact .single (.token empty)

theorem pollStaleOrders_chores (t : TraceInfo) (staleOrders : List Order) (c : Session D R) (ready : isReady c = true) :
    Chores c (pollStaleOrders config t staleOrders c) := by
  unfold pollStaleOrders
  split
  · let timed : Session D R :=
      {c with stream.nextCheckStaleOrders := t.originCreateTime + config.settings.experimentalCheckStaleOrderFreq}
    have one : Keeps c timed := .fields rfl rfl rfl rfl rfl fun _ _ => rfl
    have checked := ReflTransGen.single (Chore.keeps (one.trans (checkStaleOrders_keeps staleOrders timed fun _ => ready)))
    simp only
    split
    · exact checked.tail .stale
    · exact checked
  · exact .refl

theorem simulateDisconnect_chores (t : TraceInfo) (now : Nanoseconds) (c : Session D R) :
    Chores c (simulateDisconnect t now c) := by
  unfold simulateDisconnect
  split
  · have one : Keeps c {c with stream.nextSimulatedDisconnect := 0} := .fields rfl rfl rfl rfl rfl fun _ _ => rfl
    exact (ReflTransGen.single (.keeps one)).trans (requestPrivateToken_chores t _)
  · exact .refl

theorem housekeeping_chores [LawfulLimitRequest R]
    (t : TraceInfo) (now : Nanoseconds) (staleOrders : List Order) (c : Session D R) :
    Chores c (housekeeping config t now staleOrders c) := by
  unfold housekeeping
  split
  · rename_i ready
    have read := (ping_keeps t now c).trans (hasResponse_keeps .privateToken (ping t now c))
    have still : isReady (hasResponse .privateToken (ping t now c)).2 = true := by rwa [isReady,read.status]
    exact (ReflTransGen.single (.keeps read)).trans
      ((pollStaleOrders_chores config t staleOrders _ still).trans (simulateDisconnect_chores t now _))
  · exact .refl

omit [Download2 D State] in
theorem onDownload_response [LawfulLimitRequest R] (t : TraceInfo) (d : D) (s : State) (c : Session D R) (k : Kind)
    (flag : (onDownload config t d s c).2.request.response k = true) : c.request.response k = true := by
  by_cases waiting : (onDownload config t d s c).1 = 0
  · by_cases last : s = .done
    · subst last
      exact flag
    · rwa [onDownload_passes config last waiting] at flag
  · rw [(onDownload_waits config waiting).response,Bool.and_eq_true] at flag
    exact flag.2

theorem walk_response [LawfulLimitRequest R] {c after : Session D R} (walk : Walk (onDownload config t) s c d after) :
    ∀ k, after.request.response k = true → c.request.response k = true := by
  refine walk.related (fun c after => ∀ k, after.request.response k = true → c.request.response k = true) ?_ ?_
  · intro _ _ _ one two k flag
    exact one k (two k flag)
  · intro during s c
    exact onDownload_response config t during s c

theorem Moves.response [LawfulLimitRequest R] {c after : Session D R} (moves : Moves config event c after) :
    ∀ k, after.request.response k = true → c.request.response k = true := by
  obtain ⟨moved,stage,chores⟩ := moves
  intro k flag
  have earlier := chores.tame.response k flag
  cases stage with
  | stays => exact earlier
  | dropped _ => exact earlier
  | walked _ kept walk => exact kept.response k (walk_response config walk k earlier)

-- Effects of the drop copy: the status of the websocket, besides the quiet ones.
def owned : Effect → Bool
  | .streamStatus status => status.protocol == .ws
  | e => quiet e

theorem quiet_owned (e : Effect) (silent : quiet e = true) : owned e = true := by
  cases e with
  | streamStatus => cases silent
  | _ => exact silent

def Grows (before after : Session D R) : Prop :=
  ∃ fresh : List Effect, after.log = fresh.map .effect ++ before.log ∧ ∀ e ∈ fresh, owned e = true

omit [Download2 D State] [LimitRequest R] in
theorem Grows.trans {a b c : Session D R} (one : Grows a b) (two : Grows b c) : Grows a c := History.newer_trans one two

theorem Tame.grows {c after : Session D R} (tame : Tame c after) : Grows c after := by
  obtain ⟨fresh,log,silent⟩ := tame.log
  exact ⟨fresh,log,fun e member => quiet_owned e (silent e member)⟩

omit [Download2 D State] in
theorem onDownload_grows [LawfulLimitRequest R]
    (t : TraceInfo) (d : D) (s : State) (c : Session D R) : Grows c (onDownload config t d s c).2 := by
  by_cases waiting : (onDownload config t d s c).1 = 0
  · by_cases last : s = .done
    · subst last
      exact ⟨[_],rfl,by simp [owned,streamStatus]⟩
    · rw [onDownload_passes config last waiting]
      exact ⟨[],rfl,by simp⟩
  · obtain ⟨fresh,log,silent⟩ := (onDownload_waits config waiting).log
    have published : Grows c (onConnectionStatus config .downloading s.name c) := ⟨[_],rfl,by simp [owned,streamStatus]⟩
    exact published.trans ⟨fresh,log,fun e member => quiet_owned e (silent e member)⟩

theorem walk_grows [LawfulLimitRequest R]
    {c after : Session D R} (walk : Walk (onDownload config t) s c d after) : Grows c after :=
  walk.related Grows (fun _ _ _ one two => one.trans two) (fun d s c => onDownload_grows config t d s c)

theorem Moves.grows [LawfulLimitRequest R] {c after : Session D R} (moves : Moves config event c after) : Grows c after := by
  obtain ⟨moved,stage,chores⟩ := moves
  apply Grows.trans ?_ chores.tame.grows
  cases stage with
  | stays => exact ⟨[],rfl,by simp⟩
  | dropped _ => exact ⟨[_],rfl,by simp [owned,streamStatus]⟩
  | walked _ kept walk =>
      have walked := kept.toTame.grows.trans (walk_grows config walk)
      exact walked

section steps
variable [LawfulDownload2 D]

omit [LimitRequest R] in
theorem downloading_of_kind {c : Session D R} (waiting : (stateOf c).kind = some kind) :
    Download2.downloading c.stream.download = true :=
  (LawfulDownload2.downloading_iff c.stream.download).mpr (State.waits_working waiting)

omit [LimitRequest R] in
theorem downloading_of_subscribe {c : Session D R} (subscribing : (stateOf c).isSubscribe = true) :
    Download2.downloading c.stream.download = true :=
  (LawfulDownload2.downloading_iff c.stream.download).mpr (State.subscribe_working subscribing)

omit [LimitRequest R] in
theorem onDisconnected_state (c : Session D R) : stateOf (onDisconnected config c) = .undefined := LawfulDownload2.reset_state _

omit [LawfulDownload2 D] in
theorem unmoved_keeps {c during : Session D R} {result : D × Session D R} (kept : Keeps c during)
    (unmoved : Unmoved during.stream.download during result) : Keeps c (withDownload result) := by
  obtain ⟨state,same⟩ := unmoved
  refine kept.trans ⟨⟨state,?_,[],?_,by simp⟩,?_,?_,?_,?_⟩
  all_goals simp [withDownload,same]

theorem checkResponse_moves [LawfulLimitRequest R]
    {c after : Session D R} {before : Session D R → Option (Session D R)} (t : TraceInfo)
    (now : Nanoseconds) (refresh : Bool) (staleOrders : List Order)
    (prepares : ∀ a b, stateOf a = stateOf c → before a = some b → Keeps a b)
    (waiting : (stateOf c).kind = some kind)
    (ran : checkResponse config t (stateOf c) kind before c = some after) :
    Moves config (.timer t now refresh staleOrders) c after := by
  unfold checkResponse at ran
  have read := hasResponse_keeps kind c
  simp only [hasResponse_fst] at ran
  split at ran
  · rename_i flagged
    obtain ⟨during,prepared,rfl⟩ := Option.map_eq_some_iff.mp ran
    have kept := read.trans (prepares _ _ read.state prepared)
    have running : Download2.downloading during.stream.download = true :=
      downloading_of_kind (c := during) (kept.state ▸ waiting)
    have walk := LawfulDownload2.check_current (onDownload config t) during.stream.download during running
    have current : Walker.state during.stream.download = stateOf c := kept.state
    rw [current] at walk
    exact (Stage.walked (.answered rfl waiting flagged) kept walk).moves
  · obtain rfl := Option.some.inj ran
    exact read.moves

theorem checkRequestQueue_moves [LawfulLimitRequest R]
    {c after : Session D R} (t : TraceInfo) (now : Nanoseconds) (refresh : Bool)
    (staleOrders : List Order) (ran : checkRequestQueue config t staleOrders c = some after) :
    Moves config (.timer t now refresh staleOrders) c after := by
  have stays : ∀ a b : Session D R, stateOf a = stateOf c → some a = some b → Keeps a b :=
    fun a b _ same => Option.some.inj same ▸ .refl a
  have known : Walker.state c.stream.download = stateOf c := rfl
  unfold checkRequestQueue at ran
  simp only [known] at ran
  cases present : stateOf c with
  | undefined | subscribeBalances | subscribePositions | subscribeOrders | subscribeTrades | done =>
      simp only [present] at ran
      obtain rfl := Option.some.inj ran
      exact Chores.moves .refl
  | getBalances | getPositions | getTrades =>
      simp only [present] at ran
      exact checkResponse_moves config t now refresh staleOrders stays (by rw [present]; rfl) (present ▸ ran)
  | getOpenOrders =>
      simp only [present] at ran
      refine checkResponse_moves config t now refresh staleOrders ?_ (by rw [present]; rfl) (present ▸ ran)
      intro a b here same
      refine Option.some.inj same ▸ checkStaleOrders_keeps staleOrders a fun waits => ?_
      rw [here,present] at waits
      cases waits
  | getStaleOrders =>
      simp only [present] at ran
      refine checkResponse_moves config t now refresh staleOrders ?_ (by rw [present]; rfl) (present ▸ ran)
      intro a b here same
      split at same
      · exact stays a b here same
      · cases same

theorem onWelcome_moves (t : TraceInfo) (c : Session D R) : Moves config (.welcome t) c (onWelcome config t c) := by
  let marked : Session D R := {c with stream.welcome := true}
  have kept : Keeps c marked := .fields rfl rfl rfl rfl rfl fun _ _ => rfl
  cases running : Download2.downloading c.stream.download with
  | false => exact (Stage.walked (.welcome rfl) kept
      (LawfulDownload2.begin_idle (onDownload config t) c.stream.download marked running)).moves
  | true =>
      rcases LawfulDownload2.begin_running (onDownload config t) c.stream.download marked running with same | ⟨_,rfl | rfl,walk⟩
      · exact (unmoved_keeps kept same).moves
      · exact (Stage.walked (.welcome rfl) kept walk).moves
      · exact (Stage.walked (.again rfl running) kept walk).moves

theorem onAck_moves (t : TraceInfo) (message : Json.Ack) (c : Session D R) :
    Moves config (.ack t message) c (onAck config t message c) := by
  unfold onAck
  split
  · rename_i s named
    by_cases current : s = stateOf c
    · subst current
      cases running : Download2.downloading c.stream.download with
      | true => exact (Stage.walked (.acked rfl named running) (.refl c)
          (LawfulDownload2.check_current (onDownload config t) c.stream.download c running)).moves
      | false =>
          rcases LawfulDownload2.check_idle (onDownload config t) c.stream.download c running with same | walk
          · exact (unmoved_keeps (.refl c) same).moves
          · exact (Stage.walked (.ackedIdle rfl named running) (.refl c) walk).moves
    · exact (unmoved_keeps (.refl c) (LawfulDownload2.check_other (onDownload config t) s c.stream.download c current)).moves
  · exact Chores.moves .refl

theorem step_moves [LawfulLimitRequest R]
    {c after : Session D R} (ran : step config c event = some after) : Moves config event c after := by
  cases event with
  | timer t now refresh staleOrders =>
      simp only [step,onTimer] at ran
      split at ran
      · obtain ⟨checked,queue,rfl⟩ := Option.map_eq_some_iff.mp ran
        exact (checkRequestQueue_moves config t now refresh staleOrders queue).chores
          (housekeeping_chores config t now staleOrders checked)
      · split at ran
        · obtain rfl := Option.some.inj ran
          exact (Keeps.emit c rfl).moves
        · obtain rfl := Option.some.inj ran
          exact Chores.moves .refl
  | connected t =>
      obtain rfl := Option.some.inj ran
      exact Keeps.moves (.fields rfl rfl rfl rfl rfl fun _ _ => rfl)
  | disconnected t =>
      obtain rfl := Option.some.inj ran
      exact (Stage.dropped rfl).moves
  | welcome t =>
      obtain rfl := Option.some.inj ran
      exact onWelcome_moves config t c
  | error t message =>
      obtain rfl := Option.some.inj ran
      unfold onError
      split
      · exact Chores.moves (requestPrivateToken_chores t c)
      · exact Chores.moves .refl
  | ack t message =>
      obtain rfl := Option.some.inj ran
      exact onAck_moves config t message c
  | logged =>
      obtain rfl := Option.some.inj ran
      exact Chores.moves .refl
  | unexpected => cases ran

end steps

-- A walk leaves alone what the periodic scan for stale orders goes by.
structure Undisturbed (before after : Session D R) : Prop where
  nextCheckStaleOrders : after.stream.nextCheckStaleOrders = before.stream.nextCheckStaleOrders
  details : after.request.detailsStaleOrders = before.request.detailsStaleOrders

omit [Download2 D State] [LimitRequest R] in
theorem Undisturbed.refl (c : Session D R) : Undisturbed c c := ⟨rfl,rfl⟩

omit [Download2 D State] [LimitRequest R] in
theorem Undisturbed.trans (a b c : Session D R) (one : Undisturbed a b) (two : Undisturbed b c) : Undisturbed a c :=
  ⟨two.nextCheckStaleOrders.trans one.nextCheckStaleOrders,two.details.trans one.details⟩

omit [Download2 D State] in
theorem onDownload_undisturbed (t : TraceInfo) (d : D) (s : State) (c : Session D R) :
    Undisturbed c (onDownload config t d s c).2 := by
  cases s with
  | getStaleOrders | getTrades =>
      simp only [onDownload]
      split
      · exact .refl c
      · exact ⟨rfl,rfl⟩
  | _ => exact ⟨rfl,rfl⟩

theorem check_undisturbed [LawfulDownload2 D]
    (t : TraceInfo) (s : State) (c : Session D R) : Undisturbed c (check config t s c) := by
  have walked : Undisturbed c (Download2.check (onDownload config t) s c.stream.download c).2 :=
    check_related Undisturbed Undisturbed.refl Undisturbed.trans (onDownload_undisturbed config t) s c.stream.download c
  exact ⟨walked.nextCheckStaleOrders,walked.details⟩

theorem begin_undisturbed [LawfulDownload2 D] (t : TraceInfo) (c : Session D R) : Undisturbed c (begin config t c) := by
  have walked : Undisturbed c (Download2.begin (onDownload config t) c.stream.download c).2 :=
    begin_related Undisturbed Undisturbed.refl Undisturbed.trans (onDownload_undisturbed config t) c.stream.download c
  exact ⟨walked.nextCheckStaleOrders,walked.details⟩

-- The download goes on: the response to its GET_ state is there.
def answered (c : Session D R) : Bool := (stateOf c).kind.any c.request.response

-- READY behind check_request_queue, from the state before it.
def readyNext (c : Session D R) : Bool := if answered c then stateOf c == .getTrades else isReady c

-- The states that follow a GET_ state, up to the next one that waits.
def pausing : State → Bool
  | .subscribePositions | .subscribeOrders | .getStaleOrders | .subscribeTrades => true
  | _ => false

theorem walk_pauses {during : Session D R} (walk : Walk (onDownload config t) s c d during) (next : pausing s = true) :
    isReady during = false := by
  refine walk.rule (fun s _ => pausing s = true) (fun _ c => isReady c = false) ?_ ?_ ?_ next
  · intro walker s c _ here waits
    cases s with
    | subscribePositions | subscribeOrders | subscribeTrades => rfl
    | getStaleOrders =>
        simp only [onDownload] at waits ⊢
        split
        · rename_i none
          simp [none] at waits
        · rfl
    | _ => cases here
  · intro walker s c _ here passes
    cases s with
    | getStaleOrders => rfl
    | subscribePositions | subscribeOrders | subscribeTrades => cases passes
    | _ => cases here
  · intro walker c here
    cases here

theorem walk_ends {during : Session D R} (walk : Walk (onDownload config t) .done c d during) :
    isReady during = true := by
  refine walk.rule (fun s _ => s = .done) (fun _ c => isReady c = true) ?_ ?_ ?_ rfl
  · intro walker s c working here
    exact absurd here working
  · intro walker s c working here
    exact absurd here working
  · intro walker c _
    rfl

theorem check_ready [LawfulDownload2 D] (t : TraceInfo) {c : Session D R} (waits : (stateOf c).kind = some kind) :
    isReady (check config t (stateOf c) c) = (stateOf c == .getTrades) := by
  have walk := LawfulDownload2.check_current (onDownload config t) c.stream.download c (downloading_of_kind waits)
  show isReady (Download2.check (onDownload config t) (stateOf c) c.stream.download c).2 = _
  cases here : stateOf c with
  | getTrades =>
      have known : Walker.state c.stream.download = State.getTrades := here
      rw [known] at walk
      exact walk_ends config walk
  | getBalances | getPositions | getOpenOrders | getStaleOrders =>
      have known : Walker.state c.stream.download = _ := here
      rw [known] at walk
      exact walk_pauses config walk rfl
  | _ =>
      rw [here] at waits
      cases waits

theorem checkResponse_ready [LawfulLimitRequest R] [LawfulDownload2 D]
    {before : Session D R → Option (Session D R)} {c after : Session D R} (t : TraceInfo)
    (waits : (stateOf c).kind = some kind) (prepares : ∀ a b, before a = some b → b.stream = a.stream)
    (ran : checkResponse config t (stateOf c) kind before c = some after) : isReady after = readyNext c := by
  have going : answered c = c.request.response kind := by rw [answered,waits,Option.any_some]
  simp only [checkResponse,hasResponse_fst] at ran
  rw [readyNext,going]
  cases set : c.request.response kind with
  | false =>
      simp only [set,Bool.false_eq_true,if_false,Option.some.injEq] at ran
      subst ran
      rfl
  | true =>
      simp only [set,if_true] at ran
      obtain ⟨during,prepared,rfl⟩ := Option.map_eq_some_iff.mp ran
      have same : stateOf during = stateOf c := congrArg (fun s => Walker.state s.download) (prepares _ _ prepared)
      have ready := check_ready config t (same ▸ waits)
      rwa [same] at ready

theorem checkRequestQueue_ready [LawfulLimitRequest R] [LawfulDownload2 D]
    {c after : Session D R} (t : TraceInfo) (staleOrders : List Order)
    (ran : checkRequestQueue config t staleOrders c = some after) : isReady after = readyNext c := by
  have stays : ∀ a b : Session D R, some a = some b → b.stream = a.stream := fun a b same => Option.some.inj same ▸ rfl
  have here : Walker.state c.stream.download = stateOf c := rfl
  unfold checkRequestQueue at ran
  simp only [here] at ran
  cases state : stateOf c with
  | undefined | subscribeBalances | subscribePositions | subscribeOrders | subscribeTrades | done =>
      simp only [state] at ran
      obtain rfl := Option.some.inj ran
      rw [readyNext,answered,state]
      rfl
  | getBalances | getPositions | getTrades =>
      simp only [state] at ran
      exact checkResponse_ready config t (by rw [state]; rfl) stays (state ▸ ran)
  | getOpenOrders =>
      simp only [state] at ran
      refine checkResponse_ready config t (by rw [state]; rfl) ?_ (state ▸ ran)
      intro a b same
      exact Option.some.inj same ▸ checkStaleOrders_stream staleOrders a
  | getStaleOrders =>
      simp only [state] at ran
      refine checkResponse_ready config t (by rw [state]; rfl) ?_ (state ▸ ran)
      intro a b same
      split at same
      · exact stays a b same
      · cases same

def isClose : Entry → Bool
  | .effect .close => true
  | _ => false

-- Entries that a part of a handler may leave without being told of by `p`: a status,
-- a subscription, a delay.
structure Deaf (p : Entry → Bool) : Prop where
  streamStatus : ∀ status, p (.effect (.streamStatus status)) = false
  suspendFor : ∀ period, p (.effect (.suspendFor period)) = false
  subscribeAccount : ∀ front, p (.effect (.sendText (front ++ "\",\"accountType\":\"UNIFIED\"\x7d"))) = false
  subscribeTrade : ∀ front, p (.effect (.sendText (front ++ "\",\"tradeType\":\"UNIFIED\"\x7d"))) = false

-- No welcome, no ping, and nothing that `p` looks for.
structure Steady (p : Entry → Bool) (before after : Session D R) : Prop where
  welcome : after.stream.welcome = before.stream.welcome
  nextPing : after.stream.nextPing = before.stream.nextPing
  count : after.log.countP p = before.log.countP p

variable {p : Entry → Bool}

omit [Download2 D State] [LimitRequest R] in
theorem Steady.refl (c : Session D R) : Steady p c c := ⟨rfl,rfl,rfl⟩

omit [Download2 D State] [LimitRequest R] in
theorem Steady.trans (a b c : Session D R) (one : Steady p a b) (two : Steady p b c) : Steady p a c :=
  ⟨two.welcome.trans one.welcome,two.nextPing.trans one.nextPing,two.count.trans one.count⟩

omit [Download2 D State] [LimitRequest R] in
theorem Steady.emit (c : Session D R) (other : p (.effect e) = false) : Steady p c (c.emit e) :=
  ⟨rfl,rfl,List.countP_cons_of_neg (by simp [other])⟩

omit [Download2 D State] [LimitRequest R] in
theorem onConnectionStatus_steady (deaf : Deaf p) (status : ConnectionStatus) (reason : String) (c : Session D R) :
    Steady p c (onConnectionStatus config status reason c) :=
  ⟨rfl,rfl,(Steady.emit c (deaf.streamStatus (streamStatus config status reason))).count⟩

omit [Download2 D State] in
theorem onDownload_steady (deaf : Deaf p) (t : TraceInfo) (d : D) (s : State) (c : Session D R) :
    Steady p c (onDownload config t d s c).2 := by
  have published := onConnectionStatus_steady config deaf .downloading s.name c
  have marked (kind : Kind) : Steady p c (markRequest t kind (onConnectionStatus config .downloading s.name c)) :=
    ⟨rfl,rfl,published.count⟩
  cases s with
  | undefined => exact .refl c
  | subscribeBalances => exact published.trans _ _ _ (.emit _ (deaf.subscribeAccount _))
  | subscribePositions | subscribeOrders | subscribeTrades => exact published.trans _ _ _ (.emit _ (deaf.subscribeTrade _))
  | getBalances | getPositions | getOpenOrders => exact marked _
  | getStaleOrders | getTrades =>
      simp only [onDownload]
      split
      · exact .refl c
      · exact marked _
  | done =>
      have ready := onConnectionStatus_steady config deaf .ready "" c
      exact ⟨rfl,rfl,ready.count⟩

theorem check_steady [LawfulDownload2 D]
    (deaf : Deaf p) (t : TraceInfo) (s : State) (c : Session D R) : Steady p c (check config t s c) := by
  have walked : Steady p c (Download2.check (onDownload config t) s c.stream.download c).2 :=
    check_related (Steady p) Steady.refl Steady.trans (onDownload_steady config deaf t) s c.stream.download c
  exact ⟨walked.welcome,walked.nextPing,walked.count⟩

theorem begin_steady [LawfulDownload2 D] (deaf : Deaf p) (t : TraceInfo) (c : Session D R) : Steady p c (begin config t c) := by
  have walked : Steady p c (Download2.begin (onDownload config t) c.stream.download c).2 :=
    begin_related (Steady p) Steady.refl Steady.trans (onDownload_steady config deaf t) c.stream.download c
  exact ⟨walked.welcome,walked.nextPing,walked.count⟩

omit [Download2 D State] in
theorem requestPrivateToken_steady (deaf : Deaf p) (t : TraceInfo) (c : Session D R) : Steady p c (requestPrivateToken t c) := by
  unfold requestPrivateToken
  split
  · exact .refl c
  · exact ⟨rfl,rfl,(Steady.emit c (deaf.suspendFor SUSPEND_FOR)).count⟩

omit [Download2 D State] [LimitRequest R] in
theorem checkStaleOrders_steady (staleOrders : List Order) (c : Session D R) :
    Steady p c (checkStaleOrders staleOrders c).2 := by
  unfold checkStaleOrders
  refine List.foldlRecOn (motive := fun walked : Bool × Session D R => Steady p c walked.2) staleOrders _ (.refl c) ?_
  intro walked steady order _
  simp only
  split
  · exact steady
  · exact steady.trans _ _ _ ⟨rfl,rfl,rfl⟩

theorem checkResponse_steady [LawfulDownload2 D]
    {before : Session D R → Option (Session D R)} {c after : Session D R} (deaf : Deaf p)
    (prepares : ∀ a b, before a = some b → Steady p a b)
    (ran : checkResponse config t s kind before c = some after) : Steady p c after := by
  unfold checkResponse at ran
  have read : Steady p c (hasResponse kind c).2 := ⟨rfl,rfl,rfl⟩
  simp only at ran
  split at ran
  · obtain ⟨during,prepared,rfl⟩ := Option.map_eq_some_iff.mp ran
    exact read.trans _ _ _ ((prepares _ _ prepared).trans _ _ _ (check_steady config deaf t s during))
  · exact Option.some.inj ran ▸ read

theorem checkRequestQueue_steady [LawfulDownload2 D]
    {c after : Session D R} (deaf : Deaf p) (t : TraceInfo) (staleOrders : List Order)
    (ran : checkRequestQueue config t staleOrders c = some after) : Steady p c after := by
  have stays : ∀ a b : Session D R, some a = some b → Steady p a b := fun a b same => Option.some.inj same ▸ .refl a
  unfold checkRequestQueue at ran
  cases present : Walker.state c.stream.download with
  | undefined | subscribeBalances | subscribePositions | subscribeOrders | subscribeTrades | done =>
      simp only [present] at ran
      exact stays c after ran
  | getBalances | getPositions | getTrades =>
      simp only [present] at ran
      exact checkResponse_steady config deaf stays ran
  | getOpenOrders =>
      simp only [present] at ran
      refine checkResponse_steady config deaf ?_ ran
      intro a b same
      exact Option.some.inj same ▸ checkStaleOrders_steady staleOrders a
  | getStaleOrders =>
      simp only [present] at ran
      refine checkResponse_steady config deaf ?_ ran
      intro a b same
      split at same
      · exact stays a b same
      · cases same

omit [Download2 D State] in
theorem pollStaleOrders_steady (t : TraceInfo) (staleOrders : List Order) (c : Session D R) :
    Steady p c (pollStaleOrders config t staleOrders c) := by
  unfold pollStaleOrders
  split
  · let timed : Session D R :=
      {c with stream.nextCheckStaleOrders := t.originCreateTime + config.settings.experimentalCheckStaleOrderFreq}
    have one : Steady p c timed := ⟨rfl,rfl,rfl⟩
    have scanned := one.trans _ _ _ (checkStaleOrders_steady staleOrders timed)
    simp only
    split
    · exact ⟨scanned.welcome,scanned.nextPing,scanned.count⟩
    · exact scanned
  · exact .refl c

omit [Download2 D State] in
theorem simulateDisconnect_steady (deaf : Deaf p) (t : TraceInfo) (now : Nanoseconds) (c : Session D R) :
    Steady p c (simulateDisconnect t now c) := by
  unfold simulateDisconnect
  split
  · have asked := requestPrivateToken_steady deaf t {c with stream.nextSimulatedDisconnect := 0}
    exact ⟨asked.welcome,asked.nextPing,asked.count⟩
  · exact .refl c

-- Of what a timer does where refresh answers true, the ping is left.
theorem onTimer_steady [LawfulDownload2 D]
    {c after : Session D R} (deaf : Deaf p) (t : TraceInfo) (now : Nanoseconds) (staleOrders : List Order)
    (ran : onTimer config t now true staleOrders c = some after) :
    ∃ checked, checkRequestQueue config t staleOrders c = some checked ∧ Steady p c checked ∧
      Steady p (if isReady checked then ping t now checked else checked) after := by
  obtain ⟨checked,queue,rfl⟩ := Option.map_eq_some_iff.mp ran
  refine ⟨checked,queue,checkRequestQueue_steady config deaf t staleOrders queue,?_⟩
  unfold housekeeping
  split
  · have read : Steady p (ping t now checked) (hasResponse .privateToken (ping t now checked)).2 := ⟨rfl,rfl,rfl⟩
    have polled := read.trans _ _ _ (pollStaleOrders_steady config t staleOrders _)
    exact polled.trans _ _ _ (simulateDisconnect_steady deaf t now _)
  · exact .refl checked

end lemmas
end KucoinPro.DropCopy
