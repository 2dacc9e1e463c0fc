import KucoinPro.OrderLedger
import KucoinPro.ProcessEnds
import KucoinPro.TokenDownload

-- What it takes for an account to be READY, from wherever a run has brought it.
namespace KucoinPro.Recovery
open GuardedRuns StagedWalk AccountSystem OrderEntryREST

variable {E D R : Type} {config : Config}

-- The part of the exchange and of the clock: connections come and go, Timers find them up,
-- and each request and each subscription is answered.
inductive Cooperates (answers : Kind → Web.Response) : Event → Prop where
  | connected : Cooperates answers (.rest (.connected t))
  | disconnected : Cooperates answers (.rest (.disconnected t))
  | polled : Cooperates answers (.rest (.timer t true canRequest findOrder []))
  | answered : Cooperates answers (.rest (.response t number (answers kind)))
  | opened : Cooperates answers (.dropCopy (.connected t))
  | dropped : Cooperates answers (.dropCopy (.disconnected t))
  | welcomed : Cooperates answers (.dropCopy (.welcome t))
  | acked : s.isSubscribe = true → Cooperates answers (.dropCopy (.ack t ⟨DropCopy.State.name s,true⟩))
  | ticked : Cooperates answers (.dropCopy (.timer t now true []))

structure Ready (w : World E D R) : Prop where
  orders : isReady w = true
  dropCopy : ∃ stream, w.dropCopy = some stream ∧ stream.connectionStatus = .ready

-- The two streams, the requests and the stale orders are as they were.
structure Alike (w after : World E D R) : Prop where
  dropCopy : after.dropCopy = w.dropCopy
  rest : after.rest = w.rest
  inFlight : after.inFlight = w.inFlight
  details : after.request.detailsStaleOrders = w.request.detailsStaleOrders

theorem Alike.refl (w : World E D R) : Alike w w := ⟨rfl,rfl,rfl,rfl⟩

theorem Alike.trans {a b c : World E D R} (one : Alike a b) (two : Alike b c) : Alike a c :=
  ⟨two.dropCopy.trans one.dropCopy,two.rest.trans one.rest,two.inFlight.trans one.inFlight,two.details.trans one.details⟩

section polls
variable [Download2 E OrderEntryREST.State] [LimitRequest R]

-- What check_request_queue and Timer do about a kind of request.
def serve (config : Config) (t : TraceInfo) : Kind → World E D R → World E D R
  | .privateToken => fun w => getPrivateToken config t (Walker.sequence w.rest.download) w
  | .balances => getAccount config t
  | .positions => getPosition config t
  | .openOrders => getOrders config t
  | .staleOrders => getStaleOrders config t fun _ _ => none
  | .trades => getExecution config t

-- A kind that is not granted is left for later.
structure Idle (w after : World E D R) : Prop extends Alike w after where
  pending : ∀ k, after.request.pending k = w.request.pending k

omit [Download2 E OrderEntryREST.State] in
theorem Idle.trans {a b c : World E D R} (one : Idle a b) (two : Idle b c) : Idle a c :=
  ⟨one.toAlike.trans two.toAlike,fun k => (two.pending k).trans (one.pending k)⟩

-- One that is granted where it is the kind asked about.
def turn (config : Config) (t : TraceInfo) (kind : Kind) (w : World E D R) (k : Kind) : World E D R :=
  checkPending t k (decide (k = kind)) (serve config t k) w

variable [LawfulLimitRequest R]

theorem turn_idle (t : TraceInfo) (other : k ≠ kind) (w : World E D R) : Idle w (turn config t kind w k) := by
  rw [turn,decide_eq_false other,checkPending_eq,Bool.and_false]
  exact ⟨⟨rfl,rfl,rfl,rfl⟩,by simp⟩

theorem turn_serves (t : TraceInfo) {w : World E D R} (pending : w.request.pending kind = true) :
    ∃ taken, Alike w taken ∧ turn config t kind w kind = serve config t kind taken := by
  rw [turn,decide_eq_true rfl,checkPending_eq,pending,Bool.and_true,if_pos rfl]
  exact ⟨{w with request := (w.request.checkPending t kind true).2},⟨rfl,rfl,rfl,rfl⟩,rfl⟩

theorem turns_idle (t : TraceInfo) {kinds : List Kind} (other : kind ∉ kinds) (w : World E D R) :
    Idle w (kinds.foldl (turn config t kind) w) := by
  induction kinds generalizing w with
  | nil => exact ⟨.refl w,fun _ => rfl⟩
  | cons k rest ih =>
      have apart : k ≠ kind := (List.ne_of_not_mem_cons other).symm
      exact (turn_idle t apart w).trans (ih (List.not_mem_of_not_mem_cons other) _)

theorem turns_serve (t : TraceInfo) {kinds : List Kind} (once : kinds.Nodup) (among : kind ∈ kinds) {w : World E D R}
    (pending : w.request.pending kind = true) :
    ∃ taken, Alike w taken ∧ Alike (serve config t kind taken) (kinds.foldl (turn config t kind) w) := by
  induction kinds generalizing w with
  | nil => cases among
  | cons k rest ih =>
      obtain ⟨apart,distinct⟩ := List.nodup_cons.mp once
      rw [List.foldl_cons]
      rcases List.mem_cons.mp among with rfl | later
      · obtain ⟨taken,same,served⟩ := turn_serves t pending
        rw [served]
        exact ⟨taken,same,(turns_idle t apart _).toAlike⟩
      · have other : k ≠ kind := by
          rintro rfl
          exact apart later
        have idle : Idle w (turn config t kind w k) := turn_idle t other w
        obtain ⟨taken,same,served⟩ := ih distinct later ((idle.pending kind).trans pending)
        exact ⟨taken,idle.toAlike.trans same,served⟩

-- A Timer that grants one kind of request serves it and nothing else.
theorem poll_serves (t : TraceInfo) {w : World E D R} (ready : isReady w = true)
    (mine : config.account.master = true ∨ kind = .privateToken) (pending : w.request.pending kind = true) :
    ∃ taken, Alike w taken ∧
      Alike (serve config t kind taken) (onTimer config t true (fun k => decide (k = kind)) (fun _ _ => none) [] w) := by
  unfold onTimer
  rw [Bool.true_and,if_pos ready]
  cases master : config.account.master with
  | false =>
      obtain rfl := mine.resolve_left (by simp [master])
      have alone : [Kind.privateToken].Nodup := by decide
      exact turns_serve t alone List.mem_cons_self pending
  | true =>
      have once : [Kind.balances,.positions,.openOrders,.staleOrders,.trades,.privateToken].Nodup := by decide
      have among : kind ∈ [Kind.balances,.positions,.openOrders,.staleOrders,.trades,.privateToken] := by cases kind <;> decide
      exact turns_serve t once among pending

-- What is asked for is in flight, ahead of the rest. Stale orders are not: none is known.
omit [LimitRequest R] [LawfulLimitRequest R] in
theorem serve_flies (t : TraceInfo) (own : kind ≠ .staleOrders) (w : World E D R) :
    ∃ s, (serve config t kind w).inFlight = s :: w.inFlight ∧ s.callback.kind = some kind ∧
      (serve config t kind w).dropCopy = w.dropCopy ∧ (serve config t kind w).rest = w.rest ∧
      (serve config t kind w).request = w.request := by
  cases kind with
  | staleOrders => exact absurd rfl own
  | privateToken | balances | positions | openOrders | trades => exact ⟨_,rfl,rfl,rfl,rfl,rfl⟩

omit [LimitRequest R] [LawfulLimitRequest R] in
theorem serve_clears (t : TraceInfo) (w : World E D R) :
    (serve config t .staleOrders w).dropCopy = w.dropCopy ∧ (serve config t .staleOrders w).rest = w.rest ∧
      (serve config t .staleOrders w).request.detailsStaleOrders = [] := by
  have none : w.request.detailsStaleOrders.foldl (getStaleOrder config t fun _ _ => none) w = w := by
    induction w.request.detailsStaleOrders with
    | nil => rfl
    | cons key rest ih => exact ih
  simp only [serve,getStaleOrders,none,and_self]

end polls

section answers

-- An answer is noted and published, and that is all.
structure Aside (w after : World E D R) : Prop extends Alike w after where
  request : after.request = w.request

theorem Aside.refl (w : World E D R) : Aside w w := ⟨.refl w,rfl⟩

theorem Aside.trans {a b c : World E D R} (one : Aside a b) (two : Aside b c) : Aside a c :=
  ⟨one.toAlike.trans two.toAlike,two.request.trans one.request⟩

theorem Aside.emit (w : World E D R) (e : Effect) : Aside w (w.emit e) := ⟨⟨rfl,rfl,rfl,rfl⟩,rfl⟩

theorem Aside.foldl {step : World E D R → α → World E D R} (each : ∀ w x, Aside w (step w x)) (xs : List α) (w : World E D R) :
    Aside w (xs.foldl step w) := by
  induction xs generalizing w with
  | nil => exact .refl w
  | cons x rest ih => exact (each w x).trans (ih _)

theorem onAccountAck_aside (ack : Json.AccountAck) (w : World E D R) : Aside w (onAccountAck config ack w).2 :=
  (Aside.emit w (.accountAck ack)).trans (.foldl (fun w item => .emit w (.fundsUpdate (fundsUpdate config item))) _ _)

theorem onOrderItems_aside (items : List Json.OrdersAckDataItemsItem) (w : World E D R) :
    Aside w (onOrderItems config items w).2 := by
  induction items generalizing w with
  | nil => exact .refl w
  | cons item rest ih =>
      unfold onOrderItems
      cases orderStatus config item with
      | error e => exact .refl w
      | ok status => exact (Aside.emit w _).trans (ih _)

theorem getAck_aside [LimitRequest R] {decode : String → Except Exception (Json.Envelope α)}
    {handler : Json.Envelope α → World E D R → Except Exception Unit × World E D R} {w after : World E D R}
    (handles : ∀ ack w, Aside w (handler ack w).2) (ran : getAck config decode handler kind t response w = some after) :
    ∃ noted, Aside w noted ∧ after = commit t kind noted := by
  obtain ⟨noted,process,rfl⟩ := Option.map_eq_some_iff.mp ran
  refine ⟨noted,?_,rfl⟩
  refine processResponse_rule Aside.refl (fun _ _ _ one two => one.trans two) (fun _ _ _ _ w => .refl w) ?_ process
  intro body w
  cases decode body with
  | error e => exact .refl w
  | ok ack =>
      dsimp only
      split
      · exact handles ack w
      · exact .refl w

-- The answer to a GET of the account's own data commits its kind, whatever it is.
theorem invoke_commits [Download2 E OrderEntryREST.State] [Download2 D DropCopy.State] [LimitRequest R]
    {submission : Submission} {w after : World E D R} (kind : submission.callback.kind = some k)
    (own : k ≠ .staleOrders ∧ k ≠ .privateToken) (ran : invoke config t submission response w = some after) :
    ∃ noted, Aside w noted ∧ after = commit t k noted := by
  unfold invoke at ran
  cases callback : submission.callback with
  | getAccountAck =>
      rw [callback] at ran kind
      cases kind
      exact getAck_aside onAccountAck_aside ran
  | getPositionAck =>
      rw [callback] at ran kind
      cases kind
      exact getAck_aside (fun ack w => .emit w _) ran
  | getOrdersAck =>
      rw [callback] at ran kind
      cases kind
      exact getAck_aside (fun ack w => (Aside.emit w _).trans (onOrderItems_aside _ _)) ran
  | getExecutionAck =>
      rw [callback] at ran kind
      cases kind
      exact getAck_aside (fun ack w => .emit w _) ran
  | getPrivateTokenAck =>
      rw [callback] at kind
      cases kind
      exact absurd rfl own.2
  | getOrderAck =>
      rw [callback] at kind
      cases kind
      exact absurd rfl own.1
  | createOrderAck | cancelOrderAck | cancelAllOrdersAck | getOrderBookAck =>
      rw [callback] at kind
      cases kind

end answers

section account
variable [Download2 D DropCopy.State] [LimitRequest R]

section downloads

-- Where a download rests that has got to a state: two of them may be passed.
def restsAt (config : Config) (details : List (Nat × Nat)) : DropCopy.State → DropCopy.State
  | .getStaleOrders => if details = [] then .subscribeTrades else .getStaleOrders
  | .getTrades => if config.settings.downloadTradesLookback = 0 then .done else .getTrades
  | s => s

structure Settled (s : DropCopy.State) (details : List (Nat × Nat)) (c : Session D R) : Prop where
  state : DropCopy.stateOf c = s
  status : c.stream.connectionStatus = if s = .done then .ready else .downloading
  details : c.request.detailsStaleOrders = details

-- Where it has just got to, the request it waits for is still to be picked up.
structure Entered (s : DropCopy.State) (details : List (Nat × Nat)) (c : Session D R) : Prop extends Settled s details c where
  pending : ∀ k, s.kind = some k → c.request.pending k = true

omit [Download2 D DropCopy.State] in
theorem onDownload_pauses {c : Session D R} (pauses : (DropCopy.onDownload config t d s c).1 ≠ 0) :
    (DropCopy.onDownload config t d s c).2.stream.connectionStatus = .downloading ∧
      (DropCopy.onDownload config t d s c).2.request.detailsStaleOrders = c.request.detailsStaleOrders := by
  cases s with
  | undefined | done => exact absurd rfl pauses
  | subscribeBalances | subscribePositions | subscribeOrders | subscribeTrades => exact ⟨rfl,rfl⟩
  | getBalances | getPositions | getOpenOrders => exact ⟨rfl,rfl⟩
  | getStaleOrders =>
      unfold DropCopy.onDownload at pauses ⊢
      by_cases empty : c.request.detailsStaleOrders = []
      · exact absurd (by simp [empty]) pauses
      · simp only [empty,if_false]
        exact ⟨rfl,rfl⟩
  | getTrades =>
      unfold DropCopy.onDownload at pauses ⊢
      by_cases none : config.settings.downloadTradesLookback = 0
      · exact absurd (by simp [none]) pauses
      · simp only [none,if_false]
        exact ⟨rfl,rfl⟩

theorem walk_pauses [LawfulLimitRequest R]
    {c after : Session D R} (walk : Walk (DropCopy.onDownload config t) s c d after) (working : s ≠ .done)
    (pauses : ∀ d, (DropCopy.onDownload config t d s c).1 ≠ 0) :
    Entered s c.request.detailsStaleOrders (DropCopy.withDownload (d,after)) := by
  cases walk with
  | wait _ waits rests _ =>
      obtain ⟨status,details⟩ := onDownload_pauses waits
      refine ⟨⟨rests,?_,details⟩,?_⟩
      · rw [if_neg working]
        exact status
      · intro k own
        have marked := (DropCopy.onDownload_waits config waits).pending k
        rwa [own,decide_eq_true rfl,Bool.true_or] at marked
  | last => exact absurd rfl working
  | pass _ zero => exact absurd zero (pauses _)

theorem walk_passes {c after : Session D R} (walk : Walk (DropCopy.onDownload config t) s c d after) (working : s ≠ .done)
    (passes : ∀ d, (DropCopy.onDownload config t d s c).1 = 0) : Walk (DropCopy.onDownload config t) s.next c d after := by
  cases walk with
  | wait _ waits => exact absurd (passes _) waits
  | last => exact absurd rfl working
  | pass _ zero others => rwa [DropCopy.onDownload_passes config working zero] at others

theorem walk_done {c after : Session D R} (walk : Walk (DropCopy.onDownload config t) .done c d after) :
    Entered .done c.request.detailsStaleOrders (DropCopy.withDownload (d,after)) := by
  cases walk with
  | wait working => exact absurd rfl working
  | last rests => exact ⟨⟨rests,rfl,rfl⟩,nofun⟩
  | pass working => exact absurd rfl working

theorem walk_enters [LawfulLimitRequest R]
    {c after : Session D R} (walk : Walk (DropCopy.onDownload config t) s c d after) (working : s ≠ .undefined) :
    Entered (restsAt config c.request.detailsStaleOrders s) c.request.detailsStaleOrders (DropCopy.withDownload (d,after)) := by
  cases s with
  | undefined => exact absurd rfl working
  | subscribeBalances | subscribePositions | subscribeOrders | subscribeTrades =>
      exact walk_pauses walk (DropCopy.State.subscribe_working rfl).2 fun _ => DropCopy.subscribe_pauses config rfl
  | getBalances | getPositions | getOpenOrders =>
      exact walk_pauses walk (DropCopy.State.waits_working rfl).2 fun _ => Int.one_ne_zero
  | getStaleOrders =>
      by_cases empty : c.request.detailsStaleOrders = []
      · have rests : restsAt config c.request.detailsStaleOrders .getStaleOrders = .subscribeTrades := if_pos empty
        have passed := walk_passes walk (by decide) fun d => by simp [DropCopy.onDownload,empty]
        rw [rests]
        exact walk_pauses passed (by decide) fun _ => DropCopy.subscribe_pauses config rfl
      · have rests : restsAt config c.request.detailsStaleOrders .getStaleOrders = .getStaleOrders := if_neg empty
        rw [rests]
        exact walk_pauses walk (by decide) fun d => by simp [DropCopy.onDownload,empty]
  | getTrades =>
      by_cases none : config.settings.downloadTradesLookback = 0
      · have rests : restsAt config c.request.detailsStaleOrders .getTrades = .done := if_pos none
        rw [rests]
        exact walk_done (walk_passes walk (by decide) fun d => by simp [DropCopy.onDownload,none])
      · have rests : restsAt config c.request.detailsStaleOrders .getTrades = .getTrades := if_neg none
        rw [rests]
        exact walk_pauses walk (by decide) fun d => by simp [DropCopy.onDownload,none]
  | done => exact walk_done walk

-- What a Timer does besides leaves the download and its status alone.
def Unchanged (c after : Session D R) : Prop :=
  after.stream.download = c.stream.download ∧ after.stream.connectionStatus = c.stream.connectionStatus ∧
    after.request.detailsStaleOrders = c.request.detailsStaleOrders

omit [Download2 D DropCopy.State] [LimitRequest R] in
theorem Unchanged.trans {a b c : Session D R} (one : Unchanged a b) (two : Unchanged b c) : Unchanged a c :=
  ⟨two.1.trans one.1,two.2.1.trans one.2.1,two.2.2.trans one.2.2⟩

omit [Download2 D DropCopy.State] [LimitRequest R] in
theorem ping_unchanged (t : TraceInfo) (now : Nanoseconds) (c : Session D R) : Unchanged c (DropCopy.ping t now c) := by
  unfold DropCopy.ping
  split
  · exact ⟨rfl,rfl,rfl⟩
  · exact ⟨rfl,rfl,rfl⟩

omit [Download2 D DropCopy.State] in
theorem pollStaleOrders_unchanged (t : TraceInfo) (c : Session D R) :
    Unchanged c (DropCopy.pollStaleOrders config t [] c) := by
  unfold DropCopy.pollStaleOrders
  split
  · exact ⟨rfl,rfl,rfl⟩
  · exact ⟨rfl,rfl,rfl⟩

omit [Download2 D DropCopy.State] in
theorem simulateDisconnect_unchanged (t : TraceInfo) (now : Nanoseconds) (c : Session D R) :
    Unchanged c (DropCopy.simulateDisconnect t now c) := by
  unfold DropCopy.simulateDisconnect DropCopy.requestPrivateToken
  split
  · split
    · exact ⟨rfl,rfl,rfl⟩
    · exact ⟨rfl,rfl,rfl⟩
  · exact ⟨rfl,rfl,rfl⟩

omit [Download2 D DropCopy.State] in
theorem housekeeping_unchanged (t : TraceInfo) (now : Nanoseconds) (c : Session D R) :
    Unchanged c (DropCopy.housekeeping config t now [] c) := by
  unfold DropCopy.housekeeping
  split
  · have pinged : Unchanged c (DropCopy.hasResponse .privateToken (DropCopy.ping t now c)).2 := ping_unchanged t now c
    exact (pinged.trans (pollStaleOrders_unchanged t _)).trans (simulateDisconnect_unchanged t now _)
  · exact ⟨rfl,rfl,rfl⟩

theorem housekeeping_enters {c : Session D R} (t : TraceInfo) (now : Nanoseconds) (entered : Entered s details c) :
    Entered s details (DropCopy.housekeeping config t now [] c) := by
  have unchanged : Unchanged c (DropCopy.housekeeping config t now [] c) := housekeeping_unchanged t now c
  obtain ⟨download,status,same⟩ := unchanged
  refine ⟨⟨?_,status.trans entered.status,same.trans entered.details⟩,?_⟩
  · rw [DropCopy.stateOf,download]
    exact entered.state
  · intro k own
    -- it is for streams that are READY, and none that waits is
    have unready : DropCopy.isReady c = false := by
      have working : s ≠ .done := (DropCopy.State.waits_working own).2
      rw [DropCopy.isReady,entered.status,if_neg working]
      rfl
    rw [DropCopy.housekeeping,unready]
    exact entered.pending k own

-- A response that is flagged takes the download on.
theorem checkRequestQueue_answered [LawfulLimitRequest R]
    {c : Session D R} (t : TraceInfo) (state : DropCopy.stateOf c = s) (own : s.kind = some k)
    (other : k ≠ .staleOrders) (flagged : c.request.response k = true) :
    DropCopy.checkRequestQueue config t [] c = some (DropCopy.check config t s (DropCopy.hasResponse k c).2) := by
  have answered : ∀ before : Session D R → Option (Session D R), before (DropCopy.hasResponse k c).2 = some (DropCopy.hasResponse k c).2 →
      DropCopy.checkResponse config t s k before c = some (DropCopy.check config t s (DropCopy.hasResponse k c).2) := by
    intro before kept
    simp only [DropCopy.checkResponse,DropCopy.hasResponse_fst,flagged,if_true,kept,Option.map_some]
  have known : Walker.state c.stream.download = s := state
  unfold DropCopy.checkRequestQueue
  simp only [known]
  cases s with
  | undefined | subscribeBalances | subscribePositions | subscribeOrders | subscribeTrades | done => cases own
  | getBalances | getPositions | getTrades =>
      cases own
      exact answered some rfl
  | getOpenOrders =>
      cases own
      exact answered _ rfl
  | getStaleOrders =>
      cases own
      exact absurd rfl other

end downloads

variable [Download2 E OrderEntryREST.State]

section sessions
variable {answers : Kind → Web.Response}

-- The order stream is READY, and the download of the drop copy is in a state.
structure Standing (s : DropCopy.State) (details : List (Nat × Nat)) (w : World E D R) : Prop where
  orders : isReady w = true
  copy : ∃ stream, w.dropCopy = some stream ∧ Settled s details (session stream w)

structure Waiting (s : DropCopy.State) (details : List (Nat × Nat)) (w : World E D R) : Prop extends Standing s details w where
  pending : ∀ k, s.kind = some k → w.request.pending k = true

omit [Download2 E OrderEntryREST.State] [LimitRequest R] in
theorem Standing.moved {w after : World E D R} (standing : Standing s details w) (dropCopy : after.dropCopy = w.dropCopy)
    (rest : after.rest = w.rest) (same : after.request.detailsStaleOrders = w.request.detailsStaleOrders) :
    Standing s details after := by
  obtain ⟨stream,present,settled⟩ := standing.copy
  refine ⟨?_,stream,dropCopy.trans present,settled.state,settled.status,same.trans settled.details⟩
  rw [isReady,rest]
  exact standing.orders

theorem step_copied {w : World E D R} {c : Session D R} (present : w.dropCopy = some stream)
    (ran : DropCopy.step config (session stream (receive (.dropCopy event) w)) event = some c) :
    AccountSystem.step config w (.dropCopy event) = some (resume (receive (.dropCopy event) w) c) := by
  simp only [AccountSystem.step,present,ran,Option.map_some]

omit [Download2 E OrderEntryREST.State] in
theorem resume_waits {w : World E D R} {c : Session D R} (orders : isReady w = true) (entered : Entered s details c) :
    Waiting s details (resume (receive event w) c) :=
  ⟨⟨orders,c.stream,rfl,entered.toSettled⟩,entered.pending⟩

variable [LawfulLimitRequest R]

theorem ack_moves [LawfulDownload2 D]
    {w : World E D R} (t : TraceInfo) (waiting : Waiting s details w) (subscribing : s.isSubscribe = true) :
    Reaches (AccountSystem.step config) (Cooperates answers) 1 w (Waiting (restsAt config details s.next) details) := by
  obtain ⟨stream,present,settled⟩ := waiting.copy
  let event : DropCopyEvent := .ack t ⟨s.name,true⟩
  let c := session stream (receive (.dropCopy event) w)
  have current : Walker.state stream.download = s := settled.state
  have running : Download2.downloading stream.download = true :=
    (LawfulDownload2.downloading_iff _).mpr (current ▸ DropCopy.State.subscribe_working subscribing)
  have walk := LawfulDownload2.check_current (DropCopy.onDownload config t) stream.download c running
  have after := walk_enters walk (DropCopy.State.next_working _)
  have known : c.request.detailsStaleOrders = details := settled.details
  rw [current,known] at after
  have stepped : DropCopy.step config c event = some (DropCopy.check config t s c) := by
    simp only [DropCopy.step,event,DropCopy.onAck,DropCopy.State.ofName_iff.mpr rfl]
  exact .one (.acked subscribing) (step_copied present stepped) (resume_waits waiting.orders after)

theorem own_kind {s : DropCopy.State} (own : s.kind = some k) : k ≠ .privateToken := by
  rintro rfl
  cases s <;> cases own

theorem poll_asks {w : World E D R} (t : TraceInfo) (master : config.account.master = true) (waiting : Waiting s details w)
    (own : s.kind = some k) (other : k ≠ .staleOrders) :
    Reaches (AccountSystem.step config) (Cooperates answers) 1 w fun asked =>
      Standing s details asked ∧ ∃ x later, asked.inFlight = x :: later ∧ x.callback.kind = some k := by
  let event : OrderEntryRestEvent := .timer t true (fun kind => decide (kind = k)) (fun _ _ => none) []
  have polled : ∃ taken, Alike (receive (.rest event) w) taken ∧ Alike (serve config t k taken)
      (onTimer config t true (fun kind => decide (kind = k)) (fun _ _ => none) [] (receive (.rest event) w)) :=
    poll_serves t waiting.orders (.inl master) (waiting.pending k own)
  obtain ⟨taken,same,served⟩ := polled
  obtain ⟨x,flies,kind,dropCopy,rest,request⟩ : ∃ x, (serve config t k taken).inFlight = x :: taken.inFlight ∧
      x.callback.kind = some k ∧ (serve config t k taken).dropCopy = taken.dropCopy ∧
      (serve config t k taken).rest = taken.rest ∧ (serve config t k taken).request = taken.request := serve_flies t other taken
  refine .one .polled rfl ⟨?_,x,_,served.inFlight.trans flies,kind⟩
  refine waiting.toStanding.moved (served.dropCopy.trans (dropCopy.trans same.dropCopy))
    (served.rest.trans (rest.trans same.rest)) (served.details.trans ?_)
  rw [request]
  exact same.details

theorem answer_flags {w : World E D R} (t : TraceInfo) (survives : redirects (answers k) = false)
    (own : k ≠ .staleOrders ∧ k ≠ .privateToken) (standing : Standing s details w) (flying : w.inFlight = x :: later)
    (kind : x.callback.kind = some k) :
    Reaches (AccountSystem.step config) (Cooperates answers) 1 w fun answered =>
      Standing s details answered ∧ answered.request.response k = true := by
  have found : w.inFlight.find? (fun s => s.id == x.id) = some x := by
    rw [flying]
    exact List.find?_cons_of_pos (by simp)
  let start : World E D R := answering x (receive (.rest (.response t x.id (answers k))) w)
  have survived : (invoke config t x (answers k) start).isSome = !redirects (answers k) :=
    ProcessEnds.invoke_ends fun stale => absurd (Option.some.inj (kind.symm.trans stale)) own.1
  rw [survives] at survived
  obtain ⟨after,ran⟩ := Option.isSome_iff_exists.mp survived
  obtain ⟨noted,aside,rfl⟩ := invoke_commits kind own ran
  refine .one .answered ((step_response found).trans ran) ⟨?_,?_⟩
  · exact standing.moved aside.dropCopy aside.rest aside.details
  · simp [commit]

variable [LawfulDownload2 D]

theorem tick_moves {w : World E D R} (t : TraceInfo) (own : s.kind = some k) (other : k ≠ .staleOrders)
    (standing : Standing s details w) (flagged : w.request.response k = true) :
    Reaches (AccountSystem.step config) (Cooperates answers) 1 w (Waiting (restsAt config details s.next) details) := by
  obtain ⟨stream,present,settled⟩ := standing.copy
  let event : DropCopyEvent := .timer t 0 true []
  let c := session stream (receive (.dropCopy event) w)
  let read := (DropCopy.hasResponse k c).2
  have current : Walker.state stream.download = s := settled.state
  have running : Download2.downloading stream.download = true :=
    (LawfulDownload2.downloading_iff _).mpr (current ▸ DropCopy.State.waits_working own)
  have walk := LawfulDownload2.check_current (DropCopy.onDownload config t) stream.download read running
  have entered := walk_enters walk (DropCopy.State.next_working _)
  have known : read.request.detailsStaleOrders = details := settled.details
  rw [current,known] at entered
  have stepped : DropCopy.step config c event = some (DropCopy.housekeeping config t 0 [] (DropCopy.check config t s read)) := by
    have answered : DropCopy.checkRequestQueue config t [] c = some (DropCopy.check config t s read) :=
      checkRequestQueue_answered t settled.state own other flagged
    simp only [DropCopy.step,event,DropCopy.onTimer,if_true,answered,Option.map_some]
  exact .one .ticked (step_copied present stepped) (resume_waits standing.orders (housekeeping_enters t 0 entered))

-- The three of them are one round of a state that waits for a response.
theorem round_moves {w : World E D R} (t : TraceInfo) (master : config.account.master = true)
    (survives : ∀ k, redirects (answers k) = false) (waiting : Waiting s details w) (own : s.kind = some k)
    (other : k ≠ .staleOrders) :
    Reaches (AccountSystem.step config) (Cooperates answers) 3 w (Waiting (restsAt config details s.next) details) := by
  have flagged : Reaches (AccountSystem.step config) (Cooperates answers) (1 + 1) w fun answered =>
      Standing s details answered ∧ answered.request.response k = true := by
    refine (poll_asks t master waiting own other).trans ?_
    rintro asked ⟨standing,x,later,flying,kind⟩
    exact answer_flags t (survives k) ⟨other,own_kind own⟩ standing flying kind
  exact flagged.trans fun _ answered => tick_moves t own other answered.1 answered.2

-- The order stream is READY, and there is a drop copy.
structure Linked (details : List (Nat × Nat)) (w : World E D R) : Prop where
  orders : isReady w = true
  copy : ∃ stream, w.dropCopy = some stream
  details : w.request.detailsStaleOrders = details

structure Offline (details : List (Nat × Nat)) (w : World E D R) : Prop extends Linked details w where
  idle : ∀ stream, w.dropCopy = some stream → Download2.downloading stream.download = false

omit [Download2 E OrderEntryREST.State] [LimitRequest R] [LawfulDownload2 D] [LawfulLimitRequest R] in
theorem Standing.linked {w : World E D R} (standing : Standing s details w) : Linked details w := by
  obtain ⟨stream,present,settled⟩ := standing.copy
  exact ⟨standing.orders,⟨stream,present⟩,settled.details⟩

omit [LawfulLimitRequest R] in
theorem drop_moves {w : World E D R} (t : TraceInfo) (linked : Linked details w) :
    Reaches (AccountSystem.step config) (Cooperates answers) 1 w (Offline details) := by
  obtain ⟨stream,present⟩ := linked.copy
  refine .one (.dropped (t := t)) (step_copied present rfl) ⟨⟨linked.orders,⟨_,rfl⟩,linked.details⟩,?_⟩
  intro later same
  obtain rfl := Option.some.inj same
  rw [← Bool.not_eq_true]
  intro running
  exact absurd (LawfulDownload2.reset_state _) ((LawfulDownload2.downloading_iff _).mp running).1

omit [LawfulDownload2 D] [LawfulLimitRequest R] in
theorem open_moves {w : World E D R} (t : TraceInfo) (offline : Offline details w) :
    Reaches (AccountSystem.step config) (Cooperates answers) 1 w (Offline details) := by
  obtain ⟨stream,present⟩ := offline.copy
  refine .one (.opened (t := t)) (step_copied present rfl) ⟨⟨offline.orders,⟨_,rfl⟩,offline.details⟩,?_⟩
  intro later same
  obtain rfl := Option.some.inj same
  exact offline.idle stream present

theorem welcome_moves {w : World E D R} (t : TraceInfo) (offline : Offline details w) :
    Reaches (AccountSystem.step config) (Cooperates answers) 1 w (Waiting .subscribeBalances details) := by
  obtain ⟨stream,present⟩ := offline.copy
  let c : Session D R := session {stream with welcome := true} (receive (.dropCopy (.welcome t)) w)
  have entered := walk_enters (LawfulDownload2.begin_idle (DropCopy.onDownload config t) stream.download c
    (offline.idle stream present)) (by decide)
  have known : c.request.detailsStaleOrders = details := offline.details
  rw [known] at entered
  exact .one .welcomed (step_copied present rfl) (resume_waits offline.orders entered)

-- A session from its start to where the stale orders are looked at.
theorem session_moves {w : World E D R} (t : TraceInfo) (master : config.account.master = true)
    (survives : ∀ k, redirects (answers k) = false) (linked : Linked details w) :
    Reaches (AccountSystem.step config) (Cooperates answers) 15 w (Waiting (restsAt config details .getStaleOrders) details) := by
  have greeted : Reaches (AccountSystem.step config) (Cooperates answers) 3 w (Waiting .subscribeBalances details) :=
    ((drop_moves t linked).trans fun _ => open_moves t).trans fun _ => welcome_moves t
  have balances : ∀ w : World E D R, Waiting .subscribeBalances details w →
      Reaches (AccountSystem.step config) (Cooperates answers) 4 w (Waiting .subscribePositions details) :=
    fun _ waiting => (ack_moves t waiting rfl).trans fun _ asks => round_moves t master survives asks rfl (by decide)
  have positions : ∀ w : World E D R, Waiting .subscribePositions details w →
      Reaches (AccountSystem.step config) (Cooperates answers) 4 w (Waiting .subscribeOrders details) :=
    fun _ waiting => (ack_moves t waiting rfl).trans fun _ asks => round_moves t master survives asks rfl (by decide)
  have orders : ∀ w : World E D R, Waiting .subscribeOrders details w →
      Reaches (AccountSystem.step config) (Cooperates answers) 4 w (Waiting (restsAt config details .getStaleOrders) details) :=
    fun _ waiting => (ack_moves t waiting rfl).trans fun _ asks => round_moves t master survives asks rfl (by decide)
  exact ((greeted.trans balances).trans positions).trans orders

-- And from there to its end.
theorem trades_move {w : World E D R} (t : TraceInfo) (master : config.account.master = true)
    (survives : ∀ k, redirects (answers k) = false) (waiting : Waiting .subscribeTrades details w) :
    Reaches (AccountSystem.step config) (Cooperates answers) 4 w Ready := by
  have ready : ∀ w : World E D R, Waiting .done details w → Ready w := by
    intro w done
    obtain ⟨stream,present,settled⟩ := done.copy
    exact ⟨done.orders,stream,present,settled.status⟩
  have acked : Reaches (AccountSystem.step config) (Cooperates answers) 1 w (Waiting (restsAt config details .getTrades) details) :=
    ack_moves t waiting rfl
  by_cases none : config.settings.downloadTradesLookback = 0
  · have rests : restsAt config details .getTrades = .done := if_pos none
    rw [rests] at acked
    exact (acked.trans fun w done => .here (ready w done)).within (by decide)
  · have rests : restsAt config details .getTrades = .getTrades := if_neg none
    rw [rests] at acked
    have done : Reaches (AccountSystem.step config) (Cooperates answers) 4 w (Waiting .done details) :=
      acked.trans fun _ waits => round_moves t master survives waits rfl (by decide)
    exact done.trans fun w done => .here (ready w done)

-- A Timer takes the stale orders that nobody knows any more off the list.
omit [LawfulDownload2 D] in
theorem stale_moves {w : World E D R} (t : TraceInfo) (master : config.account.master = true)
    (waiting : Waiting .getStaleOrders details w) :
    Reaches (AccountSystem.step config) (Cooperates answers) 1 w (Linked []) := by
  obtain ⟨stream,present,_⟩ := waiting.copy
  let event : OrderEntryRestEvent := .timer t true (fun kind => decide (kind = .staleOrders)) (fun _ _ => none) []
  have polled : ∃ taken, Alike (receive (.rest event) w) taken ∧ Alike (serve config t .staleOrders taken)
      (onTimer config t true (fun kind => decide (kind = .staleOrders)) (fun _ _ => none) [] (receive (.rest event) w)) :=
    poll_serves t waiting.orders (.inl master) (waiting.pending .staleOrders rfl)
  obtain ⟨taken,same,served⟩ := polled
  have cleared : (serve config t .staleOrders taken).dropCopy = taken.dropCopy ∧
      (serve config t .staleOrders taken).rest = taken.rest ∧
      (serve config t .staleOrders taken).request.detailsStaleOrders = [] := serve_clears t taken
  obtain ⟨dropCopy,rest,none⟩ := cleared
  refine .one .polled rfl ⟨?_,⟨stream,?_⟩,served.details.trans none⟩
  · rw [isReady,served.rest,rest,same.rest]
    exact waiting.orders
  · exact (served.dropCopy.trans (dropCopy.trans same.dropCopy)).trans present

theorem linked_recovers {w : World E D R} (t : TraceInfo) (master : config.account.master = true)
    (survives : ∀ k, redirects (answers k) = false) (linked : Linked details w) :
    Reaches (AccountSystem.step config) (Cooperates answers) 35 w Ready := by
  -- with nothing on the list one session will do
  have clean : ∀ w : World E D R, Linked [] w → Reaches (AccountSystem.step config) (Cooperates answers) 19 w Ready :=
    fun w linked => (session_moves t master survives linked).trans fun _ => trades_move t master survives
  by_cases empty : details = []
  · exact (clean w (empty ▸ linked)).within (by decide)
  · have rests : restsAt config details .getStaleOrders = .getStaleOrders := if_neg empty
    have listed : Reaches (AccountSystem.step config) (Cooperates answers) 15 w
        (Waiting (restsAt config details .getStaleOrders) details) := session_moves t master survives linked
    rw [rests] at listed
    exact (listed.trans fun _ => stale_moves t master).trans clean

end sessions

section tokens
variable {answers : Kind → Web.Response}

omit [Download2 D DropCopy.State] [LimitRequest R] in
theorem connected_walks [LawfulDownload2 E] (t : TraceInfo) (w : World E D R) : ∃ d during,
    Walk (onDownload config t) OrderEntryREST.State.privateToken w d during ∧ onConnected config t w = withDownload (d,during) := by
  unfold onConnected
  cases running : isDownloading w with
  | true =>
      have walk := LawfulDownload2.bump_running (onDownload config t) w.rest.download w running
      rw [(TokenDownload.isDownloading_iff w).mp running] at walk
      exact ⟨_,_,walk,rfl⟩
  | false => exact ⟨_,_,LawfulDownload2.begin_idle (onDownload config t) w.rest.download w running,rfl⟩

-- There has been a token: the order stream is READY as soon as it is connected.
omit [Download2 D DropCopy.State] [LimitRequest R] in
theorem connected_ready [LawfulDownload2 E]
    {w : World E D R} (t : TraceInfo) (known : w.rest.hasDownloadedPrivateToken = true) :
    isReady (onConnected config t w) = true ∧ isDownloading (onConnected config t w) = false ∧
      (onConnected config t w).dropCopy = w.dropCopy ∧ (onConnected config t w).inFlight = w.inFlight ∧
      (onConnected config t w).request = w.request ∧ (onConnected config t w).rest.hasDownloadedPrivateToken = true := by
  have walks : ∃ d during, Walk (onDownload config t) OrderEntryREST.State.privateToken w d during ∧
      onConnected config t w = withDownload (d,during) := connected_walks t w
  obtain ⟨d,during,walk,same⟩ := walks
  rw [same]
  rcases TokenDownload.walk_first walk rfl with ⟨_,rests,rfl⟩ | ⟨unset,_⟩
  · refine ⟨rfl,?_,rfl,rfl,rfl,known⟩
    rw [← Bool.not_eq_true]
    intro running
    have waits := (TokenDownload.isDownloading_iff _).mp running
    cases rests.symm.trans waits
  · rw [known] at unset
    cases unset

-- There has been none: it is asked for.
omit [Download2 D DropCopy.State] [LimitRequest R] in
theorem connected_asks [LawfulDownload2 E]
    {w : World E D R} (t : TraceInfo) (unset : w.rest.hasDownloadedPrivateToken = false) :
    Walker.state (onConnected config t w).rest.download = OrderEntryREST.State.privateToken ∧
      (onConnected config t w).request = w.request ∧
      ∃ x, (onConnected config t w).inFlight = x :: w.inFlight ∧
        x.callback = .getPrivateTokenAck (Walker.sequence (onConnected config t w).rest.download) := by
  have walks : ∃ d during, Walk (onDownload config t) OrderEntryREST.State.privateToken w d during ∧
      onConnected config t w = withDownload (d,during) := connected_walks t w
  obtain ⟨d,during,walk,same⟩ := walks
  rw [same]
  have asks : ∀ walker : E, onDownload config t walker .privateToken w = (1,getPrivateToken config t (Walker.sequence walker)
      (onConnectionStatus config .downloading OrderEntryREST.State.privateToken.name w)) := by
    intro walker
    simp only [onDownload,unset,Bool.false_eq_true,if_false]
  cases walk with
  | wait _ _ rests sequence =>
      rename_i walker _ _
      rw [asks walker]
      exact ⟨rests,rfl,_,rfl,congrArg Callback.getPrivateTokenAck sequence.symm⟩
  | pass _ zero =>
      rw [asks] at zero
      cases zero

omit [Download2 E OrderEntryREST.State] [LimitRequest R] in
theorem onToken_links (token : Json.Token) (w : World E D R) : (∃ stream, (onToken config token w).dropCopy = some stream) ∧
    (onToken config token w).rest = w.rest ∧ (onToken config token w).request = w.request := by
  unfold onToken Controller.onPrivateToken
  dsimp only
  split
  · exact ⟨⟨_,rfl⟩,rfl,rfl⟩
  · rename_i dropCopy present
    split
    · exact ⟨⟨_,rfl⟩,rfl,rfl⟩
    · exact ⟨⟨dropCopy,present⟩,rfl,rfl⟩

theorem decodes_parts {decode : String → Except Exception (Json.Envelope α)} (good : decodes decode response = true) :
    ∃ body ack, content response = some body ∧ decode body = .ok ack ∧ ack.code = Json.SYSTEM_CODE_SUCCESS := by
  unfold decodes at good
  split at good
  · cases good
  · rename_i body known
    split at good
    · cases good
    · rename_i ack decoded
      exact ⟨body,ack,known,decoded,beq_iff_eq.mp good⟩

theorem token_taken {sequence : Nat} {w after : World E D R} (granted : decodes config.platform.token response = true)
    (current : (isDownloading w && Download2.skip sequence OrderEntryREST.State.privateToken w.rest.download) = false)
    (ran : getPrivateTokenAck config t sequence response w = some after) :
    ∃ token, token.code = Json.SYSTEM_CODE_SUCCESS ∧ after = commit t .privateToken (TokenDownload.processed config t token w) := by
  obtain ⟨processed,acked,rfl⟩ := getPrivateTokenAck_cases ran
  obtain ⟨body,ack,known,decoded,success⟩ := decodes_parts granted
  cases acked with
  | retried refused =>
      obtain ⟨e,other⟩ := refused body known
      rw [decoded] at other
      cases other
  | skipped skipped =>
      rw [current] at skipped
      cases skipped
  | processed _ same read =>
      cases known.symm.trans same
      cases decoded.symm.trans read
      exact ⟨ack,success,rfl⟩

-- It links the drop copy, and completes a download that waits for it.
omit [LimitRequest R] in
theorem processed_links [LawfulDownload2 E]
    {w : World E D R} (t : TraceInfo) {token : Json.Token} (success : token.code = Json.SYSTEM_CODE_SUCCESS)
    (ready : isDownloading w = true ∨ isReady w = true) :
    Linked w.request.detailsStaleOrders (TokenDownload.processed config t token w) := by
  obtain ⟨copied,rest,request⟩ : (∃ stream, (onToken config token w).dropCopy = some stream) ∧
      (onToken config token w).rest = w.rest ∧ (onToken config token w).request = w.request := onToken_links token w
  rw [TokenDownload.processed,if_pos success]
  rcases TokenDownload.checkPrivateToken_done config t (onToken config token w) with ⟨idle,same⟩ | ⟨d,_,same⟩
  · rw [isDownloading,rest] at idle
    have up : isReady w = true := ready.resolve_left (by rw [isDownloading,idle]; exact Bool.false_ne_true)
    rw [same]
    refine ⟨?_,copied,congrArg Request.detailsStaleOrders request⟩
    rw [isReady] at up ⊢
    exact rest ▸ up
  · rw [same]
    exact ⟨rfl,copied,congrArg Request.detailsStaleOrders request⟩

theorem token_links [LawfulDownload2 E]
    {sequence : Nat} {w : World E D R} (t : TraceInfo) (survives : redirects (answers .privateToken) = false)
    (granted : decodes config.platform.token (answers .privateToken) = true)
    (found : w.inFlight.find? (fun s => s.id == x.id) = some x) (callback : x.callback = .getPrivateTokenAck sequence)
    (current : (isDownloading w && Download2.skip sequence OrderEntryREST.State.privateToken w.rest.download) = false)
    (ready : isDownloading w = true ∨ isReady w = true) :
    Reaches (AccountSystem.step config) (Cooperates answers) 1 w (Linked w.request.detailsStaleOrders) := by
  let start : World E D R := answering x (receive (.rest (.response t x.id (answers .privateToken))) w)
  have survived : (invoke config t x (answers .privateToken) start).isSome = !redirects (answers .privateToken) :=
    ProcessEnds.invoke_ends fun stale => by rw [callback] at stale; cases stale
  rw [survives] at survived
  obtain ⟨after,ran⟩ := Option.isSome_iff_exists.mp survived
  have acked : getPrivateTokenAck config t sequence (answers .privateToken) start = some after := by
    rw [← ran,invoke,callback]
  have still : (isDownloading start && Download2.skip sequence OrderEntryREST.State.privateToken start.rest.download) = false := current
  obtain ⟨token,success,rfl⟩ := token_taken granted still acked
  have linked : Linked start.request.detailsStaleOrders (TokenDownload.processed config t token start) :=
    processed_links t success ready
  exact .one .answered ((step_response found).trans ran) ⟨linked.orders,linked.copy,linked.details⟩

-- An account without a drop copy that nothing will bring it: the token has been given up,
-- and nobody is after one.
structure Lost (w : World E D R) : Prop where
  dropCopy : w.dropCopy = none
  flag : w.rest.hasDownloadedPrivateToken = true
  pending : w.request.pending .privateToken = false
  inFlight : ∀ s ∈ w.inFlight, s.callback.kind ≠ some .privateToken

theorem find_own {inFlight : List Submission} (distinct : (inFlight.map (·.id)).Nodup) (present : x ∈ inFlight) :
    inFlight.find? (fun s => s.id == x.id) = some x := by
  cases found : inFlight.find? (fun s => s.id == x.id) with
  | none =>
      have missing := List.find?_eq_none.mp found x present
      simp at missing
  | some y =>
      have same : y.id = x.id := by simpa using List.find?_some found
      rw [List.inj_on_of_nodup_map distinct (List.mem_of_find?_eq_some found) present same]

omit [Download2 D DropCopy.State] [LimitRequest R] in
theorem onDisconnected_keeps (w : World E D R) : (onDisconnected config w).dropCopy = w.dropCopy ∧
    (onDisconnected config w).inFlight = w.inFlight ∧ (onDisconnected config w).request = w.request ∧
    (onDisconnected config w).rest.hasDownloadedPrivateToken = w.rest.hasDownloadedPrivateToken := by
  unfold onDisconnected
  dsimp only
  split
  · exact ⟨rfl,rfl,rfl,rfl⟩
  · exact ⟨rfl,rfl,rfl,rfl⟩

-- The order stream loses its connection and gets it back.
def offline (config : Config) (t : TraceInfo) (w : World E D R) : World E D R :=
  receive (.rest (.connected t)) (onDisconnected config (receive (.rest (.disconnected t)) w))

theorem reconnects {w : World E D R} (t : TraceInfo) {goal : World E D R → Prop}
    (onward : Reaches (AccountSystem.step config) (Cooperates answers) more (onConnected config t (offline config t w)) goal) :
    Reaches (AccountSystem.step config) (Cooperates answers) (2 + more) w goal := by
  have back : Reaches (AccountSystem.step config) (Cooperates answers) (1 + 1) w
      (· = onConnected config t (offline config t w)) := by
    let down : World E D R := onDisconnected config (receive (.rest (.disconnected t)) w)
    have drops : Reaches (AccountSystem.step config) (Cooperates answers) 1 w (· = down) := .one (.disconnected (t := t)) rfl rfl
    refine drops.trans ?_
    rintro during rfl
    exact .one (.connected (t := t)) rfl rfl
  exact back.trans fun during same => same ▸ onward

omit [Download2 D DropCopy.State] [LimitRequest R] in
theorem offline_keeps (t : TraceInfo) (w : World E D R) : (offline config t w).dropCopy = w.dropCopy ∧
    (offline config t w).inFlight = w.inFlight ∧ (offline config t w).request = w.request ∧
    (offline config t w).rest.hasDownloadedPrivateToken = w.rest.hasDownloadedPrivateToken :=
  onDisconnected_keeps (receive (.rest (.disconnected t)) w)

variable [LawfulDownload2 E]

-- Whoever has not had a token asks for one.
theorem unset_links {w : World E D R} (t : TraceInfo) (survives : redirects (answers .privateToken) = false)
    (granted : decodes config.platform.token (answers .privateToken) = true)
    (unset : w.rest.hasDownloadedPrivateToken = false) :
    Reaches (AccountSystem.step config) (Cooperates answers) 3 w (Linked w.request.detailsStaleOrders) := by
  obtain ⟨_,_,request,flag⟩ : _ ∧ _ ∧ (offline config t w).request = w.request ∧
    (offline config t w).rest.hasDownloadedPrivateToken = _ := offline_keeps t w
  let up : World E D R := onConnected config t (offline config t w)
  obtain ⟨waits,asked,x,flies,callback⟩ : Walker.state up.rest.download = OrderEntryREST.State.privateToken ∧
      up.request = (offline config t w).request ∧ ∃ x, up.inFlight = x :: (offline config t w).inFlight ∧
        x.callback = .getPrivateTokenAck (Walker.sequence up.rest.download) := connected_asks t (flag.trans unset)
  have found : up.inFlight.find? (fun s => s.id == x.id) = some x := by
    rw [flies]
    exact List.find?_cons_of_pos (by simp)
  have current : (isDownloading up && Download2.skip (Walker.sequence up.rest.download) OrderEntryREST.State.privateToken
      up.rest.download) = false := by
    rw [← waits,LawfulDownload2.skip_current,Bool.and_false]
  have links : Reaches (AccountSystem.step config) (Cooperates answers) 1 up (Linked up.request.detailsStaleOrders) :=
    token_links t survives granted found callback current (.inl ((TokenDownload.isDownloading_iff up).mpr waits))
  rw [asked,request] at links
  exact reconnects t links

-- Of the others the order stream is READY at once.
structure Restored (w up : World E D R) : Prop where
  ready : isReady up = true
  idle : isDownloading up = false
  dropCopy : up.dropCopy = w.dropCopy
  inFlight : up.inFlight = w.inFlight
  request : up.request = w.request

omit [Download2 D DropCopy.State] [LimitRequest R] in
theorem restores {w : World E D R} (t : TraceInfo) (known : w.rest.hasDownloadedPrivateToken = true) :
    Restored w (onConnected config t (offline config t w)) := by
  let down : World E D R := offline config t w
  obtain ⟨dropCopy,inFlight,request,flag⟩ : down.dropCopy = w.dropCopy ∧ down.inFlight = w.inFlight ∧
    down.request = w.request ∧ down.rest.hasDownloadedPrivateToken = w.rest.hasDownloadedPrivateToken := offline_keeps t w
  obtain ⟨ready,idle,copied,flying,asked,_⟩ : isReady (onConnected config t down) = true ∧
    isDownloading (onConnected config t down) = false ∧ (onConnected config t down).dropCopy = down.dropCopy ∧
    (onConnected config t down).inFlight = down.inFlight ∧ (onConnected config t down).request = down.request ∧ _ :=
    connected_ready t (flag.trans known)
  exact ⟨ready,idle,copied.trans dropCopy,flying.trans inFlight,asked.trans request⟩

-- A token request that is in flight is answered.
theorem flying_links {w : World E D R} (t : TraceInfo) (survives : redirects (answers .privateToken) = false)
    (granted : decodes config.platform.token (answers .privateToken) = true) (ready : isReady w = true)
    (idle : isDownloading w = false) (found : w.inFlight.find? (fun s => s.id == x.id) = some x)
    (kind : x.callback.kind = some .privateToken) :
    Reaches (AccountSystem.step config) (Cooperates answers) 1 w (Linked w.request.detailsStaleOrders) := by
  cases callback : x.callback with
  | getPrivateTokenAck sequence => exact token_links t survives granted found callback (by rw [idle,Bool.false_and]) (.inr ready)
  | _ =>
      rw [callback] at kind
      cases kind

variable [LawfulLimitRequest R]

-- One that is pending is sent first.
theorem pending_links {w : World E D R} (t : TraceInfo) (survives : redirects (answers .privateToken) = false)
    (granted : decodes config.platform.token (answers .privateToken) = true) (ready : isReady w = true)
    (idle : isDownloading w = false) (pending : w.request.pending .privateToken = true) :
    Reaches (AccountSystem.step config) (Cooperates answers) 2 w (Linked w.request.detailsStaleOrders) := by
  let event : OrderEntryRestEvent := .timer t true (fun kind => decide (kind = .privateToken)) (fun _ _ => none) []
  let asked : World E D R :=
    onTimer config t true (fun kind => decide (kind = .privateToken)) (fun _ _ => none) [] (receive (.rest event) w)
  obtain ⟨taken,same,served⟩ : ∃ taken, Alike (receive (.rest event) w) taken ∧ Alike (serve config t .privateToken taken) asked :=
    poll_serves t ready (.inr rfl) pending
  have other : Kind.privateToken ≠ .staleOrders := by decide
  obtain ⟨x,flies,kind,_,rest,request⟩ : ∃ x, (serve config t .privateToken taken).inFlight = x :: taken.inFlight ∧
      x.callback.kind = some .privateToken ∧ (serve config t .privateToken taken).dropCopy = taken.dropCopy ∧
      (serve config t .privateToken taken).rest = taken.rest ∧ (serve config t .privateToken taken).request = taken.request :=
    serve_flies t other taken
  have kept : asked.rest = w.rest := served.rest.trans (rest.trans same.rest)
  have found : asked.inFlight.find? (fun s => s.id == x.id) = some x := by
    rw [served.inFlight.trans flies]
    exact List.find?_cons_of_pos (by simp)
  have links : Reaches (AccountSystem.step config) (Cooperates answers) 1 asked (Linked asked.request.detailsStaleOrders) :=
    flying_links t survives granted (by rwa [isReady,kept]) (by rwa [isDownloading,kept]) found kind
  have details : asked.request.detailsStaleOrders = w.request.detailsStaleOrders :=
    served.details.trans ((congrArg Request.detailsStaleOrders request).trans same.details)
  rw [details] at links
  have polls : Reaches (AccountSystem.step config) (Cooperates answers) 1 w (· = asked) := .one .polled rfl rfl
  exact polls.trans fun _ same => same ▸ links

-- Whoever is not lost gets a drop copy, and its order stream READY.
theorem found_links {w : World E D R} (t : TraceInfo) (survives : redirects (answers .privateToken) = false)
    (granted : decodes config.platform.token (answers .privateToken) = true) (distinct : (w.inFlight.map (·.id)).Nodup)
    (found : ¬ Lost w) :
    Reaches (AccountSystem.step config) (Cooperates answers) 4 w (Linked w.request.detailsStaleOrders) := by
  let up : World E D R := onConnected config t (offline config t w)
  cases known : w.rest.hasDownloadedPrivateToken with
  | false => exact (unset_links t survives granted known).within (by decide)
  | true =>
      have restored : Restored w up := restores t known
      cases present : w.dropCopy with
      | some stream =>
          refine Reaches.within (reconnects t (.here ⟨restored.ready,⟨stream,?_⟩,?_⟩)) (by decide)
          · exact restored.dropCopy.trans present
          · exact congrArg Request.detailsStaleOrders restored.request
      | none =>
          rw [← restored.request]
          cases pending : w.request.pending .privateToken with
          | true =>
              refine reconnects t (pending_links t survives granted restored.ready restored.idle ?_)
              rw [restored.request]
              exact pending
          | false =>
              have asked : ∃ s ∈ w.inFlight, s.callback.kind = some .privateToken := by
                by_contra nobody
                exact found ⟨present,known,pending,fun s member token => nobody ⟨s,member,token⟩⟩
              obtain ⟨x,member,kind⟩ := asked
              refine Reaches.within (reconnects t (flying_links t survives granted restored.ready restored.idle ?_ kind)) (by decide)
              rw [restored.inFlight]
              exact find_own distinct member

end tokens
end account

variable [LimitRequest R]

-- And whoever is lost stays lost, whatever happens.
section lost

theorem Lost.alike {w after : World E D R} (lost : Lost w) (alike : Alike w after)
    (pending : after.request.pending .privateToken = true → w.request.pending .privateToken = true) : Lost after := by
  refine ⟨alike.dropCopy.trans lost.dropCopy,?_,?_,?_⟩
  · rw [alike.rest]
    exact lost.flag
  · rw [← Bool.not_eq_true]
    intro set
    rw [lost.pending] at pending
    cases pending set
  · rw [alike.inFlight]
    exact lost.inFlight

theorem Lost.aside {w after : World E D R} (lost : Lost w) (aside : Aside w after) : Lost after :=
  lost.alike aside.toAlike fun set => aside.request ▸ set

theorem Lost.submit {w : World E D R} (lost : Lost w) (other : callback.kind ≠ some .privateToken) :
    Lost (w.submit request callback requestId) := by
  refine ⟨lost.dropCopy,lost.flag,lost.pending,?_⟩
  intro s member
  rcases List.mem_cons.mp member with rfl | earlier
  · exact other
  · exact lost.inFlight s earlier

theorem Lost.commit [LawfulLimitRequest R]
    {w : World E D R} (lost : Lost w) (t : TraceInfo) (k : Kind) : Lost (OrderEntryREST.commit t k w) :=
  lost.alike ⟨rfl,rfl,rfl,rfl⟩ fun set => by simpa [OrderEntryREST.commit] using set

theorem Lost.foldl {step : World E D R → α → World E D R} {w : World E D R} (lost : Lost w)
    (each : ∀ w x, Lost w → Lost (step w x)) (xs : List α) : Lost (xs.foldl step w) := by
  induction xs generalizing w with
  | nil => exact lost
  | cons x rest ih => exact ih (each w x lost)

theorem Lost.checkPending [LawfulLimitRequest R]
    {callback : World E D R → World E D R} {w : World E D R} (lost : Lost w) (t : TraceInfo) (granted : Bool)
    (each : k ≠ .privateToken → ∀ w, Lost w → Lost (callback w)) : Lost (checkPending t k granted callback w) := by
  have taken : Lost {w with request := (w.request.checkPending t k granted).2} := by
    refine lost.alike ⟨rfl,rfl,rfl,rfl⟩ fun set => ?_
    simp only [Request.checkPending_pending,Bool.and_eq_true] at set
    exact set.1
  rw [checkPending_eq]
  split
  · rename_i due
    refine each ?_ _ taken
    rintro rfl
    rw [lost.pending] at due
    cases due
  · exact taken

theorem Lost.asks {w : World E D R} (lost : Lost w) (t : TraceInfo) (findOrder : Nat → Nat → Option Order) :
    Lost (getStaleOrders config t findOrder w) := by
  have asked : Lost (w.request.detailsStaleOrders.foldl (getStaleOrder config t findOrder) w) := by
    refine lost.foldl ?_ _
    intro w key lost
    unfold getStaleOrder
    split
    · exact lost
    · rename_i order _
      have sent : Lost (getOrder config t order.symbol order.clientOrderId order.externalOrderId w) := lost.submit (by intro token; cases token)
      exact ⟨sent.dropCopy,sent.flag,sent.pending,sent.inFlight⟩
  exact ⟨asked.dropCopy,asked.flag,asked.pending,asked.inFlight⟩

theorem Lost.timer [Download2 E OrderEntryREST.State] [LawfulLimitRequest R]
    {w : World E D R} (lost : Lost w) (t : TraceInfo) (refresh : Bool) (canRequest : Kind → Bool)
    (findOrder : Nat → Nat → Option Order) (symbols : List String) :
    Lost (onTimer config t refresh canRequest findOrder symbols w) := by
  have queued : Lost (checkRequestQueue config t canRequest findOrder symbols w) := by
    unfold checkRequestQueue
    refine Lost.foldl ?_ (fun w symbol lost => lost.submit (by intro token; cases token)) symbols
    refine Lost.checkPending ?_ t _ fun _ w lost => lost.submit (by intro token; cases token)
    refine Lost.checkPending ?_ t _ fun _ w lost => lost.asks t findOrder
    refine Lost.checkPending ?_ t _ fun _ w lost => lost.submit (by intro token; cases token)
    refine Lost.checkPending ?_ t _ fun _ w lost => lost.submit (by intro token; cases token)
    exact lost.checkPending t _ fun _ w lost => lost.submit (by intro token; cases token)
  unfold onTimer
  split
  · refine Lost.checkPending ?_ t _ fun other => absurd rfl other
    split
    · exact queued
    · exact lost
  · exact lost

theorem Lost.act {w : World E D R} (lost : Lost w) (action : OrderAction) : Lost (act config w action).2 := by
  cases action with
  | createOrder messageInfo order refData requestId =>
      simp only [OrderEntryREST.act,createOrder]
      split
      · exact lost
      · exact lost.submit (by intro token; cases token)
  | modifyOrder => exact lost
  | cancelOrder messageInfo cancel order requestId =>
      simp only [OrderEntryREST.act,cancelOrder]
      split
      · exact lost
      · exact lost.submit (by intro token; cases token)
  | cancelAllOrders messageInfo cancel requestId symbols =>
      simp only [OrderEntryREST.act,cancelAllOrders]
      split
      · exact lost
      · refine lost.foldl ?_ symbols
        intro w symbol lost
        split
        · exact lost
        · exact (lost.submit (by intro token; cases token)).aside (.emit _ _)

theorem invoke_aside [Download2 E OrderEntryREST.State] [Download2 D DropCopy.State]
    {submission : Submission} {w after : World E D R} (foreign : submission.callback.kind = none)
    (ran : invoke config t submission response w = some after) : Aside w after := by
  have trans : ∀ a b c : World E D R, Aside a b → Aside b c → Aside a c := fun _ _ _ one two => one.trans two
  unfold invoke at ran
  cases callback : submission.callback with
  | createOrderAck =>
      rw [callback] at ran
      refine processResponse_rule Aside.refl trans (fun _ _ _ _ w => .emit w _) ?_ ran
      intro body w
      split
      · exact .refl w
      · split <;> exact .emit w _
  | cancelOrderAck =>
      rw [callback] at ran
      refine processResponse_rule Aside.refl trans (fun _ _ _ _ w => .emit w _) ?_ ran
      intro body w
      split
      · exact .refl w
      · split
        · split <;> exact .emit w _
        · exact .emit w _
  | cancelAllOrdersAck =>
      rw [callback] at ran
      refine processResponse_rule Aside.refl trans (fun _ _ _ _ w => .emit w _) ?_ ran
      intro body w
      split
      · exact .refl w
      · split <;> exact .emit w _
  | getOrderBookAck =>
      rw [callback] at ran
      refine processResponse_rule Aside.refl trans (fun _ _ _ _ w => .refl w) ?_ ran
      intro body w
      split
      · exact .refl w
      · split
        · exact .emit w _
        · exact .refl w
  | getPrivateTokenAck | getAccountAck | getPositionAck | getOrdersAck | getOrderAck | getExecutionAck =>
      rw [callback] at foreign
      cases foreign

variable [LawfulLimitRequest R]

theorem Lost.counted {w after : World E D R} (lost : Lost w) (ran : getOrderAck config t clientOrderId response w = some after) :
    Lost after := by
  obtain ⟨noted,process,rest⟩ := Option.bind_eq_some_iff.mp ran
  have aside : Aside w noted :=
    processResponse_rule Aside.refl (fun _ _ _ one two => one.trans two) (fun _ _ _ _ w => .refl w) (fun _ w => .refl w) process
  have kept := lost.aside aside
  split at rest
  · cases rest
  · have counted : Lost {noted with rest.downloadStaleOrdersCounter := noted.rest.downloadStaleOrdersCounter - 1} :=
      ⟨kept.dropCopy,kept.flag,kept.pending,kept.inFlight⟩
    obtain rfl := Option.some.inj rest
    split
    · exact counted.commit t .staleOrders
    · exact counted

theorem Lost.invoked [Download2 E OrderEntryREST.State] [Download2 D DropCopy.State]
    {submission : Submission} {w after : World E D R} (lost : Lost w)
    (other : submission.callback.kind ≠ some .privateToken) (ran : invoke config t submission response w = some after) :
    Lost after := by
  cases kind : submission.callback.kind with
  | none => exact lost.aside (invoke_aside kind ran)
  | some k =>
      by_cases stale : k = .staleOrders
      · subst stale
        cases callback : submission.callback with
        | getOrderAck clientOrderId =>
            rw [invoke,callback] at ran
            exact lost.counted ran
        | _ =>
            rw [callback] at kind
            cases kind
      · obtain ⟨noted,aside,rfl⟩ := invoke_commits kind ⟨stale,fun token => other (token ▸ kind)⟩ ran
        exact (lost.aside aside).commit t k

theorem step_lost [Download2 E OrderEntryREST.State] [Download2 D DropCopy.State] [LawfulDownload2 E]
    {w after : World E D R} {event : Event} (lost : Lost w) (ran : AccountSystem.step config w event = some after) :
    Lost after := by
  have received : Lost (receive event w) := ⟨lost.dropCopy,lost.flag,lost.pending,lost.inFlight⟩
  cases event with
  | dropCopy event =>
      rcases step_dropCopy config ran with ⟨_,rfl⟩ | ⟨stream,_,present,_⟩
      · exact received
      · rw [lost.dropCopy] at present
        cases present
  | rest event =>
      cases event with
      | timer t refresh canRequest findOrder symbols =>
          obtain rfl := Option.some.inj ran
          exact received.timer t refresh canRequest findOrder symbols
      | connected t =>
          obtain rfl := Option.some.inj ran
          let after : World E D R := onConnected config t (receive (.rest (.connected t)) w)
          obtain ⟨_,_,dropCopy,inFlight,request,flag⟩ : isReady after = true ∧ isDownloading after = false ∧
            after.dropCopy = w.dropCopy ∧ after.inFlight = w.inFlight ∧ after.request = w.request ∧ _ :=
            connected_ready t lost.flag
          refine ⟨dropCopy.trans lost.dropCopy,flag,?_,fun s member => lost.inFlight s (inFlight ▸ member)⟩
          rw [request]
          exact lost.pending
      | disconnected t =>
          obtain rfl := Option.some.inj ran
          let after : World E D R := onDisconnected config (receive (.rest (.disconnected t)) w)
          obtain ⟨dropCopy,inFlight,request,flag⟩ : after.dropCopy = w.dropCopy ∧ after.inFlight = w.inFlight ∧
            after.request = w.request ∧ after.rest.hasDownloadedPrivateToken = _ := onDisconnected_keeps _
          refine ⟨dropCopy.trans lost.dropCopy,flag.trans lost.flag,?_,fun s member => lost.inFlight s (inFlight ▸ member)⟩
          rw [request]
          exact lost.pending
      | action action =>
          obtain rfl := Option.some.inj ran
          exact received.act action
      | response t id response =>
          cases found : w.inFlight.find? fun s => s.id == id with
          | none =>
              have unknown : (receive (.rest (.response t id response)) w).inFlight.find? (fun s => s.id == id) = none := found
              simp only [AccountSystem.step,OrderEntryREST.step,onResponse,unknown,Option.some.injEq] at ran
              exact ran ▸ received
          | some submission =>
              rw [step_response found] at ran
              refine Lost.invoked ?_ (lost.inFlight submission (List.mem_of_find?_eq_some found)) ran
              refine ⟨lost.dropCopy,lost.flag,lost.pending,?_⟩
              exact fun s member => lost.inFlight s (List.mem_of_mem_eraseP member)

end lost

variable [Download2 E OrderEntryREST.State] [Download2 D DropCopy.State]

section recovery
variable [LawfulDownload2 E] [LawfulDownload2 D] [LawfulLimitRequest R]

-- However a run has gone, the account of a master is READY again within 39 events in which
-- the exchange answers, unless the token has been given up and there is no drop copy: then
-- there never will be one.
theorem ready_stays_possible {answers : Kind → Web.Response} {w : World E D R} {events : List Event}
    (master : config.account.master = true) (survives : ∀ k, redirects (answers k) = false)
    (granted : decodes config.platform.token (answers .privateToken) = true)
    (ran : execute (AccountSystem.step config) AccountSystem.initial events = some w) :
    (Reaches (AccountSystem.step config) (Cooperates answers) 39 w Ready ↔ ¬ Lost w) ∧
      (Lost w → ∀ more after, execute (AccountSystem.step config) w more = some after → after.dropCopy = none) := by
  have stays : Lost w → ∀ more after, execute (AccountSystem.step config) w more = some after → after.dropCopy = none := by
    intro lost more after continued
    exact (execute_invariant (fun _ _ _ known stepped => step_lost known stepped) lost continued).dropCopy
  refine ⟨⟨?_,?_⟩,stays⟩
  · rintro ⟨more,after,_,_,continued,ready⟩ lost
    obtain ⟨stream,present,_⟩ := ready.dropCopy
    rw [stays lost more after continued] at present
    cases present
  · intro found
    have balanced : OrderLedger.Balanced w :=
      execute_invariant (fun _ _ _ known stepped => OrderLedger.step_balanced known stepped) OrderLedger.initial_balanced ran
    have distinct : (w.inFlight.map (·.id)).Nodup := by
      have all := balanced.distinct
      rw [List.map_append] at all
      exact all.of_append_right
    have linked : Reaches (AccountSystem.step config) (Cooperates answers) 4 w (Linked w.request.detailsStaleOrders) :=
      found_links ⟨0,0⟩ (survives .privateToken) granted distinct found
    exact linked.trans fun _ => linked_recovers ⟨0,0⟩ master survives

end recovery

section closed
open Smallest

-- An account whose session has broken off with a stale order on its list, and one that was
-- refused its first token.
def broken : List Event := toStaleOrders [{userId := 1, orderId := 2, symbol := "X", clientOrderId := "c", externalOrderId := ""}] ++ [drop]
def refused : List Event := [.rest (.connected t),answer 0 (reply "no")]

def again : Kind → Web.Response := fun _ => reply "ok"

theorem ready_stays_possible_again :
    (∃ w : Small, execute (AccountSystem.step (setup true)) AccountSystem.initial broken = some w ∧
      w.request.detailsStaleOrders = [(1,2)] ∧ Reaches (AccountSystem.step (setup true)) (Cooperates again) 39 w Ready) ∧
    ∃ w : Small, execute (AccountSystem.step (setup true)) AccountSystem.initial refused = some w ∧ isReady w = true ∧
      ∀ more after, execute (AccountSystem.step (setup true)) w more = some after → after.dropCopy = none := by
  constructor
  · have checked : (execute (AccountSystem.step (setup true)) (AccountSystem.initial : Small) broken).any (fun w =>
        w.dropCopy.isSome && decide (w.request.detailsStaleOrders = [(1,2)])) = true := by
      decide +kernel
    obtain ⟨w,ran,known⟩ := (Option.any_eq_true _ _).mp checked
    simp only [Bool.and_eq_true,decide_eq_true_eq] at known
    refine ⟨w,ran,known.2,(ready_stays_possible rfl (fun _ => rfl) (by decide) ran).1.mpr ?_⟩
    intro lost
    rw [lost.dropCopy] at known
    cases known.1
  · have checked : (execute (AccountSystem.step (setup true)) (AccountSystem.initial : Small) refused).any (fun w =>
        w.dropCopy.isNone && w.rest.hasDownloadedPrivateToken && !w.request.pending .privateToken && w.inFlight.isEmpty &&
          isReady w) = true := by
      decide +kernel
    obtain ⟨w,ran,known⟩ := (Option.any_eq_true _ _).mp checked
    simp only [Bool.and_eq_true,Option.isNone_iff_eq_none,Bool.not_eq_true',List.isEmpty_iff] at known
    obtain ⟨⟨⟨⟨none,flag⟩,pending⟩,empty⟩,ready⟩ := known
    have lost : Lost w := ⟨none,flag,pending,by simp [empty]⟩
    have granted : decodes (setup true).platform.token (again .privateToken) = true := by decide
    exact ⟨w,ran,ready,(ready_stays_possible rfl (fun _ => rfl) granted ran).2 lost⟩

end closed
end KucoinPro.Recovery
