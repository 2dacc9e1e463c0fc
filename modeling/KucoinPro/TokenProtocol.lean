import KucoinPro.AccountRefinement
import KucoinPro.EffectCauses
import KucoinPro.Protocols
import KucoinPro.TokenDownload

namespace KucoinPro.TokenProtocol
open GuardedRuns Protocols AccountSystem OrderEntryREST EffectCauses

-- The connection of a drop copy, as its token has it go: it does not exist, has just been
-- given its first token, goes by a token, waits for one, has been given another one.
inductive Link where
  | absent
  | created (query : String)
  | live (query : String)
  | suspended
  | renewed (query : String)
  deriving DecidableEq, Repr

inductive LinkStep where
  | token (query : String)
  | start
  | resume
  | suspendFor (period : Nanoseconds)
  deriving DecidableEq, Repr

-- It is started once, with the first token, suspended only while it goes by a token, and
-- resumed only with a token that is not the one it goes by.
def advance : Link → LinkStep → Option Link
  | .absent,.token query => if query = "" then none else some (.created query)
  | .created query,.start => some (.live query)
  | .live query,.token newer => if newer = "" then none else if query = newer then some (.live query) else some (.renewed newer)
  | .suspended,.token newer => if newer = "" then none else some (.renewed newer)
  | .renewed query,.resume => some (.live query)
  | .live _,.suspendFor period => if period = DropCopy.SUSPEND_FOR then some .suspended else none
  | _,_ => none

def linkStep : Entry → Option LinkStep
  | .effect (.privateToken privateToken) => some (.token privateToken.query)
  | .effect .start => some .start
  | .effect .resume => some .resume
  | .effect (.suspendFor period) => some (.suspendFor period)
  | _ => none

-- Oldest first.
def linkSteps (log : List Entry) : List LinkStep := (log.filterMap linkStep).reverse

theorem linkSteps_other (other : linkStep entry = none) (log : List Entry) : linkSteps (entry :: log) = linkSteps log := by
  rw [linkSteps,List.filterMap_cons_none other,linkSteps]

theorem linkSteps_cons (known : linkStep entry = some letter) (log : List Entry) :
    linkSteps (entry :: log) = linkSteps log ++ [letter] := by
  rw [linkSteps,List.filterMap_cons_some known,List.reverse_cons,linkSteps]

theorem linkSteps_effects (fresh : List Effect) (log : List Entry) (other : ∀ e ∈ fresh, linkStep (.effect e) = none) :
    linkSteps (fresh.map .effect ++ log) = linkSteps log := by
  induction fresh with
  | nil => rfl
  | cons e rest ih =>
      rw [List.map_cons,List.cons_append,linkSteps_other (other e List.mem_cons_self)]
      exact ih fun e member => other e (List.mem_cons_of_mem _ member)

section dropCopy
variable {D R : Type} {config : Config}

def linkOf (dropCopy : Option (DropCopy D)) : Link :=
  match dropCopy with
  | none => .absent
  | some stream => if stream.query = "" then .suspended else .live stream.query

-- A part of a handler of the drop copy.
def Obeys (c after : Session D R) : Prop :=
  Speaks advance (fun c : Session D R => linkSteps c.log) (fun c => linkOf (some c.stream)) c after

theorem Obeys.refl (c : Session D R) : Obeys c c := Speaks.refl c

theorem Obeys.trans {a b c : Session D R} (one : Obeys a b) (two : Obeys b c) : Obeys a c := Speaks.trans one two

theorem Obeys.fields {c after : Session D R} (query : after.stream.query = c.stream.query) (log : after.log = c.log) :
    Obeys c after := by
  refine Speaks.silent ?_ ?_
  · rw [log]
  · simp only [linkOf,query]

theorem Obeys.emit (c : Session D R) (other : linkStep (.effect e) = none) : Obeys c (c.emit e) :=
  .silent (linkSteps_other other c.log) rfl

theorem onConnectionStatus_obeys (status : ConnectionStatus) (reason : String) (c : Session D R) :
    Obeys c (DropCopy.onConnectionStatus config status reason c) := Speaks.silent (linkSteps_other rfl c.log) rfl

theorem onDownload_obeys [LimitRequest R] (t : TraceInfo) (d : D) (s : DropCopy.State) (c : Session D R) :
    Obeys c (DropCopy.onDownload config t d s c).2 := by
  have published : Obeys c (DropCopy.onConnectionStatus config .downloading s.name c) := onConnectionStatus_obeys _ _ c
  have marked : ∀ kind, Obeys c (DropCopy.markRequest t kind (DropCopy.onConnectionStatus config .downloading s.name c)) :=
    fun kind => published.trans (.fields rfl rfl)
  cases s with
  | undefined => exact .refl c
  | subscribeBalances | subscribePositions | subscribeOrders | subscribeTrades => exact published.trans (.emit _ rfl)
  | getBalances | getPositions | getOpenOrders => exact marked _
  | getStaleOrders | getTrades =>
      simp only [DropCopy.onDownload]
      split
      · exact .refl c
      · exact marked _
  | done =>
      have ready : Obeys c (DropCopy.onConnectionStatus config .ready "" c) := onConnectionStatus_obeys _ _ c
      exact ready.trans (.fields rfl rfl)

theorem requestPrivateToken_obeys [LimitRequest R]
    (t : TraceInfo) (c : Session D R) : Obeys c (DropCopy.requestPrivateToken t c) := by
  unfold DropCopy.requestPrivateToken
  split
  · exact .refl c
  · rename_i asked
    have suspends : Obeys c ({c with stream.query := ""}.emit (.suspendFor DropCopy.SUSPEND_FOR)) := by
      refine Speaks.say (linkSteps_cons rfl c.log) ?_
      simp only [linkOf,if_neg asked]
      rfl
    exact suspends.trans (.fields rfl rfl)

theorem checkStaleOrders_obeys (staleOrders : List Order) (c : Session D R) :
    Obeys c (DropCopy.checkStaleOrders staleOrders c).2 := by
  unfold DropCopy.checkStaleOrders
  refine List.foldlRecOn (motive := fun walked : Bool × Session D R => Obeys c walked.2) staleOrders _ (.refl c) ?_
  intro walked sofar order _
  simp only
  split
  · exact sofar
  · exact sofar.trans (.fields rfl rfl)

theorem ping_obeys (t : TraceInfo) (now : Nanoseconds) (c : Session D R) : Obeys c (DropCopy.ping t now c) := by
  unfold DropCopy.ping
  split
  · exact Speaks.silent (linkSteps_other rfl c.log) rfl
  · exact .refl c

variable [LimitRequest R]

theorem pollStaleOrders_obeys (t : TraceInfo) (staleOrders : List Order) (c : Session D R) :
    Obeys c (DropCopy.pollStaleOrders config t staleOrders c) := by
  unfold DropCopy.pollStaleOrders
  split
  · have timed : Obeys c {c with
        stream.nextCheckStaleOrders := t.originCreateTime + config.settings.experimentalCheckStaleOrderFreq} := .fields rfl rfl
    have scanned := timed.trans (checkStaleOrders_obeys staleOrders _)
    simp only
    split
    · exact scanned.trans (.fields rfl rfl)
    · exact scanned
  · exact .refl c

theorem simulateDisconnect_obeys (t : TraceInfo) (now : Nanoseconds) (c : Session D R) :
    Obeys c (DropCopy.simulateDisconnect t now c) := by
  unfold DropCopy.simulateDisconnect
  split
  · have cleared : Obeys c {c with stream.nextSimulatedDisconnect := 0} := .fields rfl rfl
    exact cleared.trans (requestPrivateToken_obeys t _)
  · exact .refl c

variable [Download2 D DropCopy.State] [LawfulDownload2 D]

theorem begin_obeys (t : TraceInfo) (c : Session D R) : Obeys c (DropCopy.begin config t c) := by
  have walked : Obeys c (Download2.begin (DropCopy.onDownload config t) c.stream.download c).2 :=
    begin_related Obeys (fun _ => .refl _) (fun _ _ _ => .trans) (onDownload_obeys t) c.stream.download c
  exact walked.trans (.fields rfl rfl)

theorem check_obeys (t : TraceInfo) (s : DropCopy.State) (c : Session D R) : Obeys c (DropCopy.check config t s c) := by
  have walked : Obeys c (Download2.check (DropCopy.onDownload config t) s c.stream.download c).2 :=
    check_related Obeys (fun _ => .refl _) (fun _ _ _ => .trans) (onDownload_obeys t) s c.stream.download c
  exact walked.trans (.fields rfl rfl)

theorem checkResponse_obeys {before : Session D R → Option (Session D R)} {c after : Session D R}
    (prepares : ∀ a b, before a = some b → Obeys a b)
    (ran : DropCopy.checkResponse config t s kind before c = some after) : Obeys c after := by
  unfold DropCopy.checkResponse at ran
  have read : Obeys c (DropCopy.hasResponse kind c).2 := .fields rfl rfl
  simp only at ran
  split at ran
  · obtain ⟨during,prepared,rfl⟩ := Option.map_eq_some_iff.mp ran
    exact (read.trans (prepares _ _ prepared)).trans (check_obeys t s during)
  · exact Option.some.inj ran ▸ read

theorem checkRequestQueue_obeys {c after : Session D R} (t : TraceInfo) (staleOrders : List Order)
    (ran : DropCopy.checkRequestQueue config t staleOrders c = some after) : Obeys c after := by
  have stays : ∀ a b : Session D R, some a = some b → Obeys a b := fun a b same => Option.some.inj same ▸ .refl a
  unfold DropCopy.checkRequestQueue at ran
  cases present : StagedWalk.Walker.state c.stream.download with
  | undefined | subscribeBalances | subscribePositions | subscribeOrders | subscribeTrades | done =>
      simp only [present] at ran
      exact stays c after ran
  | getBalances | getPositions | getTrades =>
      simp only [present] at ran
      exact checkResponse_obeys stays ran
  | getOpenOrders =>
      simp only [present] at ran
      refine checkResponse_obeys ?_ ran
      intro a b same
      exact Option.some.inj same ▸ checkStaleOrders_obeys staleOrders a
  | getStaleOrders =>
      simp only [present] at ran
      refine checkResponse_obeys ?_ ran
      intro a b same
      split at same
      · exact stays a b same
      · cases same

theorem onTimer_obeys {c after : Session D R} (t : TraceInfo) (now : Nanoseconds) (refresh : Bool) (staleOrders : List Order)
    (ran : DropCopy.onTimer config t now refresh staleOrders c = some after) : Obeys c after := by
  unfold DropCopy.onTimer at ran
  split at ran
  · obtain ⟨checked,queue,rfl⟩ := Option.map_eq_some_iff.mp ran
    have queued := checkRequestQueue_obeys t staleOrders queue
    unfold DropCopy.housekeeping
    split
    · have read : Obeys checked (DropCopy.hasResponse .privateToken (DropCopy.ping t now checked)).2 :=
        (ping_obeys t now checked).trans (.fields rfl rfl)
      exact ((queued.trans read).trans (pollStaleOrders_obeys t staleOrders _)).trans (simulateDisconnect_obeys t now _)
    · exact queued
  · split at ran
    · exact Option.some.inj ran ▸ .emit c rfl
    · exact Option.some.inj ran ▸ .refl c

theorem session_obeys {c after : Session D R} {event : DropCopyEvent} (ran : DropCopy.step config c event = some after) :
    Obeys c after := by
  cases event with
  | timer t now refresh staleOrders => exact onTimer_obeys t now refresh staleOrders ran
  | connected => exact Option.some.inj ran ▸ .fields rfl rfl
  | disconnected =>
      have published : Obeys c (DropCopy.onConnectionStatus config .disconnected "" {c with stream.ready := false}) :=
        Speaks.silent (linkSteps_other rfl c.log) rfl
      exact Option.some.inj ran ▸ published.trans (.fields rfl rfl)
  | welcome t =>
      have welcomed : Obeys c {c with stream.welcome := true} := .fields rfl rfl
      exact Option.some.inj ran ▸ welcomed.trans (begin_obeys t _)
  | error t message =>
      obtain rfl := Option.some.inj ran
      unfold DropCopy.onError
      split
      · exact requestPrivateToken_obeys t c
      · exact .refl c
  | ack t message =>
      obtain rfl := Option.some.inj ran
      unfold DropCopy.onAck
      split
      · exact check_obeys t _ c
      · exact .refl c
  | logged => exact Option.some.inj ran ▸ .refl c
  | unexpected => cases ran

end dropCopy

section accounts
variable {E D R : Type} {config : Config}

-- And of an account.
def Complies (w after : World E D R) : Prop :=
  Speaks advance (fun w : World E D R => linkSteps w.log) (fun w => linkOf w.dropCopy) w after

theorem Complies.refl (w : World E D R) : Complies w w := Speaks.refl w

theorem Complies.trans {a b c : World E D R} (one : Complies a b) (two : Complies b c) : Complies a c := Speaks.trans one two

theorem Complies.fields {w after : World E D R} (dropCopy : after.dropCopy = w.dropCopy) (log : after.log = w.log) :
    Complies w after := by
  refine Speaks.silent ?_ ?_
  · rw [log]
  · simp only [dropCopy]

theorem Complies.note (w : World E D R) (other : linkStep entry = none) : Complies w {w with log := entry :: w.log} :=
  Speaks.silent (linkSteps_other other w.log) rfl

-- Nothing but an answer to a request for a token, or the drop copy, speaks of the link.
theorem causes_unlinked (causes : Causes config cause e) (other : cause ≠ .dropCopy)
    (unasked : ∀ s, cause = .answer s → s.callback.kind ≠ some .privateToken) : linkStep (.effect e) = none := by
  cases causes with
  | quiet => exact absurd rfl other
  | token own | privateToken own | start own | resume own => exact absurd own (unasked _ rfl)
  | noted known =>
      cases e with
      | privateToken | start | resume | suspendFor => simp [notes] at known
      | _ => rfl
  | _ => rfl

theorem Complies.adds {w after : World E D R} (adds : Adds config cause w after) (same : after.dropCopy = w.dropCopy)
    (other : cause ≠ .dropCopy) (unasked : ∀ s, cause = .answer s → s.callback.kind ≠ some .privateToken) : Complies w after := by
  obtain ⟨fresh,log,causes,_⟩ := adds.fresh
  refine Speaks.silent ?_ ?_
  · simp only [log]
    exact linkSteps_effects fresh w.log fun e member => causes_unlinked (causes e member) other unasked
  · simp only [same]

theorem onConnectionStatus_complies (status : ConnectionStatus) (reason : String) (w : World E D R) :
    Complies w (OrderEntryREST.onConnectionStatus config status reason w) := Speaks.silent (linkSteps_other rfl w.log) rfl

theorem onDownload_complies [Download2 E OrderEntryREST.State]
    (t : TraceInfo) (walker : E) (s : OrderEntryREST.State) (w : World E D R) :
    Complies w (OrderEntryREST.onDownload config t walker s w).2 := by
  cases s with
  | undefined => exact .refl w
  | privateToken =>
      simp only [OrderEntryREST.onDownload]
      split
      · exact .refl w
      · have published : Complies w (OrderEntryREST.onConnectionStatus config .downloading OrderEntryREST.State.privateToken.name w) :=
          onConnectionStatus_complies _ _ w
        exact published.trans (Speaks.silent (linkSteps_other rfl _) rfl)
  | done => exact onConnectionStatus_complies _ _ w

theorem withDownload_complies {w : World E D R} {result : E × World E D R} (walked : Complies w result.2) :
    Complies w (withDownload result) := walked.trans (.fields rfl rfl)

theorem onDisconnected_complies [Download2 E OrderEntryREST.State]
    (w : World E D R) : Complies w (OrderEntryREST.onDisconnected config w) := by
  have published : Complies w (OrderEntryREST.onConnectionStatus config .disconnected "" w) := onConnectionStatus_complies _ _ w
  simp only [OrderEntryREST.onDisconnected]
  split
  · exact published
  · exact published.trans (.fields rfl rfl)

-- What the controller does with a token: it starts a drop copy, or resumes the one there is
-- with a query that it does not have.
theorem onPrivateToken_complies [Download2 D DropCopy.State] (p : PrivateToken) (known : p.query ≠ "") (w : World E D R) :
    Complies w (Controller.onPrivateToken p (w.emit (.privateToken p))) := by
  have said : linkSteps (w.emit (.privateToken p)).log = linkSteps w.log ++ [.token p.query] := linkSteps_cons rfl _
  unfold Controller.onPrivateToken
  cases present : (w.emit (.privateToken p)).dropCopy with
  | none =>
      have absent : w.dropCopy = none := present
      refine ⟨[.token p.query,.start],?_,?_⟩
      · have started : linkSteps (.effect .start :: (w.emit (.privateToken p)).log) = _ ++ [.start] := linkSteps_cons rfl _
        rw [said,List.append_assoc] at started
        exact started
      · simp [linkOf,World.emit,absent,execute,advance,DropCopy.create,known]
  | some dropCopy =>
      have there : w.dropCopy = some dropCopy := present
      by_cases same : dropCopy.query = p.query
      · refine ⟨[.token p.query],?_,?_⟩
        · simp only [same,ne_eq,not_true,and_false,if_false]
          exact said
        · simp [linkOf,World.emit,there,execute,advance,same,known]
      · refine ⟨[.token p.query,.resume],?_,?_⟩
        · have resumed : linkSteps (.effect .resume :: (w.emit (.privateToken p)).log) = _ ++ [.resume] := linkSteps_cons rfl _
          rw [said,List.append_assoc] at resumed
          simp only [ne_eq,known,same,not_false_eq_true,and_self,if_true]
          exact resumed
        · by_cases waiting : dropCopy.query = ""
          · simp [linkOf,World.emit,there,execute,advance,waiting,known,Ne.symm known]
          · simp [linkOf,World.emit,there,execute,advance,same,waiting,known]

theorem onToken_complies [Download2 D DropCopy.State]
    (token : Json.Token) (w : World E D R) : Complies w (onToken config token w) := by
  have noted : Complies w (w.emit (.token token)) := .note w rfl
  exact noted.trans (onPrivateToken_complies _ (query_known token.data.token) _)

variable [Download2 E OrderEntryREST.State] [LawfulDownload2 E]

theorem onConnected_complies (t : TraceInfo) (w : World E D R) : Complies w (OrderEntryREST.onConnected config t w) := by
  unfold OrderEntryREST.onConnected
  cases running : isDownloading w with
  | true =>
      exact withDownload_complies ((LawfulDownload2.bump_running (OrderEntryREST.onDownload config t) w.rest.download w running).related
        Complies (fun _ _ _ => .trans) (onDownload_complies t))
  | false =>
      exact withDownload_complies ((LawfulDownload2.begin_idle (OrderEntryREST.onDownload config t) w.rest.download w running).related
        Complies (fun _ _ _ => .trans) (onDownload_complies t))

theorem retryPrivateToken_complies (t : TraceInfo) (w : World E D R) : Complies w (retryPrivateToken config t w) := by
  unfold retryPrivateToken
  split
  · exact withDownload_complies (retry_related Complies .refl (fun _ _ _ => .trans) (onDownload_complies t) _ _ w)
  · exact .refl w

theorem checkPrivateToken_complies (t : TraceInfo) (w : World E D R) : Complies w (checkPrivateToken config t w) := by
  unfold checkPrivateToken
  split
  · exact withDownload_complies (check_related Complies .refl (fun _ _ _ => .trans) (onDownload_complies t) _ _ w)
  · exact .refl w

variable [Download2 D DropCopy.State] [LimitRequest R]

theorem getPrivateTokenAck_complies {sequence : Nat} {w after : World E D R}
    (ran : getPrivateTokenAck config t sequence response w = some after) : Complies w after := by
  obtain ⟨processed,acked,rfl⟩ := getPrivateTokenAck_cases ran
  have committed : Complies processed (commit t .privateToken processed) := .fields rfl rfl
  refine Complies.trans ?_ committed
  cases acked with
  | retried _ => exact retryPrivateToken_complies t w
  | skipped _ => exact .refl w
  | @processed _ token _ _ _ =>
      have dispatched : Complies w (if token.code = Json.SYSTEM_CODE_SUCCESS then onToken config token w else w) := by
        split
        · exact onToken_complies token w
        · exact .refl w
      exact (dispatched.trans (checkPrivateToken_complies t _)).trans (.fields rfl rfl)

variable [LawfulLimitRequest R] [LawfulDownload2 D]

theorem step_complies {w after : World E D R} (ran : AccountSystem.step config w event = some after) : Complies w after := by
  have received : Complies w (receive event w) := .note w rfl
  refine received.trans ?_
  cases step_happens ran with
  | lost => exact .refl _
  | copied _ present stepped _ =>
      obtain ⟨said,spoken,allowed⟩ := session_obeys stepped
      refine ⟨said,spoken,?_⟩
      change execute advance (linkOf w.dropCopy) said = _
      rw [present]
      exact allowed
  | @served happened _ same other stepped serves =>
      subst same
      cases happened with
      | timer t refresh canRequest findOrder symbols =>
          have spared := serves.spared.resolve_left fun wrong => by cases wrong
          have adds : Adds config .stream (receive _ w) after :=
            Option.some.inj stepped ▸ onTimer_adds t refresh canRequest findOrder symbols _
          exact .adds adds spared.dropCopy (fun wrong => by cases wrong) (fun _ wrong => by cases wrong)
      | connected t => exact Option.some.inj stepped ▸ onConnected_complies t _
      | disconnected t => exact Option.some.inj stepped ▸ onDisconnected_complies _
      | action action =>
          have spared := serves.spared.resolve_left fun wrong => by cases wrong
          have adds : Adds config (.action action) (receive _ w) after := Option.some.inj stepped ▸ act_adds _ action
          exact .adds adds spared.dropCopy (fun wrong => by cases wrong) (fun _ wrong => by cases wrong)
      | response t id response => exact absurd rfl (other t id response)
  | @answered t response submission _ id same found invoked serves =>
      have answered : Complies (receive event w) (answering submission (receive event w)) := .trans (.note _ rfl) (.fields rfl rfl)
      refine answered.trans ?_
      by_cases token : submission.callback.kind = some .privateToken
      · cases callback : submission.callback with
        | getPrivateTokenAck sequence =>
            simp only [invoke,callback] at invoked
            exact getPrivateTokenAck_complies invoked
        | _ =>
            rw [callback] at token
            cases token
      · have spared := serves.spared.resolve_left token
        refine .adds (invoke_adds invoked) spared.dropCopy (fun wrong => by cases wrong) ?_
        intro s same
        cases same
        exact token

end accounts

section controller
open ControllerSystem
variable {Y S B E D R : Type} {Q : Type → Type} {config : ControllerConfig} [Symbols Y] [LimitQueue Q] [Sequencer S B]
  [Download2 E OrderEntryREST.State] [Download2 D DropCopy.State] [LimitRequest R] [LawfulDownload2 E] [LawfulDownload2 D]
  [LawfulLimitRequest R]

-- In every account and at all times the connection of the drop copy has been started,
-- suspended and resumed as its tokens came and went, and goes by the one it has.
theorem token_protocol_is_kept {c : Controller Y Q S B E D R} {events : List (ControllerEvent B)} {index : Nat}
    (ran : execute (step config) (create config) events = some c) (present : c.accounts[index]? = some a) :
    execute advance .absent (linkSteps a.world.log) = some (linkOf a.world.dropCopy) := by
  have accepted : Accepted advance .absent (fun w : World E D R => linkSteps w.log) (fun w => linkOf w.dropCopy) a.world :=
    run_account ran present rfl fun _ _ _ known stepped => Accepted.speaks known (step_complies stepped)
  exact accepted

end controller

section closed
open Smallest ControllerSystem

-- The token of the first account expires, and a new one is asked for and comes.
def expiring : List (ControllerEvent Unit) :=
  [connects 0,answers 0 0 (reply "ok"),.callback (.account 0 (.dropCopy (.error t ⟨401,"token is expired",""⟩))) rfl,turn,
    answers 0 1 (reply "ok")]

theorem token_protocol_is_kept_expiring : ∃ (c : SmallController) (a : AccountStreams _ _ _),
    execute (step (twoAccounts "")) (create (twoAccounts "")) expiring = some c ∧ c.accounts[0]? = some a ∧
      linkSteps a.world.log =
        [.token "?token=t",.start,.suspendFor DropCopy.SUSPEND_FOR,.token "?token=t",.resume] ∧
      execute advance .absent (linkSteps a.world.log) = some (linkOf a.world.dropCopy) := by
  have checked : (execute (step (twoAccounts "")) (create (twoAccounts "") : SmallController) expiring).any (fun c =>
      (c.accounts[0]?).any fun a => decide (linkSteps a.world.log =
        [.token "?token=t",.start,.suspendFor DropCopy.SUSPEND_FOR,.token "?token=t",.resume])) = true := by
    decide +kernel
  obtain ⟨c,ran,inside⟩ := (Option.any_eq_true _ _).mp checked
  obtain ⟨a,present,known⟩ := (Option.any_eq_true _ _).mp inside
  exact ⟨c,a,ran,present,of_decide_eq_true known,token_protocol_is_kept ran present⟩

end closed
end KucoinPro.TokenProtocol
