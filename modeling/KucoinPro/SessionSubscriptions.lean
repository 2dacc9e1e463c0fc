import KucoinPro.AccountRefinement

namespace KucoinPro.SessionSubscriptions
open GuardedRuns StagedWalk AccountSystem History DropCopy

-- What a drop copy sends and is answered, less the results of the answers.
inductive Message where
  | sent (text : String)
  | acked (id : String)
  deriving DecidableEq, Repr

def messageOf : Entry → Option Message
  | .effect (.sendText text) => some (.sent text)
  | .event (.dropCopy (.ack _ message)) => some (.acked message.id)
  | _ => none

-- Since the connection has last been lost, oldest first.
def messages (log : List Entry) : List Message := ((upTo isDropped log).filterMap messageOf).reverse

def channel : State → Option (String × String)
  | .subscribeBalances => some ("balance","accountType")
  | .subscribePositions => some ("positionAll","tradeType")
  | .subscribeOrders => some ("orderAll","tradeType")
  | .subscribeTrades => some ("execution","tradeType")
  | _ => none

def subscription (s : State) : List Message :=
  (channel s).toList.map fun topic => .sent ("\x7b\"id\":\"" ++ s.name ++ "\",\"action\":\"SUBSCRIBE\",\"channel\":\"" ++ topic.1 ++
    "\",\"" ++ topic.2 ++ "\":\"UNIFIED\"\x7d")

def answered (s : State) : List Message := if s.isSubscribe then [.acked s.name] else []

-- The subscriptions that come before a stage of the download.
def earlier : State → List State
  | .undefined | .subscribeBalances => []
  | .getBalances | .subscribePositions => [.subscribeBalances]
  | .getPositions | .subscribeOrders => [.subscribeBalances,.subscribePositions]
  | .getOpenOrders | .getStaleOrders | .subscribeTrades => [.subscribeBalances,.subscribePositions,.subscribeOrders]
  | .getTrades | .done => [.subscribeBalances,.subscribePositions,.subscribeOrders,.subscribeTrades]

def before (s : State) : List Message := (earlier s).flatMap fun s => subscription s ++ answered s

theorem before_next (s : State) : before s.next = before s ++ (subscription s ++ answered s) := by
  cases s <;> rfl

section sessions
variable {D R : Type} {config : Config}

theorem messages_cons (keep : isDropped entry = false) (log : List Entry) :
    messages (entry :: log) = messages log ++ (messageOf entry).toList := by
  unfold messages
  rw [upTo_keep keep]
  cases known : messageOf entry with
  | none => rw [List.filterMap_cons_none known]; exact (List.append_nil _).symm
  | some message => rw [List.filterMap_cons_some known]; exact List.reverse_cons

theorem messages_effects (fresh : List Effect) (log : List Entry) : (messages log).Sublist (messages (fresh.map .effect ++ log)) := by
  induction fresh with
  | nil => exact .refl _
  | cons e rest ih =>
      have one : messages ((e :: rest).map .effect ++ log) = messages (rest.map .effect ++ log) ++ (messageOf (.effect e)).toList :=
        messages_cons rfl _
      rw [one]
      exact ih.trans (List.sublist_append_left _ _)

-- A part of a handler forgets nothing.
def Remembers (c after : Session D R) : Prop := (messages c.log).Sublist (messages after.log)

variable [LimitRequest R]

theorem Tame.remembers [Download2 D State] {c after : Session D R} (tame : Tame c after) : Remembers c after := by
  obtain ⟨fresh,log,_⟩ := tame.log
  unfold Remembers
  rw [log]
  exact messages_effects fresh c.log

-- What the download has done at a stage, before and after it has said so.

def Entering (s : State) (c : Session D R) : Prop := (before s).Sublist (messages c.log)

structure Waiting (s : State) (c : Session D R) : Prop where
  subscribed : (before s ++ subscription s).Sublist (messages c.log)
  ready : isReady c = true → s = .done

theorem onDownload_sends {t : TraceInfo} {d : D} {s : State} {c : Session D R} :
    messages (onDownload config t d s c).2.log = messages c.log ++ subscription s := by
  have status : ∀ (status : ConnectionStatus) (reason : String) (c : Session D R),
      messages (onConnectionStatus config status reason c).log = messages c.log := by
    intro status reason c
    exact (messages_cons rfl _).trans (List.append_nil _)
  have sends : ∀ (text : String) (c : Session D R), messages (c.emit (.sendText text)).log = messages c.log ++ [.sent text] :=
    fun text c => messages_cons rfl _
  cases s with
  | undefined => exact (List.append_nil _).symm
  | subscribeBalances | subscribePositions | subscribeOrders | subscribeTrades =>
      refine (sends _ _).trans ?_
      rw [status]
      rfl
  | getBalances | getPositions | getOpenOrders => exact (status _ _ _).trans (List.append_nil _).symm
  | getStaleOrders | getTrades =>
      simp only [onDownload]
      split
      · exact (List.append_nil _).symm
      · exact (status _ _ _).trans (List.append_nil _).symm
  | done => exact (status _ _ _).trans (List.append_nil _).symm

theorem onDownload_status {t : TraceInfo} {d : D} {s : State} {c : Session D R} (waits : (onDownload config t d s c).1 ≠ 0) :
    isReady (onDownload config t d s c).2 = false := by
  cases s with
  | undefined | done => exact absurd rfl waits
  | getStaleOrders | getTrades =>
      simp only [onDownload] at waits ⊢
      split
      · rename_i nothing
        rw [if_pos nothing] at waits
        exact absurd rfl waits
      · rfl
  | _ => rfl

-- The stages that are passed over have nothing to subscribe to.
theorem passes_free {t : TraceInfo} {d : D} {s : State} {c : Session D R} (zero : (onDownload config t d s c).1 = 0) :
    subscription s ++ answered s = [] := by
  cases s with
  | subscribeBalances | subscribePositions | subscribeOrders | subscribeTrades => cases zero
  | _ => rfl

theorem kind_free {s : State} (own : s.kind = some kind) : subscription s ++ answered s = [] := by
  cases s with
  | subscribeBalances | subscribePositions | subscribeOrders | subscribeTrades => cases own
  | _ => rfl

theorem walk_waiting [Download2 D State]
    {t : TraceInfo} {d : D} {s : State} {c after : Session D R} (walk : Walk (onDownload config t) s c d after)
    (entering : Entering s c) : Waiting (Walker.state d) after := by
  refine walk.rule Entering Waiting ?_ ?_ ?_ entering
  · intro during s c working entering waits
    refine ⟨?_,fun ready => ?_⟩
    · rw [onDownload_sends]
      exact entering.append (.refl _)
    · rw [onDownload_status waits] at ready
      cases ready
  · intro during s c working entering zero
    have passed : before s.next = before s := by rw [before_next,passes_free zero,List.append_nil]
    unfold Entering
    rw [onDownload_passes config working zero]
    change (before s.next).Sublist _
    rw [passed]
    exact entering
  · intro during c entering
    refine ⟨?_,fun _ => rfl⟩
    rw [onDownload_sends]
    exact entering.append (.refl _)

end sessions

section accounts
variable {E D R : Type} {config : Config} [Download2 D State] [LimitRequest R]

theorem Waiting.tame {s : State} {c after : Session D R} (waiting : Waiting s c) (tame : Tame c after)
    (status : after.stream.connectionStatus = c.stream.connectionStatus) : Waiting s after := by
  refine ⟨waiting.subscribed.trans (Tame.remembers tame),?_⟩
  intro ready
  rw [isReady,status] at ready
  exact waiting.ready ready

theorem chore_waiting [LawfulLimitRequest R]
    {s : State} {c after : Session D R} (chore : Chore c after) (waiting : Waiting s c) : Waiting s after := by
  have tame := chore.tame
  cases chore with
  | keeps keeps => exact waiting.tame tame keeps.status
  | stale => exact waiting.tame tame rfl
  | token asked =>
      refine waiting.tame tame ?_
      rw [requestPrivateToken_marks _ asked]
      rfl

variable [LawfulDownload2 D] [LawfulLimitRequest R]

-- A session that has heard of its event goes on from there.
theorem moves_waiting {c after : Session D R} {event : DropCopyEvent} (moves : Moves config event c after)
    (waiting : Waiting (stateOf c) c) (heard : ∀ t message, event = .ack t message → State.ofName message.id = some (stateOf c) →
      (before (stateOf c).next).Sublist (messages c.log)) : Waiting (stateOf after) after := by
  obtain ⟨moved,stage,chores⟩ := moves
  have entering : Entering (stateOf c) c := (List.sublist_append_left _ _).trans waiting.subscribed
  have reached : Waiting (stateOf moved) moved := by
    cases stage with
    | stays => exact waiting
    | dropped =>
        rw [onDisconnected_state]
        exact ⟨List.nil_sublist _,nofun⟩
    | @walked s during d t walked starts keeps walk =>
        have start : Entering s c := by
          cases starts with
          | welcome => exact List.nil_sublist _
          | again => exact entering
          | acked happened named => exact heard _ _ happened named
          | ackedIdle => exact List.nil_sublist _
          | answered _ own =>
              unfold Entering
              rw [before_next,kind_free own,List.append_nil]
              exact entering
        have rested := walk_waiting walk (start.trans (Tame.remembers keeps.toTame))
        exact ⟨rested.subscribed,rested.ready⟩
  rw [chores.tame.state]
  exact chores.rule (fun _ _ valid chore => chore_waiting chore valid) reached

-- Where an account has a drop copy, it has got to where its session says.
def Subscribed (w : World E D R) : Prop :=
  ∀ stream, w.dropCopy = some stream → Waiting (Walker.state stream.download) (session stream w)

omit [LimitRequest R] [LawfulLimitRequest R] in
theorem rest_subscribed {w after : World E D R} (subscribed : Subscribed w) (renewed : OrderEntryREST.Renewed w.dropCopy after.dropCopy)
    (remembers : (messages w.log).Sublist (messages after.log)) : Subscribed after := by
  intro later present
  rw [present] at renewed
  cases present' : w.dropCopy with
  | none =>
      rw [present'] at renewed
      cases renewed with
      | created =>
          have created : Walker.state (Download2.create : D) = State.undefined := LawfulDownload2.create_state
          change Waiting (Walker.state (Download2.create : D)) _
          rw [created]
          exact ⟨List.nil_sublist _,nofun⟩
  | some stream =>
      have waiting := subscribed stream present'
      rw [present'] at renewed
      cases renewed with
      | same => exact ⟨waiting.subscribed.trans remembers,waiting.ready⟩
      | renewed => exact ⟨waiting.subscribed.trans remembers,waiting.ready⟩

theorem copied_subscribed {w : World E D R} {happened : DropCopyEvent} {c : Session D R} (subscribed : Subscribed w)
    (present : w.dropCopy = some stream)
    (stepped : DropCopy.step config (session stream (receive (.dropCopy happened) w)) happened = some c)
    (moves : Moves config happened (session stream (receive (.dropCopy happened) w)) c) : Waiting (stateOf c) c := by
  have waiting := subscribed stream present
  by_cases lost : ∃ t, happened = .disconnected t
  · obtain ⟨t,rfl⟩ := lost
    obtain rfl := Option.some.inj stepped
    rw [onDisconnected_state]
    exact ⟨List.nil_sublist _,nofun⟩
  · have keep : isDropped (.event (.dropCopy happened)) = false := by
      cases happened with
      | disconnected t => exact absurd ⟨t,rfl⟩ lost
      | _ => rfl
    have heard : messages (receive (.dropCopy happened) w).log = messages w.log ++ (messageOf (.event (.dropCopy happened))).toList :=
      messages_cons keep w.log
    refine moves_waiting moves ⟨?_,waiting.ready⟩ ?_
    · change (_ : List Message).Sublist (messages (receive (.dropCopy happened) w).log)
      rw [heard]
      exact waiting.subscribed.trans (List.sublist_append_left _ _)
    · rintro t message rfl named
      change (_ : List Message).Sublist (messages (receive (.dropCopy (.ack t message)) w).log)
      have own : (answered (Walker.state stream.download)).Sublist [.acked message.id] := by
        rw [State.ofName_iff.mp named]
        unfold answered
        split
        · exact .refl _
        · exact List.nil_sublist _
      rw [heard,before_next,← List.append_assoc]
      exact waiting.subscribed.append own

theorem entry_remembers {entry : Entry} (keep : isDropped entry = false) (log : List Entry) :
    (messages log).Sublist (messages (entry :: log)) := by
  rw [messages_cons keep]
  exact List.sublist_append_left _ _

variable [Download2 E OrderEntryREST.State] [LawfulDownload2 E]

theorem step_subscribed {w after : World E D R} (subscribed : Subscribed w) (ran : step config w event = some after) :
    Subscribed after := by
  cases step_happens ran with
  | lost absent =>
      intro stream present
      cases event with
      | dropCopy happened =>
          have missing : w.dropCopy = none := absent happened rfl
          rw [show w.dropCopy = some stream from present] at missing
          cases missing
      | rest happened =>
          have heard : (messages w.log).Sublist (messages (receive (.rest happened) w).log) := entry_remembers rfl w.log
          have reached : Subscribed (receive (.rest happened) w) := rest_subscribed subscribed .same heard
          exact reached stream present
  | copied happened same stepped moves =>
      cases happened
      intro later present
      obtain rfl := Option.some.inj present
      exact copied_subscribed subscribed same stepped moves
  | served happened _ _ serves =>
      subst happened
      obtain ⟨fresh,log,_⟩ := serves.log
      refine rest_subscribed subscribed serves.dropCopy ?_
      rw [log]
      exact (entry_remembers rfl w.log).trans (messages_effects fresh _)
  | @answered t response submission _ id happened found _ serves =>
      subst happened
      obtain ⟨fresh,log,_⟩ := serves.log
      refine rest_subscribed subscribed serves.dropCopy ?_
      rw [log]
      exact ((entry_remembers rfl w.log).trans (entry_remembers rfl _)).trans (messages_effects fresh _)

omit [LawfulDownload2 E] [LawfulDownload2 D] [LawfulLimitRequest R] in
theorem initial_subscribed : Subscribed (initial : World E D R) := by
  intro stream present
  cases present

end accounts

section controller
open ControllerSystem
variable {Y S B E D R : Type} {Q : Type → Type} {config : ControllerConfig} [Symbols Y] [LimitQueue Q] [Sequencer S B]
  [Download2 E OrderEntryREST.State] [Download2 D State] [LimitRequest R] [LawfulDownload2 E] [LawfulDownload2 D]
  [LawfulLimitRequest R]

-- In every account and at all times: what the download of the drop copy is beyond has been
-- subscribed to and answered in this session, in order, and a drop copy that is READY is
-- beyond all of it.
theorem ready_means_subscribed {c : Controller Y Q S B E D R} {events : List (ControllerEvent B)} {index : Nat}
    (ran : execute (ControllerSystem.step config) (create config) events = some c) (present : c.accounts[index]? = some a)
    (stream : a.world.dropCopy = some dropCopy) :
    (before (Walker.state dropCopy.download) ++ subscription (Walker.state dropCopy.download)).Sublist (messages a.world.log) ∧
      (dropCopy.connectionStatus = .ready → (before .done).Sublist (messages a.world.log)) := by
  have subscribed : Subscribed a.world :=
    run_account ran present initial_subscribed fun _ _ _ known stepped => step_subscribed known stepped
  have waiting := subscribed dropCopy stream
  refine ⟨waiting.subscribed,?_⟩
  intro ready
  have last := waiting.ready (beq_iff_eq.mpr ready)
  have all := waiting.subscribed
  rw [last] at all
  exact (List.sublist_append_left _ _).trans all

end controller

section closed
open Smallest ControllerSystem

def hears (event : DropCopyEvent) (own : (StreamEvent.account 0 (.dropCopy event) : StreamEvent Unit).isCallback = true) :
    ControllerEvent Unit := .callback (.account 0 (.dropCopy event)) own

-- A session of the first account up to READY; each snapshot is asked for at one turn and
-- noticed at the next.
def subscribing : List (ControllerEvent Unit) :=
  [connects 0,answers 0 0 (reply "ok"),hears (.welcome t) rfl,hears (.ack t ⟨"SUBSCRIBE_BALANCES",true⟩) rfl,turn,answers 0 1 (reply "ok"),
    turn,hears (.ack t ⟨"SUBSCRIBE_POSITIONS",true⟩) rfl,turn,answers 0 2 (reply "ok"),turn,
    hears (.ack t ⟨"SUBSCRIBE_ORDERS",true⟩) rfl,turn,answers 0 3 (reply "ok"),turn,hears (.ack t ⟨"SUBSCRIBE_TRADES",true⟩) rfl]

theorem ready_means_subscribed_subscribing : ∃ (c : SmallController) (a : AccountStreams _ _ _) (dropCopy : DropCopy _),
    execute (ControllerSystem.step (twoAccounts "")) (create (twoAccounts "")) subscribing = some c ∧ c.accounts[0]? = some a ∧
      a.world.dropCopy = some dropCopy ∧ dropCopy.connectionStatus = .ready ∧
      (before (Walker.state dropCopy.download) ++ subscription (Walker.state dropCopy.download)).Sublist (messages a.world.log) ∧
      (dropCopy.connectionStatus = .ready → (before .done).Sublist (messages a.world.log)) := by
  have checked : (execute (ControllerSystem.step (twoAccounts "")) (create (twoAccounts "") : SmallController) subscribing).any (fun c =>
      (c.accounts[0]?).any fun a => a.world.dropCopy.any fun dropCopy => decide (dropCopy.connectionStatus = .ready)) = true := by
    decide +kernel
  obtain ⟨c,ran,inside⟩ := (Option.any_eq_true _ _).mp checked
  obtain ⟨a,present,known⟩ := (Option.any_eq_true _ _).mp inside
  obtain ⟨dropCopy,stream,ready⟩ := (Option.any_eq_true _ _).mp known
  exact ⟨c,a,dropCopy,ran,present,stream,of_decide_eq_true ready,ready_means_subscribed ran present stream⟩

end closed
end KucoinPro.SessionSubscriptions
