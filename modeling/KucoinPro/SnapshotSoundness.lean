import KucoinPro.AccountMoves
import KucoinPro.History

namespace KucoinPro.SnapshotSoundness
open GuardedRuns History StagedWalk AccountSystem OrderEntryREST Json

variable {E D R : Type} (config : Config)

def isWelcome : Entry → Bool
  | .event (.dropCopy (.welcome _)) => true
  | _ => false

-- ConnectionStatus::READY of the websocket stream, not of the order stream.
def publishesReady : Entry → Bool
  | .effect (.streamStatus status) => status.protocol == .ws && status.connectionStatus == .ready
  | _ => false

-- The content of a successful response, handed to the ack handler of a kind.
def isSnapshot : Kind → Entry → Bool
  | .balances,.effect (.accountAck ack) => ack.code == SYSTEM_CODE_SUCCESS
  | .positions,.effect (.positionAck ack) => ack.code == SYSTEM_CODE_SUCCESS
  | .openOrders,.effect (.ordersAck ack) => ack.code == SYSTEM_CODE_SUCCESS
  | .trades,.effect (.executionAck ack) => ack.code == SYSTEM_CODE_SUCCESS
  | _,_ => false

-- The snapshots that READY stands for.
def isRequired : Kind → Bool
  | .balances | .positions | .openOrders => true
  | .trades => config.settings.downloadTradesLookback != 0
  | .privateToken | .staleOrders => false

def Started (log : List Entry) : Prop := ∃ x ∈ upTo isDropped log, isWelcome x = true

def Received (kind : Kind) (log : List Entry) : Prop :=
  ∃ x, isSnapshot kind x = true ∧ After isWelcome x (upTo isDropped log)

def ReadyMeans (x : Entry) (older : List Entry) : Prop :=
  publishesReady x = true → ∀ kind, isRequired config kind = true → Received kind older

-- The condition on a step: a response to the request that the download waits
-- for is a success, and an Ack names the current state only when subscribing.
def clean [Download2 D DropCopy.State] (w : World E D R) (event : Event) : Bool :=
  match w.dropCopy with
  | none => true
  | some stream =>
    let s := Walker.state stream.download
    (named event != some s || s.isSubscribe) && (responseOf w event).all fun (submission,response) =>
      s.kind == none || submission.callback.kind != s.kind || succeeds config submission.callback response

variable {config}

theorem Started.newer (fresh : List Entry) (keep : ∀ x ∈ fresh, isDropped x = false) (started : Started log) :
    Started (fresh ++ log) := by
  obtain ⟨x,member,mark⟩ := started
  exact ⟨x,by rw [upTo_append keep]; exact List.mem_append_right _ member,mark⟩

theorem Received.newer (fresh : List Entry) (keep : ∀ x ∈ fresh, isDropped x = false) (received : Received kind log) :
    Received kind (fresh ++ log) := by
  obtain ⟨x,snapshot,after⟩ := received
  exact ⟨x,snapshot,by rw [upTo_append keep]; exact after.older⟩

theorem Received.now (snapshot : isSnapshot kind x = true) (keep : isDropped x = false) (started : Started log) :
    Received kind (x :: log) :=
  ⟨x,snapshot,by rw [upTo_keep keep]; exact .inl ⟨rfl,started⟩⟩

-- What the download has behind it when it is about to enter a state.
structure Entering (config : Config) (s : DropCopy.State) (log : List Entry) : Prop where
  sound : Every (ReadyMeans config) log
  started : s ≠ .undefined → Started log
  passed : ∀ (g : DropCopy.State) kind, g.kind = some kind → isRequired config kind = true →
    s.remaining < g.remaining → Received kind log

-- And while it rests there: a response that is flagged was a snapshot.
structure Covered (config : Config) (s : DropCopy.State) (response : Kind → Bool) (log : List Entry) : Prop extends
    Entering config s log where
  flagged : ∀ kind, s.kind = some kind → isRequired config kind = true → response kind = true → Received kind log

theorem Entering.newer (fresh : List Entry) (keep : ∀ x ∈ fresh, isDropped x = false)
    (silent : ∀ x ∈ fresh, publishesReady x = false) (entering : Entering config s log) : Entering config s (fresh ++ log) := by
  refine ⟨entering.sound.newer ?_,fun working => (entering.started working).newer _ keep,?_⟩
  · intro x member older ready
    rw [silent x member] at ready
    cases ready
  · intro g kind waits required passed
    exact (entering.passed g kind waits required passed).newer _ keep

theorem Covered.newer (fresh : List Entry) (keep : ∀ x ∈ fresh, isDropped x = false)
    (silent : ∀ x ∈ fresh, publishesReady x = false) (fewer : ∀ kind, later kind = true → response kind = true)
    (covered : Covered config s response log) :
    Covered config s later (fresh ++ log) :=
  ⟨covered.toEntering.newer _ keep silent,fun kind waits required flag =>
    (covered.flagged kind waits required (fewer kind flag)).newer _ keep⟩

theorem Covered.undefined (sound : Every (ReadyMeans config) log) : Covered config .undefined response log := by
  refine ⟨⟨sound,fun working => absurd rfl working,?_⟩,?_⟩
  · intro g kind waits _ passed
    have low := DropCopy.State.waits_remaining waits
    exact absurd (Nat.lt_trans passed low) (by decide)
  · intro kind waits
    cases waits

theorem Entering.next (entering : Entering config s log) (working : s ≠ .undefined)
    (answered : ∀ kind, s.kind = some kind → isRequired config kind = true → Received kind log) :
    Entering config s.next log := by
  refine ⟨entering.sound,fun _ => entering.started working,?_⟩
  intro g kind waits required passed
  rcases DropCopy.State.passed_next passed with before | rfl
  · exact entering.passed g kind waits required before
  · exact answered kind waits required

variable [Download2 D DropCopy.State] [LimitRequest R]

def CoveredAt (config : Config) (c : Session D R) : Prop :=
  Covered config (DropCopy.stateOf c) c.request.response c.log

theorem quiet_silent (e : Effect) (silent : DropCopy.quiet e = true) : publishesReady (.effect e) = false := by
  cases e <;> first | rfl | cases silent

theorem served_silent (e : Effect) (own : served e = true) : publishesReady (.effect e) = false := by
  cases e with
  | streamStatus status =>
      have http : status.protocol = .http := by simpa [served] using own
      simp [publishesReady,http]
  | _ => rfl

theorem tame_covered {c after : Session D R} (tame : DropCopy.Tame c after) (covered : CoveredAt config c) :
    CoveredAt config after := by
  obtain ⟨fresh,log,silent⟩ := tame.log
  unfold CoveredAt
  rw [tame.state,log]
  exact covered.newer _ (effects_keep fresh) (effects_silent silent quiet_silent) tame.response

omit [Download2 D DropCopy.State] in
theorem passes_unrequired {c : Session D R} (working : s ≠ .done) (zero : (DropCopy.onDownload config t d s c).1 = 0)
    (own : s.kind = some kind) : isRequired config kind = false := by
  cases s with
  | getStaleOrders => cases own; rfl
  | getTrades =>
      cases own
      by_cases none : config.settings.downloadTradesLookback = 0
      · simp [isRequired,none]
      · simp [DropCopy.onDownload,none] at zero
  | getBalances | getPositions | getOpenOrders => cases zero
  | done => exact absurd rfl working
  | _ => cases own

theorem required_state (required : isRequired config kind = true) :
    ∃ g : DropCopy.State, g.kind = some kind ∧ DropCopy.State.done.remaining < g.remaining := by
  cases kind with
  | balances => exact ⟨.getBalances,rfl,by decide⟩
  | positions => exact ⟨.getPositions,rfl,by decide⟩
  | openOrders => exact ⟨.getOpenOrders,rfl,by decide⟩
  | trades => exact ⟨.getTrades,rfl,by decide⟩
  | privateToken | staleOrders => cases required

-- A walk of the download covers the state it comes to rest in; at DONE it
-- publishes READY over what is behind it.
theorem walk_covered [LawfulLimitRequest R] {c after : Session D R} (walk : Walk (DropCopy.onDownload config t) s c d after)
    (entering : Entering config s c.log) (working : s ≠ .undefined) : CoveredAt config (DropCopy.withDownload (d,after)) := by
  have rested := walk.rule (fun s c => s ≠ .undefined ∧ Entering config s c.log)
    (fun s c => Covered config s c.request.response c.log) ?_ ?_ ?_ ⟨working,entering⟩
  · exact rested
  · rintro walker s c _ ⟨_,entering⟩ waiting
    have waits := DropCopy.onDownload_waits config waiting
    obtain ⟨fresh,log,silent⟩ := waits.log
    have announced : Entering config s
        (.effect (.streamStatus (DropCopy.streamStatus config .downloading s.name)) :: c.log) :=
      entering.newer [_] (effects_keep [_]) (by simp [publishesReady,DropCopy.streamStatus])
    refine ⟨log ▸ announced.newer _ (effects_keep fresh) (effects_silent silent quiet_silent),?_⟩
    intro kind own _ flag
    rw [waits.response] at flag
    simp [own] at flag
  · rintro walker s c notLast ⟨working,entering⟩ zero
    rw [DropCopy.onDownload_passes config notLast zero]
    refine ⟨?_,entering.next working ?_⟩
    · intro equal
      cases s <;> cases equal
    · intro kind own required
      rw [passes_unrequired notLast zero own] at required
      cases required
  · rintro walker c ⟨_,entering⟩
    have ready : ReadyMeans config (.effect (.streamStatus (DropCopy.streamStatus config .ready ""))) c.log := by
      intro _ kind required
      obtain ⟨g,own,low⟩ := required_state required
      exact entering.passed g kind own required low
    refine ⟨⟨⟨ready,entering.sound⟩,?_,?_⟩,?_⟩
    · intro _
      exact (entering.started (by decide)).newer [_] (effects_keep [_])
    · intro g kind own required low
      exact (entering.passed g kind own required low).newer [_] (effects_keep [_])
    · intro kind own
      cases own

theorem stage_covered [LawfulLimitRequest R] [LawfulDownload2 D]
    {c moved : Session D R} (stage : DropCopy.Stage config event c moved) (covered : CoveredAt config c)
    (connected : ∀ t, event ≠ .disconnected t) (welcomed : ∀ t, event = .welcome t → Started c.log)
    (allowed : ∀ t message, event = .ack t message → DropCopy.State.ofName message.id = some (DropCopy.stateOf c) →
      (DropCopy.stateOf c).isSubscribe = true) : CoveredAt config moved := by
  cases stage with
  | stays => exact covered
  | dropped dropped => exact absurd dropped (connected _)
  | @walked _ during _ _ _ starts keeps walk =>
      obtain ⟨fresh,log,silent⟩ := keeps.log
      have kept : Entering config (DropCopy.stateOf c) during.log :=
        log ▸ covered.toEntering.newer _ (effects_keep fresh) (effects_silent silent quiet_silent)
      have working : Download2.downloading c.stream.download = true → DropCopy.stateOf c ≠ .undefined :=
        fun running => ((LawfulDownload2.downloading_iff c.stream.download).mp running).1
      cases starts with
      | welcome happened =>
          refine walk_covered walk ⟨kept.sound,?_,?_⟩ (by decide)
          · intro _
            exact log ▸ (welcomed _ happened).newer _ (effects_keep fresh)
          · intro g kind own _ passed
            exact absurd passed (Nat.lt_asymm (DropCopy.State.waits_remaining own))
      | again _ running => exact walk_covered walk kept (working running)
      | acked happened named running =>
          have subscribing := allowed _ _ happened named
          refine walk_covered walk (kept.next (working running) ?_) (DropCopy.State.next_working _)
          intro kind own
          rw [DropCopy.State.subscribe_kind subscribing] at own
          cases own
      | ackedIdle happened named resting =>
          rw [DropCopy.downloading_of_subscribe (allowed _ _ happened named)] at resting
          cases resting
      | answered happened own flag =>
          have leaving := working (DropCopy.downloading_of_kind own)
          refine walk_covered walk (kept.next leaving ?_) (DropCopy.State.next_working _)
          intro kind same required
          rw [own] at same
          cases same
          exact log ▸ (covered.flagged _ own required flag).newer _ (effects_keep fresh)

structure Valid (config : Config) (w : World E D R) : Prop where
  sound : Every (ReadyMeans config) w.log
  covered : ∀ stream, w.dropCopy = some stream →
    Covered config (Walker.state stream.download) w.request.response w.log

theorem serves_valid [LawfulDownload2 D] {w after : World E D R} (serves : Serves config scope w after) (valid : Valid config w)
    (handled : ∀ stream kind, w.dropCopy = some stream → (Walker.state stream.download).kind = some kind →
      isRequired config kind = true → scope.flagged kind → Received kind after.log) : Valid config after := by
  obtain ⟨fresh,log,own⟩ := serves.log
  have keep := effects_keep fresh
  have silent := effects_silent own served_silent
  have sound : Every (ReadyMeans config) after.log := by
    rw [log]
    refine valid.sound.newer ?_
    intro x member older ready
    rw [silent x member] at ready
    cases ready
  refine ⟨sound,?_⟩
  intro stream present
  have renewed := serves.dropCopy
  rw [present] at renewed
  rcases renewed.state with undefined | ⟨earlier,known,same⟩
  · exact undefined ▸ .undefined sound
  · have covered := valid.covered earlier known
    rw [same]
    refine ⟨log ▸ covered.toEntering.newer _ keep silent,?_⟩
    intro kind waits required flag
    rcases serves.response kind flag with before | now
    · exact log ▸ (covered.flagged kind waits required before).newer _ keep
    · exact handled earlier kind known waits required now

theorem invoke_snapshot [Download2 E OrderEntryREST.State] {w after : World E D R} (own : submission.callback.kind = some kind)
    (required : isRequired config kind = true) (good : succeeds config submission.callback response = true)
    (ran : invoke config t submission response w = some after) :
    ∃ x, ∃ fresh : List Effect, isSnapshot kind (.effect x) = true ∧ after.log = fresh.map .effect ++ .effect x :: w.log := by
  cases callback : submission.callback with
  | getAccountAck =>
      rw [callback] at own good
      cases own
      simp only [invoke,callback] at ran
      obtain ⟨ack,fresh,code,log⟩ := getAck_handled onAccountAck_notes good ran
      exact ⟨_,fresh,by simp [isSnapshot,code],log⟩
  | getPositionAck =>
      rw [callback] at own good
      cases own
      simp only [invoke,callback] at ran
      obtain ⟨ack,fresh,code,log⟩ := getAck_handled (fun ack w => .refl (w.emit (.positionAck ack))) good ran
      exact ⟨_,fresh,by simp [isSnapshot,code],log⟩
  | getOrdersAck =>
      rw [callback] at own good
      cases own
      simp only [invoke,callback] at ran
      obtain ⟨ack,fresh,code,log⟩ := getAck_handled onOrdersAck_notes good ran
      exact ⟨_,fresh,by simp [isSnapshot,code],log⟩
  | getExecutionAck =>
      rw [callback] at own good
      cases own
      simp only [invoke,callback] at ran
      obtain ⟨ack,fresh,code,log⟩ := getAck_handled (fun ack w => .refl (w.emit (.executionAck ack))) good ran
      exact ⟨_,fresh,by simp [isSnapshot,code],log⟩
  | getPrivateTokenAck | getOrderAck =>
      rw [callback] at own
      cases own
      cases required
  | createOrderAck | cancelOrderAck | cancelAllOrdersAck | getOrderBookAck =>
      rw [callback] at own
      cases own

theorem receive_valid {w : World E D R} (valid : Valid config w) (keep : isDropped (.event event) = false) :
    Valid config (receive event w) := by
  refine ⟨⟨nofun,valid.sound⟩,?_⟩
  intro stream present
  exact (valid.covered stream present).newer [_] (by simpa using keep) (by simp [publishesReady]) fun _ flag => flag

theorem answering_valid {w : World E D R} (valid : Valid config w) : Valid config (answering submission w) := by
  refine ⟨⟨nofun,valid.sound⟩,?_⟩
  intro stream present
  exact (valid.covered stream present).newer [_] (effects_keep [_]) (by simp [publishesReady]) fun _ flag => flag

variable [LawfulLimitRequest R] [LawfulDownload2 D]

theorem copied_valid {w : World E D R} {c : Session D R} (valid : Valid config w) (present : w.dropCopy = some stream)
    (allowed : clean config w (.dropCopy happened) = true)
    (stepped : DropCopy.step config (session stream (receive (.dropCopy happened) w)) happened = some c)
    (moves : DropCopy.Moves config happened (session stream (receive (.dropCopy happened) w)) c) :
    Valid config (resume (receive (.dropCopy happened) w) c) := by
  suffices covered : CoveredAt config c from ⟨covered.sound,fun _ same => Option.some.inj same ▸ covered⟩
  by_cases dropping : ∃ t, happened = .disconnected t
  · obtain ⟨t,rfl⟩ := dropping
    obtain rfl := Option.some.inj stepped
    have sound : Every (ReadyMeans config) (receive (.dropCopy (.disconnected t)) w).log := ⟨nofun,valid.sound⟩
    rw [CoveredAt,DropCopy.onDisconnected_state]
    exact .undefined ⟨by simp [ReadyMeans,publishesReady,DropCopy.streamStatus],sound⟩
  · have connected : ∀ t, happened ≠ .disconnected t := fun t equal => dropping ⟨t,equal⟩
    have keep : isDropped (.event (.dropCopy happened)) = false := by
      cases happened with
      | disconnected t => exact absurd rfl (connected t)
      | _ => rfl
    have received : CoveredAt config (session stream (receive (.dropCopy happened) w)) :=
      (receive_valid valid keep).covered stream present
    obtain ⟨moved,stage,chores⟩ := moves
    refine tame_covered chores.tame (stage_covered stage received connected ?_ ?_)
    · rintro t rfl
      exact ⟨.event (.dropCopy (.welcome t)),by simp [session,receive,upTo,isDropped],rfl⟩
    · rintro t message rfl named
      have admitted := allowed
      simp only [clean,present,Bool.and_eq_true,Bool.or_eq_true,bne_iff_ne,ne_eq] at admitted
      exact admitted.1.resolve_left fun other => other named

variable [Download2 E OrderEntryREST.State] [LawfulDownload2 E]

theorem step_valid {w after : World E D R} (valid : Valid config w) (allowed : clean config w event = true)
    (ran : step config w event = some after) : Valid config after := by
  cases step_happens ran with
  | lost absent =>
      cases event with
      | rest happened => exact receive_valid valid rfl
      | dropCopy happened =>
          have none := absent happened rfl
          refine ⟨⟨nofun,valid.sound⟩,?_⟩
          intro stream present
          rw [receive,none] at present
          cases present
  | copied happened present stepped moves =>
      subst happened
      exact copied_valid valid present allowed stepped moves
  | served happened _ _ serves =>
      subst happened
      exact serves_valid serves (receive_valid valid rfl) nofun
  | @answered t response submission _ id happened found invoked serves =>
      subst happened
      have received : Valid config (receive (.rest (.response t id response)) w) := receive_valid valid rfl
      have started : Valid config (answering submission (receive (.rest (.response t id response)) w)) := answering_valid received
      refine serves_valid serves started ?_
      intro stream kind present waits required own
      have own : submission.callback.kind = some kind := own
      have admitted := allowed
      have same : w.dropCopy = some stream := present
      simp only [clean,same,responseOf,found,Option.map_some,Option.all_some,waits,own,Bool.and_eq_true] at admitted
      have good : succeeds config submission.callback response = true := by simpa using admitted.2
      obtain ⟨x,fresh,snapshot,log⟩ := invoke_snapshot own required good invoked
      have working := (started.covered stream present).started (DropCopy.State.waits_working waits).1
      rw [log]
      exact (Received.now snapshot rfl working).newer _ (effects_keep fresh)

-- READY stands for the snapshots of its session, and no state is left without its own.
structure Sound (config : Config) (w : World E D R) : Prop where
  ready : ∀ newer x older, w.log = newer ++ x :: older → publishesReady x = true →
    ∀ kind, isRequired config kind = true → Received kind older
  advance : ∀ stream (g : DropCopy.State) kind, w.dropCopy = some stream → g.kind = some kind → isRequired config kind = true →
    (Walker.state stream.download).remaining < g.remaining → Received kind w.log

theorem ready_is_sound (config : Config) (w : World E D R)
    (path : Run config (fun w event => clean config w event = true) w) : Sound config w := by
  have initial : Valid config (AccountSystem.initial : World E D R) := ⟨True.intro,nofun⟩
  have valid : Valid config w := path.invariant initial fun _ _ _ valid allowed ran => step_valid valid allowed ran
  refine ⟨every_iff.mp valid.sound,?_⟩
  intro stream g kind present waits required passed
  exact (valid.covered stream present).passed g kind waits required passed

theorem Received.member (received : Received kind log) : ∃ x ∈ log, isSnapshot kind x = true := by
  obtain ⟨x,snapshot,after⟩ := received
  exact ⟨x,mem_of_upTo after.mem,snapshot⟩

section closed
open Smallest

-- One session from the Welcome to READY; `balances` answers GET_BALANCES.
def fullSession (balances : Web.Response) : List Event :=
  startup ++ [ack "SUBSCRIBE_BALANCES",poll,answer 1 balances,tick,
    ack "SUBSCRIBE_POSITIONS",poll,answer 2 (reply "ok"),tick,
    ack "SUBSCRIBE_ORDERS",poll,answer 3 (reply "ok"),tick,
    ack "SUBSCRIBE_TRADES"]

theorem ready_is_sound_session : ∃ w : Small, Sound (setup true) w ∧ ∃ x ∈ w.log, publishesReady x = true := by
  obtain ⟨w,path,ready⟩ := reached_of_execute (initial : Small) (AccountSystem.step (setup true)) (clean (setup true))
    (fullSession (reply "ok")) (fun w => w.log.any publishesReady) (by decide) (by decide)
  exact ⟨w,ready_is_sound (setup true) w path,List.any_eq_true.mp ready⟩

-- A 500 for the balances, and the drop copy is READY without them.
theorem ready_without_balances : ¬ ∀ w : Small, Run (setup true) (fun _ _ => True) w → Sound (setup true) w := by
  intro all
  have ran : (execute (AccountSystem.step (setup true)) (initial : Small) (fullSession (failure 500))).any
      (fun w => w.log.any publishesReady && !w.log.any (isSnapshot .balances)) = true := by decide
  obtain ⟨w,executed,checked⟩ := (Option.any_eq_true _ _).mp ran
  simp only [Bool.and_eq_true,Bool.not_eq_true'] at checked
  obtain ⟨x,member,ready⟩ := List.any_eq_true.mp checked.1
  obtain ⟨newer,older,split⟩ := List.append_of_mem member
  have received := (all w (execute_reached executed)).ready newer x older split ready .balances rfl
  obtain ⟨y,present,snapshot⟩ := received.member
  have known : y ∈ w.log := split ▸ List.mem_append_right _ (List.mem_cons_of_mem _ present)
  have some := List.any_eq_true.mpr ⟨y,known,snapshot⟩
  rw [checked.2] at some
  cases some

end closed
end KucoinPro.SnapshotSoundness
