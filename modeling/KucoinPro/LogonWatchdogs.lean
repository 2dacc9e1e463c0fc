import KucoinPro.AccountMoves
import KucoinPro.MarketMoves
import KucoinPro.OrderReadiness
import KucoinPro.Watchdog

namespace KucoinPro
open Watchdog

-- The handshake of the stream that is looked at is complete, which the stream
-- itself only logs (web::socket::Ready), or any event of the system.
inductive Observed (ε : Type) where
  | ready
  | event (event : ε)

def Observed.received (logged : ε) : Observed ε → ε
  | .ready => logged
  | .event happened => happened

def MarketDataEvent.signal : MarketDataEvent B → Signal
  | .timer t _ refresh _ => .timer t.originCreateTime refresh
  | .disconnected _ => .disconnected
  | .welcome _ => .welcome
  | .connected _ | .ticker _ _ | .trade _ _ | .obu _ _ _ | .logged | .unexpected => .other

-- Its deadline is compared with the time of the timer.
def DropCopyEvent.signal : DropCopyEvent → Signal
  | .timer _ now refresh _ => .timer now refresh
  | .disconnected _ => .disconnected
  | .welcome _ => .welcome
  | .connected _ | .error _ _ | .ack _ _ | .logged | .unexpected => .other

def OrderEntryWS.Event.signal (decoders : Json.WSDecoders) : OrderEntryWS.Event → Signal
  | .timer t refresh => .timer t.originCreateTime refresh
  | .disconnected _ => .disconnected
  | .text _ payload =>
      match Json.WSParser.dispatch decoders payload with
      | some (.welcome _) => .welcome
      | _ => .other
  | .connected _ | .logged | .binary | .action _ => .other

namespace LogonWatchdogs
open GuardedRuns

variable {Y S B E D R : Type} {Q : Type → Type}

-- MarketData: the stream at `index`, in the gateway.
def marketSignal (index : Nat) : Observed (GatewayEvent B) → Signal
  | .ready => .ready
  | .event (.marketData i happened) => if i = index then happened.signal else .other
  | .event (.symbolsUpdate _) | .event (.account _ _ _) => .other

def isMarketClose (index : Nat) : MarketEntry B → Bool
  | .effect (.close i) => i == index
  | _ => false

variable [Symbols Y] [LimitQueue Q] [Sequencer S B] [Download2 E OrderEntryREST.State] [Download2 D DropCopy.State]
  [LimitRequest R]

def market (config : GatewayConfig) (index : Nat) : Machine (Gateway Y Q S B E D R) (Observed (GatewayEvent B)) where
  step g input := MarketSystem.step config g (input.received (.marketData index .logged))
  signal g input := if (g.marketData[index]?).isSome then marketSignal index input else .other
  welcome g := (g.marketData[index]?).any (·.welcome)
  deadline g := ((g.marketData[index]?).map (·.logonTimeout)).getD 0
  closings g := g.shared.log.countP (isMarketClose index)

-- DropCopy: that of the account, which starts when there is a token.
def dropCopySignal : Observed Event → Signal
  | .ready => .ready
  | .event (.dropCopy happened) => happened.signal
  | .event (.rest _) => .other

def dropCopy (config : Config) : Machine (World E D R) (Observed Event) where
  step w input := AccountSystem.step config w (input.received (.dropCopy .logged))
  signal w input := if w.dropCopy.isSome then dropCopySignal input else .other
  welcome w := w.dropCopy.any (·.welcome)
  deadline w := (w.dropCopy.map (·.logonTimeout)).getD 0
  closings w := w.log.countP DropCopy.isClose

-- OrderEntryWS
def wsSignal (decoders : Json.WSDecoders) : Observed OrderEntryWS.Event → Signal
  | .ready => .ready
  | .event happened => happened.signal decoders

def isWsClose : OrderEntryWS.Effect → Bool
  | .close => true
  | _ => false

def ws (config : Config) (decoders : Json.WSDecoders) : Machine OrderEntryWS.Session (Observed OrderEntryWS.Event) where
  step s input := OrderEntryWS.step config decoders s (input.received .logged)
  signal _ input := wsSignal decoders input
  welcome s := s.stream.welcome
  deadline s := s.stream.logonTimeout
  closings s := s.log.countP isWsClose

section market
variable {config : GatewayConfig} {index : Nat}

omit [Sequencer S B] in
theorem moved_heard {c after : Feed Y Q S B} (moved : MarketMoves.Moved config c happened after) :
    after.stream.welcome = happened.signal.hears c.stream.welcome := by
  cases moved with
  | welcomed _ _ _ welcome => exact welcome
  | dropped _ _ welcome => exact welcome
  | timed _ stays => exact stays.welcome
  | other unwelcomed kept _ stays =>
      cases happened with
      | welcome t => exact absurd rfl (unwelcomed t)
      | disconnected t => exact absurd rfl (kept t)
      | _ => exact stays.welcome

theorem market_heard [LawfulLimitQueue Q] {g after : Gateway Y Q S B E D R} {input : Observed (GatewayEvent B)}
    (indexed : MarketMoves.Indexed g.marketData) (ran : (market config index).step g input = some after) :
    (market config index).welcome after = ((market config index).signal g input).hears ((market config index).welcome g) := by
  have touched := MarketMoves.step_touched indexed ran index
  show (after.marketData[index]?).any (·.welcome) =
    (if (g.marketData[index]?).isSome then marketSignal index input else .other).hears ((g.marketData[index]?).any (·.welcome))
  revert touched
  generalize g.marketData[index]? = earlier
  generalize after.marketData[index]? = later
  intro touched
  cases touched with
  | absent => rfl
  | created fresh => exact fresh.welcome
  | moved same moved =>
      have heard := moved_heard moved
      cases input with
      | ready =>
          cases same
          exact heard
      | event happened =>
          obtain rfl : happened = _ := same
          simpa [marketSignal] using heard
  | updated same _ stays =>
      cases input with
      | ready => cases same
      | event happened =>
          obtain rfl : happened = _ := same
          exact stays.welcome
  | apart unlisted elsewhere =>
      cases input with
      | ready => exact absurd rfl (elsewhere .logged)
      | event happened =>
          cases happened with
          | symbolsUpdate symbols => exact absurd rfl (unlisted symbols)
          | account => rfl
          | marketData i happened =>
              have other : i ≠ index := by
                rintro rfl
                exact elsewhere happened rfl
              simp [marketSignal,other,Signal.hears]

theorem market_hears [LawfulLimitQueue Q] (config : GatewayConfig) (index streamId : Nat) :
    (market config index).Hears (fun g : Gateway Y Q S B E D R => MarketMoves.Indexed g.marketData)
      (MarketSystem.initial config streamId) where
  valid_start i stream found := by cases found
  valid_step _ _ _ indexed ran := MarketMoves.step_indexed indexed ran
  silent := rfl
  hears _ _ _ indexed ran := market_heard indexed ran

omit [Symbols Y] [LimitQueue Q] [Sequencer S B] in
theorem sendSubscriptions_closings (messages : List Subscription) (c : Feed Y Q S B) :
    (messages.foldl MarketData.sendSubscription c).shared.log.countP (isMarketClose index) =
      c.shared.log.countP (isMarketClose index) := by
  induction messages generalizing c with
  | nil => rfl
  | cons message rest ih => exact (ih (MarketData.sendSubscription c message)).trans (List.countP_cons_of_neg (by simp [isMarketClose]))

omit [Symbols Y] [Sequencer S B] in
theorem onTimer_closings (config : GatewayConfig) (t : TraceInfo) (now : Nanoseconds) (refresh : Bool) (granted : Nat) (c : Feed Y Q S B) :
    (MarketData.onTimer config t now refresh granted c).shared.log.countP (isMarketClose c.stream.index) =
      c.shared.log.countP (isMarketClose c.stream.index) +
        if refresh = false ∧ c.stream.logonTimeout ≠ 0 ∧ c.stream.logonTimeout < t.originCreateTime then 1 else 0 := by
  unfold MarketData.onTimer
  cases refresh with
  | true =>
      simp only [if_true,Bool.true_eq_false,false_and,if_false,Nat.add_zero]
      split
      · refine (sendSubscriptions_closings _ _).trans ?_
        split
        · exact List.countP_cons_of_neg (by simp [isMarketClose])
        · rfl
      · rfl
  | false =>
      simp only [Bool.false_eq_true,if_false,true_and]
      split
      · exact List.countP_cons_of_pos (by simp [isMarketClose])
      · rfl

theorem market_tests (config : GatewayConfig) (index : Nat) :
    (market config index).TestsRefused (fun g : Gateway Y Q S B E D R => MarketMoves.Indexed g.marketData) := by
  intro g input after time refresh indexed signal ran
  cases present : g.marketData[index]? with
  | none =>
      simp only [market,present,Option.isSome_none,Bool.false_eq_true,if_false] at signal
      cases signal
  | some stream =>
      simp only [market,present,Option.isSome_some,if_true] at signal
      cases input with
      | ready => cases signal
      | event happened =>
          cases happened with
          | symbolsUpdate | account => cases signal
          | marketData i happened =>
              simp only [marketSignal] at signal
              split at signal
              · rename_i own
                subst own
                cases happened with
                | timer t now asked granted =>
                    cases signal
                    have own := indexed i stream present
                    rcases MarketSystem.step_marketData config ran with ⟨absent,_⟩ | ⟨_,c,known,stepped,rfl⟩
                    · rw [present] at absent
                      cases absent
                    · cases present.symm.trans known
                      obtain rfl := Option.some.inj stepped
                      have count := onTimer_closings config t now refresh granted
                        ⟨stream,(MarketSystem.receive (.marketData i (.timer t now refresh granted)) g).shared⟩
                      simp only [own] at count
                      simp only [market,present,Option.map_some,Option.getD_some]
                      exact count
                | _ => cases signal
              · cases signal

end market

section dropCopy
variable {config : Config} {t : TraceInfo}

theorem isClose_deaf : DropCopy.Deaf DropCopy.isClose := ⟨fun _ => rfl,fun _ => rfl,fun _ => rfl,fun _ => rfl⟩

omit [Download2 D DropCopy.State] [LimitRequest R] in
theorem ping_closings (now : Nanoseconds) (c : Session D R) : (DropCopy.ping t now c).stream.welcome = c.stream.welcome ∧
    (DropCopy.ping t now c).log.countP DropCopy.isClose = c.log.countP DropCopy.isClose := by
  unfold DropCopy.ping
  split <;> exact ⟨rfl,rfl⟩

theorem refreshed_timer [LawfulDownload2 D] {c after : Session D R} (now : Nanoseconds) (staleOrders : List Order)
    (ran : DropCopy.onTimer config t now true staleOrders c = some after) : after.stream.welcome = c.stream.welcome ∧
      after.log.countP DropCopy.isClose = c.log.countP DropCopy.isClose := by
  obtain ⟨checked,_,before,later⟩ := DropCopy.onTimer_steady config isClose_deaf t now staleOrders ran
  obtain ⟨welcome,closings⟩ := ping_closings (t := t) now checked
  split at later
  · exact ⟨later.welcome.trans (welcome.trans before.welcome),later.count.trans (closings.trans before.count)⟩
  · exact ⟨later.welcome.trans before.welcome,later.count.trans before.count⟩

theorem refused_timer (now : Nanoseconds) (staleOrders : List Order) (c : Session D R) :
    DropCopy.onTimer config t now false staleOrders c =
      some (if c.stream.logonTimeout ≠ 0 ∧ c.stream.logonTimeout < now then c.emit .close else c) :=
  (apply_ite some _ _ _).symm

variable [LawfulDownload2 D]

theorem onTimer_counts {c after : Session D R} (now : Nanoseconds) (refresh : Bool) (staleOrders : List Order)
    (ran : DropCopy.onTimer config t now refresh staleOrders c = some after) : after.stream.welcome = c.stream.welcome ∧
      after.log.countP DropCopy.isClose = c.log.countP DropCopy.isClose +
        if refresh = false ∧ c.stream.logonTimeout ≠ 0 ∧ c.stream.logonTimeout < now then 1 else 0 := by
  cases refresh with
  | true =>
      simp only [Bool.true_eq_false,false_and,if_false,Nat.add_zero]
      exact refreshed_timer now staleOrders ran
  | false =>
      rw [refused_timer] at ran
      obtain rfl := Option.some.inj ran
      simp only [true_and]
      split
      · exact ⟨rfl,List.countP_cons_of_pos rfl⟩
      · exact ⟨rfl,rfl⟩

theorem dropCopy_heard {c after : Session D R} (ran : DropCopy.step config c happened = some after) :
    after.stream.welcome = happened.signal.hears c.stream.welcome := by
  cases happened with
  | timer t now refresh staleOrders => exact (onTimer_counts now refresh staleOrders ran).1
  | connected t =>
      obtain rfl := Option.some.inj ran
      rfl
  | disconnected t =>
      obtain rfl := Option.some.inj ran
      rfl
  | welcome t =>
      obtain rfl := Option.some.inj ran
      exact (DropCopy.begin_steady config isClose_deaf t {c with stream.welcome := true}).welcome
  | error t message =>
      obtain rfl := Option.some.inj ran
      show (DropCopy.onError t message c).stream.welcome = c.stream.welcome
      unfold DropCopy.onError
      split
      · exact (DropCopy.requestPrivateToken_steady isClose_deaf t c).welcome
      · rfl
  | ack t message =>
      obtain rfl := Option.some.inj ran
      show (DropCopy.onAck config t message c).stream.welcome = c.stream.welcome
      unfold DropCopy.onAck
      split
      · exact (DropCopy.check_steady config isClose_deaf t _ c).welcome
      · rfl
  | logged =>
      obtain rfl := Option.some.inj ran
      rfl
  | unexpected => cases ran

theorem dropCopy_received (happened : DropCopyEvent) {w after : World E D R}
    (ran : AccountSystem.step config w (.dropCopy happened) = some after) : after.dropCopy.any (·.welcome) =
      (if w.dropCopy.isSome then happened.signal else .other).hears (w.dropCopy.any (·.welcome)) := by
  rcases AccountSystem.step_dropCopy config ran with ⟨absent,rfl⟩ | ⟨stream,c,present,stepped,rfl⟩
  · simp only [AccountSystem.receive,absent]
    rfl
  · have heard := dropCopy_heard stepped
    rw [present]
    exact heard

theorem dropCopy_hears [LawfulLimitRequest R] [LawfulDownload2 E] (config : Config) :
    (dropCopy config).Hears (fun _ : World E D R => True) AccountSystem.initial where
  valid_start := trivial
  valid_step _ _ _ _ _ := trivial
  silent := rfl
  hears w input after _ ran := by
    cases input with
    | ready =>
        refine (dropCopy_received .logged ran).trans ?_
        show _ = (if w.dropCopy.isSome then .ready else .other : Signal).hears (w.dropCopy.any (·.welcome))
        cases w.dropCopy <;> rfl
    | event event =>
        cases event with
        | dropCopy happened => exact dropCopy_received happened ran
        | rest happened =>
            have renewed := AccountSystem.rest_renewed ran
            show after.dropCopy.any (·.welcome) = (if w.dropCopy.isSome then .other else .other : Signal).hears (w.dropCopy.any (·.welcome))
            rw [ite_self]
            revert renewed
            generalize w.dropCopy = earlier
            generalize after.dropCopy = later
            intro renewed
            cases renewed <;> rfl

theorem dropCopy_tests (config : Config) : (dropCopy config).TestsRefused (fun _ : World E D R => True) := by
  intro w input after time refresh _ signal ran
  cases present : w.dropCopy with
  | none =>
      simp only [dropCopy,present,Option.isSome_none,Bool.false_eq_true,if_false] at signal
      cases signal
  | some stream =>
      simp only [dropCopy,present,Option.isSome_some,if_true] at signal
      cases input with
      | ready => cases signal
      | event event =>
          cases event with
          | rest => cases signal
          | dropCopy happened =>
              cases happened with
              | timer t now asked staleOrders =>
                  cases signal
                  rcases AccountSystem.step_dropCopy config ran with ⟨absent,_⟩ | ⟨_,c,known,stepped,rfl⟩
                  · rw [present] at absent
                    cases absent
                  · cases present.symm.trans known
                    have count := (onTimer_counts time refresh staleOrders stepped).2
                    simp only [dropCopy,present,Option.map_some,Option.getD_some]
                    exact count
              | _ => cases signal

end dropCopy

section ws
variable {config : Config} {decoders : Json.WSDecoders}

theorem onError_stream {s after : OrderEntryWS.Session} (ran : OrderEntryWS.onError config error s = some after) :
    after.stream = s.stream := by
  unfold OrderEntryWS.onError at ran
  simp only at ran
  split at ran
  · split at ran
    · split at ran
      · exact Option.some.inj ran ▸ rfl
      · cases ran
    · exact Option.some.inj ran ▸ rfl
  all_goals exact Option.some.inj ran ▸ rfl

-- The status is READY after a welcome only.
def Valid (s : OrderEntryWS.Session) : Prop := OrderEntryWS.isReady s = true → s.stream.welcome = true

theorem parse_heard {s after : OrderEntryWS.Session} (t : TraceInfo) (valid : Valid s)
    (ran : OrderEntryWS.parse config decoders payload s = some after) : Valid after ∧
      after.stream.welcome = (OrderEntryWS.Event.signal decoders (.text t payload)).hears s.stream.welcome := by
  obtain ⟨call,dispatched,handled⟩ := Option.bind_eq_some_iff.mp ran
  simp only [OrderEntryWS.Event.signal,dispatched]
  cases call with
  | auth known message =>
      obtain rfl := Option.some.inj handled
      exact ⟨Bool.noConfusion,rfl⟩
  | welcome known =>
      obtain rfl := Option.some.inj handled
      exact ⟨fun _ => rfl,rfl⟩
  | error known =>
      have kept := onError_stream handled
      refine ⟨?_,congrArg OrderEntryWS.welcome kept⟩
      unfold Valid OrderEntryWS.isReady
      rw [kept]
      exact valid
  | pong | addOrderAck | cancelOrderAck =>
      obtain rfl := Option.some.inj handled
      exact ⟨valid,rfl⟩

theorem onTimer_ws (t : TraceInfo) (refresh : Bool) (s : OrderEntryWS.Session) :
    (OrderEntryWS.onTimer t refresh s).stream.welcome = s.stream.welcome ∧
      (OrderEntryWS.onTimer t refresh s).stream.connectionStatus = s.stream.connectionStatus ∧
      (OrderEntryWS.onTimer t refresh s).log.countP isWsClose = s.log.countP isWsClose +
        if refresh = true ∧ OrderEntryWS.isReady s = false ∧ s.stream.logonTimeout ≠ 0 ∧
          s.stream.logonTimeout < t.originCreateTime then 1 else 0 := by
  unfold OrderEntryWS.onTimer
  cases refresh with
  | false => exact ⟨rfl,rfl,rfl⟩
  | true =>
      cases ready : OrderEntryWS.isReady s with
      | true =>
          simp only [if_true,Bool.true_eq_false,false_and,and_false,if_false,Nat.add_zero]
          unfold OrderEntryWS.sendPing
          split <;> exact ⟨rfl,rfl,rfl⟩
      | false =>
          simp only [if_true,Bool.false_eq_true,if_false,true_and]
          unfold OrderEntryWS.checkLogonTimeout
          split
          · exact ⟨rfl,rfl,List.countP_cons_of_pos rfl⟩
          · exact ⟨rfl,rfl,rfl⟩

theorem ws_heard {s after : OrderEntryWS.Session} {input : Observed OrderEntryWS.Event} (valid : Valid s)
    (ran : (ws config decoders).step s input = some after) :
    Valid after ∧ after.stream.welcome = (wsSignal decoders input).hears s.stream.welcome := by
  cases input with
  | ready =>
      obtain rfl := Option.some.inj ran
      exact ⟨valid,rfl⟩
  | event happened =>
      cases happened with
      | timer t refresh =>
          obtain rfl := Option.some.inj ran
          obtain ⟨welcome,status,_⟩ := onTimer_ws t refresh s
          refine ⟨?_,welcome⟩
          unfold Valid OrderEntryWS.isReady
          rw [status,welcome]
          exact valid
      | connected t =>
          obtain rfl := Option.some.inj ran
          exact ⟨valid,rfl⟩
      | disconnected t =>
          obtain rfl := Option.some.inj ran
          exact ⟨Bool.noConfusion,rfl⟩
      | text t payload => exact parse_heard t valid ran
      | logged =>
          obtain rfl := Option.some.inj ran
          exact ⟨valid,rfl⟩
      | binary => cases ran
      | action action =>
          obtain rfl := Option.some.inj ran
          cases action <;> exact ⟨valid,rfl⟩

theorem ws_hears (config : Config) (decoders : Json.WSDecoders) : (ws config decoders).Hears Valid OrderEntryWS.initial where
  valid_start := Bool.noConfusion
  valid_step _ _ _ valid ran := (ws_heard valid ran).1
  silent := rfl
  hears _ _ _ valid ran := (ws_heard valid ran).2

theorem ws_tests (config : Config) (decoders : Json.WSDecoders) : (ws config decoders).TestsUnready Valid OrderEntryWS.isReady := by
  intro s input after time refresh _ signal ran
  cases input with
  | ready => cases signal
  | event happened =>
      cases happened with
      | timer t asked =>
          cases signal
          obtain rfl := Option.some.inj ran
          exact (onTimer_ws t refresh s).2.2
      | text t payload =>
          simp only [ws,wsSignal,OrderEntryWS.Event.signal] at signal
          split at signal <;> cases signal
      | _ => cases signal

end ws

-- Two of the three watchdogs never look at an established connection: their runs
-- are in time if and only if no timer finds one without its welcome. The third one
-- does, and forgets a welcome that an auth message follows.
theorem logon_watchdogs_exactly [LawfulLimitQueue Q] [LawfulSymbols Y] [LawfulDownload2 E] [LawfulDownload2 D] [LawfulLimitRequest R]
    (config : GatewayConfig) (account : Config) (decoders : Json.WSDecoders) :
    (∀ (index streamId : Nat) (inputs : List (Observed (GatewayEvent B))),
      EveryStep (market config index).watched ⟨.down,(MarketSystem.initial config streamId : Gateway Y Q S B E D R)⟩ inputs
          (market config index).Timely ↔
        EveryStep (market config index).watched ⟨.down,(MarketSystem.initial config streamId : Gateway Y Q S B E D R)⟩ inputs
          (fun s input _ => (market config index).overdue s input = false)) ∧
    (∀ inputs : List (Observed Event),
      EveryStep (dropCopy account).watched ⟨.down,(AccountSystem.initial : World E D R)⟩ inputs (dropCopy account).Timely ↔
        EveryStep (dropCopy account).watched ⟨.down,(AccountSystem.initial : World E D R)⟩ inputs
          (fun s input _ => (dropCopy account).overdue s input = false)) ∧
    (∀ inputs : List (Observed OrderEntryWS.Event),
      EveryStep (ws account decoders).watched ⟨.down,OrderEntryWS.initial⟩ inputs (ws account decoders).Timely ↔
        EveryStep (ws account decoders).watched ⟨.down,OrderEntryWS.initial⟩ inputs
          (fun s input _ => (ws account decoders).astray OrderEntryWS.isReady s input = false)) := by
  refine ⟨?_,?_,?_⟩
  · intro index streamId inputs
    exact Machine.refused_exactly (market_hears config index streamId) (market_tests config index) inputs
  · intro inputs
    exact Machine.refused_exactly (dropCopy_hears account) (dropCopy_tests account) inputs
  · intro inputs
    exact Machine.unready_exactly (ws_hears account decoders) (ws_tests account decoders) (fun _ valid => valid) inputs

section closed
open Smallest

def late : TraceInfo := ⟨6000000000,6000000000⟩

def decoders : Json.WSDecoders := {OrderReadiness.decoders with
  message := fun payload => .ok ⟨"session",if payload = "welcome" then 18000 else 0,0,.undefinedInternal⟩
  welcome := fun _ => .ok ⟨"session",18000⟩}

-- The connection is made and the handshake complete.
def marketOpen : List (Observed (GatewayEvent Unit)) := [.event (.symbolsUpdate ["A"]),.event (connect 0),.ready]

def marketTimer : Observed (GatewayEvent Unit) := .event (.marketData 0 (.timer late 6000000000 true 0))

def dropCopyOpen : List (Observed Event) :=
  [.event (.rest (.connected t)),.event (answer 0 (reply "ok")),.event (.dropCopy (.connected t)),.ready]

def dropCopyTimer : Observed Event := .event (.dropCopy (.timer late 6000000000 true []))

def wsOpen : List (Observed OrderEntryWS.Event) := [.event (.connected t),.ready]

def wsText (payload : String) : Observed OrderEntryWS.Event := .event (.text t payload)
def wsTimer : Observed OrderEntryWS.Event := .event (.timer late true)

theorem logons_are_in_time :
    EveryStep (LogonWatchdogs.market (Smallest.market 3) 0).watched
      ⟨.down,(MarketSystem.initial (Smallest.market 3) 3 : SmallGateway)⟩ (marketOpen ++ [.event (greet 0),marketTimer])
      (LogonWatchdogs.market (Smallest.market 3) 0).Timely ∧
    EveryStep (dropCopy (setup true)).watched ⟨.down,(AccountSystem.initial : Small)⟩
      (dropCopyOpen ++ [.event welcome,dropCopyTimer]) (dropCopy (setup true)).Timely ∧
    EveryStep (ws (setup true) decoders).watched ⟨.down,OrderEntryWS.initial⟩
      (wsOpen ++ [wsText "auth",wsTimer]) (ws (setup true) decoders).Timely := by
  obtain ⟨markets,copies,orders⟩ := @logon_watchdogs_exactly SlicedSymbols Replica Unit (Stepper OrderEntryREST.State)
    (Stepper DropCopy.State) Slot List _ _ _ _ _ _ _ _ _ _ _ (Smallest.market 3) (setup true) decoders
  refine ⟨(markets 0 3 _).mpr ?_,(copies _).mpr ?_,(orders _).mpr ?_⟩
  · exact everyStep_never (LogonWatchdogs.market (Smallest.market 3) 0).overdue (by decide +kernel)
  · exact everyStep_never (dropCopy (setup true)).overdue (by decide +kernel)
  · exact everyStep_never ((ws (setup true) decoders).astray OrderEntryWS.isReady) (by decide +kernel)

-- No Welcome comes and nobody minds, and one that an auth message follows is
-- as good as none.
theorem missing_welcomes_go_unnoticed :
    (¬ ∀ inputs, EveryStep (LogonWatchdogs.market (Smallest.market 3) 0).watched
      ⟨.down,(MarketSystem.initial (Smallest.market 3) 3 : SmallGateway)⟩ inputs
      (LogonWatchdogs.market (Smallest.market 3) 0).Timely) ∧
    (¬ ∀ inputs, EveryStep (dropCopy (setup true)).watched ⟨.down,(AccountSystem.initial : Small)⟩ inputs
      (dropCopy (setup true)).Timely) ∧
    ¬ ∀ inputs, EveryStep (ws (setup true) decoders).watched ⟨.down,OrderEntryWS.initial⟩ inputs
      (ws (setup true) decoders).Timely := by
  refine ⟨?_,?_,?_⟩
  · exact Machine.refused_fails (market_hears _ 0 3) (market_tests _ 0) marketOpen marketTimer (by decide +kernel)
  · exact Machine.refused_fails (dropCopy_hears _) (dropCopy_tests _) dropCopyOpen dropCopyTimer (by decide +kernel)
  · exact Machine.unready_fails (ws_hears _ _) (ws_tests _ _) (fun _ valid => valid) (wsOpen ++ [wsText "welcome",wsText "auth"])
      wsTimer (by decide +kernel)

end closed
end LogonWatchdogs
end KucoinPro
