import KucoinPro.AccountMoves
import KucoinPro.MarketMoves
import KucoinPro.LogonWatchdogs
import KucoinPro.Pacing

namespace KucoinPro
open Pacing

def MarketDataEvent.clocks : MarketDataEvent B → Signal
  | .timer t now _ _ => .timer t.originCreateTime now
  | .disconnected _ => .disconnected
  | .welcome _ | .connected _ | .ticker _ _ | .trade _ _ | .obu _ _ _ | .logged | .unexpected => .other

def DropCopyEvent.clocks : DropCopyEvent → Signal
  | .timer t now _ _ => .timer t.originCreateTime now
  | .disconnected _ => .disconnected
  | .welcome _ | .connected _ | .error _ _ | .ack _ _ | .logged | .unexpected => .other

-- It looks at one clock only. The interval is announced in milliseconds.
def OrderEntryWS.Event.clocks (decoders : Json.WSDecoders) : OrderEntryWS.Event → Signal
  | .timer t _ => .timer t.originCreateTime t.originCreateTime
  | .disconnected _ => .disconnected
  | .text _ payload =>
      match Json.WSParser.dispatch decoders payload with
      | some (.welcome welcome) => .announced (welcome.pingInterval * 1000000)
      | _ => .other
  | .connected _ | .logged | .binary | .action _ => .other

namespace PingPacing
open GuardedRuns

variable {Y S B E D R : Type} {Q : Type → Type}

-- MarketData: the stream at `index`, in the gateway.
def marketClocks (index : Nat) : GatewayEvent B → Signal
  | .marketData i happened => if i = index then happened.clocks else .other
  | .symbolsUpdate _ | .account _ _ _ => .other

def isMarketPing (index time : Nat) : MarketEntry B → Bool
  | .effect (.sendText i (.ping now)) => i == index && now == time
  | _ => false

variable [Symbols Y] [LimitQueue Q] [Sequencer S B] [Download2 E OrderEntryREST.State] [Download2 D DropCopy.State]
  [LimitRequest R]

def market (config : GatewayConfig) (index : Nat) : Machine (Gateway Y Q S B E D R) (GatewayEvent B) where
  step g event := MarketSystem.step config g event
  signal g event := if (g.marketData[index]?).isSome then marketClocks index event else .other
  pings time g := g.shared.log.countP (isMarketPing index time)
  configured := config.market.wsPingFreq

-- DropCopy: that of the account. Its interval is that of the settings.
def dropCopyClocks : Event → Signal
  | .dropCopy happened => happened.clocks
  | .rest _ => .other

def isDropCopyPing (time : Nat) : Entry → Bool
  | .effect (.sendText message) => message == "\x7b\"id\":" ++ toString time ++ ",\"type\":\"ping\"\x7d"
  | _ => false

def dropCopy (config : Config) (wsPingFreq : Nanoseconds) : Machine (World E D R) Event where
  step w event := AccountSystem.step config w event
  signal w event := if w.dropCopy.isSome then dropCopyClocks event else .other
  pings time w := w.log.countP (isDropCopyPing time)
  configured := wsPingFreq

-- OrderEntryWS: without a welcome there is no interval.
def isWsPing (time : Nat) : OrderEntryWS.Effect → Bool
  | .sendText message => message == "\x7b\"id\":\"" ++ toString time ++ "\",\"op\":\"ping\"\x7d"
  | _ => false

def ws (config : Config) (decoders : Json.WSDecoders) : Machine OrderEntryWS.Session OrderEntryWS.Event where
  step s event := OrderEntryWS.step config decoders s event
  signal _ event := event.clocks decoders
  pings time s := s.log.countP (isWsPing time)
  configured := 0

-- What becomes of a deadline apart from the timers.
def keeps (known : Nat) : Signal → Nat
  | .disconnected => 0
  | .timer _ _ | .announced _ | .other => known

section market
variable {config : GatewayConfig} {index : Nat}

def nextPingAt (index : Nat) (streams : List (MarketData Q)) : Nat := ((streams[index]?).map (·.nextPing)).getD 0

def marketDue (index : Nat) (g : Gateway Y Q S B E D R) : GatewayEvent B → Bool
  | .marketData i (.timer t _ refresh _) => i == index && (g.marketData[index]?).any fun stream =>
      refresh && MarketData.isReady stream && decide (stream.nextPing < t.originCreateTime)
  | _ => false

def marketDeadline (config : GatewayConfig) (index : Nat) :
    Machine.Deadline (market config index : Machine (Gateway Y Q S B E D R) (GatewayEvent B)) where
  deadline g := nextPingAt index g.marketData
  due := marketDue index
  wait interval := interval / 2
  slack := 1
  fine _ := False

omit [LimitQueue Q] in
theorem nextPingAt_set {streams : List (MarketData Q)} (present : streams[index]? = some stream) (later : MarketData Q) :
    nextPingAt index (streams.set index later) = later.nextPing := by
  have bound : index < streams.length := (List.getElem?_eq_some_iff.mp present).1
  rw [nextPingAt,List.getElem?_set_self bound]
  rfl

-- Nothing but its own timers and disconnects touches the deadline of a stream.
omit [Symbols Y] [Sequencer S B] in
theorem subscribeTopic_nextPing (topic : Topic) (symbols : List String) (c : Feed Y Q S B) :
    (MarketData.subscribeTopic topic symbols c).stream.nextPing = c.stream.nextPing := by
  induction symbols generalizing c with
  | nil => rfl
  | cons symbol rest ih => exact ih (MarketData.subscribeItem topic c symbol)

omit [Sequencer S B] in
theorem subscribe_nextPing (config : GatewayConfig) (startFrom : Nat) (c : Feed Y Q S B) :
    (MarketData.subscribe config startFrom c).stream.nextPing = c.stream.nextPing := by
  unfold MarketData.subscribe
  split
  · unfold MarketData.subscribeSymbols
    split
    · rfl
    · cases config.market.miscTopOfBookFromTicker <;> cases config.market.miscExperimentalEnableMbp <;>
        simp only [if_true,if_false,Bool.false_eq_true,subscribeTopic_nextPing]
  · rfl

omit [Sequencer S B] in
theorem subscribeStreams_nextPing (config : GatewayConfig) (startFrom : Nat) (streams : List (MarketData Q))
    (shared : Shared Y Q S B) (index : Nat) :
    nextPingAt index (Controller.subscribeStreams config startFrom streams shared).1 = nextPingAt index streams := by
  induction streams generalizing shared index with
  | nil => rfl
  | cons stream rest ih =>
      cases index with
      | zero => exact subscribe_nextPing config startFrom ⟨stream,shared⟩
      | succ index => exact ih (MarketData.subscribe config startFrom ⟨stream,shared⟩).shared index

omit [Symbols Y] [Sequencer S B] [Download2 E OrderEntryREST.State] [Download2 D DropCopy.State] [LimitRequest R] in
theorem createStreams_nextPing (count index : Nat) (g : Gateway Y Q S B E D R) :
    nextPingAt index (Controller.createStreams count g).marketData = nextPingAt index g.marketData := by
  induction count generalizing g with
  | zero => rfl
  | succ count ih =>
      refine (ih (Controller.createMarketData g)).trans ?_
      simp only [nextPingAt,Controller.createMarketData,List.getElem?_append]
      split
      · rfl
      · rename_i beyond
        rw [List.getElem?_eq_none (Nat.not_lt.mp beyond)]
        cases index - g.marketData.length with
        | zero => rfl
        | succ => rfl

omit [Sequencer S B] [Download2 E OrderEntryREST.State] [Download2 D DropCopy.State] [LimitRequest R] in
theorem onSymbolsUpdate_nextPing (symbols : List String) (g : Gateway Y Q S B E D R) :
    nextPingAt index (Controller.onSymbolsUpdate config symbols g).marketData = nextPingAt index g.marketData :=
  (subscribeStreams_nextPing config _ _ _ index).trans (createStreams_nextPing _ index _)

omit [Symbols Y] in
theorem onOBU_stream {c after : Feed Y Q S B} (ran : MarketData.onOBU config obu book c = some after) :
    after.stream = c.stream := by
  unfold MarketData.onOBU at ran
  split at ran
  · cases ran
  · cases ran
  · exact Option.some.inj ran ▸ rfl
  · obtain ⟨shared,_,rfl⟩ := Option.map_eq_some_iff.mp ran
    rfl

theorem market_keeps {c after : Feed Y Q S B} (ran : MarketData.step config c happened = some after)
    (untimed : happened.clocks.at? = none) : after.stream.nextPing = keeps c.stream.nextPing happened.clocks := by
  cases happened with
  | timer => cases untimed
  | welcome t =>
      obtain rfl := Option.some.inj ran
      exact subscribe_nextPing config 0 (MarketData.onConnectionStatus .ready {c with stream.welcome := true})
  | obu t obu book =>
      rw [onOBU_stream ran]
      rfl
  | connected | disconnected | ticker | trade | logged =>
      obtain rfl := Option.some.inj ran
      rfl
  | unexpected => cases ran

omit [Symbols Y] [Sequencer S B] in
theorem checkSubscribeQueue_pings (index time : Nat) (t : TraceInfo) (granted : Nat) (c : Feed Y Q S B) :
    (MarketData.checkSubscribeQueue t granted c).stream.nextPing = c.stream.nextPing ∧
      (MarketData.checkSubscribeQueue t granted c).shared.log.countP (isMarketPing index time) =
        c.shared.log.countP (isMarketPing index time) := by
  unfold MarketData.checkSubscribeQueue
  generalize LimitQueue.dispatch t granted c.stream.subscribeQueue = dispatched
  obtain ⟨messages,queue⟩ := dispatched
  refine List.foldlRecOn (motive := fun sent : Feed Y Q S B => sent.stream.nextPing = c.stream.nextPing ∧
    sent.shared.log.countP (isMarketPing index time) = c.shared.log.countP (isMarketPing index time)) messages _ ⟨rfl,rfl⟩ ?_
  intro sent earlier message _
  exact earlier

omit [Symbols Y] [Sequencer S B] in
theorem onTimer_market (config : GatewayConfig) (t : TraceInfo) (refresh : Bool) (granted : Nat) (c : Feed Y Q S B) :
    let due := refresh && MarketData.isReady c.stream && decide (c.stream.nextPing < t.originCreateTime)
    (MarketData.onTimer config t t.originCreateTime refresh granted c).shared.log.countP
        (isMarketPing c.stream.index t.originCreateTime) =
          c.shared.log.countP (isMarketPing c.stream.index t.originCreateTime) + (if due then 1 else 0) ∧
      (MarketData.onTimer config t t.originCreateTime refresh granted c).stream.nextPing =
        if due then t.originCreateTime + config.market.wsPingFreq / 2 else c.stream.nextPing := by
  unfold MarketData.onTimer
  cases refresh with
  | false =>
      simp only [Bool.false_eq_true,if_false,Bool.false_and,Nat.add_zero]
      split <;> exact ⟨rfl,rfl⟩
  | true =>
      cases MarketData.isReady c.stream with
      | false => exact ⟨rfl,rfl⟩
      | true =>
          simp only [if_true]
          obtain ⟨next,count⟩ := checkSubscribeQueue_pings c.stream.index t.originCreateTime t granted
            (if c.stream.nextPing < t.originCreateTime then MarketData.sendPing config t.originCreateTime c else c)
          rw [next,count]
          simp only [Bool.true_and,decide_eq_true_eq]
          split
          · exact ⟨List.countP_cons_of_pos (by simp [isMarketPing]),rfl⟩
          · exact ⟨rfl,rfl⟩

theorem timer_of_market {g : Gateway Y Q S B E D R} (signal : (market config index).signal g event = .timer time now) :
    ∃ stream t refresh granted, g.marketData[index]? = some stream ∧ t.originCreateTime = time ∧
      event = .marketData index (.timer t now refresh granted) := by
  cases present : g.marketData[index]? with
  | none =>
      simp only [market,present,Option.isSome_none,Bool.false_eq_true,if_false] at signal
      cases signal
  | some stream =>
      simp only [market,present,Option.isSome_some,if_true] at signal
      cases event with
      | symbolsUpdate | account => cases signal
      | marketData i happened =>
          simp only [marketClocks] at signal
          split at signal
          · rename_i own
            subst own
            cases happened with
            | timer t _ refresh granted =>
                cases signal
                exact ⟨stream,t,refresh,granted,rfl,rfl,rfl⟩
            | _ => cases signal
          · cases signal

theorem market_timed {g after : Gateway Y Q S B E D R} (indexed : MarketMoves.Indexed g.marketData)
    (signal : (market config index).signal g event = .timer time time) (ran : MarketSystem.step config g event = some after) :
    after.shared.log.countP (isMarketPing index time) = g.shared.log.countP (isMarketPing index time) +
        (if marketDue index g event then 1 else 0) ∧
      nextPingAt index after.marketData = if marketDue index g event then
        time + config.market.wsPingFreq / 2 else nextPingAt index g.marketData := by
  obtain ⟨stream,t,refresh,granted,present,rfl,rfl⟩ := timer_of_market signal
  rcases MarketSystem.step_marketData config ran with ⟨absent,_⟩ | ⟨_,c,known,stepped,rfl⟩
  · rw [present] at absent
    cases absent
  · cases present.symm.trans known
    obtain rfl := Option.some.inj stepped
    have timed := onTimer_market config t refresh granted ⟨stream,(MarketSystem.receive
      (.marketData index (.timer t t.originCreateTime refresh granted)) g).shared⟩
    simp only [indexed index stream present] at timed
    rw [nextPingAt_set present]
    simp only [marketDue,present,beq_self_eq_true,Bool.true_and,Option.any_some,nextPingAt,Option.map_some,Option.getD_some]
    exact timed

theorem market_untimed {g after : Gateway Y Q S B E D R} (untimed : ((market config index).signal g event).at? = none)
    (ran : MarketSystem.step config g event = some after) : nextPingAt index after.marketData =
      keeps (nextPingAt index g.marketData) ((market config index).signal g event) := by
  cases event with
  | symbolsUpdate symbols =>
      obtain rfl := Option.some.inj ran
      show _ = keeps _ (if (g.marketData[index]?).isSome then .other else .other : Signal)
      rw [ite_self]
      exact onSymbolsUpdate_nextPing symbols (MarketSystem.receive (.symbolsUpdate symbols) g)
  | account event granted book =>
      show _ = keeps _ (if (g.marketData[index]?).isSome then .other else .other : Signal)
      rw [ite_self]
      exact congrArg (nextPingAt index) (MarketMoves.onAccount_sequences ran).1
  | marketData i happened =>
      rcases MarketSystem.step_marketData config ran with ⟨absent,rfl⟩ | ⟨stream,c,present,stepped,rfl⟩
      · have other : (market config index).signal g (.marketData i happened) = .other := by
          by_cases own : i = index
          · subst own
            simp only [market,absent,Option.isSome_none,Bool.false_eq_true,if_false]
          · simp only [market,marketClocks,own,if_false,ite_self]
        rw [other]
        rfl
      · by_cases own : i = index
        · subst own
          rw [nextPingAt_set present]
          simp only [market,present,Option.isSome_some,if_true,marketClocks] at untimed
          simp only [market,nextPingAt,present,Option.isSome_some,if_true,marketClocks,Option.map_some,Option.getD_some]
          exact market_keeps stepped untimed
        · have other : (market config index).signal g (.marketData i happened) = .other := by
            simp only [market,marketClocks,own,if_false,ite_self]
          rw [other]
          simp only [nextPingAt,List.getElem?_set_ne own]
          rfl

theorem market_announces {g : Gateway Y Q S B E D R} : (market config index).signal g event ≠ .announced interval := by
  intro signal
  simp only [market] at signal
  split at signal
  · cases event with
    | symbolsUpdate | account => cases signal
    | marketData i happened =>
        simp only [marketClocks] at signal
        split at signal
        · cases happened <;> cases signal
        · cases signal
  · cases signal

theorem market_paces [LawfulLimitQueue Q] (config : GatewayConfig) (index streamId : Nat) :
    Machine.Keeps (marketDeadline config index) (fun s => MarketMoves.Indexed s.system.marketData)
      ⟨.fresh,(MarketSystem.initial config streamId : Gateway Y Q S B E D R)⟩ where
  valid_start i stream found := by cases found
  valid_step _ _ _ indexed ran := MarketMoves.step_indexed indexed (Machine.recorded_parts ran).2.1
  silent := rfl
  idle := rfl
  announces _ _ _ signal := market_announces signal
  sends _ _ _ _ indexed signal ran := (market_timed indexed signal ran).1
  moves s event after indexed admits permitted ran := by
    cases signal : (market config index).signal s.system event with
    | timer time now =>
        rw [signal,Record.permits,decide_eq_true_iff] at permitted
        obtain ⟨rfl,_⟩ := permitted
        rw [Machine.Deadline.next,Machine.interval,admits.unannounced]
        exact (market_timed indexed signal ran).2
    | disconnected | announced | other =>
        have untimed : ((market config index).signal s.system event).at? = none := by
          rw [signal]
          rfl
        have kept := market_untimed untimed ran
        rw [signal] at kept
        exact kept
  waits g event time timed due := by
    obtain ⟨now,signal⟩ := Signal.at?_timer timed
    obtain ⟨stream,t,refresh,granted,present,rfl,rfl⟩ := timer_of_market signal
    simp only [marketDeadline,marketDue,present,Option.any_some,Bool.and_eq_true,decide_eq_true_eq] at due
    simp only [marketDeadline,nextPingAt,present,Option.map_some,Option.getD_some]
    exact due.2.2

end market

section ws
variable {config : Config} {decoders : Json.WSDecoders}

def wsDue (s : OrderEntryWS.Session) : OrderEntryWS.Event → Bool
  | .timer t refresh => refresh && OrderEntryWS.isReady s && decide (s.stream.nextPing ≤ t.originCreateTime)
  | _ => false

def wsDeadline (config : Config) (decoders : Json.WSDecoders) : Machine.Deadline (ws config decoders) where
  deadline s := s.stream.nextPing
  due := wsDue
  wait interval := interval / 2
  slack := 0
  fine interval := 2 ∣ interval

-- The stream knows what was announced in the session.
def Told (s : Recorded OrderEntryWS.Session) : Prop := s.system.stream.pingFreq = s.record.announced.getD 0

theorem onTimer_pings (t : TraceInfo) (refresh : Bool) (s : OrderEntryWS.Session) :
    (OrderEntryWS.onTimer t refresh s).stream.pingFreq = s.stream.pingFreq ∧
      (OrderEntryWS.onTimer t refresh s).log.countP (isWsPing t.originCreateTime) =
        s.log.countP (isWsPing t.originCreateTime) + (if wsDue s (.timer t refresh) then 1 else 0) ∧
      (OrderEntryWS.onTimer t refresh s).stream.nextPing =
        (if wsDue s (.timer t refresh) then t.originCreateTime + s.stream.pingFreq / 2 else s.stream.nextPing) := by
  unfold OrderEntryWS.onTimer wsDue
  cases refresh with
  | false => exact ⟨rfl,rfl,rfl⟩
  | true =>
      cases OrderEntryWS.isReady s with
      | false =>
          simp only [if_true,Bool.false_eq_true,if_false,Bool.and_false,Bool.false_and,Nat.add_zero]
          unfold OrderEntryWS.checkLogonTimeout
          split <;> exact ⟨rfl,rfl,rfl⟩
      | true =>
          simp only [if_true,Bool.and_true,Bool.true_and,decide_eq_true_eq]
          unfold OrderEntryWS.sendPing
          split
          · rename_i early
            rw [if_neg (Nat.not_le.mpr early),if_neg (Nat.not_le.mpr early)]
            exact ⟨rfl,rfl,rfl⟩
          · rename_i due
            rw [if_pos (Nat.not_lt.mp due),if_pos (Nat.not_lt.mp due)]
            exact ⟨rfl,List.countP_cons_of_pos (by simp [isWsPing]),rfl⟩

def agrees (known : Nat) : Signal → Nat
  | .announced interval => interval
  | .disconnected => 0
  | .timer _ _ | .other => known

theorem parse_agrees {s after : OrderEntryWS.Session} (t : TraceInfo)
    (ran : OrderEntryWS.parse config decoders payload s = some after) :
    after.stream.pingFreq = agrees s.stream.pingFreq (OrderEntryWS.Event.clocks decoders (.text t payload)) ∧
      after.stream.nextPing = keeps s.stream.nextPing (OrderEntryWS.Event.clocks decoders (.text t payload)) := by
  obtain ⟨call,dispatched,handled⟩ := Option.bind_eq_some_iff.mp ran
  simp only [OrderEntryWS.Event.clocks,dispatched]
  cases call with
  | error known =>
      rw [LogonWatchdogs.onError_stream handled]
      exact ⟨rfl,rfl⟩
  | auth | welcome | pong | addOrderAck | cancelOrderAck =>
      obtain rfl := Option.some.inj handled
      exact ⟨rfl,rfl⟩

theorem ws_agrees {s after : OrderEntryWS.Session} (ran : OrderEntryWS.step config decoders s event = some after)
    (untimed : (event.clocks decoders).at? = none) :
    after.stream.pingFreq = agrees s.stream.pingFreq (event.clocks decoders) ∧
      after.stream.nextPing = keeps s.stream.nextPing (event.clocks decoders) := by
  cases event with
  | timer => cases untimed
  | text t payload => exact parse_agrees t ran
  | binary => cases ran
  | action action =>
      obtain rfl := Option.some.inj ran
      cases action <;> exact ⟨rfl,rfl⟩
  | connected | disconnected | logged =>
      obtain rfl := Option.some.inj ran
      exact ⟨rfl,rfl⟩

theorem timer_of_clocks {event : OrderEntryWS.Event} (signal : event.clocks decoders = .timer time now) :
    ∃ t refresh, event = .timer t refresh ∧ t.originCreateTime = time := by
  cases event with
  | timer t refresh =>
      cases signal
      exact ⟨t,refresh,rfl,rfl⟩
  | text t payload =>
      simp only [OrderEntryWS.Event.clocks] at signal
      split at signal <;> cases signal
  | connected | disconnected | logged | binary | action => cases signal

theorem clocks_fine {event : OrderEntryWS.Event} (signal : event.clocks decoders = .announced interval) : 2 ∣ interval := by
  cases event with
  | text t payload =>
      simp only [OrderEntryWS.Event.clocks] at signal
      split at signal
      · cases signal
        omega
      · cases signal
  | timer | connected | disconnected | logged | binary | action => cases signal

theorem ws_told {s after : Recorded OrderEntryWS.Session} (told : Told s)
    (ran : (ws config decoders).recorded s event = some after) : Told after := by
  obtain ⟨_,stepped,followed⟩ := Machine.recorded_parts ran
  have clocks : (ws config decoders).signal s.system event = event.clocks decoders := rfl
  rw [clocks] at followed
  cases signal : event.clocks decoders with
  | timer time now =>
      obtain ⟨t,refresh,rfl,_⟩ := timer_of_clocks signal
      have same : after.system = OrderEntryWS.onTimer t refresh s.system := (Option.some.inj stepped).symm
      rw [signal] at followed
      rw [Told,followed,same,(onTimer_pings t refresh s.system).1]
      exact told
  | disconnected | announced | other =>
      have agreed := (ws_agrees stepped (by rw [signal]; rfl)).1
      rw [signal] at agreed followed
      rw [Told,followed,agreed]
      first | rfl | exact told

theorem ws_paces (config : Config) (decoders : Json.WSDecoders) :
    Machine.Keeps (wsDeadline config decoders) Told ⟨.fresh,OrderEntryWS.initial⟩ where
  valid_start := rfl
  valid_step _ _ _ told ran := ws_told told ran
  silent := rfl
  idle := rfl
  announces s event interval signal := clocks_fine signal
  sends s event after time told signal ran := by
    obtain ⟨t,refresh,rfl,rfl⟩ := timer_of_clocks signal
    obtain rfl := Option.some.inj ran
    exact (onTimer_pings t refresh s.system).2.1
  moves s event after told _ permitted ran := by
    have clocks : (ws config decoders).signal s.system event = event.clocks decoders := rfl
    rw [clocks]
    cases signal : event.clocks decoders with
    | timer time now =>
        obtain ⟨t,refresh,rfl,rfl⟩ := timer_of_clocks signal
        obtain rfl := Option.some.inj ran
        have put := (onTimer_pings t refresh s.system).2.2
        rw [told] at put
        exact put
    | disconnected | announced | other =>
        have kept := (ws_agrees ran (by rw [signal]; rfl)).2
        rw [signal] at kept
        exact kept
  waits s event time timed due := by
    cases event with
    | timer t refresh =>
        cases timed
        simp only [wsDeadline,wsDue,Bool.and_eq_true,decide_eq_true_eq] at due
        exact due.2
    | connected | disconnected | text | logged | binary | action => cases due

end ws

section dropCopy
variable {config : Config} {wsPingFreq : Nanoseconds}

-- It is due where the stream is READY, and where this timer makes it so.
def timerPings (t : TraceInfo) (refresh : Bool) (c : Session D R) : Bool :=
  refresh && decide (c.stream.nextPing < t.originCreateTime) && DropCopy.readyNext c

def dropCopyDue (w : World E D R) : Event → Bool
  | .dropCopy (.timer t now refresh staleOrders) => w.dropCopy.any fun stream =>
      timerPings t refresh (AccountSystem.session stream (AccountSystem.receive (.dropCopy (.timer t now refresh staleOrders)) w))
  | _ => false

def dropCopyDeadline (config : Config) (wsPingFreq : Nanoseconds) :
    Machine.Deadline (dropCopy config wsPingFreq : Machine (World E D R) Event) where
  deadline w := (w.dropCopy.map (·.nextPing)).getD 0
  due := dropCopyDue
  wait _ := DropCopy.PING_FREQUENCY / 2
  slack := 1
  fine _ := False

theorem tails_agree {a b x y : String} (same : a ++ x = b ++ y) : x.toList <:+ y.toList ∨ y.toList <:+ x.toList := by
  have lists := congrArg String.toList same
  rw [String.toList_append,String.toList_append] at lists
  exact List.suffix_or_suffix_of_suffix ⟨a.toList,lists⟩ ⟨b.toList,rfl⟩

-- A subscription is no ping.
theorem isDropCopyPing_deaf (time : Nat) : DropCopy.Deaf (isDropCopyPing time) := by
  refine ⟨fun _ => rfl,fun _ => rfl,?_,?_⟩
  all_goals
    intro front
    rw [isDropCopyPing,beq_eq_false_iff_ne]
    intro same
    rcases tails_agree same with ends | ends
    · revert ends
      decide +kernel
    · revert ends
      decide +kernel

omit [Download2 D DropCopy.State] [LimitRequest R] in
theorem ping_pings (t : TraceInfo) (c : Session D R) :
    (DropCopy.ping t t.originCreateTime c).log.countP (isDropCopyPing t.originCreateTime) =
        c.log.countP (isDropCopyPing t.originCreateTime) + (if c.stream.nextPing < t.originCreateTime then 1 else 0) ∧
      (DropCopy.ping t t.originCreateTime c).stream.nextPing =
        if c.stream.nextPing < t.originCreateTime then t.originCreateTime + DropCopy.PING_FREQUENCY / 2 else c.stream.nextPing := by
  unfold DropCopy.ping
  split
  · exact ⟨List.countP_cons_of_pos (by simp [isDropCopyPing]),rfl⟩
  · exact ⟨rfl,rfl⟩

variable [LawfulDownload2 D] [LawfulLimitRequest R]

theorem onTimer_dropCopy {c after : Session D R} (t : TraceInfo) (refresh : Bool) (staleOrders : List Order)
    (ran : DropCopy.onTimer config t t.originCreateTime refresh staleOrders c = some after) :
    after.log.countP (isDropCopyPing t.originCreateTime) = c.log.countP (isDropCopyPing t.originCreateTime) +
        (if timerPings t refresh c then 1 else 0) ∧
      after.stream.nextPing = if timerPings t refresh c then
        t.originCreateTime + DropCopy.PING_FREQUENCY / 2 else c.stream.nextPing := by
  cases refresh with
  | false =>
      rw [LogonWatchdogs.refused_timer] at ran
      obtain rfl := Option.some.inj ran
      simp only [timerPings,Bool.false_and,Bool.false_eq_true,if_false,Nat.add_zero]
      split <;> exact ⟨rfl,rfl⟩
  | true =>
      obtain ⟨checked,queue,before,later⟩ :=
        DropCopy.onTimer_steady config (isDropCopyPing_deaf t.originCreateTime) t t.originCreateTime staleOrders ran
      obtain ⟨count,next⟩ := ping_pings t checked
      rw [before.nextPing,before.count] at count
      rw [before.nextPing] at next
      simp only [timerPings,← DropCopy.checkRequestQueue_ready config t staleOrders queue,Bool.true_and]
      cases ready : DropCopy.isReady checked with
      | false =>
          simp only [ready,Bool.false_eq_true,if_false] at later
          simp only [Bool.and_false,Bool.false_eq_true,if_false,Nat.add_zero]
          exact ⟨later.count.trans before.count,later.nextPing.trans before.nextPing⟩
      | true =>
          simp only [ready,if_true] at later
          simp only [Bool.and_true,decide_eq_true_eq]
          exact ⟨later.count.trans count,later.nextPing.trans next⟩

omit [LawfulLimitRequest R] in
theorem dropCopy_keeps {c after : Session D R} (ran : DropCopy.step config c happened = some after)
    (untimed : happened.clocks.at? = none) : after.stream.nextPing = keeps c.stream.nextPing happened.clocks := by
  have deaf := isDropCopyPing_deaf 0
  cases happened with
  | timer => cases untimed
  | connected | disconnected | logged =>
      obtain rfl := Option.some.inj ran
      rfl
  | welcome t =>
      obtain rfl := Option.some.inj ran
      exact (DropCopy.begin_steady config deaf t {c with stream.welcome := true}).nextPing
  | error t message =>
      obtain rfl := Option.some.inj ran
      show (DropCopy.onError t message c).stream.nextPing = c.stream.nextPing
      unfold DropCopy.onError
      split
      · exact (DropCopy.requestPrivateToken_steady deaf t c).nextPing
      · rfl
  | ack t message =>
      obtain rfl := Option.some.inj ran
      show (DropCopy.onAck config t message c).stream.nextPing = c.stream.nextPing
      unfold DropCopy.onAck
      split
      · exact (DropCopy.check_steady config deaf t _ c).nextPing
      · rfl
  | unexpected => cases ran

omit [LawfulDownload2 D] [LawfulLimitRequest R] in
theorem timer_of_dropCopy {w : World E D R} (signal : (dropCopy config wsPingFreq).signal w event = .timer time now) :
    ∃ stream t refresh staleOrders, w.dropCopy = some stream ∧ t.originCreateTime = time ∧
      event = .dropCopy (.timer t now refresh staleOrders) := by
  cases present : w.dropCopy with
  | none =>
      simp only [dropCopy,present,Option.isSome_none,Bool.false_eq_true,if_false] at signal
      cases signal
  | some stream =>
      simp only [dropCopy,present,Option.isSome_some,if_true] at signal
      cases event with
      | rest => cases signal
      | dropCopy happened =>
          cases happened with
          | timer t _ refresh staleOrders =>
              cases signal
              exact ⟨stream,t,refresh,staleOrders,rfl,rfl,rfl⟩
          | _ => cases signal

theorem dropCopy_timed {w after : World E D R} (signal : (dropCopy config wsPingFreq).signal w event = .timer time time)
    (ran : AccountSystem.step config w event = some after) :
    after.log.countP (isDropCopyPing time) = w.log.countP (isDropCopyPing time) +
        (if dropCopyDue w event then 1 else 0) ∧
      (after.dropCopy.map (·.nextPing)).getD 0 = if dropCopyDue w event then
        time + DropCopy.PING_FREQUENCY / 2 else (w.dropCopy.map (·.nextPing)).getD 0 := by
  obtain ⟨stream,t,refresh,staleOrders,present,rfl,rfl⟩ := timer_of_dropCopy signal
  rcases AccountSystem.step_dropCopy config ran with ⟨absent,_⟩ | ⟨_,c,known,stepped,rfl⟩
  · rw [present] at absent
    cases absent
  · cases present.symm.trans known
    simp only [dropCopyDue,present,Option.any_some,Option.map_some,Option.getD_some]
    exact onTimer_dropCopy t refresh staleOrders stepped

theorem dropCopy_untimed [LawfulDownload2 E] {w after : World E D R}
    (untimed : ((dropCopy config wsPingFreq).signal w event).at? = none) (ran : AccountSystem.step config w event = some after) :
    (after.dropCopy.map (·.nextPing)).getD 0 =
      keeps ((w.dropCopy.map (·.nextPing)).getD 0) ((dropCopy config wsPingFreq).signal w event) := by
  cases event with
  | rest happened =>
      have renewed := AccountSystem.rest_renewed ran
      show _ = keeps _ (if w.dropCopy.isSome then .other else .other : Signal)
      rw [ite_self]
      revert renewed
      generalize w.dropCopy = earlier
      generalize after.dropCopy = later
      intro renewed
      cases renewed <;> rfl
  | dropCopy happened =>
      rcases AccountSystem.step_dropCopy config ran with ⟨absent,rfl⟩ | ⟨stream,c,present,stepped,rfl⟩
      · simp only [dropCopy,AccountSystem.receive,absent]
        rfl
      · simp only [dropCopy,present,Option.isSome_some,if_true,dropCopyClocks] at untimed
        simp only [dropCopy,present,Option.isSome_some,if_true,dropCopyClocks]
        exact dropCopy_keeps stepped untimed

omit [LawfulDownload2 D] [LawfulLimitRequest R] in
theorem dropCopy_announces {w : World E D R} : (dropCopy config wsPingFreq).signal w event ≠ .announced interval := by
  intro signal
  simp only [dropCopy] at signal
  split at signal
  · cases event with
    | rest => cases signal
    | dropCopy happened => cases happened <;> cases signal
  · cases signal

theorem dropCopy_paces [LawfulDownload2 E] (config : Config) (wsPingFreq : Nanoseconds) :
    Machine.Keeps (dropCopyDeadline config wsPingFreq) (fun _ => True) ⟨.fresh,(AccountSystem.initial : World E D R)⟩ where
  valid_start := trivial
  valid_step _ _ _ _ _ := trivial
  silent := rfl
  idle := rfl
  announces _ _ _ signal := dropCopy_announces signal
  sends _ _ _ _ _ signal ran := (dropCopy_timed signal ran).1
  moves s event after _ _ permitted ran := by
    cases signal : (dropCopy config wsPingFreq).signal s.system event with
    | timer time now =>
        rw [signal,Record.permits,decide_eq_true_iff] at permitted
        obtain ⟨rfl,_⟩ := permitted
        exact (dropCopy_timed signal ran).2
    | disconnected | announced | other =>
        have untimed : ((dropCopy config wsPingFreq).signal s.system event).at? = none := by
          rw [signal]
          rfl
        have kept := dropCopy_untimed untimed ran
        rw [signal] at kept
        exact kept
  waits w event time timed due := by
    obtain ⟨now,signal⟩ := Signal.at?_timer timed
    obtain ⟨stream,t,refresh,staleOrders,present,rfl,rfl⟩ := timer_of_dropCopy signal
    simp only [dropCopyDeadline,dropCopyDue,timerPings,present,Option.any_some,Bool.and_eq_true,decide_eq_true_eq] at due
    simp only [dropCopyDeadline,present,Option.map_some,Option.getD_some]
    exact due.1.2

end dropCopy

-- PING_FREQUENCY counts nanoseconds: the drop copy waits for 150 of them, whatever
-- the settings. The other two wait for half of their interval.
theorem pings_are_paced_exactly [LawfulLimitQueue Q] [LawfulSymbols Y] [LawfulDownload2 E] [LawfulDownload2 D] [LawfulLimitRequest R]
    (config : GatewayConfig) (decoders : Json.WSDecoders) :
    (∀ (index streamId : Nat) (inputs : List (GatewayEvent B)),
      EveryStep (market config index).recorded ⟨.fresh,(MarketSystem.initial config streamId : Gateway Y Q S B E D R)⟩ inputs
        (market config index).Paced) ∧
    (∀ inputs : List OrderEntryWS.Event,
      EveryStep (ws config.account decoders).recorded ⟨.fresh,OrderEntryWS.initial⟩ inputs (ws config.account decoders).Paced) ∧
    (∀ inputs : List Event,
      EveryStep (dropCopy config.account config.market.wsPingFreq).recorded ⟨.fresh,(AccountSystem.initial : World E D R)⟩ inputs
          (dropCopy config.account config.market.wsPingFreq).Paced ↔
        EveryStep (dropCopy config.account config.market.wsPingFreq).recorded ⟨.fresh,(AccountSystem.initial : World E D R)⟩ inputs
          (fun s input _ => (dropCopyDeadline config.account config.market.wsPingFreq).hurried s input = false)) ∧
    (config.market.wsPingFreq ≤ 302 → ∀ inputs : List Event,
      EveryStep (dropCopy config.account config.market.wsPingFreq).recorded ⟨.fresh,(AccountSystem.initial : World E D R)⟩ inputs
        (dropCopy config.account config.market.wsPingFreq).Paced) := by
  refine ⟨?_,?_,?_,?_⟩
  · intro index streamId inputs
    refine (market_paces config index streamId).every_paced ?_ inputs
    intro announced _
    simp only [marketDeadline]
    omega
  · intro inputs
    refine (ws_paces config.account decoders).every_paced ?_ inputs
    intro announced even
    have whole : 2 ∣ (ws config.account decoders).interval announced := by
      cases announced with
      | none => exact Nat.dvd_zero 2
      | some interval => exact even interval rfl
    simp only [wsDeadline]
    omega
  · intro inputs
    exact (dropCopy_paces config.account config.market.wsPingFreq).paced_exactly nofun (fun _ => id) inputs
  · intro short inputs
    refine (dropCopy_paces config.account config.market.wsPingFreq).every_paced ?_ inputs
    intro announced unannounced
    cases announced with
    | none => exact short
    | some interval => exact (unannounced interval rfl).elim

section closed
open Smallest

-- The download, with its clocks at 0, up to READY.
def dropCopyReady : List Event := toStaleOrders [] ++ [ack "SUBSCRIBE_TRADES"]

def dropCopyTimer (time : Nat) : Event := .dropCopy (.timer ⟨time,time⟩ time true [])
def marketTimer (time : Nat) : GatewayEvent Unit := .marketData 0 (.timer ⟨time,time⟩ time true 0)
def wsTimer (time : Nat) : OrderEntryWS.Event := .timer ⟨time,time⟩ true

theorem pings_are_paced :
    EveryStep (PingPacing.market (Smallest.market 3) 0).recorded ⟨.fresh,(MarketSystem.initial (Smallest.market 3) 3 : SmallGateway)⟩
      [.symbolsUpdate ["A"],connect 0,greet 0,marketTimer 1000000000,marketTimer 3000000000,marketTimer 4000000000]
      (PingPacing.market (Smallest.market 3) 0).Paced ∧
    EveryStep (ws (setup true) LogonWatchdogs.decoders).recorded ⟨.fresh,OrderEntryWS.initial⟩
      [.connected t,.text t "welcome",wsTimer 1000000000,wsTimer 9999999999,wsTimer 10000000000]
      (ws (setup true) LogonWatchdogs.decoders).Paced ∧
    EveryStep (dropCopy (setup true) 5000000000).recorded ⟨.fresh,(AccountSystem.initial : Small)⟩
      (dropCopyReady ++ [dropCopyTimer 1000000000,dropCopyTimer 3500000000]) (dropCopy (setup true) 5000000000).Paced := by
  obtain ⟨markets,orders,copies,_⟩ := @pings_are_paced_exactly SlicedSymbols Replica Unit (Stepper OrderEntryREST.State)
    (Stepper DropCopy.State) Slot List _ _ _ _ _ _ _ _ _ _ _ (Smallest.market 3) LogonWatchdogs.decoders
  refine ⟨markets 0 3 _,orders _,(copies _).mpr ?_⟩
  exact everyStep_never (dropCopyDeadline (setup true) 5000000000).hurried (by decide +kernel)

-- One nanosecond more than twice the wait and what is past it: the second ping comes
-- too soon, and the run is the same one for every longer interval.
theorem longer_intervals_fail {wsPingFreq : Nat} (long : 302 < wsPingFreq) :
    ¬ ∀ inputs, EveryStep (dropCopy (setup true) wsPingFreq).recorded ⟨.fresh,(AccountSystem.initial : Small)⟩ inputs
      (dropCopy (setup true) wsPingFreq).Paced := by
  intro all
  obtain ⟨before,after,executed,stepped,hurried⟩ := met_at_last ⟨.fresh,(AccountSystem.initial : Small)⟩
    (dropCopy (setup true) 303).recorded (dropCopyDeadline (setup true) 303).hurried
    (dropCopyReady ++ [dropCopyTimer 1000]) (dropCopyTimer 1151) (by decide +kernel)
  have paces : Machine.Keeps (dropCopyDeadline (setup true) wsPingFreq) (fun _ => True)
      ⟨.fresh,(AccountSystem.initial : Small)⟩ := dropCopy_paces (setup true) wsPingFreq
  have ran : execute (dropCopy (setup true) wsPingFreq).recorded ⟨.fresh,(AccountSystem.initial : Small)⟩
      (dropCopyReady ++ [dropCopyTimer 1000]) = some before := executed
  have sound := paces.run (execute_reached ran)
  have unhurried := (paces.paced_hurried nofun (fun _ => id) sound stepped).mp ((all _).last ran stepped)
  obtain ⟨time,timed,due,set,soon⟩ := Machine.hurried_iff.mp hurried
  have still : (dropCopyDeadline (setup true) wsPingFreq).hurried before (dropCopyTimer 1151) = true := by
    refine Machine.hurried_iff.mpr ⟨time,timed,due,set,?_⟩
    change 2 * (time + 150) < 2 * (dropCopyDeadline (setup true) 303).deadline before.system + wsPingFreq
    change 2 * (time + 150) < 2 * (dropCopyDeadline (setup true) 303).deadline before.system + 303 at soon
    omega
  rw [still] at unhurried
  cases unhurried

-- As with the interval the settings have by default.
theorem drop_copy_pings_too_often :
    ¬ ∀ inputs, EveryStep (dropCopy (setup true) 5000000000).recorded ⟨.fresh,(AccountSystem.initial : Small)⟩ inputs
      (dropCopy (setup true) 5000000000).Paced := longer_intervals_fail (by decide)

end closed

end PingPacing
end KucoinPro
