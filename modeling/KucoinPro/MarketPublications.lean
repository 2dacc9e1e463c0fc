import KucoinPro.ControllerMoves

namespace KucoinPro.MarketPublications
open GuardedRuns ControllerSystem

section watching
variable {Y S B : Type} {Q : Type → Type} {config : GatewayConfig} {α : Type} {watch : MarketEntry B → Option α}

-- Oldest first, what an observer sees of the log who has an eye for some of its entries.
def watched (watch : MarketEntry B → Option α) (log : List (MarketEntry B)) : List α := (log.filterMap watch).reverse

-- One who has none for what the streams do besides market data.
structure Blind (watch : MarketEntry B → Option α) : Prop where
  event : ∀ event, watch (.event event) = none
  start : ∀ index, watch (.effect (.start index)) = none
  queued : ∀ index subscription, watch (.effect (.queued index subscription)) = none
  sendText : ∀ index message, watch (.effect (.sendText index message)) = none
  close : ∀ index, watch (.effect (.close index)) = none
  streamStatus : ∀ status, watch (.effect (.streamStatus status)) = none

theorem watched_other (other : watch entry = none) (log : List (MarketEntry B)) : watched watch (entry :: log) = watched watch log := by
  rw [watched,List.filterMap_cons_none other,watched]

theorem watched_some (known : watch entry = some seen) (log : List (MarketEntry B)) :
    watched watch (entry :: log) = watched watch log ++ [seen] := by
  rw [watched,List.filterMap_cons_some known,List.reverse_cons,watched]

theorem foldl_watched {step : Feed Y Q S B → β → Feed Y Q S B} (xs : List β) (c : Feed Y Q S B)
    (each : ∀ c x, watched watch (step c x).shared.log = watched watch c.shared.log) :
    watched watch (xs.foldl step c).shared.log = watched watch c.shared.log := by
  induction xs generalizing c with
  | nil => rfl
  | cons x rest ih => exact (ih (step c x)).trans (each c x)

variable [LimitQueue Q]

theorem subscribeTopic_watched (blind : Blind watch) (topic : Topic) (symbols : List String) (c : Feed Y Q S B) :
    watched watch (MarketData.subscribeTopic topic symbols c).shared.log = watched watch c.shared.log :=
  foldl_watched symbols c fun _ _ => watched_other (blind.queued _ _) _

theorem subscribe_watched [Symbols Y] (blind : Blind watch) (startFrom : Nat) (c : Feed Y Q S B) :
    watched watch (MarketData.subscribe config startFrom c).shared.log = watched watch c.shared.log := by
  unfold MarketData.subscribe MarketData.subscribeSymbols
  split
  · split
    · rfl
    · have books : ∀ topic symbols (c : Feed Y Q S B),
          watched watch (MarketData.subscribeTopic topic symbols c).shared.log = watched watch c.shared.log :=
        subscribeTopic_watched blind
      dsimp only
      split
      · split
        · rw [books,books,books]
        · rw [books,books,books]
      · split
        · rw [books,books]
        · rw [books,books]
  · rfl

theorem checkSubscribeQueue_watched (blind : Blind watch) (t : TraceInfo) (granted : Nat) (c : Feed Y Q S B) :
    watched watch (MarketData.checkSubscribeQueue t granted c).shared.log = watched watch c.shared.log :=
  foldl_watched _ _ fun _ _ => watched_other (blind.sendText _ _) _

theorem onTimer_watched (blind : Blind watch) (t : TraceInfo) (now : Nanoseconds) (refresh : Bool) (granted : Nat) (c : Feed Y Q S B) :
    watched watch (MarketData.onTimer config t now refresh granted c).shared.log = watched watch c.shared.log := by
  unfold MarketData.onTimer
  split
  · split
    · dsimp only
      split
      · have pinged : watched watch (MarketData.sendPing config now c).shared.log = watched watch c.shared.log :=
          watched_other (blind.sendText _ _) _
        rw [checkSubscribeQueue_watched blind,pinged]
      · rw [checkSubscribeQueue_watched blind]
    · rfl
  · split
    · exact watched_other (blind.close _) _
    · rfl

theorem onWelcome_watched [Symbols Y] (blind : Blind watch) (c : Feed Y Q S B) :
    watched watch (MarketData.onWelcome config c).shared.log = watched watch c.shared.log := by
  have published : watched watch (MarketData.onConnectionStatus .ready {c with stream.welcome := true}).shared.log =
      watched watch c.shared.log := watched_other (blind.streamStatus _) _
  rw [MarketData.onWelcome,subscribe_watched blind,published]

theorem subscribeStreams_watched [Symbols Y]
    (blind : Blind watch) (startFrom : Nat) (streams : List (MarketData Q)) (shared : Shared Y Q S B) :
    watched watch (Controller.subscribeStreams config startFrom streams shared).2.log = watched watch shared.log := by
  induction streams generalizing shared with
  | nil => rfl
  | cons stream rest ih =>
      have one : watched watch (MarketData.subscribe config startFrom ⟨stream,shared⟩).shared.log = watched watch shared.log :=
        subscribe_watched blind startFrom _
      exact (ih _).trans one

-- What one call of a sequencer leaves in the log, oldest first.

def callEffect (symbol : String) (publish : SequencerCall → Option MarketByPriceUpdate) : SequencerCall → Option (MarketEffect B)
  | .requestSnapshot _ => some (.requested symbol)
  | .publishUpdate bids asks => (publish (.publishUpdate bids asks)).map .marketByPriceUpdate
  | .publishSnapshot bids asks sequence lastSequence =>
      (publish (.publishSnapshot bids asks sequence lastSequence)).map .marketByPriceUpdate

def sequenceEffects (symbol : String) (operation : Operation B) (publish : SequencerCall → Option MarketByPriceUpdate)
    (sequenced : Sequenced S) : List (MarketEffect B) :=
  .operated symbol operation :: (sequenced.calls.filterMap (callEffect symbol publish) ++
    if sequenced.badState then [.cleared symbol,.requested symbol] else [])

def seenOf (watch : MarketEntry B → Option α) (effects : List (MarketEffect B)) : List α :=
  effects.filterMap fun effect => watch (.effect effect)

theorem seenOf_append (watch : MarketEntry B → Option α) (one two : List (MarketEffect B)) :
    seenOf watch (one ++ two) = seenOf watch one ++ seenOf watch two := List.filterMap_append

theorem seenOf_cons (watch : MarketEntry B → Option α) (e : MarketEffect B) (rest : List (MarketEffect B)) :
    seenOf watch (e :: rest) = (watch (.effect e)).toList ++ seenOf watch rest := by
  cases known : watch (.effect e) with
  | none => simp [seenOf,known]
  | some seen => simp [seenOf,known]

theorem watched_effect (watch : MarketEntry B → Option α) (e : MarketEffect B) (log : List (MarketEntry B)) :
    watched watch (.effect e :: log) = watched watch log ++ seenOf watch [e] := by
  rw [seenOf_cons]
  cases known : watch (.effect e) with
  | none => rw [watched_other known]; exact (List.append_nil _).symm
  | some seen => exact watched_some known log

theorem callback_watched {shared after : Shared Y Q S B} {call : SequencerCall}
    (ran : Shared.callback config symbol publish shared call = some after) : after.mbpSequencer = shared.mbpSequencer ∧
      watched watch after.log = watched watch shared.log ++ seenOf watch (callEffect symbol publish call).toList := by
  cases call with
  | requestSnapshot retries =>
      simp only [Shared.callback] at ran
      split at ran
      · cases ran
      · exact Option.some.inj ran ▸ ⟨rfl,watched_effect watch _ _⟩
  | publishUpdate | publishSnapshot =>
      simp only [Shared.callback] at ran
      split at ran
      · rename_i nothing
        rw [callEffect,nothing]
        exact Option.some.inj ran ▸ ⟨rfl,(List.append_nil _).symm⟩
      · rename_i made
        rw [callEffect,made]
        exact Option.some.inj ran ▸ ⟨rfl,watched_effect watch _ _⟩

theorem callbacks_watched (calls : List SequencerCall) {shared after : Shared Y Q S B}
    (ran : calls.foldlM (Shared.callback config symbol publish) shared = some after) : after.mbpSequencer = shared.mbpSequencer ∧
      watched watch after.log = watched watch shared.log ++ seenOf watch (calls.filterMap (callEffect symbol publish)) := by
  induction calls generalizing shared with
  | nil =>
      obtain rfl := Option.some.inj ran
      exact ⟨rfl,(List.append_nil _).symm⟩
  | cons call rest ih =>
      rw [List.foldlM_cons] at ran
      obtain ⟨middle,first,others⟩ := Option.bind_eq_some_iff.mp ran
      obtain ⟨firstSequencers,firstSeen⟩ := callback_watched first
      obtain ⟨sequencers,seen⟩ := ih others
      refine ⟨sequencers.trans firstSequencers,?_⟩
      rw [seen,firstSeen,List.append_assoc,← seenOf_append]
      congr 2
      cases known : callEffect symbol publish call with
      | none => rw [List.filterMap_cons_none known]; rfl
      | some e => rw [List.filterMap_cons_some known]; rfl

-- One call of the sequencer of a symbol.
structure Sequences [Sequencer S B] (watch : MarketEntry B → Option α) (symbol : String) (operation : Operation B)
    (publish : SequencerCall → Option MarketByPriceUpdate) (before after : Shared Y Q S B) : Prop where
  entry : after.mbpSequencer.lookup symbol =
    let sequenced := Sequencer.operate operation ((before.mbpSequencer.lookup symbol).getD Sequencer.create)
    some (if sequenced.badState then Sequencer.clear sequenced.sequencer else sequenced.sequencer)
  others : ∀ other, other ≠ symbol → after.mbpSequencer.lookup other = before.mbpSequencer.lookup other
  seen : watched watch after.log = watched watch before.log ++ seenOf watch (sequenceEffects symbol operation publish
    (Sequencer.operate operation ((before.mbpSequencer.lookup symbol).getD Sequencer.create)))

theorem sequence_sequences [Sequencer S B] {shared after : Shared Y Q S B}
    (ran : shared.sequence config symbol operation publish = some after) :
    Sequences watch symbol operation publish shared after := by
  unfold Shared.sequence at ran
  generalize same : Sequencer.operate operation ((shared.mbpSequencer.lookup symbol).getD Sequencer.create) = sequenced at ran
  obtain ⟨called,callbacks,rfl⟩ := Option.map_eq_some_iff.mp ran
  obtain ⟨sequencers,seen⟩ := callbacks_watched _ callbacks
  have operated : watched watch ((shared.setSequencer symbol sequenced.sequencer).emit (.operated symbol operation)).log =
      watched watch shared.log ++ seenOf watch [.operated symbol operation] := watched_effect watch _ _
  rw [operated,List.append_assoc,← seenOf_append] at seen
  cases bad : sequenced.badState with
  | false =>
      simp only [Bool.false_eq_true,if_false]
      refine ⟨?_,?_,?_⟩
      · rw [sequencers]
        simp only [same,bad,Bool.false_eq_true,if_false]
        exact AList.lookup_insert _
      · intro other differs
        rw [sequencers]
        exact AList.lookup_insert_ne differs
      · rw [seen,same,sequenceEffects,bad]
        simp
  | true =>
      simp only [if_true]
      refine ⟨?_,?_,?_⟩
      · simp only [same,bad,if_true]
        exact AList.lookup_insert _
      · intro other differs
        have cleared : (called.mbpSequencer.insert symbol (Sequencer.clear sequenced.sequencer)).lookup other =
            called.mbpSequencer.lookup other := AList.lookup_insert_ne differs
        refine cleared.trans ?_
        rw [sequencers]
        exact AList.lookup_insert_ne differs
      · have reset : watched watch (Shared.requestDepth symbol
            ((called.setSequencer symbol (Sequencer.clear sequenced.sequencer)).emit (.cleared symbol))).log =
            watched watch called.log ++ seenOf watch [.cleared symbol] ++ seenOf watch [.requested symbol] := by
          rw [← watched_effect watch]
          exact watched_effect watch _ _
        rw [reset,seen,same,sequenceEffects,bad,List.append_assoc,List.append_assoc,← seenOf_append,← seenOf_append]
        simp

-- What the streams pass on as it is: the best prices and the trades.

inductive Tick where
  | top (topOfBook : TopOfBook)
  | trade (tradeSummary : TradeSummary)

def tick : MarketEntry B → Option Tick
  | .effect (.topOfBook topOfBook) => some (.top topOfBook)
  | .effect (.tradeSummary tradeSummary) => some (.trade tradeSummary)
  | _ => none

theorem tick_blind : Blind (tick : MarketEntry B → Option Tick) :=
  ⟨fun _ => rfl,fun _ => rfl,fun _ _ => rfl,fun _ _ => rfl,fun _ => rfl,fun _ => rfl⟩

-- The best level of a side, or NaN where the side is empty.
def best (items : List Json.OBUDataItem) : Float × Float :=
  match items with
  | [] => (nan,nan)
  | item :: _ => (item.price,item.quantity)

def quote (config : GatewayConfig) (streamId : Nat) (symbol : String) (bid ask : Float × Float) (exchangeTimeUtc : Int)
    (exchangeSequence : Nat) (sendingTimeUtc : Int) : TopOfBook where
  streamId := streamId
  exchange := config.account.settings.exchange
  symbol := symbol
  bidPrice := bid.1
  bidQuantity := bid.2
  askPrice := ask.1
  askQuantity := ask.2
  updateType := .snapshot
  exchangeTimeUtc := exchangeTimeUtc
  exchangeSequence := exchangeSequence
  sendingTimeUtc := sendingTimeUtc

def traded (config : GatewayConfig) (streamId : Nat) (trade : Json.Trade) : TradeSummary where
  streamId := streamId
  exchange := config.account.settings.exchange
  symbol := trade.data.symbol
  side := trade.data.side.map
  price := trade.data.price
  quantity := trade.data.quantity
  tradeId := trade.data.tradeId
  exchangeTimeUtc := trade.data.timestamp
  exchangeSequence := trade.data.sequenceNumber
  sendingTimeUtc := trade.pushTime

def ticksOf (config : GatewayConfig) (streamId : Nat) : MarketDataEvent B → List Tick
  | .ticker _ ⟨pushTime,data⟩ => [.top (quote config streamId data.symbol (data.bestBidPrice,data.bestBidSize)
      (data.bestAskPrice,data.bestAskSize) data.timestamp data.sequenceNumber pushTime)]
  | .trade _ trade => [.trade (traded config streamId trade)]
  | .obu _ ⟨pushTime,.one,data⟩ _ => [.top (quote config streamId data.symbol (best data.bids) (best data.asks) data.timestamp
      data.endSequence pushTime)]
  | _ => []

theorem best_eq (items : List Json.OBUDataItem) : (MarketData.getPrice items,MarketData.getQuantity items) = best items := by
  cases items <;> rfl

-- What a sequencer does is no tick.
theorem sequenceEffects_tick (symbol : String) (operation : Operation B) (publish : SequencerCall → Option MarketByPriceUpdate)
    (sequenced : Sequenced S) : seenOf tick (sequenceEffects symbol operation publish sequenced) = [] := by
  have calls : ∀ e ∈ sequenced.calls.filterMap (callEffect symbol publish : _ → Option (MarketEffect B)), tick (.effect e) = none := by
    intro e member
    obtain ⟨call,_,made⟩ := List.mem_filterMap.mp member
    cases call with
    | requestSnapshot => exact Option.some.inj made ▸ rfl
    | publishUpdate | publishSnapshot =>
        obtain ⟨update,_,rfl⟩ := Option.map_eq_some_iff.mp made
        rfl
  unfold sequenceEffects
  rw [seenOf_cons,seenOf_append]
  have none : seenOf tick (sequenced.calls.filterMap (callEffect symbol publish : _ → Option (MarketEffect B))) = [] :=
    List.filterMap_eq_nil_iff.mpr calls
  rw [none]
  split <;> rfl

variable [Symbols Y] [Sequencer S B]

theorem step_ticks {c after : Feed Y Q S B} {event : MarketDataEvent B} (ran : MarketData.step config c event = some after) :
    watched tick after.shared.log = watched tick c.shared.log ++ ticksOf config c.stream.streamId event := by
  cases event with
  | timer t now refresh granted =>
      obtain rfl := Option.some.inj ran
      exact (onTimer_watched tick_blind t now refresh granted c).trans (List.append_nil _).symm
  | connected t =>
      obtain rfl := Option.some.inj ran
      exact (List.append_nil _).symm
  | disconnected t =>
      obtain rfl := Option.some.inj ran
      exact (List.append_nil _).symm
  | welcome t =>
      obtain rfl := Option.some.inj ran
      exact (onWelcome_watched tick_blind c).trans (List.append_nil _).symm
  | ticker t ticker =>
      obtain rfl := Option.some.inj ran
      exact watched_effect tick _ _
  | trade t trade =>
      obtain rfl := Option.some.inj ran
      exact watched_effect tick _ _
  | obu t obu book =>
      obtain ⟨pushTime,depth,data⟩ := obu
      have running : MarketData.onOBU config ⟨pushTime,depth,data⟩ book c = some after := ran
      cases depth with
      | undefinedInternal | unknownInternal => cases running
      | one =>
          obtain rfl := Option.some.inj running
          simp only [ticksOf,← best_eq]
          exact watched_effect tick _ _
      | increment =>
          obtain ⟨shared,sequenced,rfl⟩ := Option.map_eq_some_iff.mp running
          have sequences := (sequence_sequences sequenced : Sequences tick _ _ _ _ shared)
          rw [sequences.seen,sequenceEffects_tick]
          rfl
  | logged =>
      obtain rfl := Option.some.inj ran
      exact (List.append_nil _).symm
  | unexpected => cases ran

end watching

section controller
variable {Y S B E D R : Type} {Q : Type → Type} {config : ControllerConfig} {α : Type} {watch : MarketEntry B → Option α}

theorem createStreams_watched [LimitQueue Q] (blind : Blind watch) (count : Nat) (c : Controller Y Q S B E D R) :
    watched watch (createStreams count c).shared.log = watched watch c.shared.log := by
  induction count generalizing c with
  | zero => rfl
  | succ count ih =>
      have one : watched watch (createMarketData c).shared.log = watched watch c.shared.log := watched_other (blind.start _) _
      exact (ih _).trans one

theorem onSymbolsUpdate_watched [Symbols Y] [LimitQueue Q]
    (blind : Blind watch) (symbols : List String) (c : Controller Y Q S B E D R) :
    watched watch (onSymbolsUpdate config symbols c).shared.log = watched watch c.shared.log := by
  have created := createStreams_watched blind ((Symbols.update symbols c.shared.symbols).1.1 - c.marketData.length)
    {c with shared.symbols := (Symbols.update symbols c.shared.symbols).2}
  exact (subscribeStreams_watched blind _ _ _).trans created

theorem adopt_shared (index : Nat) (a : AccountStreams E D R) (world : World E D R) (c : Controller Y Q S B E D R) :
    (adopt index a world c).shared = c.shared ∧ (adopt index a world c).marketData = c.marketData := by
  unfold adopt
  split
  · exact ⟨rfl,rfl⟩
  · exact ⟨rfl,rfl⟩

-- What one visit of a stream, and one event, comes to.

def ticked (config : ControllerConfig) (c : Controller Y Q S B E D R) : StreamEvent B → List Tick
  | .marketData index event => (c.marketData[index]?).toList.flatMap fun stream => ticksOf config.feed stream.streamId event
  | .account _ _ | .orderEntryWs _ _ => []

def ticksIn (config : ControllerConfig) (c : Controller Y Q S B E D R) : ControllerEvent B → List Tick
  | .callback event _ => ticked config c event
  | .timer _ _ _ | .request _ | .symbolsUpdate _ => []

variable [LimitQueue Q] [Sequencer S B]

theorem passOn_ticks {a : AccountStreams E D R} {call : AccountCall B} {shared after : Shared Y Q S B}
    (passed : passOn config a call shared = some after) : watched tick after.log = watched tick shared.log := by
  unfold passOn at passed
  split at passed
  · split at passed
    · exact Option.some.inj passed ▸ rfl
    · have sequences := (sequence_sequences passed : Sequences tick _ _ _ _ after)
      rw [sequences.seen,sequenceEffects_tick,List.append_nil]
      rfl
  · exact Option.some.inj passed ▸ rfl

variable [Symbols Y] [Download2 E OrderEntryREST.State] [Download2 D DropCopy.State] [LimitRequest R]

theorem visit_ticks {c after : Controller Y Q S B E D R} {event : StreamEvent B} (ran : visit config c event = some after) :
    watched tick after.shared.log = watched tick c.shared.log ++ ticked config c event := by
  cases event with
  | account index call =>
      rw [ticked,List.append_nil]
      cases onAccount_called ran with
      | missing => rfl
      | called _ _ passed =>
          rw [(adopt_shared _ _ _ _).1]
          have ticks := passOn_ticks passed
          exact ticks
  | orderEntryWs index event =>
      rw [ticked,List.append_nil]
      cases onOrderEntryWs_called ran with
      | missing => rfl
      | called => rfl
  | marketData index event =>
      simp only [visit,onMarketData] at ran
      split at ran
      · rename_i absent
        rw [ticked,absent]
        exact Option.some.inj ran ▸ (List.append_nil _).symm
      · rename_i stream present
        obtain ⟨feed,stepped,rfl⟩ := Option.map_eq_some_iff.mp ran
        rw [ticked,present]
        have received : watched tick (.event (.marketData index event) :: c.shared.log) = watched tick c.shared.log :=
          watched_other rfl _
        have passed := step_ticks stepped
        rw [received] at passed
        simpa using passed

-- A timer visits the streams with nothing but timers.
omit [Symbols Y] [LimitQueue Q] [Sequencer S B] [Download2 E OrderEntryREST.State] [Download2 D DropCopy.State]
  [LimitRequest R] in
theorem visits_ticked (t : TraceInfo) (now : Nanoseconds) (answers : TimerAnswers) (c start : Controller Y Q S B E D R) :
    ∀ event ∈ visits t now answers start, ticked config c event = [] := by
  intro event member
  simp only [visits,restVisits,wsVisits,dropCopyVisits,marketDataVisits,List.mem_append,List.mem_map] at member
  rcases member with ((⟨_,_,rfl⟩ | ⟨_,_,rfl⟩) | ⟨_,_,rfl⟩) | ⟨_,_,rfl⟩
  · rfl
  · rfl
  · rfl
  · exact List.flatMap_eq_nil_iff.mpr fun _ _ => rfl

theorem step_ticksIn {c after : Controller Y Q S B E D R} {event : ControllerEvent B} (ran : step config c event = some after) :
    watched tick after.shared.log = watched tick c.shared.log ++ ticksIn config c event := by
  cases event with
  | timer t now answers =>
      rw [ticksIn,List.append_nil]
      refine execute_related_among (fun a b : Controller Y Q S B E D R => watched tick b.shared.log = watched tick a.shared.log)
        (fun _ => rfl) (fun _ _ _ one two => two.trans one) ?_ ran
      intro during event member later stepped
      have none : ticked config during event = [] := visits_ticked t now answers during c event member
      rw [visit_ticks stepped,none,List.append_nil]
  | request request =>
      obtain rfl := Option.some.inj ran
      rw [ticksIn,List.append_nil,(ControllerSystem.onRequest_streams config request c).2]
  | symbolsUpdate symbols =>
      obtain rfl := Option.some.inj ran
      rw [ticksIn,List.append_nil]
      exact onSymbolsUpdate_watched tick_blind symbols c
  | callback event _ => exact visit_ticks ran

-- The best prices and the trades that are published are those that the streams have
-- received, each once and in its turn, each under its own stream and symbol.
theorem ticks_are_passed_on {c : Controller Y Q S B E D R} {events : List (ControllerEvent B)}
    (ran : execute (step config) (create config) events = some c) :
    watched tick c.shared.log = projection (step config) (ticksIn config) (create config : Controller Y Q S B E D R) events := by
  have start : watched tick (create config : Controller Y Q S B E D R).shared.log = [] := rfl
  refine execute_traces (fun (c : Controller Y Q S B E D R) done => watched tick c.shared.log = done) ?_ start ran
  intro c event after done known stepped
  rw [step_ticksIn stepped,known]

end controller

section closed
open Smallest

-- A stream that has been greeted gets a best price, a trade and a price that it has no
-- stream for.
def quoting : List (ControllerEvent Unit) :=
  [.symbolsUpdate ["A"],greets 0,.callback (.marketData 0 (.ticker t ⟨1,⟨"A",5,nan,nan,nan,nan,2⟩⟩)) rfl,
    .callback (.marketData 1 (.ticker t ⟨1,⟨"A",6,nan,nan,nan,nan,2⟩⟩)) rfl,
    .callback (.marketData 0 (.trade t ⟨3,⟨"A",7,"T1",nan,.buy,nan,2⟩⟩)) rfl]

theorem ticks_are_passed_on_quoting : ∃ c : SmallController,
    execute (step (twoAccounts "")) (create (twoAccounts "")) quoting = some c ∧ (watched tick c.shared.log).length = 2 ∧
      watched tick c.shared.log =
        projection (step (twoAccounts "")) (ticksIn (twoAccounts "")) (create (twoAccounts "") : SmallController) quoting := by
  have checked : (execute (step (twoAccounts "")) (create (twoAccounts "") : SmallController) quoting).any (fun c =>
      (watched tick c.shared.log).length == 2) = true := by
    decide +kernel
  obtain ⟨c,ran,counted⟩ := (Option.any_eq_true _ _).mp checked
  exact ⟨c,ran,beq_iff_eq.mp counted,ticks_are_passed_on ran⟩

end closed
end KucoinPro.MarketPublications
