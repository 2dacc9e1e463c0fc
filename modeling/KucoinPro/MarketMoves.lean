import KucoinPro.MarketSystem

namespace KucoinPro.MarketMoves
open History MarketSystem

variable {Y S B E D R : Type} {Q : Type → Type} {config : GatewayConfig}

-- The session of a stream is what has happened since it was last disconnected.
def isDisconnected (index : Nat) : MarketEntry B → Bool
  | .event (.marketData i (.disconnected _)) => i == index
  | _ => false

def queuedEntry (index : Nat) : MarketEntry B → Option Subscription
  | .effect (.queued i subscription) => if i = index then some subscription else none
  | _ => none

def sentEntry (index : Nat) : MarketEntry B → Option Subscription
  | .effect (.sendText i (.subscribe subscription)) => if i = index then some subscription else none
  | _ => none

def session (index : Nat) (log : List (MarketEntry B)) : List (MarketEntry B) := upTo (isDisconnected index) log

-- In their order.
def queuedIn (index : Nat) (log : List (MarketEntry B)) : List Subscription :=
  ((session index log).filterMap (queuedEntry index)).reverse

def sentIn (index : Nat) (log : List (MarketEntry B)) : List Subscription :=
  ((session index log).filterMap (sentEntry index)).reverse

-- The same over all of the sessions.
def queuedBy (index : Nat) (log : List (MarketEntry B)) : List Subscription := (log.filterMap (queuedEntry index)).reverse

def sentBy (index : Nat) (log : List (MarketEntry B)) : List Subscription := (log.filterMap (sentEntry index)).reverse

def forwardedEntry : MarketEntry B → Option (List String)
  | .event (.symbolsUpdate symbols) => some symbols
  | _ => none

-- All that came in a SymbolsUpdate.
def forwardedIn (log : List (MarketEntry B)) : List String := (log.filterMap forwardedEntry).reverse.flatten

-- Nothing was queued or sent on the stream, and no symbol forwarded.
structure Unconcerned (index : Nat) (before after : List (MarketEntry B)) : Prop where
  queued : queuedIn index after = queuedIn index before
  sent : sentIn index after = sentIn index before
  everQueued : queuedBy index after = queuedBy index before
  everSent : sentBy index after = sentBy index before
  forwarded : forwardedIn after = forwardedIn before

def concerns (index : Nat) : MarketEffect B → Bool
  | .queued i _ | .sendText i (.subscribe _) => i == index
  | _ => false

theorem queuedIn_effect (index : Nat) (effect : MarketEffect B) (log : List (MarketEntry B)) :
    queuedIn index (.effect effect :: log) = queuedIn index log ++ (queuedEntry index (.effect effect)).toList := by
  have keep : session index (.effect effect :: log) = .effect effect :: session index log := upTo_keep rfl
  rw [queuedIn,keep]
  exact filterMap_newest _ _ _

theorem sentIn_effect (index : Nat) (effect : MarketEffect B) (log : List (MarketEntry B)) :
    sentIn index (.effect effect :: log) = sentIn index log ++ (sentEntry index (.effect effect)).toList := by
  have keep : session index (.effect effect :: log) = .effect effect :: session index log := upTo_keep rfl
  rw [sentIn,keep]
  exact filterMap_newest _ _ _

theorem queuedBy_cons (index : Nat) (entry : MarketEntry B) (log : List (MarketEntry B)) :
    queuedBy index (entry :: log) = queuedBy index log ++ (queuedEntry index entry).toList := filterMap_newest _ _ _

theorem sentBy_cons (index : Nat) (entry : MarketEntry B) (log : List (MarketEntry B)) :
    sentBy index (entry :: log) = sentBy index log ++ (sentEntry index entry).toList := filterMap_newest _ _ _

namespace Unconcerned

theorem refl (index : Nat) (log : List (MarketEntry B)) : Unconcerned index log log := ⟨rfl,rfl,rfl,rfl,rfl⟩

theorem trans {a b c : List (MarketEntry B)} (one : Unconcerned index a b) (two : Unconcerned index b c) :
    Unconcerned index a c :=
  ⟨two.queued.trans one.queued,two.sent.trans one.sent,two.everQueued.trans one.everQueued,two.everSent.trans one.everSent,
    two.forwarded.trans one.forwarded⟩

theorem effect (log : List (MarketEntry B)) (other : concerns index e = false) : Unconcerned index log (.effect e :: log) := by
  have none_queued : queuedEntry index (.effect e) = none := by
    cases e with
    | queued i subscription => exact if_neg (by simpa [concerns] using other)
    | _ => rfl
  have none_sent : sentEntry index (.effect e) = none := by
    cases e with
    | sendText i message =>
        cases message with
        | subscribe subscription => exact if_neg (by simpa [concerns] using other)
        | ping => rfl
    | _ => rfl
  refine ⟨?_,?_,?_,?_,rfl⟩
  · rw [queuedIn_effect,none_queued,Option.toList_none,List.append_nil]
  · rw [sentIn_effect,none_sent,Option.toList_none,List.append_nil]
  · rw [queuedBy_cons,none_queued,Option.toList_none,List.append_nil]
  · rw [sentBy_cons,none_sent,Option.toList_none,List.append_nil]

end Unconcerned

theorem session_cut (index : Nat) (t : TraceInfo) (log : List (MarketEntry B)) :
    session index (.event (.marketData index (.disconnected t)) :: log) = [] :=
  upTo_cut (by simp [isDisconnected])

theorem queuedEntry_own (index : Nat) (subscription : Subscription) :
    queuedEntry index (.effect (.queued index subscription) : MarketEntry B) = some subscription := if_pos rfl

theorem sentEntry_own (index : Nat) (subscription : Subscription) :
    sentEntry index (.effect (.sendText index (.subscribe subscription)) : MarketEntry B) = some subscription := if_pos rfl

-- The stream is as ready as it was.
structure Stays (before after : Feed Y Q S B) : Prop where
  status : after.stream.connectionStatus = before.stream.connectionStatus
  welcome : after.stream.welcome = before.stream.welcome

theorem Stays.trans {a b c : Feed Y Q S B} (one : Stays a b) (two : Stays b c) : Stays a c :=
  ⟨two.status.trans one.status,two.welcome.trans one.welcome⟩

theorem Stays.ready {before after : Feed Y Q S B} (stays : Stays before after) :
    MarketData.isReady after.stream = MarketData.isReady before.stream := by
  rw [MarketData.isReady,stays.status,MarketData.isReady]

-- the sequencers

-- A sequencer and its callbacks queue and send nothing.
structure Sequences (before after : Shared Y Q S B) : Prop where
  symbols : after.symbols = before.symbols
  log : ∀ index, Unconcerned index before.log after.log

theorem Sequences.trans {a b c : Shared Y Q S B} (one : Sequences a b) (two : Sequences b c) : Sequences a c :=
  ⟨two.symbols.trans one.symbols,fun index => (one.log index).trans (two.log index)⟩

theorem Sequences.emit (shared : Shared Y Q S B) (silent : ∀ index, concerns index e = false) :
    Sequences shared (shared.emit e) := ⟨rfl,fun index => .effect _ (silent index)⟩

theorem Sequences.refl (shared : Shared Y Q S B) : Sequences shared shared := ⟨rfl,fun index => .refl index _⟩

theorem fillMbp_sequences (bids asks : List MBPUpdate) (shared : Shared Y Q S B) :
    Sequences shared (shared.getMbp.fillMbp bids asks) := ⟨rfl,fun index => .refl index _⟩

section queue

variable [LimitQueue Q]

theorem requestDepth_sequences (symbol : String) (shared : Shared Y Q S B) :
    Sequences shared (shared.requestDepth symbol) := ⟨rfl,fun _ => .effect _ rfl⟩

theorem called_sequences {shared after : Shared Y Q S B} (called : Shared.Called symbol publish shared after) :
    Sequences shared after := by
  cases called with
  | asked => exact requestDepth_sequences symbol shared
  | silent => exact .refl shared
  | published => exact .emit shared fun _ => rfl

theorem callbacks_sequences {shared after : Shared Y Q S B} (calls : List SequencerCall)
    (ran : calls.foldlM (Shared.callback config symbol publish) shared = some after) : Sequences shared after :=
  Shared.callbacks_related config .refl (fun _ _ _ => .trans) (fun _ _ => called_sequences) calls ran

variable [Sequencer S B]

theorem sequence_sequences {shared after : Shared Y Q S B} {operation : Operation B}
    (ran : shared.sequence config symbol operation publish = some after) : Sequences shared after := by
  obtain ⟨middle,called,rfl⟩ := Option.map_eq_some_iff.mp ran
  have operated : Sequences shared middle := by
    have one : Sequences shared ((shared.setSequencer symbol (Sequencer.operate operation
        ((shared.mbpSequencer.lookup symbol).getD Sequencer.create)).sequencer).emit (.operated symbol operation)) :=
      ⟨rfl,fun _ => .effect _ rfl⟩
    exact one.trans (callbacks_sequences _ called)
  split
  · have cleared : Sequences middle ((middle.setSequencer symbol (Sequencer.clear (Sequencer.operate operation
        ((shared.mbpSequencer.lookup symbol).getD Sequencer.create)).sequencer)).emit (.cleared symbol)) :=
      ⟨rfl,fun _ => .effect _ rfl⟩
    exact (operated.trans cleared).trans (requestDepth_sequences symbol _)
  · exact operated

theorem onOrderBookAck_sequences {ack : Json.OrderBookAck} {shared after : Shared Y Q S B}
    (ran : OrderEntryREST.onOrderBookAck config ack book shared = some after) : Sequences shared after :=
  (fillMbp_sequences _ _ shared).trans (sequence_sequences ran)

end queue

-- What has been handed out is sent, and nothing else is done.
structure Sends (messages : List Subscription) (before after : Feed Y Q S B) : Prop where
  stream : after.stream = before.stream
  symbols : after.shared.symbols = before.shared.symbols
  queued : queuedIn before.stream.index after.shared.log = queuedIn before.stream.index before.shared.log
  sent : sentIn before.stream.index after.shared.log = sentIn before.stream.index before.shared.log ++ messages
  everQueued : queuedBy before.stream.index after.shared.log = queuedBy before.stream.index before.shared.log
  everSent : sentBy before.stream.index after.shared.log = sentBy before.stream.index before.shared.log ++ messages
  forwarded : forwardedIn after.shared.log = forwardedIn before.shared.log
  others : ∀ index ≠ before.stream.index, Unconcerned index before.shared.log after.shared.log

theorem Sends.none (c : Feed Y Q S B) : Sends [] c c :=
  ⟨rfl,rfl,rfl,(List.append_nil _).symm,rfl,(List.append_nil _).symm,rfl,fun index _ => .refl index _⟩

theorem Sends.trans {a b c : Feed Y Q S B} (one : Sends first a b) (two : Sends second b c) : Sends (first ++ second) a c := by
  have index : b.stream.index = a.stream.index := congrArg (·.index) one.stream
  refine ⟨two.stream.trans one.stream,two.symbols.trans one.symbols,?_,?_,?_,?_,two.forwarded.trans one.forwarded,?_⟩
  · have later := two.queued
    rw [index] at later
    exact later.trans one.queued
  · have later := two.sent
    rw [index] at later
    rw [later,one.sent,List.append_assoc]
  · have later := two.everQueued
    rw [index] at later
    exact later.trans one.everQueued
  · have later := two.everSent
    rw [index] at later
    rw [later,one.everSent,List.append_assoc]
  · intro other differs
    exact (one.others other differs).trans (two.others other (index ▸ differs))

theorem sendSubscription_sends (c : Feed Y Q S B) (message : Subscription) :
    Sends [message] c (MarketData.sendSubscription c message) := by
  refine ⟨rfl,rfl,?_,?_,?_,?_,rfl,?_⟩
  · exact (queuedIn_effect _ _ _).trans (List.append_nil _)
  · exact (sentIn_effect _ _ _).trans (by rw [sentEntry_own,Option.toList_some])
  · exact (queuedBy_cons _ _ _).trans (List.append_nil _)
  · exact (sentBy_cons _ _ _).trans (by rw [sentEntry_own,Option.toList_some])
  · intro index differs
    exact .effect _ (beq_eq_false_iff_ne.mpr (Ne.symm differs))

theorem sendSubscriptions_sends (messages : List Subscription) (c : Feed Y Q S B) :
    Sends messages c (messages.foldl MarketData.sendSubscription c) := by
  induction messages generalizing c with
  | nil => exact .none c
  | cons message rest ih => exact (sendSubscription_sends c message).trans (ih (MarketData.sendSubscription c message))

variable [LimitQueue Q]

-- The account of one stream: what it was given to send is sent, or waits in its
-- order behind what waited before.
structure Carries (before after : Feed Y Q S B) (fresh handed : List Subscription) : Prop where
  index : after.stream.index = before.stream.index
  symbols : after.shared.symbols = before.shared.symbols
  queued : queuedIn before.stream.index after.shared.log = queuedIn before.stream.index before.shared.log ++ fresh
  sent : sentIn before.stream.index after.shared.log = sentIn before.stream.index before.shared.log ++ handed
  everQueued : queuedBy before.stream.index after.shared.log = queuedBy before.stream.index before.shared.log ++ fresh
  everSent : sentBy before.stream.index after.shared.log = sentBy before.stream.index before.shared.log ++ handed
  items : handed ++ LimitQueue.items after.stream.subscribeQueue = LimitQueue.items before.stream.subscribeQueue ++ fresh
  forwarded : forwardedIn after.shared.log = forwardedIn before.shared.log

-- So it is at any time: what a stream has sent, followed by what waits, is what it has
-- queued. One that is not there has done neither.
def Hands (index : Nat) (stream : Option (MarketData Q)) (log : List (MarketEntry B)) : Prop :=
  match stream with
  | none => queuedBy index log = [] ∧ sentBy index log = []
  | some stream => stream.index = index ∧ sentBy index log ++ LimitQueue.items stream.subscribeQueue = queuedBy index log

theorem Hands.log {stream : Option (MarketData Q)} {before after : List (MarketEntry B)} (hands : Hands index stream before)
    (queued : queuedBy index after = queuedBy index before) (sent : sentBy index after = sentBy index before) :
    Hands index stream after := by
  cases stream with
  | none => exact ⟨queued.trans hands.1,sent.trans hands.2⟩
  | some stream =>
      refine ⟨hands.1,?_⟩
      rw [queued,sent]
      exact hands.2

theorem Carries.hands {before after : Feed Y Q S B} (carries : Carries before after fresh handed)
    (hands : Hands before.stream.index (some before.stream) before.shared.log) :
    Hands before.stream.index (some after.stream) after.shared.log := by
  refine ⟨carries.index,?_⟩
  rw [carries.everSent,List.append_assoc,carries.items,← List.append_assoc,hands.2]
  exact carries.everQueued.symm

theorem Carries.after {c : Feed Y Q S B} {stream : MarketData Q} {shared later : Shared Y Q S B}
    (carries : Carries c ⟨stream,shared⟩ fresh handed) (symbols : later.symbols = shared.symbols)
    (quiet : Unconcerned c.stream.index shared.log later.log) : Carries c ⟨stream,later⟩ fresh handed :=
  ⟨carries.index,symbols.trans carries.symbols,quiet.queued.trans carries.queued,quiet.sent.trans carries.sent,
    quiet.everQueued.trans carries.everQueued,quiet.everSent.trans carries.everSent,carries.items,
    quiet.forwarded.trans carries.forwarded⟩

theorem Carries.before {c : Feed Y Q S B} {stream : MarketData Q} {shared earlier : Shared Y Q S B}
    (carries : Carries ⟨stream,shared⟩ c fresh handed) (symbols : shared.symbols = earlier.symbols)
    (quiet : Unconcerned stream.index earlier.log shared.log) : Carries ⟨stream,earlier⟩ c fresh handed :=
  ⟨carries.index,carries.symbols.trans symbols,carries.queued.trans (congrArg (· ++ fresh) quiet.queued),
    carries.sent.trans (congrArg (· ++ handed) quiet.sent),carries.everQueued.trans (congrArg (· ++ fresh) quiet.everQueued),
    carries.everSent.trans (congrArg (· ++ handed) quiet.everSent),carries.items,carries.forwarded.trans quiet.forwarded⟩

-- And no other stream has a part in it.
structure Passes (before after : Feed Y Q S B) (fresh handed : List Subscription) : Prop
    extends Carries before after fresh handed where
  others : ∀ index ≠ before.stream.index, Unconcerned index before.shared.log after.shared.log

namespace Passes

theorem trans {a b c : Feed Y Q S B} (one : Passes a b fresh handed) (two : Passes b c fresh' handed') :
    Passes a c (fresh ++ fresh') (handed ++ handed') := by
  have index := one.index
  refine ⟨⟨two.index.trans index,two.symbols.trans one.symbols,?_,?_,?_,?_,?_,two.forwarded.trans one.forwarded⟩,?_⟩
  · have later := two.queued
    rw [index] at later
    rw [later,one.queued,List.append_assoc]
  · have later := two.sent
    rw [index] at later
    rw [later,one.sent,List.append_assoc]
  · have later := two.everQueued
    rw [index] at later
    rw [later,one.everQueued,List.append_assoc]
  · have later := two.everSent
    rw [index] at later
    rw [later,one.everSent,List.append_assoc]
  · rw [List.append_assoc,two.items,← List.append_assoc,one.items,List.append_assoc]
  · intro other differs
    exact (one.others other differs).trans (two.others other (index ▸ differs))

-- A step that neither queues nor sends.
theorem idle {c after : Feed Y Q S B} (index : after.stream.index = c.stream.index)
    (symbols : after.shared.symbols = c.shared.symbols) (queue : after.stream.subscribeQueue = c.stream.subscribeQueue)
    (log : ∀ index, Unconcerned index c.shared.log after.shared.log) : Passes c after [] [] := by
  refine ⟨⟨index,symbols,?_,?_,?_,?_,?_,(log 0).forwarded⟩,?_⟩
  · rw [(log _).queued,List.append_nil]
  · rw [(log _).sent,List.append_nil]
  · rw [(log _).everQueued,List.append_nil]
  · rw [(log _).everSent,List.append_nil]
  · rw [queue,List.nil_append,List.append_nil]
  · intro other _
    exact log other

theorem refl (c : Feed Y Q S B) : Passes c c [] [] := idle rfl rfl rfl (fun index => .refl index c.shared.log)

theorem emit (c : Feed Y Q S B) (silent : ∀ index, concerns index e = false) : Passes c (c.emit e) [] [] :=
  idle rfl rfl rfl (fun index => .effect c.shared.log (silent index))

end Passes

-- subscribe

def pair (subscription : Subscription) : Topic × String := (subscription.topic,subscription.symbol)

-- The channels that are enabled, in the order of their subscriptions.
def topics (config : GatewayConfig) : List Topic :=
  (if config.market.miscTopOfBookFromTicker then ⟨API.ticker,none⟩ else ⟨API.obu,some "1"⟩) :: ⟨API.trade,none⟩ ::
    (if config.market.miscExperimentalEnableMbp then [⟨API.obu,some "increment"⟩] else [])

theorem topics_nodup : (topics config).Nodup := by
  unfold topics
  cases config.market.miscTopOfBookFromTicker <;> cases config.market.miscExperimentalEnableMbp <;> decide

section handlers
variable [LawfulLimitQueue Q]

theorem subscribeItem_passes (topic : Topic) (c : Feed Y Q S B) (symbol : String) :
    Passes c (MarketData.subscribeItem topic c symbol) [⟨c.stream.requestId + 1,topic,symbol⟩] [] ∧
      Stays c (MarketData.subscribeItem topic c symbol) := by
  refine ⟨⟨⟨rfl,rfl,?_,?_,?_,?_,?_,rfl⟩,?_⟩,rfl,rfl⟩
  · exact (queuedIn_effect _ _ _).trans (by rw [queuedEntry_own,Option.toList_some])
  · exact sentIn_effect _ _ _
  · exact (queuedBy_cons _ _ _).trans (by rw [queuedEntry_own,Option.toList_some])
  · exact sentBy_cons _ _ _
  · exact LawfulLimitQueue.emplaceBack_items _ _
  · intro index differs
    exact .effect _ (beq_eq_false_iff_ne.mpr (Ne.symm differs))

theorem subscribeTopic_passes (topic : Topic) (symbols : List String) (c : Feed Y Q S B) :
    ∃ fresh, Passes c (MarketData.subscribeTopic topic symbols c) fresh [] ∧
      Stays c (MarketData.subscribeTopic topic symbols c) ∧ fresh.map pair = symbols.map (Prod.mk topic) := by
  induction symbols generalizing c with
  | nil => exact ⟨[],.refl c,⟨rfl,rfl⟩,rfl⟩
  | cons symbol rest ih =>
      obtain ⟨first,stays⟩ := subscribeItem_passes topic c symbol
      obtain ⟨fresh,passes,same,pairs⟩ := ih (MarketData.subscribeItem topic c symbol)
      refine ⟨_,first.trans passes,stays.trans same,?_⟩
      rw [List.map_append,pairs]
      rfl

-- Every symbol on every channel.
theorem subscribeSymbols_passes (symbols : List String) (c : Feed Y Q S B) :
    ∃ fresh, Passes c (MarketData.subscribeSymbols config symbols c) fresh [] ∧
      Stays c (MarketData.subscribeSymbols config symbols c) ∧
      fresh.map pair = (topics config).flatMap fun topic => symbols.map (Prod.mk topic) := by
  unfold MarketData.subscribeSymbols
  by_cases empty : symbols = []
  · subst empty
    rw [if_pos rfl]
    exact ⟨[],.refl c,⟨rfl,rfl⟩,by simp⟩
  · rw [if_neg empty]
    obtain ⟨middle,known,one,onePasses,oneStays,onePairs⟩ : ∃ middle, (if config.market.miscTopOfBookFromTicker = true
          then MarketData.subscribeTopic ⟨API.ticker,none⟩ symbols c
          else MarketData.subscribeTopic ⟨API.obu,some "1"⟩ symbols c) = middle ∧ ∃ fresh, Passes c middle fresh [] ∧
        Stays c middle ∧ fresh.map pair = symbols.map (Prod.mk (if config.market.miscTopOfBookFromTicker = true
          then ⟨API.ticker,none⟩ else ⟨API.obu,some "1"⟩)) := by
      refine ⟨_,rfl,?_⟩
      split
      · exact subscribeTopic_passes _ symbols c
      · exact subscribeTopic_passes _ symbols c
    dsimp only
    rw [known]
    obtain ⟨two,twoPasses,twoStays,twoPairs⟩ := subscribeTopic_passes ⟨API.trade,none⟩ symbols middle
    have both := onePasses.trans twoPasses
    have stays := oneStays.trans twoStays
    cases enabled : config.market.miscExperimentalEnableMbp with
    | false =>
        refine ⟨_,both,stays,?_⟩
        rw [List.map_append,onePairs,twoPairs]
        simp [topics,enabled]
    | true =>
        obtain ⟨three,threePasses,threeStays,threePairs⟩ := subscribeTopic_passes ⟨API.obu,some "increment"⟩ symbols
          (MarketData.subscribeTopic ⟨API.trade,none⟩ symbols middle)
        refine ⟨_,both.trans threePasses,stays.trans threeStays,?_⟩
        rw [List.map_append,List.map_append,onePairs,twoPairs,threePairs]
        simp [topics,enabled]

-- What a subscription to a part of the slice comes to: all of it, or nothing on
-- a stream that is not READY.
def wanted [Symbols Y] (config : GatewayConfig) (startFrom : Nat) (c : Feed Y Q S B) : List (Topic × String) :=
  if MarketData.isReady c.stream then
    (topics config).flatMap fun topic => (Symbols.getSlice c.stream.index startFrom c.shared.symbols).map (Prod.mk topic)
  else []

theorem subscribe_passes [Symbols Y] (config : GatewayConfig) (startFrom : Nat) (c : Feed Y Q S B) :
    ∃ fresh, Passes c (MarketData.subscribe config startFrom c) fresh [] ∧
      Stays c (MarketData.subscribe config startFrom c) ∧ fresh.map pair = wanted config startFrom c := by
  unfold MarketData.subscribe wanted
  cases MarketData.isReady c.stream with
  | true => exact subscribeSymbols_passes _ c
  | false => exact ⟨[],.refl c,⟨rfl,rfl⟩,rfl⟩

-- timer

theorem checkSubscribeQueue_passes (t : TraceInfo) (granted : Nat) (c : Feed Y Q S B) :
    ∃ handed, Passes c (MarketData.checkSubscribeQueue t granted c) [] handed ∧
      Stays c (MarketData.checkSubscribeQueue t granted c) := by
  have rest := LawfulLimitQueue.dispatch_items t granted c.stream.subscribeQueue
  unfold MarketData.checkSubscribeQueue
  generalize LimitQueue.dispatch t granted c.stream.subscribeQueue = dispatched at rest
  obtain ⟨messages,queue⟩ := dispatched
  have sends := sendSubscriptions_sends messages {c with stream.subscribeQueue := queue}
  refine ⟨messages,⟨⟨?_,sends.symbols,?_,sends.sent,?_,sends.everSent,?_,sends.forwarded⟩,sends.others⟩,?_,?_⟩
  · exact congrArg (·.index) sends.stream
  · exact sends.queued.trans (List.append_nil _).symm
  · exact sends.everQueued.trans (List.append_nil _).symm
  · rw [List.append_nil]
    exact (congrArg (fun stream => messages ++ LimitQueue.items stream.subscribeQueue) sends.stream).trans rest
  · exact congrArg (·.connectionStatus) sends.stream
  · exact congrArg (·.welcome) sends.stream

-- A stream that is not READY sends nothing.
theorem onTimer_passes (config : GatewayConfig) (t : TraceInfo) (now : Nanoseconds) (refresh : Bool) (granted : Nat) (c : Feed Y Q S B) :
    ∃ handed, Passes c (MarketData.onTimer config t now refresh granted c) [] handed ∧
      Stays c (MarketData.onTimer config t now refresh granted c) ∧ (MarketData.isReady c.stream = true ∨ handed = []) := by
  unfold MarketData.onTimer
  cases refresh with
  | false =>
      refine ⟨[],?_⟩
      rw [if_neg nofun]
      split
      · exact ⟨.emit c fun _ => rfl,⟨rfl,rfl⟩,.inr rfl⟩
      · exact ⟨.refl c,⟨rfl,rfl⟩,.inr rfl⟩
  | true =>
      rw [if_pos rfl]
      cases ready : MarketData.isReady c.stream with
      | false => exact ⟨[],.refl c,⟨rfl,rfl⟩,.inr rfl⟩
      | true =>
          rw [if_pos rfl]
          obtain ⟨pinged,known,first,stays⟩ : ∃ pinged, (if c.stream.nextPing < t.originCreateTime
              then MarketData.sendPing config now c else c) = pinged ∧ Passes c pinged [] [] ∧ Stays c pinged := by
            refine ⟨_,rfl,?_⟩
            split
            · have paced : Passes c {c with stream.nextPing := now + config.market.wsPingFreq / 2} [] [] :=
                .idle rfl rfl rfl fun index => .refl index _
              exact ⟨paced.trans (.emit _ fun _ => rfl),rfl,rfl⟩
            · exact ⟨.refl c,rfl,rfl⟩
          dsimp only
          rw [known]
          obtain ⟨handed,second,same⟩ := checkSubscribeQueue_passes t granted pinged
          exact ⟨handed,first.trans second,stays.trans same,.inl rfl⟩

omit [LawfulLimitQueue Q] in
theorem onOBU_passes [Sequencer S B] {c after : Feed Y Q S B} (ran : MarketData.onOBU config obu book c = some after) :
    Passes c after [] [] ∧ Stays c after := by
  unfold MarketData.onOBU at ran
  cases depth : obu.depth with
  | undefinedInternal | unknownInternal =>
      rw [depth] at ran
      cases ran
  | one =>
      rw [depth] at ran
      obtain rfl := Option.some.inj ran
      exact ⟨.emit c fun _ => rfl,rfl,rfl⟩
  | increment =>
      rw [depth] at ran
      obtain ⟨shared,sequenced,rfl⟩ := Option.map_eq_some_iff.mp ran
      have both := (fillMbp_sequences _ _ c.shared).trans (sequence_sequences sequenced)
      exact ⟨.idle rfl both.symbols rfl both.log,rfl,rfl⟩

variable [Symbols Y]

-- What one event does to the subscriptions of a stream.
inductive Moved (config : GatewayConfig) (c : Feed Y Q S B) : MarketDataEvent B → Feed Y Q S B → Prop where
  | welcomed : Passes c after fresh [] →
      fresh.map pair = ((topics config).flatMap fun topic =>
        (Symbols.getSlice c.stream.index 0 c.shared.symbols).map (Prod.mk topic)) →
      after.stream.connectionStatus = .ready → after.stream.welcome = true → Moved config c (.welcome t) after
  | dropped : Passes c after [] [] → after.stream.connectionStatus = .disconnected → after.stream.welcome = false →
      Moved config c (.disconnected t) after
  | timed : Passes c after [] handed → Stays c after → MarketData.isReady c.stream = true ∨ handed = [] →
      Moved config c (.timer t now refresh granted) after
  | other : (∀ t, event ≠ .welcome t) → (∀ t, event ≠ .disconnected t) → Passes c after [] [] → Stays c after →
      Moved config c event after

omit [LawfulLimitQueue Q] in
theorem Moved.passes {c after : Feed Y Q S B} (moved : Moved config c event after) :
    ∃ fresh handed, Passes c after fresh handed := by
  cases moved with
  | welcomed passes => exact ⟨_,_,passes⟩
  | dropped passes => exact ⟨_,_,passes⟩
  | timed passes => exact ⟨_,_,passes⟩
  | other _ _ passes => exact ⟨_,_,passes⟩

theorem onWelcome_moved (t : TraceInfo) (c : Feed Y Q S B) : Moved config c (.welcome t) (MarketData.onWelcome config c) := by
  have status : Passes c (MarketData.onConnectionStatus .ready {c with stream.welcome := true}) [] [] :=
    .idle rfl rfl rfl fun _ => .effect _ rfl
  obtain ⟨fresh,passes,stays,pairs⟩ := subscribe_passes config 0
    (MarketData.onConnectionStatus .ready {c with stream.welcome := true})
  exact .welcomed (status.trans passes) pairs stays.status stays.welcome

omit [LawfulLimitQueue Q] in
theorem onDisconnected_moved (t : TraceInfo) (c : Feed Y Q S B) :
    Moved config c (.disconnected t) (MarketData.onDisconnected c) := by
  refine .dropped (.idle rfl rfl rfl fun index => ?_) rfl rfl
  have published : Unconcerned index c.shared.log
      (MarketData.onConnectionStatus .disconnected c).shared.log := .effect _ rfl
  exact published.trans (.effect _ rfl)

theorem step_moved [Sequencer S B]
    {c after : Feed Y Q S B} {event : MarketDataEvent B} (ran : MarketData.step config c event = some after) :
    Moved config c event after := by
  cases event with
  | timer t now refresh granted =>
      obtain rfl := Option.some.inj ran
      obtain ⟨handed,passes,stays,quiet⟩ := onTimer_passes config t now refresh granted c
      exact .timed passes stays quiet
  | connected t =>
      obtain rfl := Option.some.inj ran
      exact .other nofun nofun (.idle rfl rfl rfl fun index => .refl index _) ⟨rfl,rfl⟩
  | disconnected t =>
      obtain rfl := Option.some.inj ran
      exact onDisconnected_moved t c
  | welcome t =>
      obtain rfl := Option.some.inj ran
      exact onWelcome_moved t c
  | ticker t ticker =>
      obtain rfl := Option.some.inj ran
      exact .other nofun nofun (.emit c fun _ => rfl) ⟨rfl,rfl⟩
  | trade t trade =>
      obtain rfl := Option.some.inj ran
      exact .other nofun nofun (.emit c fun _ => rfl) ⟨rfl,rfl⟩
  | obu t obu book =>
      obtain ⟨passes,stays⟩ := onOBU_passes ran
      exact .other nofun nofun passes stays
  | logged =>
      obtain rfl := Option.some.inj ran
      exact .other nofun nofun (.refl c) ⟨rfl,rfl⟩
  | unexpected => cases ran

-- the controller

-- One stream after the other, each with its own part of the update.
theorem subscribeStreams_carries (config : GatewayConfig) (startFrom : Nat) (streams : List (MarketData Q))
    (shared : Shared Y Q S B) (first : Nat)
    (indexed : ∀ (i : Nat) stream, streams[i]? = some stream → stream.index = first + i) :
    (Controller.subscribeStreams config startFrom streams shared).2.symbols = shared.symbols ∧
    (∀ index, index < first ∨ first + streams.length ≤ index →
      Unconcerned index shared.log (Controller.subscribeStreams config startFrom streams shared).2.log) ∧
    (Controller.subscribeStreams config startFrom streams shared).1.length = streams.length ∧
    ∀ (i : Nat) stream, streams[i]? = some stream → ∃ later fresh,
      (Controller.subscribeStreams config startFrom streams shared).1[i]? = some later ∧
      Carries ⟨stream,shared⟩ ⟨later,(Controller.subscribeStreams config startFrom streams shared).2⟩ fresh [] ∧
      Stays ⟨stream,shared⟩ ⟨later,(Controller.subscribeStreams config startFrom streams shared).2⟩ ∧
      fresh.map pair = wanted config startFrom ⟨stream,shared⟩ := by
  induction streams generalizing shared first with
  | nil => exact ⟨rfl,fun index _ => .refl index _,rfl,nofun⟩
  | cons head rest ih =>
      obtain ⟨fresh,passes,stays,pairs⟩ := subscribe_passes config startFrom ⟨head,shared⟩
      have own : head.index = first := indexed 0 head rfl
      have shifted : ∀ (i : Nat) stream, rest[i]? = some stream → stream.index = first + 1 + i := by
        intro i stream found
        have known := indexed (i + 1) stream found
        omega
      obtain ⟨symbols,others,length,each⟩ := ih (MarketData.subscribe config startFrom ⟨head,shared⟩).shared (first + 1) shifted
      refine ⟨symbols.trans passes.symbols,?_,congrArg (· + 1) length,?_⟩
      · intro index outside
        rw [List.length_cons] at outside
        have mine : Unconcerned index shared.log (MarketData.subscribe config startFrom ⟨head,shared⟩).shared.log :=
          passes.others index (by simp only [own]; omega)
        exact mine.trans (others index (by omega))
      · intro i stream found
        cases i with
        | zero =>
            obtain rfl := Option.some.inj found
            exact ⟨_,fresh,rfl,passes.toCarries.after symbols (others _ (by simp only [own]; omega)),⟨stays.status,stays.welcome⟩,pairs⟩
        | succ i =>
            obtain ⟨later,fresh',found',carries,stays',pairs'⟩ := each i stream found
            have index := shifted i stream found
            refine ⟨later,fresh',found',carries.before passes.symbols (passes.others _ ?_),⟨stays'.status,stays'.welcome⟩,?_⟩
            · simp only [own,index]
              omega
            · rw [pairs']
              simp only [wanted,passes.symbols]

-- A stream as it is created.
structure Fresh (index : Nat) (stream : MarketData Q) : Prop where
  index : stream.index = index
  status : stream.connectionStatus = .undefined
  welcome : stream.welcome = false
  items : LimitQueue.items stream.subscribeQueue = []

omit [Symbols Y] in
theorem createStreams_fresh (count : Nat) (g : Gateway Y Q S B E D R) :
    ∃ fresh : List (MarketData Q), (Controller.createStreams count g).marketData = g.marketData ++ fresh ∧ fresh.length = count ∧
      (∀ (i : Nat) stream, fresh[i]? = some stream → Fresh (g.marketData.length + i) stream) ∧
      Sequences g.shared (Controller.createStreams count g).shared := by
  induction count generalizing g with
  | zero => exact ⟨[],(List.append_nil _).symm,rfl,nofun,.refl _⟩
  | succ count ih =>
      obtain ⟨fresh,streams,length,each,sequences⟩ := ih (Controller.createMarketData g)
      have one : Sequences g.shared (Controller.createMarketData g).shared := .emit _ fun _ => rfl
      refine ⟨MarketData.create (g.streamId + 1) g.marketData.length :: fresh,?_,congrArg (· + 1) length,?_,one.trans sequences⟩
      · exact streams.trans (List.append_assoc _ _ _)
      · intro i stream found
        cases i with
        | zero =>
            obtain rfl := Option.some.inj found
            exact ⟨rfl,rfl,rfl,LawfulLimitQueue.create_items⟩
        | succ i =>
            have created := each i stream found
            have longer : (Controller.createMarketData g).marketData.length = g.marketData.length + 1 := List.length_append
            rw [longer,Nat.add_assoc,Nat.add_comm 1 i] at created
            exact created

def Indexed (streams : List (MarketData Q)) : Prop := ∀ (i : Nat) stream, streams[i]? = some stream → stream.index = i

variable [Sequencer S B] [Download2 E OrderEntryREST.State] [Download2 D DropCopy.State] [LimitRequest R]

omit [LawfulLimitQueue Q] [Symbols Y] in
theorem onAccount_sequences {g after : Gateway Y Q S B E D R} (ran : onAccount config event granted book g = some after) :
    after.marketData = g.marketData ∧ Sequences g.shared after.shared := by
  unfold onAccount at ran
  split at ran
  · obtain ⟨account,_,rfl⟩ := Option.map_eq_some_iff.mp ran
    exact ⟨rfl,rfl,fun index => .refl index _⟩
  · obtain ⟨account,_,answered⟩ := Option.bind_eq_some_iff.mp ran
    split at answered
    · obtain rfl := Option.some.inj answered
      exact ⟨rfl,.refl _⟩
    · obtain ⟨shared,acked,rfl⟩ := Option.map_eq_some_iff.mp answered
      exact ⟨rfl,onOrderBookAck_sequences acked⟩
  · obtain ⟨account,_,rfl⟩ := Option.map_eq_some_iff.mp ran
    exact ⟨rfl,.refl _⟩

-- What one event of the gateway does to the subscriptions of the stream at `index`.
inductive Touched (config : GatewayConfig) (g : Gateway Y Q S B E D R) (event : GatewayEvent B)
    (after : Gateway Y Q S B E D R) (index : Nat) : Option (MarketData Q) → Option (MarketData Q) → Prop where
  | absent : Unconcerned index (receive event g).shared.log after.shared.log →
      Touched config g event after index none none
  | created : Fresh index stream → Unconcerned index (receive event g).shared.log after.shared.log →
      Touched config g event after index none (some stream)
  | moved : event = .marketData index happened →
      Moved config ⟨stream,(receive event g).shared⟩ happened ⟨later,after.shared⟩ →
      Touched config g event after index (some stream) (some later)
  | updated : event = .symbolsUpdate symbols →
      Carries ⟨stream,{(receive event g).shared with symbols := (Symbols.update symbols g.shared.symbols).2}⟩
        ⟨later,after.shared⟩ fresh [] →
      Stays ⟨stream,g.shared⟩ ⟨later,after.shared⟩ →
      fresh.map pair = wanted config (Symbols.update symbols g.shared.symbols).1.2
        ⟨stream,{g.shared with symbols := (Symbols.update symbols g.shared.symbols).2}⟩ →
      Touched config g event after index (some stream) (some later)
  | apart : (∀ symbols, event ≠ .symbolsUpdate symbols) → (∀ happened, event ≠ .marketData index happened) →
      Unconcerned index (receive event g).shared.log after.shared.log →
      Touched config g event after index (some stream) (some stream)

theorem onMarketData_touched {g after : Gateway Y Q S B E D R} (indexed : Indexed g.marketData)
    (ran : step config g (.marketData i happened) = some after) (index : Nat) :
    Touched config g (.marketData i happened) after index g.marketData[index]? after.marketData[index]? := by
  rcases step_marketData config ran with ⟨absent,rfl⟩ | ⟨stream,c,present,stepped,rfl⟩
  · by_cases own : index = i
    · subst own
      simp only [receive,absent]
      exact .absent (.refl _ _)
    · cases present : g.marketData[index]? with
      | none =>
          simp only [receive,present]
          exact .absent (.refl _ _)
      | some stream =>
          simp only [receive,present]
          refine .apart nofun ?_ (.refl _ _)
          intro other same
          cases same
          exact own rfl
  · have moved := step_moved stepped
    by_cases own : index = i
    · subst own
      have bound : index < g.marketData.length := (List.getElem?_eq_some_iff.mp present).1
      simp only [present,List.getElem?_set_self bound]
      exact .moved rfl moved
    · have quiet : Unconcerned index (receive (.marketData i happened) g).shared.log c.shared.log := by
        obtain ⟨fresh,handed,passes⟩ := moved.passes
        refine passes.others index ?_
        rw [indexed i stream present]
        exact own
      simp only [List.getElem?_set_ne (Ne.symm own)]
      cases known : g.marketData[index]? with
      | none => exact .absent quiet
      | some another =>
          refine .apart nofun ?_ quiet
          intro other same
          cases same
          exact own rfl

-- The streams there are after an update: those of before and the new ones.
structure Ensured (size : Nat) (g after : Gateway Y Q S B E D R) : Prop where
  streams : ∃ fresh : List (MarketData Q), after.marketData = g.marketData ++ fresh ∧
    ∀ (i : Nat) stream, fresh[i]? = some stream → Fresh (g.marketData.length + i) stream
  length : after.marketData.length = max g.marketData.length size
  sequences : Sequences g.shared after.shared

end handlers

theorem ensureSymbolSlices_ensured [LawfulLimitQueue Q] (size : Nat) (g : Gateway Y Q S B E D R) :
    Ensured size g (Controller.ensureSymbolSlices size g) := by
  obtain ⟨fresh,streams,length,each,sequences⟩ := createStreams_fresh (size - g.marketData.length) g
  refine ⟨⟨fresh,streams,each⟩,?_,sequences⟩
  have total : (Controller.ensureSymbolSlices size g).marketData.length = g.marketData.length + fresh.length :=
    (congrArg List.length streams).trans List.length_append
  omega

theorem Ensured.indexed {g after : Gateway Y Q S B E D R} (ensured : Ensured size g after) (indexed : Indexed g.marketData) :
    Indexed after.marketData := by
  obtain ⟨fresh,streams,each⟩ := ensured.streams
  intro i stream found
  rw [streams] at found
  by_cases old : i < g.marketData.length
  · rw [List.getElem?_append_left old] at found
    exact indexed i stream found
  · rw [List.getElem?_append_right (by omega)] at found
    have created := (each _ _ found).index
    omega

variable [LawfulLimitQueue Q] [Symbols Y]

-- A stream of before gets its part of the update.
theorem Ensured.carries {start middle : Gateway Y Q S B E D R} {index : Nat} (ensured : Ensured size start middle)
    (config : GatewayConfig) (indexed : Indexed start.marketData) (startFrom : Nat) (present : start.marketData[index]? = some stream) :
    ∃ later fresh, (Controller.subscribeStreams config startFrom middle.marketData middle.shared).1[index]? = some later ∧
      Carries ⟨stream,start.shared⟩
        ⟨later,(Controller.subscribeStreams config startFrom middle.marketData middle.shared).2⟩ fresh [] ∧
      Stays ⟨stream,start.shared⟩ ⟨later,(Controller.subscribeStreams config startFrom middle.marketData middle.shared).2⟩ ∧
      fresh.map pair = wanted config startFrom ⟨stream,start.shared⟩ := by
  obtain ⟨_,_,_,each⟩ := subscribeStreams_carries config startFrom middle.marketData middle.shared 0
    (fun i stream found => (ensured.indexed indexed i stream found).trans (Nat.zero_add i).symm)
  obtain ⟨_,streams,_⟩ := ensured.streams
  have kept : middle.marketData[index]? = some stream := by
    rw [streams,List.getElem?_append_left (List.getElem?_eq_some_iff.mp present).1]
    exact present
  obtain ⟨later,fresh,found,carries,stays,pairs⟩ := each index stream kept
  refine ⟨later,fresh,found,carries.before ensured.sequences.symbols (ensured.sequences.log _),⟨stays.status,stays.welcome⟩,?_⟩
  rw [pairs]
  simp only [wanted,ensured.sequences.symbols]

-- A new one is not READY and gets nothing yet.
theorem Ensured.created {start middle : Gateway Y Q S B E D R} {index : Nat} (ensured : Ensured size start middle)
    (config : GatewayConfig) (indexed : Indexed start.marketData) (startFrom : Nat) (missing : start.marketData[index]? = none) :
    Unconcerned index start.shared.log
      (Controller.subscribeStreams config startFrom middle.marketData middle.shared).2.log ∧
    ((Controller.subscribeStreams config startFrom middle.marketData middle.shared).1[index]? = none ∨
      ∃ later, (Controller.subscribeStreams config startFrom middle.marketData middle.shared).1[index]? = some later ∧
        Fresh index later) := by
  obtain ⟨_,others,length,each⟩ := subscribeStreams_carries config startFrom middle.marketData middle.shared 0
    (fun i stream found => (ensured.indexed indexed i stream found).trans (Nat.zero_add i).symm)
  obtain ⟨_,streams,created⟩ := ensured.streams
  have beyond : start.marketData.length ≤ index := List.getElem?_eq_none_iff.mp missing
  have before := ensured.sequences.log index
  cases known : middle.marketData[index]? with
  | none =>
      have outside : middle.marketData.length ≤ index := List.getElem?_eq_none_iff.mp known
      refine ⟨before.trans (others index (by omega)),.inl ?_⟩
      exact List.getElem?_eq_none_iff.mpr (by omega)
  | some stream =>
      have new : Fresh index stream := by
        have at_end := known
        rw [streams,List.getElem?_append_right beyond] at at_end
        have fresh := created _ _ at_end
        rwa [Nat.add_sub_cancel' beyond] at fresh
      obtain ⟨later,fresh,found,carries,stays,pairs⟩ := each index stream known
      have idle : MarketData.isReady stream = false := by simp [MarketData.isReady,new.status]
      have nothing : fresh = [] := by
        simpa [wanted,idle] using pairs
      subst nothing
      have same := carries.items
      rw [List.nil_append,List.append_nil] at same
      refine ⟨before.trans ⟨?_,?_,?_,?_,carries.forwarded⟩,.inr ⟨later,found,?_,?_,?_,?_⟩⟩
      · have queued := carries.queued
        rwa [List.append_nil,new.index] at queued
      · have sent := carries.sent
        rwa [List.append_nil,new.index] at sent
      · have queued := carries.everQueued
        rwa [List.append_nil,new.index] at queued
      · have sent := carries.everSent
        rwa [List.append_nil,new.index] at sent
      · exact carries.index.trans new.index
      · exact stays.status.trans new.status
      · exact stays.welcome.trans new.welcome
      · exact same.trans new.items

-- The symbols are listed, then the streams are created, then they subscribe.
def listing (symbols : List String) (g : Gateway Y Q S B E D R) : Gateway Y Q S B E D R :=
  {receive (.symbolsUpdate symbols) g with shared.symbols := (Symbols.update symbols g.shared.symbols).2}

def ensuring (symbols : List String) (g : Gateway Y Q S B E D R) : Gateway Y Q S B E D R :=
  Controller.ensureSymbolSlices (Symbols.update symbols g.shared.symbols).1.1 (listing symbols g)

omit [LawfulLimitQueue Q] in
theorem onSymbolsUpdate_parts (symbols : List String) (g : Gateway Y Q S B E D R) :
    Controller.onSymbolsUpdate config symbols (receive (.symbolsUpdate symbols) g) =
      {ensuring symbols g with
        marketData := (Controller.subscribeStreams config (Symbols.update symbols g.shared.symbols).1.2
          (ensuring symbols g).marketData (ensuring symbols g).shared).1
        shared := (Controller.subscribeStreams config (Symbols.update symbols g.shared.symbols).1.2
          (ensuring symbols g).marketData (ensuring symbols g).shared).2} := rfl

theorem ensuring_ensured (symbols : List String) (g : Gateway Y Q S B E D R) :
    Ensured (Symbols.update symbols g.shared.symbols).1.1 (listing symbols g) (ensuring symbols g) :=
  ensureSymbolSlices_ensured _ _

theorem onSymbolsUpdate_touched {g : Gateway Y Q S B E D R} (indexed : Indexed g.marketData) (symbols : List String)
    (index : Nat) : Touched config g (.symbolsUpdate symbols)
      (Controller.onSymbolsUpdate config symbols (receive (.symbolsUpdate symbols) g)) index g.marketData[index]?
      (Controller.onSymbolsUpdate config symbols (receive (.symbolsUpdate symbols) g)).marketData[index]? := by
  have ensured := ensuring_ensured symbols g
  rw [onSymbolsUpdate_parts]
  cases known : g.marketData[index]? with
  | none =>
      obtain ⟨quiet,outcome⟩ := ensured.created config indexed (Symbols.update symbols g.shared.symbols).1.2 known
      rcases outcome with missing | ⟨later,found,fresh⟩
      · simp only [missing]
        exact .absent quiet
      · simp only [found]
        exact .created fresh quiet
  | some stream =>
      obtain ⟨later,fresh,found,carries,stays,pairs⟩ := ensured.carries config indexed
        (Symbols.update symbols g.shared.symbols).1.2 known
      simp only [found]
      exact .updated rfl carries ⟨stays.status,stays.welcome⟩ pairs

variable [Sequencer S B] [Download2 E OrderEntryREST.State] [Download2 D DropCopy.State] [LimitRequest R]

theorem step_touched {g after : Gateway Y Q S B E D R} (indexed : Indexed g.marketData)
    (ran : step config g event = some after) (index : Nat) :
    Touched config g event after index g.marketData[index]? after.marketData[index]? := by
  cases event with
  | symbolsUpdate symbols =>
      obtain rfl := Option.some.inj ran
      exact onSymbolsUpdate_touched indexed symbols index
  | marketData i happened => exact onMarketData_touched indexed ran index
  | account event granted book =>
      obtain ⟨streams,sequences⟩ := onAccount_sequences ran
      have same : after.marketData[index]? = g.marketData[index]? := congrArg (·[index]?) streams
      rw [same]
      cases g.marketData[index]? with
      | none => exact .absent (sequences.log index)
      | some stream => exact .apart nofun nofun (sequences.log index)

theorem step_indexed {g after : Gateway Y Q S B E D R} (indexed : Indexed g.marketData)
    (ran : step config g event = some after) : Indexed after.marketData := by
  intro index stream found
  have touched := step_touched indexed ran index
  rw [found] at touched
  cases known : g.marketData[index]? with
  | none =>
      rw [known] at touched
      cases touched with
      | created fresh => exact fresh.index
  | some earlier =>
      have own := indexed index earlier known
      rw [known] at touched
      cases touched with
      | moved _ moved =>
          obtain ⟨fresh,handed,passes⟩ := moved.passes
          exact passes.index.trans own
      | updated _ carries => exact carries.index.trans own
      | apart => exact own

theorem step_hands {g after : Gateway Y Q S B E D R} (indexed : Indexed g.marketData)
    (hands : ∀ index : Nat, Hands index g.marketData[index]? g.shared.log) (ran : step config g event = some after) (index : Nat) :
    Hands index after.marketData[index]? after.shared.log := by
  have known : Hands index g.marketData[index]? (receive event g).shared.log := (hands index).log rfl rfl
  have touched := step_touched indexed ran index
  have own := indexed index
  generalize g.marketData[index]? = earlier at known touched own
  generalize after.marketData[index]? = later at touched
  cases touched with
  | absent quiet => exact known.log quiet.everQueued quiet.everSent
  | created fresh quiet =>
      refine ⟨fresh.index,?_⟩
      rw [quiet.everQueued,quiet.everSent,known.1,known.2,fresh.items]
      rfl
  | moved _ moved =>
      obtain ⟨fresh,handed,passes⟩ := moved.passes
      obtain rfl := own _ rfl
      exact passes.toCarries.hands known
  | updated _ carries =>
      obtain rfl := own _ rfl
      exact carries.hands known
  | apart _ _ quiet => exact known.log quiet.everQueued quiet.everSent

-- And to the list of the symbols and the number of the streams.
theorem step_symbols {g after : Gateway Y Q S B E D R} (indexed : Indexed g.marketData)
    (ran : step config g event = some after) :
    (∃ symbols, event = .symbolsUpdate symbols ∧ after.shared.symbols = (Symbols.update symbols g.shared.symbols).2 ∧
      after.marketData.length = max g.marketData.length (Symbols.update symbols g.shared.symbols).1.1 ∧
      forwardedIn after.shared.log = forwardedIn g.shared.log ++ symbols) ∨
    (∀ symbols, event ≠ .symbolsUpdate symbols) ∧ after.shared.symbols = g.shared.symbols ∧
      after.marketData.length = g.marketData.length ∧ forwardedIn after.shared.log = forwardedIn g.shared.log := by
  cases event with
  | symbolsUpdate symbols =>
      obtain rfl := Option.some.inj ran
      have ensured := ensuring_ensured symbols g
      obtain ⟨listed,others,length,_⟩ := subscribeStreams_carries config
        (Symbols.update symbols g.shared.symbols).1.2 (ensuring symbols g).marketData (ensuring symbols g).shared 0
        (fun i stream found => (ensured.indexed indexed i stream found).trans (Nat.zero_add i).symm)
      rw [onSymbolsUpdate_parts]
      refine .inl ⟨symbols,rfl,listed.trans ensured.sequences.symbols,length.trans ensured.length,?_⟩
      have last := others (ensuring symbols g).marketData.length (.inr (by omega))
      have before : forwardedIn (ensuring symbols g).shared.log = forwardedIn (listing symbols g).shared.log :=
        (ensured.sequences.log 0).forwarded
      have first : forwardedIn (listing symbols g).shared.log = forwardedIn g.shared.log ++ symbols := by
        simp [forwardedIn,listing,receive,forwardedEntry]
      exact last.forwarded.trans (before.trans first)
  | marketData i happened =>
      rcases step_marketData config ran with ⟨_,rfl⟩ | ⟨stream,c,_,stepped,rfl⟩
      · exact .inr ⟨nofun,rfl,rfl,rfl⟩
      · obtain ⟨fresh,handed,passes⟩ := (step_moved stepped).passes
        exact .inr ⟨nofun,passes.symbols,List.length_set,passes.forwarded⟩
  | account event granted book =>
      obtain ⟨streams,sequences⟩ := onAccount_sequences ran
      exact .inr ⟨nofun,sequences.symbols,congrArg List.length streams,(sequences.log 0).forwarded⟩

end KucoinPro.MarketMoves
