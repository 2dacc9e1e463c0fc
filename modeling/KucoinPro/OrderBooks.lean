import KucoinPro.MarketSystem

namespace KucoinPro.OrderBooks
open History

variable {Y S B E D R : Type} {Q : Type → Type} {config : GatewayConfig}

-- What is done to the sequencer of one symbol.
inductive Act (B : Type) where
  | operated (operation : Operation B)
  | cleared
  | erased

def act (symbol : String) : MarketEntry B → Option (Act B)
  | .effect (.operated s operation) => if s = symbol then some (.operated operation) else none
  | .effect (.cleared s) => if s = symbol then some .cleared else none
  | .effect (.erased symbols) => if symbol ∈ symbols then some .erased else none
  | _ => none

def acts (symbol : String) (log : List (MarketEntry B)) : List (Act B) := (log.filterMap (act symbol)).reverse

-- A snapshot was asked for, and none has been passed to the sequencer since.
def isRequested (symbol : String) : MarketEntry B → Bool
  | .effect (.requested s) => s == symbol
  | _ => false

def isSnapshot (symbol : String) : MarketEntry B → Bool
  | .effect (.operated s (.snapshot ..)) => s == symbol
  | _ => false

def owed (symbol : String) (log : List (MarketEntry B)) : Bool := (upTo (isSnapshot symbol) log).any (isRequested symbol)

def isBook : MarketEntry B → Bool
  | .effect (.operated ..) | .effect (.cleared _) | .effect (.erased _) | .effect (.requested _) => true
  | _ => false

-- Nothing that concerns an order book.
structure Quiet (before after : Shared Y Q S B) : Prop where
  queue : after.depthRequestQueue = before.depthRequestQueue
  sequencers : after.mbpSequencer = before.mbpSequencer
  log : after.log.filter isBook = before.log.filter isBook

theorem acts_effect (symbol : String) (effect : MarketEffect B) (log : List (MarketEntry B)) :
    acts symbol (.effect effect :: log) = acts symbol log ++ (act symbol (.effect effect)).toList := by
  unfold acts
  cases known : act symbol (.effect effect) with
  | none => rw [List.filterMap_cons_none known,Option.toList_none,List.append_nil]
  | some done => rw [List.filterMap_cons_some known,List.reverse_cons,Option.toList_some]

theorem owed_cons (symbol : String) (entry : MarketEntry B) (log : List (MarketEntry B)) :
    owed symbol (entry :: log) = (!isSnapshot symbol entry && (isRequested symbol entry || owed symbol log)) := by
  unfold owed
  cases cut : isSnapshot symbol entry with
  | true => rw [upTo_cut cut,List.any_nil,Bool.not_true,Bool.false_and]
  | false => rw [upTo_keep cut,List.any_cons,Bool.not_false,Bool.true_and]

theorem acts_filter (symbol : String) (log : List (MarketEntry B)) : acts symbol log = acts symbol (log.filter isBook) := by
  have only : ∀ entry : MarketEntry B, isBook entry = false → act symbol entry = none := by
    intro entry other
    cases entry with
    | event => rfl
    | effect effect => cases effect <;> first | rfl | cases other
  unfold acts
  congr 1
  induction log with
  | nil => rfl
  | cons entry rest ih =>
      cases book : isBook entry with
      | true =>
          rw [List.filter_cons_of_pos book,List.filterMap_cons,List.filterMap_cons,ih]
      | false =>
          rw [List.filter_cons_of_neg (by simp [book]),List.filterMap_cons_none (only entry book),ih]

theorem owed_filter (symbol : String) (log : List (MarketEntry B)) : owed symbol log = owed symbol (log.filter isBook) := by
  induction log with
  | nil => rfl
  | cons entry rest ih =>
      cases book : isBook entry with
      | true => rw [List.filter_cons_of_pos book,owed_cons,owed_cons,ih]
      | false =>
          have other : isSnapshot symbol entry = false ∧ isRequested symbol entry = false := by
            cases entry with
            | event => exact ⟨rfl,rfl⟩
            | effect effect => cases effect <;> first | exact ⟨rfl,rfl⟩ | cases book
          rw [List.filter_cons_of_neg (by simp [book]),owed_cons,other.1,other.2]
          simpa using ih

namespace Quiet

theorem refl (shared : Shared Y Q S B) : Quiet shared shared := ⟨rfl,rfl,rfl⟩

theorem trans {a b c : Shared Y Q S B} (one : Quiet a b) (two : Quiet b c) : Quiet a c :=
  ⟨two.queue.trans one.queue,two.sequencers.trans one.sequencers,two.log.trans one.log⟩

theorem emit (shared : Shared Y Q S B) (silent : isBook (.effect e : MarketEntry B) = false) :
    Quiet shared (shared.emit e) := ⟨rfl,rfl,List.filter_cons_of_neg (by simp [silent])⟩

theorem acts {before after : Shared Y Q S B} (quiet : Quiet before after) (symbol : String) :
    OrderBooks.acts symbol after.log = OrderBooks.acts symbol before.log := by
  rw [acts_filter,quiet.log,← acts_filter]

theorem owed {before after : Shared Y Q S B} (quiet : Quiet before after) (symbol : String) :
    OrderBooks.owed symbol after.log = OrderBooks.owed symbol before.log := by
  rw [owed_filter,quiet.log,← owed_filter]

theorem foldl {step : Feed Y Q S B → α → Feed Y Q S B} (each : ∀ c x, Quiet c.shared (step c x).shared) (xs : List α)
    (c : Feed Y Q S B) : Quiet c.shared (xs.foldl step c).shared := by
  induction xs generalizing c with
  | nil => exact .refl _
  | cons x rest ih => exact (each c x).trans (ih (step c x))

end Quiet

-- The streams: nothing but increments and disconnects concerns the order books.

variable [LimitQueue Q]

theorem subscribeTopic_quiet (topic : Topic) (symbols : List String) (c : Feed Y Q S B) :
    Quiet c.shared (MarketData.subscribeTopic topic symbols c).shared :=
  .foldl (fun _ _ => .emit _ rfl) symbols c

theorem subscribe_quiet [Symbols Y] (startFrom : Nat) (c : Feed Y Q S B) :
    Quiet c.shared (MarketData.subscribe config startFrom c).shared := by
  unfold MarketData.subscribe
  split
  · unfold MarketData.subscribeSymbols
    split
    · exact .refl _
    · have first : ∀ c : Feed Y Q S B, Quiet c.shared (if config.market.miscTopOfBookFromTicker = true
            then MarketData.subscribeTopic ⟨API.ticker,none⟩ (Symbols.getSlice c.stream.index startFrom c.shared.symbols) c
            else MarketData.subscribeTopic ⟨API.obu,some "1"⟩
              (Symbols.getSlice c.stream.index startFrom c.shared.symbols) c).shared := by
        intro c
        split
        · exact subscribeTopic_quiet _ _ c
        · exact subscribeTopic_quiet _ _ c
      have second := (first c).trans (subscribeTopic_quiet ⟨API.trade,none⟩
        (Symbols.getSlice c.stream.index startFrom c.shared.symbols) _)
      dsimp only
      split
      · exact second.trans (subscribeTopic_quiet _ _ _)
      · exact second
  · exact .refl _

theorem subscribeStreams_quiet [Symbols Y] (startFrom : Nat) (streams : List (MarketData Q)) (shared : Shared Y Q S B) :
    Quiet shared (Controller.subscribeStreams config startFrom streams shared).2 := by
  induction streams generalizing shared with
  | nil => exact .refl _
  | cons stream rest ih =>
      have one : Quiet shared (MarketData.subscribe config startFrom ⟨stream,shared⟩).shared := subscribe_quiet _ ⟨stream,shared⟩
      exact one.trans (ih _)

theorem onTimer_quiet (t : TraceInfo) (now : Nanoseconds) (refresh : Bool) (granted : Nat) (c : Feed Y Q S B) :
    Quiet c.shared (MarketData.onTimer config t now refresh granted c).shared := by
  have sends : ∀ c : Feed Y Q S B, Quiet c.shared (MarketData.checkSubscribeQueue t granted c).shared := by
    intro c
    have sent : ∀ (c : Feed Y Q S B) message, Quiet c.shared (MarketData.sendSubscription c message).shared :=
      fun _ _ => .emit _ rfl
    unfold MarketData.checkSubscribeQueue
    generalize LimitQueue.dispatch t granted c.stream.subscribeQueue = dispatched
    obtain ⟨messages,queue⟩ := dispatched
    exact Quiet.foldl sent messages {c with stream.subscribeQueue := queue}
  unfold MarketData.onTimer
  split
  · split
    · dsimp only
      split
      · have pinged : Quiet c.shared (MarketData.sendPing config now c).shared := .emit _ rfl
        exact pinged.trans (sends _)
      · exact sends c
    · exact .refl _
  · split
    · exact .emit _ rfl
    · exact .refl _

-- The sequencers of all streams are gone, and nothing else has changed.
structure Erased (before after : Shared Y Q S B) : Prop where
  queue : after.depthRequestQueue = before.depthRequestQueue
  sequencers : after.mbpSequencer = ∅
  log : after.log.filter isBook = .effect (.erased before.mbpSequencer.keys) :: before.log.filter isBook

-- What a message asks of its sequencer, whatever the buffer held before it.
def updateOf (data : Json.OBUData) (book : B) : Operation B :=
  .update (data.bids.map MarketData.mbpUpdate) (data.asks.map MarketData.mbpUpdate) data.startSequence data.endSequence
    (MarketData.previousSequence data.startSequence) book

def snapshotOf (data : Json.OrderBookAckData) (book : B) : Operation B :=
  .snapshot (data.bids.map OrderEntryREST.mbpUpdate) (data.asks.map OrderEntryREST.mbpUpdate) data.sequence book

omit [LimitQueue Q] in
theorem filled_quiet (bids asks : List MBPUpdate) (shared : Shared Y Q S B) :
    Quiet shared (shared.getMbp.fillMbp bids asks) := ⟨rfl,rfl,rfl⟩

-- What one event of a stream does to the order books.
inductive Booked [Sequencer S B] (config : GatewayConfig) (c : Feed Y Q S B) : MarketDataEvent B → Shared Y Q S B → Prop where
  | sequenced : obu.depth = .increment →
      (c.shared.getMbp.fillMbp (obu.data.bids.map MarketData.mbpUpdate) (obu.data.asks.map MarketData.mbpUpdate)).sequence
        config obu.data.symbol (updateOf obu.data book) (MarketData.publish config c.stream obu.data) = some after →
      Booked config c (.obu t obu book) after
  | erased : Erased c.shared after → Booked config c (.disconnected t) after
  | quiet : (∀ t, event ≠ .disconnected t) → (∀ t obu book, event = .obu t obu book → obu.depth ≠ .increment) →
      Quiet c.shared after → Booked config c event after

omit [LimitQueue Q] in
theorem onDisconnected_erased (c : Feed Y Q S B) : Erased c.shared (MarketData.onDisconnected c).shared := by
  refine ⟨rfl,rfl,?_⟩
  have published : Quiet c.shared (MarketData.onConnectionStatus .disconnected c).shared := .emit _ rfl
  have filtered : (MarketData.onDisconnected c).shared.log.filter isBook =
      .effect (.erased c.shared.mbpSequencer.keys) :: (MarketData.onConnectionStatus .disconnected c).shared.log.filter isBook :=
    List.filter_cons_of_pos rfl
  rw [filtered,published.log]

theorem step_booked [Symbols Y] [Sequencer S B]
    {c after : Feed Y Q S B} {event : MarketDataEvent B} (ran : MarketData.step config c event = some after) :
    Booked config c event after.shared := by
  cases event with
  | timer t now refresh granted =>
      obtain rfl := Option.some.inj ran
      exact .quiet nofun nofun (onTimer_quiet t now refresh granted c)
  | connected t =>
      obtain rfl := Option.some.inj ran
      exact .quiet nofun nofun (.refl _)
  | disconnected t =>
      obtain rfl := Option.some.inj ran
      exact .erased (onDisconnected_erased c)
  | welcome t =>
      obtain rfl := Option.some.inj ran
      have status : Quiet c.shared (MarketData.onConnectionStatus .ready {c with stream.welcome := true}).shared := .emit _ rfl
      exact .quiet nofun nofun (status.trans (subscribe_quiet 0 _))
  | ticker t ticker =>
      obtain rfl := Option.some.inj ran
      exact .quiet nofun nofun (.emit _ rfl)
  | trade t trade =>
      obtain rfl := Option.some.inj ran
      exact .quiet nofun nofun (.emit _ rfl)
  | obu t obu book =>
      have running : MarketData.onOBU config obu book c = some after := ran
      unfold MarketData.onOBU at running
      cases depth : obu.depth with
      | undefinedInternal | unknownInternal =>
          rw [depth] at running
          cases running
      | one =>
          rw [depth] at running
          obtain rfl := Option.some.inj running
          refine .quiet nofun ?_ (.emit _ rfl)
          intro t' obu' book' same
          cases same
          rw [depth]
          nofun
      | increment =>
          rw [depth] at running
          obtain ⟨shared,sequenced,rfl⟩ := Option.map_eq_some_iff.mp running
          exact .sequenced depth sequenced
  | logged =>
      obtain rfl := Option.some.inj ran
      exact .quiet nofun nofun (.refl _)
  | unexpected => cases ran

theorem createStreams_quiet (count : Nat) (g : Gateway Y Q S B E D R) :
    Quiet g.shared (Controller.createStreams count g).shared := by
  induction count generalizing g with
  | zero => exact .refl _
  | succ count ih =>
      have one : Quiet g.shared (Controller.createMarketData g).shared := .emit _ rfl
      exact one.trans (ih _)

theorem onSymbolsUpdate_quiet [Symbols Y] (symbols : List String) (g : Gateway Y Q S B E D R) :
    Quiet g.shared (Controller.onSymbolsUpdate config symbols g).shared := by
  have listed : Quiet g.shared {g.shared with symbols := (Symbols.update symbols g.shared.symbols).2} := ⟨rfl,rfl,rfl⟩
  have created := createStreams_quiet ((Symbols.update symbols g.shared.symbols).1.1 - g.marketData.length)
    {g with shared.symbols := (Symbols.update symbols g.shared.symbols).2}
  exact (listed.trans created).trans (subscribeStreams_quiet _ _ _)

-- One sequencer: what it holds for a symbol, and what was done to it.
structure View (S B : Type) where
  entry : Option S
  acts : List (Act B)

def view (symbol : String) (shared : Shared Y Q S B) : View S B := ⟨shared.mbpSequencer.lookup symbol,acts symbol shared.log⟩

namespace View

def operate [Sequencer S B] (operation : Operation B) (v : View S B) : View S B :=
  let sequenced := Sequencer.operate operation (v.entry.getD Sequencer.create)
  if sequenced.badState then ⟨some (Sequencer.clear sequenced.sequencer),v.acts ++ [.operated operation,.cleared]⟩
  else ⟨some sequenced.sequencer,v.acts ++ [.operated operation]⟩

def erase (v : View S B) : View S B :=
  match v.entry with
  | none => v
  | some _ => ⟨none,v.acts ++ [.erased]⟩

end View

omit [LimitQueue Q] in
theorem Quiet.view {before after : Shared Y Q S B} (quiet : Quiet before after) (symbol : String) :
    OrderBooks.view symbol after = OrderBooks.view symbol before := by
  unfold OrderBooks.view
  rw [quiet.sequencers,quiet.acts]

omit [LimitQueue Q] in
theorem Erased.view {before after : Shared Y Q S B} (erased : Erased before after) (symbol : String) :
    OrderBooks.view symbol after = (OrderBooks.view symbol before).erase := by
  have done : acts symbol after.log = acts symbol before.log ++
      (act symbol (.effect (.erased before.mbpSequencer.keys) : MarketEntry B)).toList := by
    rw [acts_filter,erased.log,acts_effect,← acts_filter]
  have gone : after.mbpSequencer.lookup symbol = none := by rw [erased.sequencers,AList.lookup_empty]
  unfold OrderBooks.view View.erase
  rw [done,gone]
  cases entry : before.mbpSequencer.lookup symbol with
  | none =>
      have missing : symbol ∉ before.mbpSequencer.keys := AList.lookup_eq_none.mp entry
      simp [act,missing]
  | some sequencer =>
      have present : symbol ∈ before.mbpSequencer.keys := by
        apply AList.mem_keys.mpr
        apply AList.lookup_isSome.mp
        rw [entry]
        rfl
      simp [act,present]

-- The callbacks of one sequencer: they ask for its symbol, if for any.
structure Calls (symbol : String) (before after : Shared Y Q S B) : Prop where
  sequencers : after.mbpSequencer = before.mbpSequencer
  acts : ∀ other, acts other after.log = acts other before.log
  kept : ∀ other ∈ LimitQueue.items before.depthRequestQueue, other ∈ LimitQueue.items after.depthRequestQueue
  fresh : ∀ other ∈ LimitQueue.items after.depthRequestQueue,
    other ∈ LimitQueue.items before.depthRequestQueue ∨ other = symbol
  others : ∀ other, other ≠ symbol → owed other after.log = owed other before.log
  own : owed symbol after.log = true → owed symbol before.log = true ∨ symbol ∈ LimitQueue.items after.depthRequestQueue

namespace Calls

theorem refl (symbol : String) (shared : Shared Y Q S B) : Calls symbol shared shared :=
  ⟨rfl,fun _ => rfl,fun _ => id,fun _ => .inl,fun _ _ => rfl,.inl⟩

theorem trans {a b c : Shared Y Q S B} (one : Calls symbol a b) (two : Calls symbol b c) : Calls symbol a c := by
  refine ⟨two.sequencers.trans one.sequencers,fun other => (two.acts other).trans (one.acts other),
    fun other inside => two.kept other (one.kept other inside),?_,
    fun other differs => (two.others other differs).trans (one.others other differs),?_⟩
  · intro other inside
    rcases two.fresh other inside with earlier | same
    · exact one.fresh other earlier
    · exact .inr same
  · intro due
    rcases two.own due with earlier | queued
    · exact (one.own earlier).imp_right (two.kept symbol)
    · exact .inr queued

theorem quiet {before after : Shared Y Q S B} (quiet : Quiet before after) : Calls symbol before after := by
  refine ⟨quiet.sequencers,quiet.acts,?_,?_,fun other _ => quiet.owed other,?_⟩
  · rw [quiet.queue]
    exact fun _ => id
  · rw [quiet.queue]
    exact fun _ => .inl
  · rw [quiet.owed]
    exact .inl

theorem requestDepth [LawfulLimitQueue Q]
    (symbol : String) (shared : Shared Y Q S B) : Calls symbol shared (shared.requestDepth symbol) := by
  have queued : LimitQueue.items (shared.requestDepth symbol).depthRequestQueue =
      LimitQueue.items shared.depthRequestQueue ++ [symbol] := LawfulLimitQueue.emplaceBack_items _ _
  have member : ∀ other, other ∈ LimitQueue.items (shared.requestDepth symbol).depthRequestQueue ↔
      other ∈ LimitQueue.items shared.depthRequestQueue ∨ other = symbol := by
    intro other
    rw [queued,List.mem_append,List.mem_singleton]
  refine ⟨rfl,?_,?_,?_,?_,?_⟩
  · intro other
    exact (acts_effect other _ _).trans (List.append_nil _)
  · intro other inside
    exact (member other).mpr (.inl inside)
  · intro other inside
    exact (member other).mp inside
  · intro other differs
    have not_asked : isRequested other (.effect (.requested symbol) : MarketEntry B) = false :=
      beq_eq_false_iff_ne.mpr (Ne.symm differs)
    exact (owed_cons other _ _).trans (by rw [not_asked]; rfl)
  · intro _
    exact .inr ((member symbol).mpr (.inr rfl))

end Calls

theorem called_calls [LawfulLimitQueue Q] {shared after : Shared Y Q S B} (called : Shared.Called symbol publish shared after) :
    Calls symbol shared after := by
  cases called with
  | asked => exact .requestDepth symbol shared
  | silent => exact .refl symbol shared
  | published => exact .quiet (.emit _ rfl)

theorem callbacks_calls [LawfulLimitQueue Q] {shared after : Shared Y Q S B} (calls : List SequencerCall)
    (ran : calls.foldlM (Shared.callback config symbol publish) shared = some after) : Calls symbol shared after :=
  Shared.callbacks_related config (.refl symbol) (fun _ _ _ => .trans) (fun _ _ => called_calls) calls ran

-- One call of the sequencer of a symbol.
structure Sequences [Sequencer S B] (symbol : String) (operation : Operation B) (before after : Shared Y Q S B) : Prop where
  view : view symbol after = (view symbol before).operate operation
  others : ∀ other, other ≠ symbol → OrderBooks.view other after = OrderBooks.view other before
  kept : ∀ other ∈ LimitQueue.items before.depthRequestQueue, other ∈ LimitQueue.items after.depthRequestQueue
  fresh : ∀ other ∈ LimitQueue.items after.depthRequestQueue,
    other ∈ LimitQueue.items before.depthRequestQueue ∨ other = symbol
  apart : ∀ other, other ≠ symbol → owed other after.log = owed other before.log
  own : owed symbol after.log = true → owed symbol (.effect (.operated symbol operation) :: before.log) = true ∨
    symbol ∈ LimitQueue.items after.depthRequestQueue

theorem Calls.view {before after : Shared Y Q S B} (calls : Calls symbol before after) (other : String) :
    OrderBooks.view other after = OrderBooks.view other before := by
  unfold OrderBooks.view
  rw [calls.sequencers,calls.acts]

omit [LimitQueue Q] in
theorem setSequencer_view (symbol : String) (sequencer : S) (shared : Shared Y Q S B) :
    view symbol (shared.setSequencer symbol sequencer) = ⟨some sequencer,acts symbol shared.log⟩ := by
  unfold view
  congr 1
  exact AList.lookup_insert _

omit [LimitQueue Q] in
theorem setSequencer_others (symbol : String) (sequencer : S) (shared : Shared Y Q S B) (other : String)
    (differs : other ≠ symbol) :
    view other (shared.setSequencer symbol sequencer) = view other shared := by
  unfold view
  congr 1
  exact AList.lookup_insert_ne differs

omit [LimitQueue Q] in
theorem emit_view (shared : Shared Y Q S B) (effect : MarketEffect B) (other : String) :
    view other (shared.emit effect) =
      ⟨(view other shared).entry,(view other shared).acts ++ (act other (.effect effect)).toList⟩ := by
  unfold view
  congr 1
  exact acts_effect other effect shared.log

-- The sequencer is called, and what it asks for is queued.
theorem operated_view {shared called : Shared Y Q S B} {sequenced : Sequenced S}
    (calls : Calls symbol ((shared.setSequencer symbol sequenced.sequencer).emit (.operated symbol operation)) called) :
    view symbol called = ⟨some sequenced.sequencer,acts symbol shared.log ++ [.operated operation]⟩ ∧
      ∀ other, other ≠ symbol → view other called = view other shared := by
  refine ⟨?_,?_⟩
  · rw [calls.view,emit_view,setSequencer_view]
    simp [act]
  · intro other differs
    rw [calls.view,emit_view,setSequencer_others symbol _ shared other differs]
    simp [act,Ne.symm differs]

theorem Sequences.before [Sequencer S B] {earlier before after : Shared Y Q S B} (quiet : Quiet earlier before)
    (sequences : Sequences symbol operation before after) : Sequences symbol operation earlier after := by
  refine ⟨?_,?_,?_,?_,?_,?_⟩
  · rw [sequences.view,quiet.view]
  · intro other differs
    rw [sequences.others other differs,quiet.view]
  · rw [← quiet.queue]
    exact sequences.kept
  · rw [← quiet.queue]
    exact sequences.fresh
  · intro other differs
    rw [sequences.apart other differs,quiet.owed]
  · rw [owed_cons,← quiet.owed,← owed_cons]
    exact sequences.own

variable [Sequencer S B] [LawfulLimitQueue Q]

theorem sequence_sequences {shared after : Shared Y Q S B}
    (ran : shared.sequence config symbol operation publish = some after) : Sequences symbol operation shared after := by
  unfold Shared.sequence at ran
  generalize same : Sequencer.operate operation ((shared.mbpSequencer.lookup symbol).getD Sequencer.create) = sequenced at ran
  obtain ⟨called,callbacks,rfl⟩ := Option.map_eq_some_iff.mp ran
  have calls := callbacks_calls _ callbacks
  obtain ⟨own,others⟩ := operated_view calls
  have entry : Sequencer.operate operation ((view symbol shared).entry.getD Sequencer.create) = sequenced := same
  have apart : ∀ other, other ≠ symbol → owed other called.log = owed other shared.log := by
    intro other differs
    have silent : isSnapshot other (.effect (.operated symbol operation) : MarketEntry B) = false := by
      cases operation <;> simp [isSnapshot,Ne.symm differs]
    have logged : owed other (.effect (.operated symbol operation) :: shared.log) = owed other shared.log := by
      rw [owed_cons,silent]
      rfl
    exact (calls.others other differs).trans logged
  cases bad : sequenced.badState with
  | false =>
      simp only [Bool.false_eq_true,if_false]
      refine ⟨?_,others,calls.kept,calls.fresh,apart,calls.own⟩
      rw [View.operate,entry,own]
      simp only [bad,Bool.false_eq_true,if_false]
      rfl
  | true =>
      simp only [if_true]
      -- BadState: the sequencer is cleared and a snapshot asked for
      generalize cleared : (called.setSequencer symbol (Sequencer.clear sequenced.sequencer)).emit (.cleared symbol) = reset
      have asks := Calls.requestDepth symbol reset
      have queue : LimitQueue.items reset.depthRequestQueue = LimitQueue.items called.depthRequestQueue := by
        subst cleared
        rfl
      refine ⟨?_,?_,?_,?_,?_,?_⟩
      · rw [asks.view,← cleared,emit_view,setSequencer_view,View.operate,entry]
        have done : acts symbol called.log = acts symbol shared.log ++ [.operated operation] := congrArg View.acts own
        simp [bad,act,done,view]
      · intro other differs
        rw [asks.view,← cleared,emit_view,setSequencer_others symbol _ called other differs,others other differs]
        simp [act,Ne.symm differs]
      · intro other inside
        exact asks.kept other (queue ▸ calls.kept other inside)
      · intro other inside
        rcases asks.fresh other inside with earlier | same
        · exact calls.fresh other (queue ▸ earlier)
        · exact .inr same
      · intro other differs
        have logged : owed other reset.log = owed other called.log := by
          subst cleared
          exact (owed_cons other _ _).trans rfl
        exact (asks.others other differs).trans (logged.trans (apart other differs))
      · intro _
        refine .inr ?_
        have added : LimitQueue.items (reset.requestDepth symbol).depthRequestQueue =
            LimitQueue.items reset.depthRequestQueue ++ [symbol] := LawfulLimitQueue.emplaceBack_items _ _
        rw [added]
        simp

open MarketSystem

omit [LimitQueue Q] [Sequencer S B] [LawfulLimitQueue Q] in
theorem receive_quiet (event : GatewayEvent B) (g : Gateway Y Q S B E D R) : Quiet g.shared (receive event g).shared :=
  ⟨rfl,rfl,rfl⟩

-- The timer hands out what it serves, and nothing else happens to the order books.
structure Polled (handed : List String) (before after : Shared Y Q S B) : Prop where
  items : handed ++ LimitQueue.items after.depthRequestQueue = LimitQueue.items before.depthRequestQueue
  sequencers : after.mbpSequencer = before.mbpSequencer
  log : after.log.filter isBook = before.log.filter isBook

-- Whether an event reaches a sequencer: with an increment of a stream, with its
-- disconnect, or with the answer of an order-book request.
def reaches (config : GatewayConfig) (g : Gateway Y Q S B E D R) : GatewayEvent B → Bool
  | .marketData index (.obu _ obu _) => g.marketData[index]?.isSome && obu.depth == .increment
  | .marketData index (.disconnected _) => g.marketData[index]?.isSome
  | .account (.rest (.response _ id response)) _ _ => (passedOn config id response g.account).isSome
  | _ => false

def isPoll : GatewayEvent B → Bool
  | .account (.rest (.timer ..)) _ _ => true
  | _ => false

variable [Download2 E OrderEntryREST.State] [Download2 D DropCopy.State] [LimitRequest R]

-- The account sees its own events, and no others.
def Steps (config : GatewayConfig) (g after : Gateway Y Q S B E D R) : GatewayEvent B → Prop
  | .account happened _ _ => AccountSystem.step config.account g.account happened = some after.account
  | _ => after.account = g.account

-- What one event of the gateway does to the order books.
inductive Recorded (config : GatewayConfig) (g after : Gateway Y Q S B E D R) : GatewayEvent B → Prop where
  | incremented {index : Nat} : g.marketData[index]?.isSome = true → obu.depth = .increment → after.account = g.account →
      Sequences obu.data.symbol (updateOf obu.data book) g.shared after.shared →
      Recorded config g after (.marketData index (.obu t obu book))
  | erased {index : Nat} : g.marketData[index]?.isSome = true → after.account = g.account → Erased g.shared after.shared →
      Recorded config g after (.marketData index (.disconnected t))
  | acked {id : Nat} {ack : Json.OrderBookAck} : passedOn config id response g.account = some ack →
      AccountSystem.step config.account g.account (.rest (.response t id response)) = some after.account →
      Sequences ack.data.symbol (snapshotOf ack.data book) g.shared after.shared →
      Recorded config g after (.account (.rest (.response t id response)) granted book)
  | polled : AccountSystem.step config.account g.account (.rest (.timer t refresh canRequest findOrder handed)) =
      some after.account → (OrderEntryREST.serving config.account refresh g.account = false → handed = []) →
      Polled handed g.shared after.shared →
      Recorded config g after (.account (.rest (.timer t refresh canRequest findOrder symbols)) granted book)
  | apart : reaches config g event = false → isPoll event = false → Steps config g after event → Quiet g.shared after.shared →
      Recorded config g after event

theorem onMarketData_recorded [Symbols Y]
    {g after : Gateway Y Q S B E D R} (ran : step config g (.marketData index event) = some after) :
    Recorded config g after (.marketData index event) := by
  have received : Quiet g.shared (receive (.marketData index event) g).shared := receive_quiet _ g
  rcases step_marketData config ran with ⟨absent,rfl⟩ | ⟨stream,c,found,stepped,rfl⟩
  · refine .apart ?_ rfl rfl received
    cases event <;> simp [reaches,absent]
  · have present : g.marketData[index]?.isSome = true := by
      rw [found]
      rfl
    cases step_booked stepped with
    | sequenced depth sequenced =>
        exact .incremented present depth rfl ((sequence_sequences sequenced).before (received.trans (filled_quiet _ _ _)))
    | erased erased => exact .erased present rfl ⟨erased.queue,erased.sequencers,erased.log⟩
    | quiet connected shallow quiet =>
        refine .apart ?_ rfl rfl (received.trans quiet)
        cases event with
        | obu t obu book => simp [reaches,shallow t obu book rfl]
        | disconnected t => exact absurd rfl (connected t)
        | _ => rfl

theorem onAccount_recorded {g after : Gateway Y Q S B E D R}
    (ran : onAccount config event granted book (receive (.account event granted book) g) = some after) :
    Recorded config g after (.account event granted book) := by
  unfold onAccount at ran
  split at ran
  · rename_i t refresh canRequest findOrder symbols
    cases served : OrderEntryREST.serving config.account refresh g.account with
    | true =>
        simp only [receive,served,if_true] at ran
        obtain ⟨account,stepped,rfl⟩ := Option.map_eq_some_iff.mp ran
        refine .polled stepped ?_ ⟨LawfulLimitQueue.dispatch_items t granted g.shared.depthRequestQueue,rfl,rfl⟩
        rw [served]
        nofun
    | false =>
        simp only [receive,served,Bool.false_eq_true,if_false] at ran
        obtain ⟨account,stepped,rfl⟩ := Option.map_eq_some_iff.mp ran
        exact .polled stepped (fun _ => rfl) ⟨rfl,rfl,rfl⟩
  · rename_i t id response
    obtain ⟨account,stepped,answered⟩ := Option.bind_eq_some_iff.mp ran
    cases passed : passedOn config id response g.account with
    | none =>
        simp only [receive,passed] at answered
        obtain rfl := Option.some.inj answered
        refine .apart ?_ rfl stepped ⟨rfl,rfl,rfl⟩
        rw [reaches,passed]
        rfl
    | some ack =>
        simp only [receive,passed] at answered
        obtain ⟨shared,sequenced,rfl⟩ := Option.map_eq_some_iff.mp answered
        exact .acked passed stepped ((sequence_sequences sequenced).before ((receive_quiet _ g).trans (filled_quiet _ _ _)))
  · rename_i timer answers
    obtain ⟨account,stepped,rfl⟩ := Option.map_eq_some_iff.mp ran
    refine .apart ?_ ?_ stepped ⟨rfl,rfl,rfl⟩
    · cases event with
      | dropCopy => rfl
      | rest happened =>
          cases happened with
          | response t id response => exact absurd rfl (answers t id response)
          | _ => rfl
    · cases event with
      | dropCopy => rfl
      | rest happened =>
          cases happened with
          | timer => exact absurd rfl (timer _ _ _ _ _)
          | _ => rfl

omit [Sequencer S B] [LawfulLimitQueue Q] [Download2 E OrderEntryREST.State] [Download2 D DropCopy.State] [LimitRequest R] in
theorem createStreams_account (count : Nat) (g : Gateway Y Q S B E D R) :
    (Controller.createStreams count g).account = g.account := by
  induction count generalizing g with
  | zero => rfl
  | succ count ih => exact ih (Controller.createMarketData g)

theorem step_recorded [Symbols Y] {g after : Gateway Y Q S B E D R} (ran : step config g event = some after) :
    Recorded config g after event := by
  cases event with
  | symbolsUpdate symbols =>
      obtain rfl := Option.some.inj ran
      have account : (Controller.onSymbolsUpdate config symbols (receive (.symbolsUpdate symbols) g)).account = g.account :=
        createStreams_account _ _
      exact .apart rfl rfl account ((receive_quiet _ g).trans (onSymbolsUpdate_quiet symbols _))
  | marketData index event => exact onMarketData_recorded ran
  | account event granted book => exact onAccount_recorded ran

end KucoinPro.OrderBooks
