import KucoinPro.MarketPublications
import KucoinPro.OrderBooks

namespace KucoinPro.SymbolBooks
open GuardedRuns ControllerSystem MarketPublications

variable {Y S B E D R : Type} {Q : Type → Type} {config : ControllerConfig}

-- The order book of one symbol by itself: its sequencer, if there is one, and all that has
-- been done with it, asked for it and published of it.
structure Book (S B : Type) where
  entry : Option S
  effects : List (MarketEffect B)

-- What it gets to hear: a message, or that the sequencers have been lost.
inductive Heard (B : Type) where
  | message (operation : Operation B) (publish : SequencerCall → Option MarketByPriceUpdate)
  | lost

def follow [Sequencer S B] (symbol : String) (book : Book S B) : Heard B → Book S B
  | .message operation publish =>
      let sequenced := Sequencer.operate operation (book.entry.getD Sequencer.create)
      ⟨some (if sequenced.badState then Sequencer.clear sequenced.sequencer else sequenced.sequencer),
        book.effects ++ sequenceEffects symbol operation publish sequenced⟩
  | .lost => {book with entry := none}

-- The part of the shared state that belongs to a symbol.

def about (symbol : String) : MarketEntry B → Option (MarketEffect B)
  | .effect (.operated s operation) => if s = symbol then some (.operated s operation) else none
  | .effect (.cleared s) => if s = symbol then some (.cleared s) else none
  | .effect (.requested s) => if s = symbol then some (.requested s) else none
  | .effect (.marketByPriceUpdate update) => if update.symbol = symbol then some (.marketByPriceUpdate update) else none
  | _ => none

def bookOf (symbol : String) (shared : Shared Y Q S B) : Book S B :=
  ⟨shared.mbpSequencer.lookup symbol,watched (about symbol) shared.log⟩

theorem about_blind (symbol : String) : Blind (about symbol : MarketEntry B → Option (MarketEffect B)) :=
  ⟨fun _ => rfl,fun _ => rfl,fun _ _ => rfl,fun _ _ => rfl,fun _ => rfl,fun _ => rfl⟩

-- A sequencer is given what publishes under its own symbol.
def Publishes (symbol : String) (publish : SequencerCall → Option MarketByPriceUpdate) : Prop :=
  ∀ call update, publish call = some update → update.symbol = symbol

theorem callEffect_about (publishes : Publishes symbol publish) (made : callEffect symbol publish call = some (e : MarketEffect B)) :
    (about symbol (.effect e) = some e) ∧ ∀ other, other ≠ symbol → about other (.effect e) = none := by
  cases call with
  | requestSnapshot =>
      obtain rfl := Option.some.inj made
      exact ⟨if_pos rfl,fun other differs => if_neg (Ne.symm differs)⟩
  | publishUpdate | publishSnapshot =>
      obtain ⟨update,published,rfl⟩ := Option.map_eq_some_iff.mp made
      have own := publishes _ _ published
      exact ⟨if_pos own,fun other differs => if_neg fun same => differs (same.symm.trans own)⟩

theorem seenOf_all {watch : MarketEntry B → Option (MarketEffect B)} {effects : List (MarketEffect B)}
    (all : ∀ e ∈ effects, watch (.effect e) = some e) : seenOf watch effects = effects := by
  unfold seenOf
  rw [List.filterMap_congr all,List.filterMap_some]

theorem seenOf_none {watch : MarketEntry B → Option (MarketEffect B)} {effects : List (MarketEffect B)}
    (none : ∀ e ∈ effects, watch (.effect e) = Option.none) : seenOf watch effects = [] := List.filterMap_eq_nil_iff.mpr none

theorem sequenceEffects_about (publishes : Publishes symbol publish) (operation : Operation B) (sequenced : Sequenced S) :
    ∀ e ∈ sequenceEffects symbol operation publish sequenced,
      about symbol (.effect e) = some e ∧ ∀ other, other ≠ symbol → about other (.effect e) = none := by
  intro e member
  rcases List.mem_cons.mp member with rfl | inside
  · exact ⟨if_pos rfl,fun other differs => if_neg (Ne.symm differs)⟩
  · rcases List.mem_append.mp inside with called | reset
    · obtain ⟨call,_,made⟩ := List.mem_filterMap.mp called
      exact callEffect_about publishes made
    · split at reset
      · rcases List.mem_cons.mp reset with rfl | last
        · exact ⟨if_pos rfl,fun other differs => if_neg (Ne.symm differs)⟩
        · obtain rfl := List.mem_singleton.mp last
          exact ⟨if_pos rfl,fun other differs => if_neg (Ne.symm differs)⟩
      · cases reset

-- A call of the sequencer of a symbol is a message to its book, and to no other.
theorem sequence_book [LimitQueue Q] [Sequencer S B]
    {feed : GatewayConfig} {shared after : Shared Y Q S B} (publishes : Publishes own publish)
    (ran : shared.sequence feed own operation publish = some after) (symbol : String) :
    bookOf symbol after =
      (if own = symbol then [Heard.message operation publish] else []).foldl (follow symbol) (bookOf symbol shared) := by
  have sequences : Sequences (about symbol) own operation publish shared after := sequence_sequences ran
  have effects := sequenceEffects_about publishes operation
    (Sequencer.operate operation ((shared.mbpSequencer.lookup own).getD Sequencer.create))
  by_cases same : own = symbol
  · subst same
    rw [if_pos rfl,List.foldl_cons,List.foldl_nil,bookOf,sequences.entry,sequences.seen,
      seenOf_all fun e member => (effects e member).1]
    rfl
  · rw [if_neg same,List.foldl_nil,bookOf,sequences.others symbol (Ne.symm same),sequences.seen,
      seenOf_none fun e member => (effects e member).2 symbol (Ne.symm same),List.append_nil]
    rfl

theorem bookOf_same {before after : Shared Y Q S B} (sequencers : after.mbpSequencer = before.mbpSequencer)
    (log : watched (about symbol) after.log = watched (about symbol) before.log) : bookOf symbol after = bookOf symbol before := by
  rw [bookOf,bookOf,sequencers,log]

-- What a visit of a stream, and an event, is to the book of a symbol.

def heardFrom (config : GatewayConfig) (symbol : String) (stream : MarketData Q) : MarketDataEvent B → List (Heard B)
  | .obu _ obu book =>
      if obu.depth = .increment ∧ obu.data.symbol = symbol
        then [.message (OrderBooks.updateOf obu.data book) (MarketData.publish config stream obu.data)] else []
  | .disconnected _ => [.lost]
  | _ => []

def heardBy (config : ControllerConfig) (symbol : String) (a : AccountStreams E D R) : AccountCall B → List (Heard B)
  | .response _ id response book =>
    match MarketSystem.passedOn (gatewayConfig config a) id response a.world with
    | none => []
    | some ack =>
        if ack.data.symbol = symbol
          then [.message (OrderBooks.snapshotOf ack.data book) (OrderEntryREST.publish (gatewayConfig config a) ack.data)] else []
  | _ => []

def heard (config : ControllerConfig) (symbol : String) (c : Controller Y Q S B E D R) : StreamEvent B → List (Heard B)
  | .marketData index event => (c.marketData[index]?).toList.flatMap fun stream => heardFrom config.feed symbol stream event
  | .account index call => (c.accounts[index]?).toList.flatMap fun a => heardBy config symbol a call
  | .orderEntryWs _ _ => []

def heardIn (config : ControllerConfig) (symbol : String) (c : Controller Y Q S B E D R) : ControllerEvent B → List (Heard B)
  | .callback event _ => heard config symbol c event
  | .timer _ _ _ | .request _ | .symbolsUpdate _ => []

theorem publish_own (feed : GatewayConfig) (stream : MarketData Q) (data : Json.OBUData) :
    Publishes data.symbol (MarketData.publish feed stream data) := by
  intro call update published
  cases call with
  | requestSnapshot => cases published
  | publishUpdate | publishSnapshot => exact Option.some.inj published ▸ rfl

theorem orderBook_own (feed : GatewayConfig) (data : Json.OrderBookAckData) :
    Publishes data.symbol (OrderEntryREST.publish feed data) := by
  intro call update published
  cases call with
  | publishSnapshot => exact Option.some.inj published ▸ rfl
  | publishUpdate | requestSnapshot => cases published

variable [LimitQueue Q] [Sequencer S B]

theorem step_book [Symbols Y] {feed : GatewayConfig} {c after : Feed Y Q S B} {event : MarketDataEvent B}
    (ran : MarketData.step feed c event = some after) (symbol : String) :
    bookOf symbol after.shared = (heardFrom feed symbol c.stream event).foldl (follow symbol) (bookOf symbol c.shared) := by
  cases event with
  | timer t now refresh granted =>
      obtain rfl := Option.some.inj ran
      exact bookOf_same (OrderBooks.onTimer_quiet t now refresh granted c).sequencers
        (onTimer_watched (about_blind symbol) t now refresh granted c)
  | connected t => exact Option.some.inj ran ▸ rfl
  | disconnected t =>
      obtain rfl := Option.some.inj ran
      have gone : (MarketData.onDisconnected c).shared.mbpSequencer.lookup symbol = none := AList.lookup_empty symbol
      have log : watched (about symbol) (MarketData.onDisconnected c).shared.log = watched (about symbol) c.shared.log :=
        (watched_other rfl _).trans (watched_other rfl _)
      rw [bookOf,gone,log]
      rfl
  | welcome t =>
      obtain rfl := Option.some.inj ran
      have status : OrderBooks.Quiet c.shared (MarketData.onConnectionStatus .ready {c with stream.welcome := true}).shared :=
        .emit _ rfl
      exact bookOf_same (status.trans (OrderBooks.subscribe_quiet 0 _)).sequencers (onWelcome_watched (about_blind symbol) c)
  | ticker t ticker => exact Option.some.inj ran ▸ bookOf_same rfl (watched_other rfl _)
  | trade t trade => exact Option.some.inj ran ▸ bookOf_same rfl (watched_other rfl _)
  | obu t obu book =>
      have running : MarketData.onOBU feed obu book c = some after := ran
      unfold MarketData.onOBU at running
      cases depth : obu.depth with
      | undefinedInternal | unknownInternal =>
          rw [depth] at running
          cases running
      | one =>
          rw [depth] at running
          obtain rfl := Option.some.inj running
          have shallow : ¬(obu.depth = .increment ∧ obu.data.symbol = symbol) := fun both => by
            rw [depth] at both
            cases both.1
          rw [heardFrom,if_neg shallow]
          exact bookOf_same rfl (watched_other rfl _)
      | increment =>
          rw [depth] at running
          obtain ⟨shared,sequenced,rfl⟩ := Option.map_eq_some_iff.mp running
          have told := sequence_book (publish_own feed c.stream obu.data) sequenced symbol
          rw [heardFrom]
          simp only [depth,true_and]
          exact told
  | logged => exact Option.some.inj ran ▸ rfl
  | unexpected => cases ran

theorem passOn_book {a : AccountStreams E D R} {call : AccountCall B} {shared after : Shared Y Q S B}
    (passed : passOn config a call shared = some after) (symbol : String) :
    bookOf symbol after = (heardBy config symbol a call).foldl (follow symbol) (bookOf symbol shared) := by
  unfold passOn at passed
  split at passed
  · rename_i id response book
    cases ack : MarketSystem.passedOn (gatewayConfig config a) id response a.world with
    | none =>
        rw [ack] at passed
        rw [heardBy,ack]
        exact Option.some.inj passed ▸ rfl
    | some ack' =>
        rw [ack] at passed
        rw [heardBy,ack]
        exact sequence_book (orderBook_own (gatewayConfig config a) ack'.data) passed symbol
  · rename_i other
    obtain rfl := Option.some.inj passed
    cases call with
    | response t id response book => exact absurd rfl (other t id response book)
    | _ => rfl

variable [Symbols Y] [Download2 E OrderEntryREST.State] [Download2 D DropCopy.State] [LimitRequest R]

theorem visit_book {c after : Controller Y Q S B E D R} {event : StreamEvent B} (ran : visit config c event = some after)
    (symbol : String) : bookOf symbol after.shared = (heard config symbol c event).foldl (follow symbol) (bookOf symbol c.shared) := by
  cases event with
  | account index call =>
      cases onAccount_called ran with
      | missing absent =>
          rw [heard,absent]
          rfl
      | called present _ passed =>
          rw [(adopt_shared _ _ _ _).1,heard,present,Option.toList_some,List.flatMap_singleton]
          exact passOn_book passed symbol
  | orderEntryWs index event =>
      cases onOrderEntryWs_called ran with
      | missing => rfl
      | called => rfl
  | marketData index event =>
      simp only [visit,onMarketData] at ran
      split at ran
      · rename_i absent
        rw [heard,absent]
        exact Option.some.inj ran ▸ rfl
      · rename_i stream present
        obtain ⟨feed,stepped,rfl⟩ := Option.map_eq_some_iff.mp ran
        rw [heard,present,Option.toList_some,List.flatMap_singleton]
        have followed := step_book stepped symbol
        have received : bookOf symbol {c.shared with log := .event (.marketData index event) :: c.shared.log} =
            bookOf symbol c.shared := bookOf_same rfl (watched_other rfl _)
        rw [received] at followed
        exact followed

omit [Symbols Y] [LimitQueue Q] [Sequencer S B] [Download2 E OrderEntryREST.State] [Download2 D DropCopy.State]
  [LimitRequest R] in
theorem visits_heard (t : TraceInfo) (now : Nanoseconds) (answers : TimerAnswers) (c start : Controller Y Q S B E D R)
    (symbol : String) : ∀ event ∈ visits t now answers start, heard config symbol c event = [] := by
  intro event member
  simp only [visits,restVisits,wsVisits,dropCopyVisits,marketDataVisits,List.mem_append,List.mem_map] at member
  rcases member with ((⟨_,_,rfl⟩ | ⟨_,_,rfl⟩) | ⟨_,_,rfl⟩) | ⟨_,_,rfl⟩
  · exact List.flatMap_eq_nil_iff.mpr fun _ _ => rfl
  · rfl
  · exact List.flatMap_eq_nil_iff.mpr fun _ _ => rfl
  · exact List.flatMap_eq_nil_iff.mpr fun _ _ => rfl

omit [Symbols Y] [Sequencer S B] [Download2 E OrderEntryREST.State] [Download2 D DropCopy.State] [LimitRequest R] in
theorem createStreams_sequencers (count : Nat) (c : Controller Y Q S B E D R) :
    (createStreams count c).shared.mbpSequencer = c.shared.mbpSequencer := by
  induction count generalizing c with
  | zero => rfl
  | succ count ih => exact ih (createMarketData c)

omit [Sequencer S B] [Download2 E OrderEntryREST.State] [Download2 D DropCopy.State] [LimitRequest R] in
theorem onSymbolsUpdate_book (symbols : List String) (c : Controller Y Q S B E D R) (symbol : String) :
    bookOf symbol (onSymbolsUpdate config symbols c).shared = bookOf symbol c.shared := by
  refine bookOf_same ?_ (onSymbolsUpdate_watched (about_blind symbol) symbols c)
  have created := createStreams_sequencers ((Symbols.update symbols c.shared.symbols).1.1 - c.marketData.length)
    {c with shared.symbols := (Symbols.update symbols c.shared.symbols).2}
  exact (OrderBooks.subscribeStreams_quiet _ _ _).sequencers.trans created

theorem step_books {c after : Controller Y Q S B E D R} {event : ControllerEvent B} (ran : step config c event = some after)
    (symbol : String) : bookOf symbol after.shared = (heardIn config symbol c event).foldl (follow symbol) (bookOf symbol c.shared) := by
  cases event with
  | timer t now answers =>
      refine execute_related_among (fun a b : Controller Y Q S B E D R => bookOf symbol b.shared = bookOf symbol a.shared)
        (fun _ => rfl) (fun _ _ _ one two => two.trans one) ?_ ran
      intro during event member later stepped
      have nothing : heard config symbol during event = [] := visits_heard t now answers during c symbol event member
      rw [visit_book stepped,nothing]
      rfl
  | request request =>
      obtain rfl := Option.some.inj ran
      rw [(ControllerSystem.onRequest_streams config request c).2]
      rfl
  | symbolsUpdate symbols => exact Option.some.inj ran ▸ onSymbolsUpdate_book symbols c symbol
  | callback event _ => exact visit_book ran symbol

-- The sequencers of all symbols are in one map that all streams and all accounts write to,
-- and what is published of a symbol is what its own sequencer makes of its own messages,
-- whoever has received them; of the others it notices no more than a lost connection.
theorem books_are_their_own {c : Controller Y Q S B E D R} {events : List (ControllerEvent B)}
    (ran : execute (step config) (create config) events = some c) (symbol : String) :
    bookOf symbol c.shared =
      (projection (step config) (heardIn config symbol) (create config : Controller Y Q S B E D R) events).foldl (follow symbol)
        ⟨none,[]⟩ := by
  have start : bookOf symbol (create config : Controller Y Q S B E D R).shared = ([] : List (Heard B)).foldl (follow symbol) ⟨none,[]⟩ := by
    rfl
  refine execute_traces (fun (c : Controller Y Q S B E D R) done => bookOf symbol c.shared = done.foldl (follow symbol) ⟨none,[]⟩)
    ?_ start ran
  intro c event after done known stepped
  rw [step_books stepped,known,List.foldl_append]

section closed
open Smallest

def increments (index : Nat) (symbol : String) (first last : Nat) : ControllerEvent Unit :=
  .callback (.marketData index (.obu t ⟨1,.increment,⟨[],[],first,last,symbol,2⟩⟩ ())) rfl

-- Two symbols on two streams; one of them is sent what is a bad state, and then the other
-- stream is disconnected.
def booking : List (ControllerEvent Unit) :=
  [.symbolsUpdate ["A","B","C"],greets 0,greets 1,increments 0 "A" 2 3,increments 1 "C" 5 5,increments 0 "A" 9 8,
    .callback (.marketData 1 (.disconnected t)) rfl,increments 0 "A" 10 11]

theorem books_are_their_own_booking : ∃ c : SmallController,
    execute (step (twoAccounts "")) (create (twoAccounts "")) booking = some c ∧
      (bookOf "A" c.shared).effects.length = 7 ∧ (bookOf "C" c.shared).effects.length = 2 ∧
      (bookOf "C" c.shared).entry = none ∧
      bookOf "A" c.shared = (projection (step (twoAccounts "")) (heardIn (twoAccounts "") "A")
        (create (twoAccounts "") : SmallController) booking).foldl (follow "A") ⟨none,[]⟩ := by
  have checked : (execute (step (twoAccounts "")) (create (twoAccounts "") : SmallController) booking).any (fun c =>
      (bookOf "A" c.shared).effects.length == 7 && (bookOf "C" c.shared).effects.length == 2 &&
        (bookOf "C" c.shared).entry == none) = true := by
    decide +kernel
  obtain ⟨c,ran,known⟩ := (Option.any_eq_true _ _).mp checked
  simp only [Bool.and_eq_true,beq_iff_eq] at known
  exact ⟨c,ran,known.1.1,known.1.2,known.2,books_are_their_own ran "A"⟩

end closed
end KucoinPro.SymbolBooks
