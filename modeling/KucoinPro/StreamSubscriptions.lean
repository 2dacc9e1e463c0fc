import KucoinPro.MarketMoves

namespace KucoinPro.StreamSubscriptions
open GuardedRuns History Slices MarketSystem MarketMoves

variable {Y S B E D R : Type} {Q : Type → Type} {config : GatewayConfig}

-- The updates are of symbols that are new, and a session has one Welcome.
def orderly (g : Gateway Y Q S B E D R) : GatewayEvent B → Bool
  | .symbolsUpdate symbols => decide symbols.Nodup && symbols.all fun symbol => !(forwardedIn g.shared.log).contains symbol
  | .marketData index (.welcome _) => (g.marketData[index]?).all fun stream => !stream.welcome
  | _ => true

def Orderly (g : Gateway Y Q S B E D R) (event : GatewayEvent B) : Prop := orderly g event = true

variable [Symbols Y] [LimitQueue Q]

-- What is wanted of the queues: in a session every symbol of the slice was queued once
-- on every channel that is enabled, and nothing else; before the Welcome of the
-- session nothing was; each symbol is in the slice of one stream; and over all sessions
-- what has been sent, followed by what is in subscribe_queue_, is what was queued.
structure Exact (config : GatewayConfig) (g : Gateway Y Q S B E D R) : Prop where
  queued : ∀ (index : Nat) stream, g.marketData[index]? = some stream → stream.welcome = true → ∀ topic symbol,
    ((queuedIn index g.shared.log).map pair).count (topic,symbol) =
      if topic ∈ topics config ∧ symbol ∈ carried index g then 1 else 0
  silent : ∀ (index : Nat) stream, g.marketData[index]? = some stream → stream.welcome = false →
    queuedIn index g.shared.log = []
  unique : ∀ symbol ∈ forwardedIn g.shared.log, ∃! index, index < g.marketData.length ∧ symbol ∈ carried index g
  handed : ∀ (index : Nat) stream, g.marketData[index]? = some stream →
    sentBy index g.shared.log ++ LimitQueue.items stream.subscribeQueue = queuedBy index g.shared.log

-- The same as an invariant, with what it takes to keep it.
structure Covered (config : GatewayConfig) (pairs : List (Topic × String)) (symbols : List String) : Prop where
  nodup : pairs.Nodup
  mem : ∀ topic symbol, (topic,symbol) ∈ pairs ↔ topic ∈ topics config ∧ symbol ∈ symbols

structure StreamValid (config : GatewayConfig) (g : Gateway Y Q S B E D R) (index : Nat) (stream : MarketData Q) : Prop where
  own : stream.index = index
  welcome : stream.welcome = MarketData.isReady stream
  covered : MarketData.isReady stream = true → Covered config ((queuedIn index g.shared.log).map pair) (carried index g)
  silent : MarketData.isReady stream = false → queuedIn index g.shared.log = [] ∧ sentIn index g.shared.log = []

structure Valid (config : GatewayConfig) (g : Gateway Y Q S B E D R) : Prop where
  distinct : (forwardedIn g.shared.log).Nodup
  listed : Symbols.listed g.shared.symbols = forwardedIn g.shared.log
  width : Symbols.perStream g.shared.symbols = config.market.wsMaxSubscriptionsPerStream
  enough : slices config.market.wsMaxSubscriptionsPerStream (forwardedIn g.shared.log).length ≤ g.marketData.length
  streams : ∀ (index : Nat) stream, g.marketData[index]? = some stream → StreamValid config g index stream
  future : ∀ index, g.marketData[index]? = none → queuedIn index g.shared.log = [] ∧ sentIn index g.shared.log = []
  hands : ∀ index : Nat, Hands index g.marketData[index]? g.shared.log

theorem Valid.indexed {g : Gateway Y Q S B E D R} (valid : Valid config g) : Indexed g.marketData :=
  fun index stream found => (valid.streams index stream found).own

theorem Covered.count (covered : Covered config pairs symbols) (topic : Topic) (symbol : String) :
    pairs.count (topic,symbol) = if topic ∈ topics config ∧ symbol ∈ symbols then 1 else 0 := by
  split
  · rename_i wanted
    exact List.count_eq_one_of_mem covered.nodup ((covered.mem topic symbol).mpr wanted)
  · rename_i other
    exact List.count_eq_zero.mpr fun inside => other ((covered.mem topic symbol).mp inside)

-- All symbols on all channels.
theorem product_covered (distinct : symbols.Nodup) (known : pairs = (topics config).flatMap fun topic => symbols.map (Prod.mk topic)) :
    Covered config pairs symbols := by
  have product : pairs = topics config ×ˢ symbols := known
  subst product
  exact ⟨topics_nodup.product distinct,fun topic symbol => List.pair_mem_product⟩

theorem Covered.append (first : Covered config pairs before) (second : Covered config more later)
    (distinct : (before ++ later).Nodup) : Covered config (pairs ++ more) (before ++ later) := by
  constructor
  · apply first.nodup.append second.nodup
    intro ⟨topic,symbol⟩ one two
    have old := ((first.mem topic symbol).mp one).2
    have new := ((second.mem topic symbol).mp two).2
    exact List.disjoint_of_nodup_append distinct old new
  · intro topic symbol
    rw [List.mem_append,List.mem_append,first.mem,second.mem,and_or_left]

-- What is received ends the session, or leaves it as it is.
omit [Symbols Y] [LimitQueue Q] in
theorem receive_queued (g : Gateway Y Q S B E D R) (event : GatewayEvent B) (index : Nat) :
    (queuedIn index (receive event g).shared.log = queuedIn index g.shared.log ∧
      sentIn index (receive event g).shared.log = sentIn index g.shared.log) ∨
    (∃ t, event = .marketData index (.disconnected t)) ∧ queuedIn index (receive event g).shared.log = [] ∧
      sentIn index (receive event g).shared.log = [] := by
  cases cut : isDisconnected index (.event event : MarketEntry B) with
  | false =>
      have keep : session index (receive event g).shared.log = .event event :: session index g.shared.log := upTo_keep cut
      refine .inl ⟨?_,?_⟩
      · unfold queuedIn
        rw [keep]
        rfl
      · unfold sentIn
        rw [keep]
        rfl
  | true =>
      have emptied : session index (receive event g).shared.log = [] := upTo_cut cut
      have ended : ∃ t, event = .marketData index (.disconnected t) := by
        unfold isDisconnected at cut
        split at cut
        · rename_i i t same
          cases same
          exact ⟨t,by rw [beq_iff_eq.mp cut]⟩
        · cases cut
      refine .inr ⟨ended,?_,?_⟩
      · unfold queuedIn
        rw [emptied]
        rfl
      · unfold sentIn
        rw [emptied]
        rfl

theorem carried_slice [LawfulSymbols Y] {g : Gateway Y Q S B E D R} (valid : Valid config g) (index : Nat) :
    carried index g = slice config.market.wsMaxSubscriptionsPerStream index 0 (forwardedIn g.shared.log) := by
  unfold carried
  rw [LawfulSymbols.getSlice_eq,valid.width,valid.listed]

omit [LimitQueue Q] in
theorem isReady_of_status {stream : MarketData Q} (status : stream.connectionStatus = .ready) :
    MarketData.isReady stream = true := by simp [MarketData.isReady,status]

omit [LimitQueue Q] in
theorem StreamValid.kept {g after : Gateway Y Q S B E D R} {stream later : MarketData Q}
    (before : StreamValid config g index stream) (own : later.index = stream.index)
    (status : later.connectionStatus = stream.connectionStatus) (welcome : later.welcome = stream.welcome)
    (same : carried index after = carried index g) (queued : queuedIn index after.shared.log = queuedIn index g.shared.log)
    (sent : MarketData.isReady stream = true ∨ sentIn index after.shared.log = sentIn index g.shared.log) :
    StreamValid config after index later := by
  have ready : MarketData.isReady later = MarketData.isReady stream := by simp [MarketData.isReady,status]
  refine ⟨own.trans before.own,?_,?_,?_⟩
  · rw [welcome,ready]
    exact before.welcome
  · intro known
    rw [queued,same]
    exact before.covered (ready ▸ known)
  · intro idle
    rw [ready] at idle
    have quiet := before.silent idle
    refine ⟨queued.trans quiet.1,?_⟩
    rcases sent with busy | unsent
    · rw [idle] at busy
      cases busy
    · exact unsent.trans quiet.2

omit [Symbols Y] [LimitQueue Q] in
theorem receive_other (g : Gateway Y Q S B E D R) (event : GatewayEvent B) (index : Nat)
    (other : ∀ t, event ≠ .marketData index (.disconnected t)) :
    queuedIn index (receive event g).shared.log = queuedIn index g.shared.log ∧
      sentIn index (receive event g).shared.log = sentIn index g.shared.log := by
  rcases receive_queued g event index with same | ⟨⟨t,ended⟩,_⟩
  · exact same
  · exact absurd ended (other t)

omit [Symbols Y] [LimitQueue Q] in
theorem receive_dropped (g : Gateway Y Q S B E D R) (index : Nat) (t : TraceInfo) :
    queuedIn index (receive (.marketData index (.disconnected t)) g).shared.log = [] ∧
      sentIn index (receive (.marketData index (.disconnected t)) g).shared.log = [] := by
  have emptied : session index (receive (.marketData index (.disconnected t)) g).shared.log = [] := session_cut index t _
  unfold queuedIn sentIn
  rw [emptied]
  exact ⟨rfl,rfl⟩

-- An event of the stream itself: a Welcome queues the whole slice, a disconnect
-- ends the session, and nothing else adds to what is queued.
theorem moved_valid {g after : Gateway Y Q S B E D R} (valid : Valid config g)
    (orderly : Orderly g (.marketData index happened)) (present : g.marketData[index]? = some stream)
    (moved : Moved config ⟨stream,(receive (.marketData index happened) g).shared⟩ happened ⟨later,after.shared⟩)
    (symbols : after.shared.symbols = g.shared.symbols) (distinct : (carried index g).Nodup) :
    StreamValid config after index later := by
  have before := valid.streams index stream present
  have same : carried index after = carried index g := by rw [carried,symbols,carried]
  have own := before.own
  subst own
  cases moved with
  | welcomed passes pairs status welcome =>
      rename_i fresh t
      have received := receive_other g (.marketData stream.index (.welcome t)) stream.index (by rintro _ ⟨⟩)
      have idle : MarketData.isReady stream = false := by
        rw [← before.welcome]
        simpa [Orderly,StreamSubscriptions.orderly,present] using orderly
      have ready : MarketData.isReady later = true := isReady_of_status status
      refine ⟨passes.index,welcome.trans ready.symm,?_,?_⟩
      · intro _
        have all : queuedIn stream.index after.shared.log = fresh := by
          have total := passes.queued
          rw [received.1,(before.silent idle).1,List.nil_append] at total
          exact total
        rw [all,same]
        exact product_covered distinct pairs
      · intro unready
        rw [ready] at unready
        cases unready
  | dropped passes status welcome =>
      rename_i t
      have received := receive_dropped g stream.index t
      have idle : MarketData.isReady later = false := by
        have known : later.connectionStatus = .disconnected := status
        simp [MarketData.isReady,known]
      refine ⟨passes.index,welcome.trans idle.symm,?_,?_⟩
      · intro ready
        rw [idle] at ready
        cases ready
      · intro _
        have queued := passes.queued
        have sent := passes.sent
        rw [received.1,List.append_nil] at queued
        rw [received.2,List.append_nil] at sent
        exact ⟨queued,sent⟩
  | timed passes stays quiet =>
      rename_i handed t now refresh granted
      have received := receive_other g (.marketData stream.index (.timer t now refresh granted)) stream.index (by rintro _ ⟨⟩)
      refine before.kept passes.index stays.status stays.welcome same ?_ ?_
      · exact passes.queued.trans ((List.append_nil _).trans received.1)
      · refine quiet.imp_right fun nothing => ?_
        have sent := passes.sent
        rw [nothing,List.append_nil] at sent
        exact sent.trans received.2
  | other noWelcome noDrop passes stays =>
      have received := receive_other g (.marketData stream.index happened) stream.index
        (fun t same => noDrop t (by cases same; rfl))
      refine before.kept passes.index stays.status stays.welcome same ?_ (.inr ?_)
      · exact passes.queued.trans ((List.append_nil _).trans received.1)
      · exact passes.sent.trans ((List.append_nil _).trans received.2)

-- A slice after an update is the slice before and what the update adds to it.
theorem getSlice_update [LawfulSymbols Y] (index : Nat) (symbols : List String) (y : Y) :
    Symbols.getSlice index 0 (Symbols.update symbols y).2 =
      Symbols.getSlice index 0 y ++ Symbols.getSlice index (Symbols.update symbols y).1.2 (Symbols.update symbols y).2 := by
  rw [LawfulSymbols.getSlice_eq,LawfulSymbols.getSlice_eq,LawfulSymbols.getSlice_eq,LawfulSymbols.update_perStream,
    LawfulSymbols.update_listed,LawfulSymbols.update_startFrom]
  exact slice_append _ _ _ _

theorem updated_valid [LawfulSymbols Y]
    {g after : Gateway Y Q S B E D R} (valid : Valid config g) (present : g.marketData[index]? = some stream)
    (carries : Carries ⟨stream,{(receive (.symbolsUpdate symbols) g).shared with
        symbols := (Symbols.update symbols g.shared.symbols).2}⟩ ⟨later,after.shared⟩ fresh [])
    (stays : Stays ⟨stream,g.shared⟩ ⟨later,after.shared⟩)
    (pairs : fresh.map pair = wanted config (Symbols.update symbols g.shared.symbols).1.2
      ⟨stream,{g.shared with symbols := (Symbols.update symbols g.shared.symbols).2}⟩)
    (distinct : (carried index after).Nodup) : StreamValid config after index later := by
  have before := valid.streams index stream present
  have own := before.own
  subst own
  have received := receive_other g (.symbolsUpdate symbols) stream.index (by rintro _ ⟨⟩)
  have queued : queuedIn stream.index after.shared.log = queuedIn stream.index g.shared.log ++ fresh :=
    carries.queued.trans (congrArg (· ++ fresh) received.1)
  have sent : sentIn stream.index after.shared.log = sentIn stream.index g.shared.log :=
    carries.sent.trans ((List.append_nil _).trans received.2)
  have ready : MarketData.isReady later = MarketData.isReady stream := stays.ready
  have grown : carried stream.index after = carried stream.index g ++
      Symbols.getSlice stream.index (Symbols.update symbols g.shared.symbols).1.2 (Symbols.update symbols g.shared.symbols).2 := by
    have same : after.shared.symbols = (Symbols.update symbols g.shared.symbols).2 := carries.symbols
    rw [carried,same]
    exact getSlice_update _ _ _
  refine ⟨carries.index,?_,?_,?_⟩
  · rw [ready]
    exact stays.welcome.trans before.welcome
  · intro known
    rw [ready] at known
    have part : fresh.map pair = (topics config).flatMap fun topic => (Symbols.getSlice stream.index
        (Symbols.update symbols g.shared.symbols).1.2 (Symbols.update symbols g.shared.symbols).2).map (Prod.mk topic) := by
      rw [pairs]
      exact if_pos known
    rw [grown] at distinct
    rw [queued,List.map_append,grown]
    exact (before.covered known).append (product_covered distinct.of_append_right part) distinct
  · intro idle
    rw [ready] at idle
    have quiet := before.silent idle
    have nothing : fresh = [] := by
      rw [wanted,if_neg (by simp [idle])] at pairs
      exact List.map_eq_nil_iff.mp pairs
    rw [queued,nothing,List.append_nil]
    exact ⟨quiet.1,sent.trans quiet.2⟩

-- A stream that is not there yet has neither queued nor sent anything.
theorem Valid.unheard {g after : Gateway Y Q S B E D R} (valid : Valid config g) (event : GatewayEvent B)
    (missing : g.marketData[index]? = none) (quiet : Unconcerned index (receive event g).shared.log after.shared.log) :
    queuedIn index after.shared.log = [] ∧ sentIn index after.shared.log = [] := by
  have silent := valid.future index missing
  rcases receive_queued g event index with received | ⟨_,received⟩
  · exact ⟨quiet.queued.trans (received.1.trans silent.1),quiet.sent.trans (received.2.trans silent.2)⟩
  · exact ⟨quiet.queued.trans received.1,quiet.sent.trans received.2⟩

variable [Sequencer S B] [Download2 E OrderEntryREST.State] [Download2 D DropCopy.State] [LimitRequest R]
  [LawfulLimitQueue Q] [LawfulSymbols Y]

-- What is forwarded is listed once, and there is a stream for each of its slices.
theorem step_listed {g after : Gateway Y Q S B E D R} {event : GatewayEvent B} (valid : Valid config g) (orderly : Orderly g event)
    (ran : step config g event = some after) : (forwardedIn after.shared.log).Nodup ∧
      Symbols.listed after.shared.symbols = forwardedIn after.shared.log ∧
      Symbols.perStream after.shared.symbols = config.market.wsMaxSubscriptionsPerStream ∧
      slices config.market.wsMaxSubscriptionsPerStream (forwardedIn after.shared.log).length ≤ after.marketData.length := by
  rcases step_symbols valid.indexed ran with ⟨symbols,rfl,updated,length,forwarded⟩ | ⟨_,updated,length,forwarded⟩
  · obtain ⟨once,new⟩ : symbols.Nodup ∧ ∀ symbol ∈ symbols, symbol ∉ forwardedIn g.shared.log := by
      simpa [Orderly,StreamSubscriptions.orderly] using orderly
    rw [forwarded,updated,length,LawfulSymbols.update_listed,LawfulSymbols.update_perStream,LawfulSymbols.update_size,
      valid.listed,valid.width]
    refine ⟨valid.distinct.append once ?_,rfl,rfl,Nat.le_max_right _ _⟩
    intro symbol old fresh
    exact new symbol fresh old
  · rw [forwarded,updated,length]
    exact ⟨valid.distinct,valid.listed,valid.width,valid.enough⟩

theorem step_stream {g after : Gateway Y Q S B E D R} {event : GatewayEvent B} (valid : Valid config g) (orderly : Orderly g event)
    (ran : step config g event = some after) (sliced : (carried index after).Nodup)
    (found : after.marketData[index]? = some stream) : StreamValid config after index stream := by
  have touched := step_touched valid.indexed ran index
  rw [found] at touched
  cases present : g.marketData[index]? with
  | none =>
      rw [present] at touched
      cases touched with
      | created fresh quiet =>
          have idle : MarketData.isReady stream = false := by simp [MarketData.isReady,fresh.status]
          refine ⟨fresh.index,fresh.welcome.trans idle.symm,?_,fun _ => valid.unheard event present quiet⟩
          intro ready
          rw [idle] at ready
          cases ready
  | some before =>
      rw [present] at touched
      cases touched with
      | moved known moved =>
          subst known
          rcases step_symbols valid.indexed ran with ⟨_,other,_⟩ | ⟨_,updated,_⟩
          · cases other
          · have same : carried index g = carried index after := by rw [carried,carried,updated]
            exact moved_valid valid orderly present moved updated (same ▸ sliced)
      | updated known carries stays pairs =>
          subst known
          exact updated_valid valid present carries stays pairs sliced
      | apart noUpdate noEvent quiet =>
          rcases step_symbols valid.indexed ran with ⟨symbols,known,_⟩ | ⟨_,updated,_⟩
          · exact absurd known (noUpdate symbols)
          · have same : carried index after = carried index g := by rw [carried,carried,updated]
            have received := receive_other g event index (fun t => noEvent _)
            exact (valid.streams index stream present).kept rfl rfl rfl same (quiet.queued.trans received.1)
              (.inr (quiet.sent.trans received.2))

theorem step_valid {g after : Gateway Y Q S B E D R} {event : GatewayEvent B} (valid : Valid config g) (orderly : Orderly g event)
    (ran : step config g event = some after) : Valid config after := by
  obtain ⟨distinct,listed,width,enough⟩ := step_listed valid orderly ran
  have sliced : ∀ index, (carried index after).Nodup := by
    intro index
    unfold carried
    rw [LawfulSymbols.getSlice_eq,listed]
    exact slice_nodup distinct
  refine ⟨distinct,listed,width,enough,fun index _ => step_stream valid orderly ran (sliced index),?_,
    step_hands valid.indexed valid.hands ran⟩
  intro index missing
  have touched := step_touched valid.indexed ran index
  rw [missing] at touched
  cases present : g.marketData[index]? with
  | none =>
      rw [present] at touched
      cases touched with
      | absent quiet => exact valid.unheard event present quiet
  | some before =>
      rw [present] at touched
      cases touched

omit [Sequencer S B] [Download2 D DropCopy.State] [LawfulLimitQueue Q] in
theorem initial_valid (streamId : Nat) : Valid config (initial config streamId : Gateway Y Q S B E D R) := by
  have empty : slices config.market.wsMaxSubscriptionsPerStream 0 ≤ 0 := by
    unfold slices
    rcases Nat.eq_zero_or_pos config.market.wsMaxSubscriptionsPerStream with zero | positive
    · rw [zero]
    · exact Nat.le_of_eq (Nat.div_eq_of_lt (by omega))
  exact ⟨List.nodup_nil,LawfulSymbols.create_listed _,LawfulSymbols.create_perStream _,empty,nofun,fun _ _ => ⟨rfl,rfl⟩,
    fun _ => ⟨rfl,rfl⟩⟩

omit [Sequencer S B] [Download2 E OrderEntryREST.State] [Download2 D DropCopy.State] [LimitRequest R] [LawfulLimitQueue Q] in
theorem Valid.exact {g : Gateway Y Q S B E D R} (valid : Valid config g)
    (positive : 0 < config.market.wsMaxSubscriptionsPerStream) : Exact config g := by
  refine ⟨?_,?_,?_,?_⟩
  · intro index stream found welcome topic symbol
    have known := valid.streams index stream found
    exact (known.covered (known.welcome ▸ welcome)).count topic symbol
  · intro index stream found unwelcome
    have known := valid.streams index stream found
    exact (known.silent (known.welcome ▸ unwelcome)).1
  · intro symbol inside
    obtain ⟨index,bound,member⟩ := slice_exists positive inside
    refine ⟨index,⟨Nat.lt_of_lt_of_le bound valid.enough,?_⟩,?_⟩
    · rw [carried_slice valid]
      exact member
    · intro other ⟨_,also⟩
      rw [carried_slice valid] at also
      exact slice_unique valid.distinct also member
  · intro index stream found
    have hands := valid.hands index
    rw [found] at hands
    exact hands.2

-- Whatever the order of updates, connects, welcomes and disconnects is.
theorem slices_are_subscribed (config : GatewayConfig) (streamId : Nat)
    (positive : 0 < config.market.wsMaxSubscriptionsPerStream) {g : Gateway Y Q S B E D R}
    (path : Reached (initial config streamId) (step config) Orderly g) : Exact config g := by
  have valid : Valid config g := path.invariant (initial_valid streamId) fun _ _ _ valid allowed ran => step_valid valid allowed ran
  exact valid.exact positive

section closed
open Smallest

-- Three symbols on two streams: the second stream comes with the second update,
-- and the first is READY in between.
def arrivals : List (GatewayEvent Unit) :=
  [.symbolsUpdate ["A"],connect 0,greet 0,.symbolsUpdate ["B","C"],connect 1,greet 1,cutOff 0,.symbolsUpdate [],connect 0,greet 0]

theorem slices_are_subscribed_late : ∃ g : SmallGateway, Exact (market 2) g ∧
    (queuedIn 0 g.shared.log).map (·.symbol) = ["A","B","A","B","A","B"] ∧
    (queuedIn 1 g.shared.log).map (·.symbol) = ["C","C","C"] := by
  obtain ⟨g,path,checked⟩ := reached_of_execute (initial (market 2) 0 : SmallGateway) (step (market 2)) orderly arrivals
    (fun g => (queuedIn 0 g.shared.log).map (·.symbol) == ["A","B","A","B","A","B"] &&
      (queuedIn 1 g.shared.log).map (·.symbol) == ["C","C","C"]) (by decide +kernel) (by decide +kernel)
  rw [Bool.and_eq_true,beq_iff_eq,beq_iff_eq] at checked
  exact ⟨g,slices_are_subscribed (market 2) 0 (by decide) path,checked.1,checked.2⟩

end closed
end KucoinPro.StreamSubscriptions
