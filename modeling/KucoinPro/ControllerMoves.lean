import KucoinPro.AccountMoves
import KucoinPro.ControllerSystem
import KucoinPro.MarketMoves

namespace KucoinPro.ControllerSystem
open GuardedRuns

variable {Y S B E D R : Type} {Q : Type → Type} {config : ControllerConfig}

-- One account, earlier and later: it keeps its configuration, but for the id
-- that comes with the drop copy, and its streams.
structure Continues (a b : AccountStreams E D R) : Prop where
  config : b.config = {a.config with dropCopyStreamId := b.config.dropCopyStreamId}
  ws : b.orderEntryWs.map (·.streamId) = a.orderEntryWs.map (·.streamId)
  dropCopy : a.world.dropCopy.isSome = true → b.world.dropCopy.isSome = true ∧ b.config = a.config

theorem Continues.refl (a : AccountStreams E D R) : Continues a a := ⟨rfl,rfl,fun present => ⟨present,rfl⟩⟩

theorem Continues.trans {a b c : AccountStreams E D R} (one : Continues a b) (two : Continues b c) : Continues a c := by
  refine ⟨?_,two.ws.trans one.ws,?_⟩
  · rw [two.config,one.config]
  · intro present
    obtain ⟨still,same⟩ := one.dropCopy present
    obtain ⟨last,equal⟩ := two.dropCopy still
    exact ⟨last,equal.trans same⟩

-- All accounts, by their index.
def AllContinue (c after : Controller Y Q S B E D R) : Prop :=
  after.accounts.length = c.accounts.length ∧
    ∀ (index : Nat) a b, c.accounts[index]? = some a → after.accounts[index]? = some b → Continues a b

theorem AllContinue.same {c after : Controller Y Q S B E D R} (accounts : after.accounts = c.accounts) : AllContinue c after := by
  refine ⟨by rw [accounts],?_⟩
  intro index a b before later
  rw [accounts,before] at later
  obtain rfl := Option.some.inj later
  exact .refl _

theorem AllContinue.trans {a b c : Controller Y Q S B E D R} (one : AllContinue a b) (two : AllContinue b c) : AllContinue a c := by
  refine ⟨two.1.trans one.1,?_⟩
  intro index first last before later
  have inside : index < b.accounts.length := one.1 ▸ (List.getElem?_eq_some_iff.mp before).1
  have between : b.accounts[index]? = some b.accounts[index] := List.getElem?_eq_getElem inside
  exact (one.2 index first _ before between).trans (two.2 index _ last between later)

theorem AllContinue.set {c after : Controller Y Q S B E D R} (present : c.accounts[index]? = some a) (one : Continues a b)
    (accounts : after.accounts = c.accounts.set index b) : AllContinue c after := by
  refine ⟨by rw [accounts,List.length_set],?_⟩
  intro other first last before later
  rw [accounts] at later
  by_cases same : index = other
  · subst same
    rw [present] at before
    obtain rfl := Option.some.inj before
    rw [List.getElem?_set_self (List.getElem?_eq_some_iff.mp present).1] at later
    exact Option.some.inj later ▸ one
  · rw [List.getElem?_set_ne same,before] at later
    exact Option.some.inj later ▸ .refl _

-- The account after one of its events.
def continued (streamId : Nat) (a : AccountStreams E D R) (world : World E D R) : AccountStreams E D R :=
  if createsDropCopy a world then {a with config.dropCopyStreamId := nextStreamId streamId, world := world}
  else {a with world := world}

theorem continued_world (streamId : Nat) (a : AccountStreams E D R) (world : World E D R) :
    (continued streamId a world).world = world := by
  unfold continued
  split
  · rfl
  · rfl

theorem adopt_accounts (index : Nat) (a : AccountStreams E D R) (world : World E D R) (c : Controller Y Q S B E D R) :
    (adopt index a world c).accounts = c.accounts.set index (continued c.streamId a world) := by
  unfold adopt continued
  split
  · rfl
  · rfl

variable [LimitQueue Q] [Sequencer S B] [Download2 E OrderEntryREST.State] [Download2 D DropCopy.State] [LimitRequest R]

-- What becomes of an account that is called: nothing, if there is none.
inductive Called (config : ControllerConfig) (index : Nat) (call : AccountCall B) (c : Controller Y Q S B E D R) :
    Controller Y Q S B E D R → Prop where
  | missing : c.accounts[index]? = none → Called config index call c c
  | called : c.accounts[index]? = some a →
      AccountSystem.step a.config a.world (eventOf (handedOut a call c.shared.depthRequestQueue).1 call) = some world →
      passOn config a call {c.shared with depthRequestQueue := (handedOut a call c.shared.depthRequestQueue).2} = some shared →
      Called config index call c (adopt index a world {c with shared := shared})

theorem onAccount_called {c after : Controller Y Q S B E D R} (ran : onAccount config index call c = some after) :
    Called config index call c after := by
  unfold onAccount at ran
  cases present : c.accounts[index]? with
  | none =>
      rw [present] at ran
      exact Option.some.inj ran ▸ .missing present
  | some a =>
      rw [present] at ran
      obtain ⟨world,stepped,passed⟩ := Option.bind_eq_some_iff.mp ran
      obtain ⟨shared,known,rfl⟩ := Option.map_eq_some_iff.mp passed
      exact .called present stepped known

-- What becomes of a websocket order stream.
inductive WsCalled (config : ControllerConfig) (index : Nat) (event : OrderEntryWS.Event) (c : Controller Y Q S B E D R) :
    Controller Y Q S B E D R → Prop where
  | missing : (∀ a ws, c.accounts[index]? = some a → a.orderEntryWs ≠ some ws) → WsCalled config index event c c
  | called : c.accounts[index]? = some a → a.orderEntryWs = some ws →
      OrderEntryWS.step (wsConfig a ws) config.decoders ws.session event = some session →
      WsCalled config index event c
        {c with accounts := c.accounts.set index {a with orderEntryWs := some {ws with session := session}}}

omit [LimitQueue Q] [Sequencer S B] [Download2 E OrderEntryREST.State] [Download2 D DropCopy.State] [LimitRequest R] in
theorem onOrderEntryWs_called {c after : Controller Y Q S B E D R} (ran : onOrderEntryWs config index event c = some after) :
    WsCalled config index event c after := by
  unfold onOrderEntryWs at ran
  cases present : c.accounts[index]? with
  | none =>
      rw [present] at ran
      exact Option.some.inj ran ▸ .missing fun a ws same _ => by rw [present] at same; cases same
  | some a =>
      rw [present] at ran
      cases stream : a.orderEntryWs with
      | none =>
          simp only [stream,Option.some.injEq] at ran
          refine ran ▸ .missing ?_
          intro b ws same
          obtain rfl := Option.some.inj (present.symm.trans same)
          rw [stream]
          nofun
      | some ws =>
          simp only [stream] at ran
          obtain ⟨session,stepped,rfl⟩ := Option.map_eq_some_iff.mp ran
          exact .called present stream stepped

-- Which stream a request is handed to, and as what.
def addressee (config : ControllerConfig) (c : Controller Y Q S B E D R) : OrderRequest → Except RequestError (Destination × OrderAction)
  | .createOrder messageInfo createOrder refData requestId =>
      (getOrderEntry config createOrder.account c).map (·,.createOrder messageInfo createOrder refData requestId)
  | .modifyOrder messageInfo account order requestId =>
      (getOrderEntry config account c).map (·,.modifyOrder messageInfo order requestId)
  | .cancelOrder messageInfo cancelOrder order requestId =>
      (getOrderEntry config cancelOrder.account c).map (·,.cancelOrder messageInfo cancelOrder order requestId)
  | .cancelAllOrders messageInfo cancelAllOrders requestId symbols =>
      (getOrderEntryRest cancelAllOrders.account c).map (·,.cancelAllOrders messageInfo cancelAllOrders requestId symbols)
  | .massQuote | .cancelQuotes => .error (.action (.notSupported "not supported"))

omit [LimitQueue Q] [Sequencer S B] [Download2 E OrderEntryREST.State] [Download2 D DropCopy.State] [LimitRequest R] in
theorem route_eq (found : Except RequestError Destination) (action : OrderAction) (c : Controller Y Q S B E D R) :
    route found action c = match found.map (·,action) with
      | .error e => (.error e,c)
      | .ok handed => handOver handed.1 handed.2 c := by
  cases found with
  | error e => rfl
  | ok destination => rfl

omit [LimitQueue Q] [Sequencer S B] [Download2 E OrderEntryREST.State] [Download2 D DropCopy.State] [LimitRequest R] in
theorem onRequest_eq (request : OrderRequest) (c : Controller Y Q S B E D R) :
    onRequest config request c = match addressee config c request with
      | .error e => (.error e,c)
      | .ok handed => handOver handed.1 handed.2 c := by
  cases request with
  | createOrder => exact route_eq _ _ c
  | modifyOrder => exact route_eq _ _ c
  | cancelOrder => exact route_eq _ _ c
  | cancelAllOrders => exact route_eq _ _ c
  | massQuote => rfl
  | cancelQuotes => rfl

-- What a visit and an event are to the account with an index.

def accountTouch (index : Nat) (c : Controller Y Q S B E D R) : StreamEvent B → List Event
  | .account i call =>
      if i = index then (c.accounts[index]?).toList.map fun a => eventOf (handedOut a call c.shared.depthRequestQueue).1 call else []
  | .orderEntryWs _ _ | .marketData _ _ => []

def requestTouch (config : ControllerConfig) (index : Nat) (c : Controller Y Q S B E D R) (request : OrderRequest) : List Event :=
  match addressee config c request with
  | .ok (.rest i,action) => if i = index then [.rest (.action action)] else []
  | _ => []

variable [Symbols Y]

def touches (config : ControllerConfig) (index : Nat) (c : Controller Y Q S B E D R) : ControllerEvent B → List Event
  | .timer t now answers => projection (visit config) (accountTouch index) c (visits t now answers c)
  | .request request => requestTouch config index c request
  | .symbolsUpdate _ => []
  | .callback event _ => accountTouch index c event

-- And to its websocket order stream.

def wsTouch (index : Nat) (_ : Controller Y Q S B E D R) : StreamEvent B → List OrderEntryWS.Event
  | .orderEntryWs i event => if i = index then [event] else []
  | .account _ _ | .marketData _ _ => []

def wsRequestTouch (config : ControllerConfig) (index : Nat) (c : Controller Y Q S B E D R) (request : OrderRequest) :
    List OrderEntryWS.Event :=
  match addressee config c request with
  | .ok (.ws i,action) => if i = index then [.action action] else []
  | _ => []

def wsTouches (config : ControllerConfig) (index : Nat) (c : Controller Y Q S B E D R) : ControllerEvent B → List OrderEntryWS.Event
  | .timer t now answers => projection (visit config) (wsTouch index) c (visits t now answers c)
  | .request request => wsRequestTouch config index c request
  | .symbolsUpdate _ => []
  | .callback event _ => wsTouch index c event

omit [Symbols Y] [Sequencer S B] [Download2 E OrderEntryREST.State] [Download2 D DropCopy.State] [LimitRequest R] in
theorem createStreams_accounts (count : Nat) (c : Controller Y Q S B E D R) : (createStreams count c).accounts = c.accounts := by
  induction count generalizing c with
  | zero => rfl
  | succ count ih => exact ih (createMarketData c)

omit [Sequencer S B] [Download2 E OrderEntryREST.State] [Download2 D DropCopy.State] [LimitRequest R] in
theorem onSymbolsUpdate_accounts (symbols : List String) (c : Controller Y Q S B E D R) :
    (onSymbolsUpdate config symbols c).accounts = c.accounts := createStreams_accounts _ _

omit [Download2 E OrderEntryREST.State] [Download2 D DropCopy.State] [LimitRequest R] in
theorem onMarketData_accounts {c after : Controller Y Q S B E D R} (ran : onMarketData config index event c = some after) :
    after.accounts = c.accounts := by
  unfold onMarketData at ran
  split at ran
  · exact Option.some.inj ran ▸ rfl
  · obtain ⟨feed,_,rfl⟩ := Option.map_eq_some_iff.mp ran
    rfl

-- How the constructor leaves an account.
structure Created (config : ControllerConfig) (account : Account) (a : AccountStreams E D R) : Prop where
  account : a.config.account = account
  settings : a.config.settings = config.settings
  platform : a.config.platform = config.platform
  world : a.world = AccountSystem.initial
  ws : ∀ ws, a.orderEntryWs = some ws → ws.session = OrderEntryWS.initial
  hasWs : a.orderEntryWs.isSome = (config.wsApi && config.wsUri != "")

def Opened (accounts : List Account) (streams : List (AccountStreams E D R)) (opened : Account → AccountStreams E D R → Prop) : Prop :=
  streams.length = accounts.length ∧
    ∀ (index : Nat) account a, accounts[index]? = some account → streams[index]? = some a → opened account a

omit [Download2 E OrderEntryREST.State] [Download2 D DropCopy.State] [LimitRequest R] in
theorem Opened.cons {accounts : List Account} {streams : List (AccountStreams E D R)}
    {opened : Account → AccountStreams E D R → Prop} (one : opened account a) (others : Opened accounts streams opened) :
    Opened (account :: accounts) (a :: streams) opened := by
  refine ⟨congrArg (· + 1) others.1,?_⟩
  intro index known b before later
  cases index with
  | zero =>
      obtain rfl := Option.some.inj before
      obtain rfl := Option.some.inj later
      exact one
  | succ index => exact others.2 index known b before later

omit [Download2 D DropCopy.State] in
theorem createOrderEntryRest_opened (streamId : Nat) (accounts : List Account) :
    Opened accounts (createOrderEntryRest config streamId accounts : List (AccountStreams E D R) × Nat).1
      (fun account a => ∃ id, a = createAccount config id account) := by
  induction accounts generalizing streamId with
  | nil => exact ⟨rfl,fun index _ _ before => by cases before⟩
  | cons account rest ih => exact .cons ⟨_,rfl⟩ (ih (nextStreamId streamId))

omit [Download2 E OrderEntryREST.State] [Download2 D DropCopy.State] [LimitRequest R] in
theorem createOrderEntryWs_opened {opened : Account → AccountStreams E D R → Prop} (streamId : Nat) (accounts : List Account)
    (streams : List (AccountStreams E D R)) (known : Opened accounts streams opened) :
    Opened accounts (createOrderEntryWs streamId streams).1
      (fun account b => ∃ a id, opened account a ∧ b = {a with orderEntryWs := some ⟨id,OrderEntryWS.initial⟩}) := by
  induction streams generalizing streamId accounts with
  | nil => exact ⟨known.1,fun index _ _ _ later => by cases later⟩
  | cons a rest ih =>
      cases accounts with
      | nil => cases known.1
      | cons account others =>
          refine .cons ⟨a,_,known.2 0 account a rfl rfl,rfl⟩ (ih _ others ⟨Nat.succ.inj known.1,?_⟩)
          intro index account b before later
          exact known.2 (index + 1) account b before later

omit [Sequencer S B] [Download2 D DropCopy.State] in
theorem create_opened : Opened config.accounts (create config : Controller Y Q S B E D R).accounts (Created config) := by
  have rest : Opened config.accounts (createOrderEntryRest config (nextStreamId 0) config.accounts : List (AccountStreams E D R) × Nat).1
      (fun account a => ∃ id, a = createAccount config id account) := createOrderEntryRest_opened _ _
  unfold create
  dsimp only
  cases offered : config.wsApi && config.wsUri != "" with
  | false =>
      refine ⟨rest.1,?_⟩
      intro index account a before later
      obtain ⟨id,rfl⟩ := rest.2 index account a before later
      exact ⟨rfl,rfl,rfl,rfl,nofun,offered.symm⟩
  | true =>
      have ws := createOrderEntryWs_opened
        (createOrderEntryRest config (nextStreamId 0) config.accounts : List (AccountStreams E D R) × Nat).2 config.accounts _ rest
      refine ⟨ws.1,?_⟩
      intro index account a before later
      obtain ⟨_,_,⟨id,rfl⟩,rfl⟩ := ws.2 index account a before later
      refine ⟨rfl,rfl,rfl,rfl,?_,offered.symm⟩
      intro stream same
      obtain rfl := Option.some.inj same
      rfl

-- What holds of each market data stream, and of those that are yet to come, with what has
-- been queued and sent so far.
section streams
open MarketMoves

variable {holds : Nat → Option (MarketData Q) → List (MarketEntry B) → Prop}

def EachStream (holds : Nat → Option (MarketData Q) → List (MarketEntry B) → Prop) (c : Controller Y Q S B E D R) : Prop :=
  ∀ index : Nat, holds index c.marketData[index]? c.shared.log

-- One stream is handled: what holds of it goes on, and so does what holds of the others.
structure Keeps (holds : Nat → Option (MarketData Q) → List (MarketEntry B) → Prop) (before after : Feed Y Q S B) : Prop where
  own : holds before.stream.index (some before.stream) before.shared.log →
    holds before.stream.index (some after.stream) after.shared.log
  others : ∀ index ≠ before.stream.index, ∀ stream, holds index stream before.shared.log → holds index stream after.shared.log

structure Lasting (Y S : Type) [Symbols Y] [Sequencer S B] (config : GatewayConfig)
    (holds : Nat → Option (MarketData Q) → List (MarketEntry B) → Prop) : Prop where
  place : ∀ index stream log, holds index (some stream) log → stream.index = index
  quiet : ∀ index stream before after, queuedBy index after = queuedBy index before → sentBy index after = sentBy index before →
    holds index stream before → holds index stream after
  created : ∀ index streamId log, holds index none log → holds index (some (MarketData.create streamId index)) log
  moved : ∀ (c after : Feed Y Q S B) event, MarketData.step config c event = some after → Keeps holds c after
  subscribed : ∀ startFrom (c : Feed Y Q S B), Keeps holds c (MarketData.subscribe config startFrom c)

-- Streams that subscribe one after the other, from the index `first` on.
theorem Lasting.subscribeStreams {feed : GatewayConfig} (lasting : Lasting Y S feed holds) (startFrom first : Nat)
    (streams : List (MarketData Q)) (shared : Shared Y Q S B)
    (indexed : ∀ (i : Nat) stream, streams[i]? = some stream → stream.index = first + i) :
    (∀ i : Nat, holds (first + i) streams[i]? shared.log →
      holds (first + i) (Controller.subscribeStreams feed startFrom streams shared).1[i]?
        (Controller.subscribeStreams feed startFrom streams shared).2.log) ∧
    ∀ index < first, ∀ stream, holds index stream shared.log →
      holds index stream (Controller.subscribeStreams feed startFrom streams shared).2.log := by
  induction streams generalizing first shared with
  | nil => exact ⟨fun _ known => known,fun _ _ _ known => known⟩
  | cons stream rest ih =>
      have one : Keeps holds ⟨stream,shared⟩ (MarketData.subscribe feed startFrom ⟨stream,shared⟩) := lasting.subscribed startFrom _
      have own : stream.index = first := indexed 0 stream rfl
      have later : ∀ (i : Nat) other, rest[i]? = some other → other.index = first + 1 + i := by
        intro i other found
        rw [indexed (i + 1) other found,Nat.add_assoc,Nat.add_comm 1 i]
      obtain ⟨after,earlier⟩ := ih (first + 1) (MarketData.subscribe feed startFrom ⟨stream,shared⟩).shared later
      refine ⟨?_,?_⟩
      · intro i known
        cases i with
        | zero =>
            have subscribed := one.own
            simp only [own] at subscribed
            exact earlier first (Nat.lt_succ_self first) _ (subscribed known)
        | succ i =>
            have other : first + (i + 1) ≠ stream.index := by omega
            have kept := one.others _ other _ known
            have shifted : first + (i + 1) = first + 1 + i := by omega
            rw [shifted] at kept ⊢
            exact after i kept
      · intro index before other known
        have apart : index ≠ stream.index := by omega
        exact earlier index (by omega) other (one.others index apart other known)

omit [Download2 E OrderEntryREST.State] [Download2 D DropCopy.State] [LimitRequest R] in
theorem Lasting.createMarketData {feed : GatewayConfig} (lasting : Lasting Y S feed holds) {c : Controller Y Q S B E D R}
    (each : EachStream holds c) :
    EachStream holds (createMarketData c) := by
  have started : ∀ index stream, holds index stream c.shared.log → holds index stream (ControllerSystem.createMarketData c).shared.log :=
    fun index stream => lasting.quiet index stream _ _ rfl rfl
  intro index
  have known := started index _ (each index)
  rcases Nat.lt_trichotomy index c.marketData.length with before | rfl | behind
  · have kept : (ControllerSystem.createMarketData c).marketData[index]? = c.marketData[index]? := List.getElem?_append_left before
    rw [kept]
    exact known
  · have fresh : (ControllerSystem.createMarketData c).marketData[c.marketData.length]? =
        some (MarketData.create (nextStreamId c.streamId) c.marketData.length) := List.getElem?_concat_length
    rw [List.getElem?_eq_none (Nat.le_refl _)] at known
    rw [fresh]
    exact lasting.created _ _ _ known
  · have missing : (ControllerSystem.createMarketData c).marketData[index]? = c.marketData[index]? := by
      rw [List.getElem?_eq_none (Nat.le_of_lt behind)]
      apply List.getElem?_eq_none
      simp only [ControllerSystem.createMarketData,List.length_append,List.length_singleton]
      exact behind
    rw [missing]
    exact known

omit [Download2 E OrderEntryREST.State] [Download2 D DropCopy.State] [LimitRequest R] in
theorem Lasting.createStreams {feed : GatewayConfig} (lasting : Lasting Y S feed holds) (count : Nat) {c : Controller Y Q S B E D R}
    (each : EachStream holds c) :
    EachStream holds (createStreams count c) := by
  induction count generalizing c with
  | zero => exact each
  | succ count ih => exact ih (lasting.createMarketData each)

-- The streams that there are once an update has been listed.
def ensuring (symbols : List String) (c : Controller Y Q S B E D R) : Controller Y Q S B E D R :=
  createStreams ((Symbols.update symbols c.shared.symbols).1.1 - c.marketData.length)
    {c with shared.symbols := (Symbols.update symbols c.shared.symbols).2}

omit [Download2 E OrderEntryREST.State] [Download2 D DropCopy.State] [LimitRequest R] in
theorem Lasting.onSymbolsUpdate (lasting : Lasting Y S config.feed holds) (symbols : List String) {c : Controller Y Q S B E D R}
    (each : EachStream holds c) :
    EachStream holds (onSymbolsUpdate config symbols c) := by
  have ensured : EachStream holds (ensuring symbols c) := lasting.createStreams _ each
  have indexed : ∀ (i : Nat) stream, (ensuring symbols c).marketData[i]? = some stream → stream.index = 0 + i := by
    intro i stream found
    have known := ensured i
    rw [found] at known
    rw [Nat.zero_add]
    exact lasting.place i stream _ known
  obtain ⟨subscribed,_⟩ := lasting.subscribeStreams (Symbols.update symbols c.shared.symbols).1.2 0
    (ensuring symbols c).marketData (ensuring symbols c).shared indexed
  intro index
  have known := subscribed index
  rw [Nat.zero_add] at known
  exact known (ensured index)

-- What an account passes on queues and sends nothing.
omit [Symbols Y] [Download2 E OrderEntryREST.State] [Download2 D DropCopy.State] [LimitRequest R] in
theorem passOn_ever {a : AccountStreams E D R} {call : AccountCall B} {shared later : Shared Y Q S B}
    (passed : passOn config a call shared = some later) (index : Nat) :
    queuedBy index later.log = queuedBy index shared.log ∧ sentBy index later.log = sentBy index shared.log := by
  unfold passOn at passed
  split at passed
  · split at passed
    · exact Option.some.inj passed ▸ ⟨rfl,rfl⟩
    · have sequences := onOrderBookAck_sequences passed
      exact ⟨(sequences.log index).everQueued,(sequences.log index).everSent⟩
  · exact Option.some.inj passed ▸ ⟨rfl,rfl⟩

omit [Symbols Y] [LimitQueue Q] [Sequencer S B] [Download2 E OrderEntryREST.State] [Download2 D DropCopy.State]
  [LimitRequest R] in
theorem adopt_streams (index : Nat) (a : AccountStreams E D R) (world : World E D R) (c : Controller Y Q S B E D R) :
    (adopt index a world c).marketData = c.marketData ∧ (adopt index a world c).shared = c.shared := by
  unfold adopt
  split
  · exact ⟨rfl,rfl⟩
  · exact ⟨rfl,rfl⟩

omit [Download2 E OrderEntryREST.State] [Download2 D DropCopy.State] [LimitRequest R] in
theorem Lasting.onMarketData (lasting : Lasting Y S config.feed holds) {c after : Controller Y Q S B E D R}
    (each : EachStream holds c) (ran : onMarketData config index event c = some after) :
    EachStream holds after := by
  unfold ControllerSystem.onMarketData at ran
  split at ran
  · exact Option.some.inj ran ▸ each
  · rename_i stream present
    obtain ⟨feed,stepped,rfl⟩ := Option.map_eq_some_iff.mp ran
    have keeps := lasting.moved _ _ _ stepped
    have received : ∀ other, holds other c.marketData[other]? (.event (.marketData index event) :: c.shared.log) :=
      fun other => lasting.quiet other _ c.shared.log _ rfl rfl (each other)
    have own : stream.index = index := by
      have known := each index
      rw [present] at known
      exact lasting.place index stream _ known
    intro other
    by_cases same : other = index
    · subst same
      have known := received other
      have moved := keeps.own
      simp only [own] at moved
      rw [present] at known
      rw [List.getElem?_set_self (List.getElem?_eq_some_iff.mp present).1]
      exact moved known
    · rw [List.getElem?_set_ne (Ne.symm same)]
      exact keeps.others other (own ▸ same) _ (received other)

theorem Lasting.visit (lasting : Lasting Y S config.feed holds) {c after : Controller Y Q S B E D R} {event : StreamEvent B}
    (each : EachStream holds c) (ran : visit config c event = some after) :
    EachStream holds after := by
  cases event with
  | account index call =>
      cases onAccount_called ran with
      | missing => exact each
      | @called a world shared present stepped passed =>
          obtain ⟨streams,still⟩ := adopt_streams index a world {c with shared := shared}
          unfold EachStream
          rw [streams,still]
          intro other
          obtain ⟨queued,sent⟩ := passOn_ever passed other
          exact lasting.quiet other _ _ _ queued sent (each other)
  | orderEntryWs index event =>
      cases onOrderEntryWs_called ran with
      | missing => exact each
      | called => exact each
  | marketData index event => exact lasting.onMarketData each ran

omit [Symbols Y] [LimitQueue Q] [Sequencer S B] [Download2 E OrderEntryREST.State] [Download2 D DropCopy.State]
  [LimitRequest R] in
theorem handOver_streams (destination : Destination) (action : OrderAction) (c : Controller Y Q S B E D R) :
    (handOver destination action c).2.marketData = c.marketData ∧ (handOver destination action c).2.shared = c.shared := by
  unfold handOver
  split
  · split
    · exact ⟨rfl,rfl⟩
    · exact ⟨rfl,rfl⟩
  · split
    · exact ⟨rfl,rfl⟩
    · split
      · exact ⟨rfl,rfl⟩
      · exact ⟨rfl,rfl⟩

omit [Symbols Y] [LimitQueue Q] [Sequencer S B] [Download2 E OrderEntryREST.State] [Download2 D DropCopy.State]
  [LimitRequest R] in
theorem onRequest_streams (config : ControllerConfig) (request : OrderRequest) (c : Controller Y Q S B E D R) :
    (onRequest config request c).2.marketData = c.marketData ∧ (onRequest config request c).2.shared = c.shared := by
  rw [onRequest_eq]
  cases addressee config c request with
  | error e => exact ⟨rfl,rfl⟩
  | ok target => exact handOver_streams _ _ c

theorem Lasting.step (lasting : Lasting Y S config.feed holds) {c after : Controller Y Q S B E D R} {event : ControllerEvent B}
    (each : EachStream holds c) (ran : step config c event = some after) :
    EachStream holds after := by
  cases event with
  | timer t now answers => exact execute_invariant (fun _ _ _ known stepped => lasting.visit known stepped) each ran
  | request request =>
      obtain rfl := Option.some.inj ran
      obtain ⟨streams,shared⟩ := onRequest_streams config request c
      unfold EachStream
      rw [streams,shared]
      exact each
  | symbolsUpdate symbols => exact Option.some.inj ran ▸ lasting.onSymbolsUpdate symbols each
  | callback event _ => exact lasting.visit each ran

-- There are no streams at first, and nothing has been queued or sent.
theorem Lasting.run (lasting : Lasting Y S config.feed holds) (none : ∀ index, holds index none []) {c : Controller Y Q S B E D R}
    {events : List (ControllerEvent B)} (ran : execute (ControllerSystem.step config) (create config) events = some c) :
    EachStream holds c := by
  have start : EachStream holds (create config : Controller Y Q S B E D R) := none
  exact execute_invariant (fun _ _ _ known stepped => lasting.step known stepped) start ran

end streams
end KucoinPro.ControllerSystem
