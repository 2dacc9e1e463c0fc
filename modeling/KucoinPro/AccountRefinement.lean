import KucoinPro.ControllerMoves

namespace KucoinPro

-- The id of the drop copy is read by nothing but the drop copy.
namespace AccountSystem
open GuardedRuns

variable {E D R : Type} (config : Config)

theorem onOrderItems_adopted (id : Nat) (items : List Json.OrdersAckDataItemsItem) (w : World E D R) :
    OrderEntryREST.onOrderItems {config with dropCopyStreamId := id} items w = OrderEntryREST.onOrderItems config items w := by
  induction items generalizing w with
  | nil => rfl
  | cons item rest ih =>
      have same : OrderEntryREST.orderStatus {config with dropCopyStreamId := id} item = OrderEntryREST.orderStatus config item := rfl
      simp only [OrderEntryREST.onOrderItems,same]
      cases OrderEntryREST.orderStatus config item with
      | error e => rfl
      | ok status => exact ih _

variable [Download2 E OrderEntryREST.State] [Download2 D DropCopy.State] [LimitRequest R]

theorem invoke_adopted (id : Nat) (t : TraceInfo) (submission : Submission) (response : Web.Response) :
    (OrderEntryREST.invoke {config with dropCopyStreamId := id} t submission response : World E D R → Option (World E D R)) =
      OrderEntryREST.invoke config t submission response := by
  simp only [OrderEntryREST.invoke]
  cases submission.callback with
  | getOrdersAck =>
      have same : (OrderEntryREST.onOrdersAck {config with dropCopyStreamId := id} :
          Json.OrdersAck → World E D R → Except Exception Unit × World E D R) = OrderEntryREST.onOrdersAck config := by
        funext ack w
        exact onOrderItems_adopted config id _ _
      simp only [OrderEntryREST.getOrdersAck,same]
      rfl
  | _ => rfl

theorem rest_adopted (id : Nat) (w : World E D R) (event : OrderEntryRestEvent) :
    OrderEntryREST.step {config with dropCopyStreamId := id} w event = OrderEntryREST.step config w event := by
  cases event with
  | timer => rfl
  | connected => rfl
  | disconnected => rfl
  | action action => cases action <;> rfl
  | response => simp only [OrderEntryREST.step,OrderEntryREST.onResponse,invoke_adopted]

theorem step_adopted (id : Nat) {w : World E D R} (absent : w.dropCopy = none) (event : Event) :
    step {config with dropCopyStreamId := id} w event = step config w event := by
  cases event with
  | rest event => exact rest_adopted config id _ event
  | dropCopy event => simp only [step,absent]

variable {config} [LawfulDownload2 E] [LawfulDownload2 D] [LawfulLimitRequest R]

-- A drop copy stays.
theorem step_present {w after : World E D R} (ran : step config w event = some after) (absent : after.dropCopy = none) :
    w.dropCopy = none := by
  cases event with
  | rest event =>
      have renewed := rest_renewed ran
      rw [absent] at renewed
      generalize before : w.dropCopy = stream at renewed
      cases renewed with
      | same => rfl
  | dropCopy event =>
      rcases step_dropCopy config ran with ⟨none,_⟩ | ⟨_,_,_,_,rfl⟩
      · exact none
      · cases absent

-- So that the id it is to get makes no difference before it is there.
theorem execute_adopted (id : Nat) {w last : World E D R} {events : List Event}
    (ran : execute (step config) w events = some last) (absent : last.dropCopy = none) :
    execute (step {config with dropCopyStreamId := id}) w events = some last := by
  induction events using List.reverseRecOn generalizing last with
  | nil => exact ran
  | append_singleton front event ih =>
      obtain ⟨middle,executed,stepped⟩ := execute_last ran
      have before := step_present stepped absent
      rw [execute_append,ih executed before,Option.bind_some,execute,step_adopted config id before,stepped]
      rfl

end AccountSystem

namespace ControllerSystem
open GuardedRuns AccountSystem

variable {Y S B E D R : Type} {Q : Type → Type} {config : ControllerConfig}

section accounts
variable [Download2 E OrderEntryREST.State] [Download2 D DropCopy.State] [LimitRequest R] [LawfulDownload2 E]
  [LawfulDownload2 D] [LawfulLimitRequest R]

theorem continued_continues {a : AccountStreams E D R} {event : Event} (streamId : Nat)
    (ran : AccountSystem.step a.config a.world event = some world) : Continues a (continued streamId a world) := by
  have kept : a.world.dropCopy.isSome = true → world.dropCopy.isSome = true := by
    intro present
    cases absent : world.dropCopy with
    | some stream => rfl
    | none =>
        rw [step_present ran absent] at present
        cases present
  unfold continued
  split
  · rename_i creates
    refine ⟨rfl,rfl,?_⟩
    intro present
    simp only [createsDropCopy,Bool.and_eq_true,Option.isNone_iff_eq_none] at creates
    rw [creates.1] at present
    cases present
  · exact ⟨rfl,rfl,fun present => ⟨kept present,rfl⟩⟩

-- What was done so far under the configuration it had is what is done under the
-- one it has now.
theorem continued_execute {a : AccountStreams E D R} {event : Event} {done : List Event} (streamId : Nat)
    (known : execute (AccountSystem.step a.config) AccountSystem.initial done = some a.world)
    (ran : AccountSystem.step a.config a.world event = some world) :
    execute (AccountSystem.step (continued streamId a world).config) AccountSystem.initial (done ++ [event]) = some world := by
  unfold continued
  split
  · rename_i creates
    simp only [createsDropCopy,Bool.and_eq_true,Option.isNone_iff_eq_none] at creates
    have adopted := execute_adopted (nextStreamId streamId) known creates.1
    rw [execute_append,adopted,Option.bind_some,execute,step_adopted a.config _ creates.1,ran]
    rfl
  · rw [execute_append,known,Option.bind_some,execute,ran]
    rfl

omit [Download2 E OrderEntryREST.State] [LawfulDownload2 E] [LawfulDownload2 D] [LawfulLimitRequest R] in
theorem act_keeps (config : Config) (action : OrderAction) (w : World E D R) :
    (OrderEntryREST.act config (receive (.rest (.action action)) w) action).2.dropCopy = w.dropCopy := by
  have serves : OrderEntryREST.Serves config .nothing (receive (.rest (.action action)) w)
      (OrderEntryREST.act config (receive (.rest (.action action)) w) action).2 := OrderEntryREST.act_serves _ action
  exact (serves.spared.resolve_left id).dropCopy

-- The stream that a request is handed to does with it what it does with any call.
omit [LawfulDownload2 E] [LawfulDownload2 D] [LawfulLimitRequest R] in
theorem handOver_rest {c : Controller Y Q S B E D R} {index : Nat} (present : c.accounts[index]? = some a) (action : OrderAction) :
    ∃ world, AccountSystem.step a.config a.world (.rest (.action action)) = some world ∧
      (handOver (.rest index) action c).2 = {c with accounts := c.accounts.set index {a with world := world}} ∧
      world.dropCopy = a.world.dropCopy := by
  refine ⟨_,rfl,?_,act_keeps a.config action a.world⟩
  simp only [handOver,present]

omit [Download2 E OrderEntryREST.State] [Download2 D DropCopy.State] [LimitRequest R] [LawfulDownload2 E] [LawfulDownload2 D]
  [LawfulLimitRequest R] in
theorem handOver_ws (config : ControllerConfig) {c : Controller Y Q S B E D R} {index : Nat} (present : c.accounts[index]? = some a)
    (stream : a.orderEntryWs = some ws) (action : OrderAction) :
    ∃ session, OrderEntryWS.step (wsConfig a ws) config.decoders ws.session (.action action) = some session ∧
      (handOver (.ws index) action c).2 =
        {c with accounts := c.accounts.set index {a with orderEntryWs := some {ws with session := session}}} := by
  refine ⟨_,rfl,?_⟩
  simp only [handOver,present,stream]

variable [Symbols Y] [LimitQueue Q] [Sequencer S B]

-- What becomes of the accounts when a stream is visited.
theorem visit_continues {c after : Controller Y Q S B E D R} {event : StreamEvent B} (ran : visit config c event = some after) :
    AllContinue c after := by
  cases event with
  | account index call =>
      cases onAccount_called ran with
      | missing => exact .same rfl
      | called present stepped => exact .set present (continued_continues c.streamId stepped) (adopt_accounts _ _ _ _)
  | orderEntryWs index event =>
      cases onOrderEntryWs_called ran with
      | missing => exact .same rfl
      | @called a ws session present stream stepped =>
          have one : Continues a {a with orderEntryWs := some {ws with session := session}} := by
            refine ⟨rfl,?_,fun known => ⟨known,rfl⟩⟩
            rw [stream]
            rfl
          exact .set present one rfl
  | marketData index event => exact .same (onMarketData_accounts ran)

omit [Symbols Y] [LimitQueue Q] [Sequencer S B] [LawfulDownload2 E] [LawfulDownload2 D] [LawfulLimitRequest R] in
theorem handOver_continues (destination : Destination) (action : OrderAction) (c : Controller Y Q S B E D R) :
    AllContinue c (handOver destination action c).2 := by
  cases destination with
  | rest index =>
      cases present : c.accounts[index]? with
      | none =>
          simp only [handOver,present]
          exact .same rfl
      | some a =>
          obtain ⟨world,_,handed,same⟩ := handOver_rest present action
          have one : Continues a {a with world := world} := ⟨rfl,rfl,fun known => ⟨same ▸ known,rfl⟩⟩
          rw [handed]
          exact .set present one rfl
  | ws index =>
      cases present : c.accounts[index]? with
      | none =>
          simp only [handOver,present]
          exact .same rfl
      | some a =>
          cases stream : a.orderEntryWs with
          | none =>
              simp only [handOver,present,stream]
              exact .same rfl
          | some ws =>
              have one : ∀ session, Continues a {a with orderEntryWs := some {ws with session := session}} := by
                intro session
                refine ⟨rfl,?_,fun known => ⟨known,rfl⟩⟩
                rw [stream]
                rfl
              simp only [handOver,present,stream]
              exact .set present (one _) rfl

omit [Symbols Y] [LimitQueue Q] [Sequencer S B] [LawfulDownload2 E] [LawfulDownload2 D] [LawfulLimitRequest R] in
theorem onRequest_continues (request : OrderRequest) (c : Controller Y Q S B E D R) :
    AllContinue c (onRequest config request c).2 := by
  rw [onRequest_eq]
  cases addressee config c request with
  | error e => exact .same rfl
  | ok handed => exact handOver_continues _ _ c

theorem step_continues {c after : Controller Y Q S B E D R} {event : ControllerEvent B} (ran : step config c event = some after) :
    AllContinue c after := by
  cases event with
  | timer t now answers =>
      exact execute_related AllContinue (fun _ => .same rfl) (fun _ _ _ => .trans) (fun _ _ _ => visit_continues) ran
  | request request => exact Option.some.inj ran ▸ onRequest_continues request c
  | symbolsUpdate symbols => exact Option.some.inj ran ▸ .same (onSymbolsUpdate_accounts symbols c)
  | callback event _ => exact visit_continues ran

-- An account is where its own streams get from their start by what they were called with so far.
def Follows (index : Nat) (c : Controller Y Q S B E D R) (done : List Event) : Prop :=
  ∀ a, c.accounts[index]? = some a → execute (AccountSystem.step a.config) AccountSystem.initial done = some a.world

omit [Symbols Y] [LimitQueue Q] [Sequencer S B] [LawfulDownload2 E] [LawfulDownload2 D] [LawfulLimitRequest R] in
theorem Follows.elsewhere {c after : Controller Y Q S B E D R} {done : List Event} (follows : Follows index c done)
    (same : after.accounts[index]? = c.accounts[index]?) : Follows index after (done ++ []) := by
  intro a present
  rw [List.append_nil]
  exact follows a (same ▸ present)

theorem visit_follows {c after : Controller Y Q S B E D R} {event : StreamEvent B} {done : List Event}
    (follows : Follows index c done) (ran : visit config c event = some after) :
    Follows index after (done ++ accountTouch index c event) := by
  cases event with
  | account other call =>
      cases onAccount_called ran with
      | missing missing =>
          by_cases same : other = index
          · subst same
            intro a present
            rw [missing] at present
            cases present
          · rw [accountTouch,if_neg same]
            exact follows.elsewhere rfl
      | @called a world shared present stepped _ =>
          by_cases same : other = index
          · subst same
            intro b later
            rw [adopt_accounts,List.getElem?_set_self (List.getElem?_eq_some_iff.mp present).1] at later
            obtain rfl := Option.some.inj later
            rw [accountTouch,if_pos rfl,present,Option.toList_some,List.map_singleton]
            rw [continued_world]
            exact continued_execute c.streamId (follows a present) stepped
          · rw [accountTouch,if_neg same]
            refine follows.elsewhere ?_
            rw [adopt_accounts]
            exact List.getElem?_set_ne same
  | orderEntryWs other event =>
      cases onOrderEntryWs_called ran with
      | missing => exact follows.elsewhere rfl
      | @called a ws session present stream stepped =>
          by_cases same : other = index
          · subst same
            intro b later
            rw [List.getElem?_set_self (List.getElem?_eq_some_iff.mp present).1] at later
            obtain rfl := Option.some.inj later
            rw [accountTouch,List.append_nil]
            exact follows a present
          · exact follows.elsewhere (List.getElem?_set_ne same)
  | marketData other event => exact follows.elsewhere (by rw [onMarketData_accounts ran])

omit [Symbols Y] [LimitQueue Q] [Sequencer S B] [LawfulDownload2 E] [LawfulDownload2 D] [LawfulLimitRequest R] in
theorem onRequest_follows {c : Controller Y Q S B E D R} {done : List Event} (follows : Follows index c done)
    (request : OrderRequest) : Follows index (onRequest config request c).2 (done ++ requestTouch config index c request) := by
  rw [onRequest_eq,requestTouch]
  cases addressee config c request with
  | error e => exact follows.elsewhere rfl
  | ok target =>
      obtain ⟨destination,action⟩ := target
      cases destination with
      | rest other =>
          cases present : c.accounts[other]? with
          | none =>
              simp only [handOver,present]
              by_cases same : other = index
              · subst same
                intro a later
                rw [present] at later
                cases later
              · rw [if_neg same]
                exact follows.elsewhere rfl
          | some a =>
              obtain ⟨world,stepped,handed,_⟩ := handOver_rest present action
              simp only [handed]
              by_cases same : other = index
              · subst same
                intro b later
                rw [List.getElem?_set_self (List.getElem?_eq_some_iff.mp present).1] at later
                obtain rfl := Option.some.inj later
                rw [if_pos rfl,execute_append,follows a present,Option.bind_some,execute,stepped]
                rfl
              · rw [if_neg same]
                exact follows.elsewhere (List.getElem?_set_ne same)
      | ws other =>
          cases present : c.accounts[other]? with
          | none =>
              simp only [handOver,present]
              exact follows.elsewhere rfl
          | some a =>
              cases stream : a.orderEntryWs with
              | none =>
                  simp only [handOver,present,stream]
                  exact follows.elsewhere rfl
              | some ws =>
                  obtain ⟨session,_,handed⟩ := handOver_ws config present stream action
                  simp only [handed]
                  by_cases same : other = index
                  · subst same
                    intro b later
                    rw [List.getElem?_set_self (List.getElem?_eq_some_iff.mp present).1] at later
                    obtain rfl := Option.some.inj later
                    rw [List.append_nil]
                    exact follows a present
                  · exact follows.elsewhere (List.getElem?_set_ne same)

theorem step_follows {c after : Controller Y Q S B E D R} {event : ControllerEvent B} {done : List Event}
    (follows : Follows index c done) (ran : step config c event = some after) :
    Follows index after (done ++ touches config index c event) := by
  cases event with
  | timer t now answers => exact execute_traces (Follows index) (fun _ _ _ _ known stepped => visit_follows known stepped) follows ran
  | request request => exact Option.some.inj ran ▸ onRequest_follows follows request
  | symbolsUpdate symbols =>
      obtain rfl := Option.some.inj ran
      exact follows.elsewhere (by rw [onSymbolsUpdate_accounts])
  | callback event _ => exact visit_follows follows ran

end accounts

-- The same for its websocket order stream.
def WsFollows (config : ControllerConfig) (index : Nat) (c : Controller Y Q S B E D R) (done : List OrderEntryWS.Event) : Prop :=
  ∀ a ws, c.accounts[index]? = some a → a.orderEntryWs = some ws →
    execute (OrderEntryWS.step (wsConfig a ws) config.decoders) OrderEntryWS.initial done = some ws.session

theorem WsFollows.elsewhere {c after : Controller Y Q S B E D R} {done : List OrderEntryWS.Event}
    (follows : WsFollows config index c done) (same : after.accounts[index]? = c.accounts[index]?) :
    WsFollows config index after (done ++ []) := by
  intro a ws present stream
  rw [List.append_nil]
  exact follows a ws (same ▸ present) stream

theorem ws_adopted (config : Config) (id : Nat) (decoders : Json.WSDecoders) :
    OrderEntryWS.step {config with dropCopyStreamId := id} decoders = OrderEntryWS.step config decoders := by
  funext s event
  cases event with
  | timer => rfl
  | connected => rfl
  | disconnected => rfl
  | text => rfl
  | logged => rfl
  | binary => rfl
  | action action => cases action <;> rfl

theorem continued_ws (streamId : Nat) (a : AccountStreams E D R) (world : World E D R) (ws : WsStream) (decoders : Json.WSDecoders) :
    OrderEntryWS.step (wsConfig (continued streamId a world) ws) decoders = OrderEntryWS.step (wsConfig a ws) decoders ∧
      (continued streamId a world).orderEntryWs = a.orderEntryWs := by
  unfold continued
  split
  · exact ⟨ws_adopted (wsConfig a ws) _ decoders,rfl⟩
  · exact ⟨rfl,rfl⟩

-- A call of the stream, whoever makes it.
theorem WsFollows.called {c after : Controller Y Q S B E D R} {done : List OrderEntryWS.Event} {last : OrderEntryWS.Session}
    (follows : WsFollows config index c done) (present : c.accounts[other]? = some a) (stream : a.orderEntryWs = some ws)
    (stepped : OrderEntryWS.step (wsConfig a ws) config.decoders ws.session event = some last)
    (accounts : after.accounts = c.accounts.set other {a with orderEntryWs := some {ws with session := last}}) :
    WsFollows config index after (done ++ if other = index then [event] else []) := by
  by_cases same : other = index
  · subst same
    intro b stream later known
    rw [accounts,List.getElem?_set_self (List.getElem?_eq_some_iff.mp present).1] at later
    obtain rfl := Option.some.inj later
    obtain rfl := Option.some.inj known
    have sofar : execute (OrderEntryWS.step (wsConfig a ws) config.decoders) OrderEntryWS.initial done = some ws.session :=
      follows a ws present stream
    have config : wsConfig {a with orderEntryWs := some {ws with session := last}} {ws with session := last} = wsConfig a ws := rfl
    rw [if_pos rfl,execute_append,config,sofar,Option.bind_some,execute,stepped]
    rfl
  · rw [if_neg same]
    exact follows.elsewhere (by rw [accounts]; exact List.getElem?_set_ne same)

theorem WsFollows.idle {c after : Controller Y Q S B E D R} {done : List OrderEntryWS.Event} {fresh : List OrderEntryWS.Event}
    (follows : WsFollows config index c done) (accounts : after.accounts = c.accounts)
    (absent : fresh = [] ∨ ∀ a ws, c.accounts[index]? = some a → a.orderEntryWs ≠ some ws) :
    WsFollows config index after (done ++ fresh) := by
  rcases absent with rfl | absent
  · exact follows.elsewhere (by rw [accounts])
  · intro a ws present stream
    rw [accounts] at present
    exact absurd stream (absent a ws present)

variable [Symbols Y] [LimitQueue Q] [Sequencer S B] [Download2 E OrderEntryREST.State] [Download2 D DropCopy.State]
  [LimitRequest R]

theorem visit_wsFollows {c after : Controller Y Q S B E D R} {event : StreamEvent B} {done : List OrderEntryWS.Event}
    (follows : WsFollows config index c done) (ran : visit config c event = some after) :
    WsFollows config index after (done ++ wsTouch index c event) := by
  cases event with
  | account other call =>
      cases onAccount_called ran with
      | missing => exact follows.idle rfl (.inl rfl)
      | @called a world shared present stepped _ =>
          by_cases same : other = index
          · subst same
            intro b ws later stream
            rw [adopt_accounts,List.getElem?_set_self (List.getElem?_eq_some_iff.mp present).1] at later
            obtain rfl := Option.some.inj later
            obtain ⟨config,kept⟩ := continued_ws c.streamId a world ws config.decoders
            rw [config,wsTouch,List.append_nil]
            exact follows a ws present (kept ▸ stream)
          · refine follows.elsewhere ?_
            rw [adopt_accounts]
            exact List.getElem?_set_ne same
  | orderEntryWs other event =>
      cases onOrderEntryWs_called ran with
      | missing absent =>
          refine follows.idle rfl ?_
          by_cases same : other = index
          · exact .inr (same ▸ absent)
          · exact .inl (if_neg same)
      | called present stream stepped => exact follows.called present stream stepped rfl
  | marketData other event => exact follows.idle (onMarketData_accounts ran) (.inl rfl)

omit [Symbols Y] [LimitQueue Q] [Sequencer S B] in
theorem onRequest_wsFollows {c : Controller Y Q S B E D R} {done : List OrderEntryWS.Event} (follows : WsFollows config index c done)
    (request : OrderRequest) : WsFollows config index (onRequest config request c).2 (done ++ wsRequestTouch config index c request) := by
  rw [onRequest_eq,wsRequestTouch]
  cases addressee config c request with
  | error e => exact follows.idle rfl (.inl rfl)
  | ok target =>
      obtain ⟨destination,action⟩ := target
      cases destination with
      | rest other =>
          cases present : c.accounts[other]? with
          | none =>
              simp only [handOver,present]
              exact follows.idle rfl (.inl rfl)
          | some a =>
              obtain ⟨world,_,handed,_⟩ := handOver_rest present action
              simp only [handed]
              by_cases same : other = index
              · subst same
                intro b ws later stream
                rw [List.getElem?_set_self (List.getElem?_eq_some_iff.mp present).1] at later
                obtain rfl := Option.some.inj later
                rw [List.append_nil]
                exact follows a ws present stream
              · exact follows.elsewhere (List.getElem?_set_ne same)
      | ws other =>
          have absent : (∀ a ws, c.accounts[other]? = some a → a.orderEntryWs ≠ some ws) →
              WsFollows config index c (done ++ if other = index then [.action action] else []) := by
            intro missing
            refine follows.idle rfl ?_
            by_cases same : other = index
            · exact .inr (same ▸ missing)
            · exact .inl (if_neg same)
          cases present : c.accounts[other]? with
          | none =>
              simp only [handOver,present]
              exact absent fun a ws known => by rw [present] at known; cases known
          | some a =>
              cases stream : a.orderEntryWs with
              | none =>
                  simp only [handOver,present,stream]
                  refine absent ?_
                  intro b ws known
                  obtain rfl := Option.some.inj (present.symm.trans known)
                  rw [stream]
                  nofun
              | some ws =>
                  obtain ⟨last,stepped,handed⟩ := handOver_ws config present stream action
                  simp only [handed]
                  exact follows.called present stream stepped rfl

theorem step_wsFollows {c after : Controller Y Q S B E D R} {event : ControllerEvent B} {done : List OrderEntryWS.Event}
    (follows : WsFollows config index c done) (ran : step config c event = some after) :
    WsFollows config index after (done ++ wsTouches config index c event) := by
  cases event with
  | timer t now answers =>
      exact execute_traces (WsFollows config index) (fun _ _ _ _ known stepped => visit_wsFollows known stepped) follows ran
  | request request => exact Option.some.inj ran ▸ onRequest_wsFollows follows request
  | symbolsUpdate symbols =>
      obtain rfl := Option.some.inj ran
      exact follows.idle (onSymbolsUpdate_accounts symbols c) (.inl rfl)
  | callback event _ => exact visit_wsFollows follows ran

omit [Sequencer S B] in
theorem create_follows (index : Nat) : Follows index (create config : Controller Y Q S B E D R) [] := by
  intro a present
  have inside := (List.getElem?_eq_some_iff.mp present).1
  rw [create_opened.1] at inside
  have created := create_opened.2 index _ a (List.getElem?_eq_getElem inside) present
  exact congrArg some created.world.symm

omit [Sequencer S B] [Download2 D DropCopy.State] in
theorem create_wsFollows (index : Nat) : WsFollows config index (create config : Controller Y Q S B E D R) [] := by
  intro a ws present stream
  have inside := (List.getElem?_eq_some_iff.mp present).1
  rw [create_opened.1] at inside
  have created := create_opened.2 index _ a (List.getElem?_eq_getElem inside) present
  exact congrArg some (created.ws ws stream).symm

variable [LawfulDownload2 E] [LawfulDownload2 D] [LawfulLimitRequest R]

theorem run_continues {c : Controller Y Q S B E D R} {events : List (ControllerEvent B)}
    (ran : execute (step config) (create config) events = some c) : AllContinue (create config) c :=
  execute_related AllContinue (fun _ => .same rfl) (fun _ _ _ => .trans) (fun _ _ _ => step_continues) ran

-- An account of a run is one of the configuration, with its own configuration.
theorem run_configured {c : Controller Y Q S B E D R} {events : List (ControllerEvent B)} {index : Nat}
    (ran : execute (step config) (create config) events = some c) (present : c.accounts[index]? = some a) :
    config.accounts[index]? = some a.config.account ∧ a.config.settings = config.settings ∧
      a.config.platform = config.platform ∧ a.orderEntryWs.isSome = (config.wsApi && config.wsUri != "") := by
  have continues := run_continues ran
  have inside := (List.getElem?_eq_some_iff.mp present).1
  rw [continues.1] at inside
  have listed : index < config.accounts.length := by
    rw [create_opened.1] at inside
    exact inside
  have created := create_opened.2 index _ _ (List.getElem?_eq_getElem listed) (List.getElem?_eq_getElem inside)
  have one := continues.2 index _ a (List.getElem?_eq_getElem inside) present
  rw [List.getElem?_eq_getElem listed,one.config]
  refine ⟨congrArg some created.account.symm,created.settings,created.platform,?_⟩
  rw [← created.hasWs]
  have same := congrArg Option.isSome one.ws
  rwa [Option.isSome_map,Option.isSome_map] at same

theorem run_follows {c : Controller Y Q S B E D R} {events : List (ControllerEvent B)} {index : Nat}
    (ran : execute (step config) (create config) events = some c) :
    Follows index c (projection (step config) (touches config index) (create config : Controller Y Q S B E D R) events) :=
  execute_traces (Follows index) (fun _ _ _ _ known stepped => step_follows known stepped) (create_follows index) ran

-- What every step of an account keeps is so of each account of a run.
theorem run_account {valid : World E D R → Prop} {c : Controller Y Q S B E D R} {events : List (ControllerEvent B)} {index : Nat}
    (ran : execute (step config) (create config) events = some c) (present : c.accounts[index]? = some a)
    (initial : valid AccountSystem.initial)
    (preserved : ∀ w event after, valid w → AccountSystem.step a.config w event = some after → valid after) : valid a.world :=
  execute_invariant preserved initial (run_follows ran a present)

omit [LawfulDownload2 E] [LawfulDownload2 D] [LawfulLimitRequest R] in
theorem run_wsFollows {c : Controller Y Q S B E D R} {events : List (ControllerEvent B)} {index : Nat}
    (ran : execute (step config) (create config) events = some c) :
    WsFollows config index c (projection (step config) (wsTouches config index) (create config : Controller Y Q S B E D R) events) :=
  execute_traces (WsFollows config index) (fun _ _ _ _ known stepped => step_wsFollows known stepped) (create_wsFollows index) ran

omit [LawfulDownload2 E] [LawfulDownload2 D] [LawfulLimitRequest R] in
theorem run_session {valid : OrderEntryWS.Session → Prop} {c : Controller Y Q S B E D R} {events : List (ControllerEvent B)}
    {index : Nat} (ran : execute (step config) (create config) events = some c) (present : c.accounts[index]? = some a)
    (stream : a.orderEntryWs = some ws) (initial : valid OrderEntryWS.initial)
    (preserved : ∀ s event after, valid s → OrderEntryWS.step (wsConfig a ws) config.decoders s event = some after → valid after) :
    valid ws.session := execute_invariant preserved initial (run_wsFollows ran a ws present stream)

-- The whole controller, seen from one account: whatever happens to the others and to
-- the market data, its streams go through a run of their own.
theorem accounts_refine {c : Controller Y Q S B E D R} {events : List (ControllerEvent B)} {index : Nat}
    (ran : execute (step config) (create config) events = some c) (present : c.accounts[index]? = some a) :
    config.accounts[index]? = some a.config.account ∧
      execute (AccountSystem.step a.config) AccountSystem.initial
        (projection (step config) (touches config index) (create config : Controller Y Q S B E D R) events) = some a.world ∧
      ∀ ws, a.orderEntryWs = some ws → execute (OrderEntryWS.step (wsConfig a ws) config.decoders) OrderEntryWS.initial
        (projection (step config) (wsTouches config index) (create config : Controller Y Q S B E D R) events) = some ws.session :=
  ⟨(run_configured ran present).1,run_follows ran a present,fun ws => run_wsFollows ran a ws present⟩

section closed
open Smallest

-- Both accounts log on, the second one by both of its order streams.
def logons : List (ControllerEvent Unit) :=
  [connects 0,connects 1,answers 1 0 (reply "ok"),receives 1 "auth",turn,receives 1 "welcome",answers 0 0 (reply "ok"),turn]

theorem accounts_refine_logons : ∃ (c : SmallController) (a : AccountStreams _ _ _) (ws : WsStream),
    execute (step (twoAccounts "wss")) (create (twoAccounts "wss")) logons = some c ∧ c.accounts[1]? = some a ∧ a.orderEntryWs = some ws ∧
      a.world.dropCopy.isSome = true ∧ OrderEntryWS.isReady ws.session = true ∧
      execute (AccountSystem.step a.config) AccountSystem.initial (projection (step (twoAccounts "wss")) (touches (twoAccounts "wss") 1)
        (create (twoAccounts "wss") : SmallController) logons) = some a.world ∧
      execute (OrderEntryWS.step (wsConfig a ws) (twoAccounts "wss").decoders) OrderEntryWS.initial
        (projection (step (twoAccounts "wss")) (wsTouches (twoAccounts "wss") 1) (create (twoAccounts "wss") : SmallController) logons) =
          some ws.session := by
  have checked : (execute (step (twoAccounts "wss")) (create (twoAccounts "wss") : SmallController) logons).any (fun c =>
      (c.accounts[1]?).any fun a => (a.orderEntryWs).any fun ws => a.world.dropCopy.isSome && OrderEntryWS.isReady ws.session) = true := by
    decide +kernel
  obtain ⟨c,ran,inside⟩ := (Option.any_eq_true _ _).mp checked
  obtain ⟨a,present,streams⟩ := (Option.any_eq_true _ _).mp inside
  obtain ⟨ws,stream,ready⟩ := (Option.any_eq_true _ _).mp streams
  rw [Bool.and_eq_true] at ready
  obtain ⟨_,world,session⟩ := accounts_refine ran present
  exact ⟨c,a,ws,ran,present,stream,ready.1,ready.2,world,session ws stream⟩

end closed
end ControllerSystem
end KucoinPro
