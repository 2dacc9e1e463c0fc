import KucoinPro.AccountRefinement
import KucoinPro.EffectCauses

namespace KucoinPro.OrderFlow
open GuardedRuns AccountSystem OrderOutcome EffectCauses ControllerSystem

section accounts
variable {E D R : Type} {config : Config}

-- The order actions that an account has handed to its connection, oldest first.
def ordersIn (log : List Entry) : List (Web.Request × Callback × String) :=
  ((log.filterMap submissionOf).filter fun s => isOrderAction s.callback).reverse.map orderOf

-- What comes of a call that may refuse.
def unlessRefused (outcome : Except ε α) (done : List β) : List β :=
  match outcome with
  | .ok _ => done
  | .error _ => []

theorem ordersIn_cons (entry : Entry) (log : List Entry) : ordersIn (entry :: log) = ordersIn log ++
    (((submissionOf entry).toList.filter fun s => isOrderAction s.callback).map orderOf) := by
  unfold ordersIn
  cases known : submissionOf entry with
  | none =>
      rw [List.filterMap_cons_none known]
      simp
  | some s =>
      rw [List.filterMap_cons_some known]
      cases own : isOrderAction s.callback <;> simp [own]

theorem ordersIn_quiet (other : ∀ s, submissionOf entry = some s → isOrderAction s.callback = false) (log : List Entry) :
    ordersIn (entry :: log) = ordersIn log := by
  rw [ordersIn_cons]
  cases known : submissionOf entry with
  | none => simp
  | some s => simp [other s known]

theorem ordersIn_other (other : submissionOf entry = none) (log : List Entry) : ordersIn (entry :: log) = ordersIn log :=
  ordersIn_quiet (fun s same => by rw [other] at same; cases same) log

theorem ordersIn_effects (fresh : List Effect) (log : List Entry)
    (other : ∀ e ∈ fresh, ∀ s, submissionOf (.effect e) = some s → isOrderAction s.callback = false) :
    ordersIn (fresh.map .effect ++ log) = ordersIn log := by
  induction fresh with
  | nil => rfl
  | cons e rest ih =>
      rw [List.map_cons,List.cons_append,ordersIn_quiet (other e List.mem_cons_self)]
      exact ih fun e member => other e (List.mem_cons_of_mem _ member)

-- Nothing but an order action hands over an order.
theorem causes_other (causes : Causes config cause e) (idle : ∀ action, cause ≠ .action action) :
    ∀ s, submissionOf (.effect e) = some s → isOrderAction s.callback = false := by
  intro s submitted
  cases causes with
  | quiet silent => cases (quiet_other silent).symm.trans submitted
  | asked _ other =>
      obtain rfl := Option.some.inj submitted
      exact other
  | ordered => exact absurd rfl (idle _)
  | noted known =>
      cases e with
      | submit => simp [notes] at known
      | _ => cases submitted
  | _ => cases submitted

theorem prepared_orders (w : World E D R) (event : Event) : ordersIn (prepared w event).log = ordersIn w.log := by
  unfold prepared
  split
  · rw [OrderEntryREST.answering,World.emit,ordersIn_other rfl]
    exact ordersIn_other rfl _
  · exact ordersIn_other rfl _

variable [Download2 E OrderEntryREST.State] [Download2 D DropCopy.State] [LimitRequest R] [LawfulDownload2 E]
  [LawfulDownload2 D] [LawfulLimitRequest R]

theorem step_idle {w after : World E D R} (ran : AccountSystem.step config w event = some after)
    (other : ∀ action, event ≠ .rest (.action action)) : ordersIn after.log = ordersIn w.log := by
  obtain ⟨fresh,log,causes,_⟩ := (step_adds ran).fresh
  have idle : ∀ action, causeOf w event ≠ .action action := by
    intro action
    unfold causeOf
    split
    · nofun
    · split
      · nofun
      · exact absurd rfl (other _)
      · nofun
  rw [log,ordersIn_effects fresh _ fun e member => causes_other (causes e member) idle,prepared_orders]

omit [Download2 E OrderEntryREST.State] [Download2 D DropCopy.State] [LimitRequest R] [LawfulDownload2 E] [LawfulDownload2 D]
  [LawfulLimitRequest R] in
theorem cancelAllOrders_orders (messageInfo : MessageInfo) (cancel : CancelAllOrders) (requestId : String) (symbols : List String)
    (w : World E D R) :
    ordersIn (symbols.foldl (fun w symbol =>
      if cancel.symbol ≠ "" ∧ symbol ≠ cancel.symbol then w
      else
        let request := OrderEntryREST.postRequest config messageInfo.traceInfo API.restPrivate.orderCancelAll .undefined
          (Encoder.cancelAllOrders symbol)
        (w.submit request .cancelAllOrdersAck requestId).emit
          (.cancelAllOrdersAck (OrderEntryREST.forwardedAck config cancel requestId symbol))) w).log =
      ordersIn w.log ++ orders config (.cancelAllOrders messageInfo cancel requestId symbols) := by
  induction symbols generalizing w with
  | nil => exact (List.append_nil _).symm
  | cons symbol rest ih =>
      rw [List.foldl_cons,ih]
      by_cases skipped : cancel.symbol ≠ "" ∧ symbol ≠ cancel.symbol
      · have dropped : ¬(cancel.symbol == "" || symbol == cancel.symbol) = true := by simpa using skipped
        have same : orders config (.cancelAllOrders messageInfo cancel requestId (symbol :: rest)) =
            orders config (.cancelAllOrders messageInfo cancel requestId rest) := by
          simp only [orders]
          rw [List.filter_cons_of_neg (by exact dropped)]
        rw [if_pos skipped,same]
      · have kept : (cancel.symbol == "" || symbol == cancel.symbol) = true := by
          rw [not_and_or,not_not,not_not] at skipped
          simpa using skipped
        have next : orders config (.cancelAllOrders messageInfo cancel requestId (symbol :: rest)) =
            (OrderEntryREST.postRequest config messageInfo.traceInfo API.restPrivate.orderCancelAll .undefined
              (Encoder.cancelAllOrders symbol),.cancelAllOrdersAck,requestId) ::
            orders config (.cancelAllOrders messageInfo cancel requestId rest) := by
          simp only [orders]
          rw [List.filter_cons_of_pos (by exact kept),List.map_cons]
        rw [if_neg skipped,next,World.emit,ordersIn_other rfl,World.submit,ordersIn_cons,List.append_assoc]
        rfl

-- An order action hands over what it comes to, unless it is refused.
omit [Download2 E OrderEntryREST.State] [Download2 D DropCopy.State] [LimitRequest R] [LawfulDownload2 E] [LawfulDownload2 D]
  [LawfulLimitRequest R] in
theorem act_orders (config : Config) (w : World E D R) (action : OrderAction) :
    ordersIn (OrderEntryREST.act config w action).2.log =
      ordersIn w.log ++ unlessRefused (OrderEntryREST.act config w action).1 (orders config action) := by
  cases action with
  | createOrder messageInfo order refData requestId =>
      simp only [OrderEntryREST.act,OrderEntryREST.createOrder]
      split
      · exact (List.append_nil _).symm
      · exact ordersIn_cons _ _
  | modifyOrder => exact (List.append_nil _).symm
  | cancelOrder messageInfo cancel order requestId =>
      simp only [OrderEntryREST.act,OrderEntryREST.cancelOrder]
      split
      · exact (List.append_nil _).symm
      · exact ordersIn_cons _ _
  | cancelAllOrders messageInfo cancel requestId symbols =>
      simp only [OrderEntryREST.act,OrderEntryREST.cancelAllOrders]
      split
      · exact (List.append_nil _).symm
      · exact cancelAllOrders_orders messageInfo cancel requestId symbols w

end accounts

section sessions
variable {config : Config}

-- What a websocket order stream sends: the answer to the challenge, pings, order actions.
inductive Sent where
  | auth (message : String)
  | ping (now : Nanoseconds)
  | order (text : String)

def Sent.text (account : Account) : Sent → String
  | .auth message => account.createWsAuth message
  | .ping now => "\x7b\"id\":\"" ++ toString now ++ "\",\"op\":\"ping\"\x7d"
  | .order text => text

def Sent.order? : Sent → Option String
  | .order text => some text
  | .auth _ | .ping _ => none

def textOf : OrderEntryWS.Effect → Option String
  | .sendText message => some message
  | _ => none

-- Oldest first.
def textsIn (log : List OrderEntryWS.Effect) : List String := (log.filterMap textOf).reverse

-- What an order action comes to on a websocket.
def texts (platform : Platform) : OrderAction → List String
  | .createOrder _ createOrder refData requestId => [Encoder.wsAddOrder platform createOrder refData requestId]
  | .cancelOrder _ _ order requestId => [Encoder.wsCancelOrder order requestId]
  | .modifyOrder _ _ _ | .cancelAllOrders _ _ _ _ => []

-- One session, earlier and later: these are the order actions among what it has sent.
def Says (account : Account) (orders : List String) (earlier later : OrderEntryWS.Session) : Prop :=
  ∃ sent : List Sent, textsIn later.log = textsIn earlier.log ++ sent.map (Sent.text account) ∧ sent.filterMap Sent.order? = orders

theorem Says.quiet {earlier later : OrderEntryWS.Session} (same : textsIn later.log = textsIn earlier.log) :
    Says account [] earlier later := ⟨[],by simpa using same,rfl⟩

theorem Says.trans {a b c : OrderEntryWS.Session} (one : Says account first a b) (two : Says account second b c) :
    Says account (first ++ second) a c := by
  obtain ⟨sent,texts,rfl⟩ := one
  obtain ⟨more,newer,rfl⟩ := two
  exact ⟨sent ++ more,by rw [newer,texts,List.map_append,List.append_assoc],List.filterMap_append⟩

theorem textsIn_silent (other : textOf e = none) (log : List OrderEntryWS.Effect) : textsIn (e :: log) = textsIn log := by
  rw [textsIn,List.filterMap_cons_none other,textsIn]

theorem Says.send (account : Account) (sent : Sent) (s : OrderEntryWS.Session) :
    Says account sent.order?.toList s (s.emit (.sendText (sent.text account))) := by
  refine ⟨[sent],?_,?_⟩
  · exact List.reverse_cons
  · cases sent <;> rfl

theorem ping_said (t : TraceInfo) (s : OrderEntryWS.Session) : Says account [] s (OrderEntryWS.sendPing t s) := by
  unfold OrderEntryWS.sendPing
  split
  · exact .quiet rfl
  · exact Says.send account (.ping t.originCreateTime) {s with stream.nextPing := t.originCreateTime + s.stream.pingFreq / 2}

theorem onTimer_said (t : TraceInfo) (refresh : Bool) (s : OrderEntryWS.Session) :
    Says account [] s (OrderEntryWS.onTimer t refresh s) := by
  unfold OrderEntryWS.onTimer OrderEntryWS.checkLogonTimeout
  split
  · split
    · exact ping_said t s
    · split
      · exact .quiet (textsIn_silent rfl _)
      · exact .quiet rfl
  · exact .quiet rfl

theorem onError_said {error : Json.WSError} {s after : OrderEntryWS.Session} (ran : OrderEntryWS.onError config error s = some after) :
    Says account [] s after := by
  unfold OrderEntryWS.onError at ran
  split at ran
  · split at ran
    · split at ran
      · exact Option.some.inj ran ▸ .quiet (textsIn_silent rfl _)
      · cases ran
    · exact Option.some.inj ran ▸ .quiet rfl
  · exact Option.some.inj ran ▸ .quiet rfl
  · exact Option.some.inj ran ▸ .quiet rfl
  · exact Option.some.inj ran ▸ .quiet (textsIn_silent rfl _)
  · exact Option.some.inj ran ▸ .quiet (textsIn_silent rfl _)

theorem parse_said {decoders : Json.WSDecoders} {s after : OrderEntryWS.Session}
    (ran : OrderEntryWS.parse config decoders payload s = some after) : Says config.account [] s after := by
  obtain ⟨call,_,handled⟩ := Option.bind_eq_some_iff.mp ran
  cases call with
  | auth _ message =>
      obtain rfl := Option.some.inj handled
      have answered : Says config.account [] s (s.emit (.sendText (config.account.createWsAuth message))) :=
        Says.send config.account (.auth message) s
      exact answered.trans (.quiet (textsIn_silent rfl _))
  | welcome => exact Option.some.inj handled ▸ .quiet (textsIn_silent rfl _)
  | error => exact onError_said handled
  | pong => exact Option.some.inj handled ▸ .quiet rfl
  | addOrderAck => exact Option.some.inj handled ▸ .quiet (textsIn_silent rfl _)
  | cancelOrderAck => exact Option.some.inj handled ▸ .quiet (textsIn_silent rfl _)

theorem session_idle {decoders : Json.WSDecoders} {s after : OrderEntryWS.Session} {event : OrderEntryWS.Event}
    (ran : OrderEntryWS.step config decoders s event = some after)
    (other : ∀ action, event ≠ .action action) : Says config.account [] s after := by
  cases event with
  | timer t refresh => exact Option.some.inj ran ▸ onTimer_said t refresh s
  | connected t => exact Option.some.inj ran ▸ .quiet rfl
  | disconnected t => exact Option.some.inj ran ▸ .quiet (textsIn_silent rfl _)
  | text t payload => exact parse_said ran
  | logged => exact Option.some.inj ran ▸ .quiet rfl
  | binary => cases ran
  | action action => exact absurd rfl (other action)

theorem act_said (s : OrderEntryWS.Session) (action : OrderAction) : Says config.account
    (unlessRefused (OrderEntryWS.act config s action).1 (texts config.platform action)) s (OrderEntryWS.act config s action).2 := by
  cases action with
  | createOrder => exact Says.send config.account (.order _) s
  | modifyOrder => exact .quiet rfl
  | cancelOrder => exact Says.send config.account (.order _) s
  | cancelAllOrders => exact .quiet rfl

end sessions

section controller
variable {Y S B E D R : Type} {Q : Type → Type} {config : ControllerConfig}

-- The account that a request is handed to, and what comes of it there.
def acceptedRest (config : ControllerConfig) (index : Nat) (c : Controller Y Q S B E D R) :
    ControllerEvent B → List (Web.Request × Callback × String)
  | .request request =>
    match addressee config c request with
    | .ok (.rest i,action) =>
        if i = index then (c.accounts[index]?).toList.flatMap fun a =>
          unlessRefused (onRequest config request c).1 (orders a.config action)
        else []
    | _ => []
  | _ => []

def acceptedWs (config : ControllerConfig) (index : Nat) (c : Controller Y Q S B E D R) : ControllerEvent B → List String
  | .request request =>
    match addressee config c request with
    | .ok (.ws i,action) =>
        if i = index then (c.accounts[index]?).toList.flatMap fun a =>
          unlessRefused (onRequest config request c).1 (texts a.config.platform action)
        else []
    | _ => []
  | _ => []

-- One account, earlier and later.
structure Hands (rest : List (Web.Request × Callback × String)) (ws : List String) (a b : AccountStreams E D R) : Prop where
  account : b.config.account = a.config.account
  rest : ordersIn b.world.log = ordersIn a.world.log ++ rest
  ws : ∀ later, b.orderEntryWs = some later → ∃ earlier, a.orderEntryWs = some earlier ∧
    Says a.config.account ws earlier.session later.session

theorem Hands.refl (a : AccountStreams E D R) : Hands [] [] a a :=
  ⟨rfl,(List.append_nil _).symm,fun later present => ⟨later,present,.quiet rfl⟩⟩

theorem Hands.trans {a b c : AccountStreams E D R} {rest rest' : List (Web.Request × Callback × String)}
    {ws ws' : List String} (one : Hands rest ws a b) (two : Hands rest' ws' b c) :
    Hands (rest ++ rest') (ws ++ ws') a c := by
  refine ⟨two.account.trans one.account,by rw [two.rest,one.rest,List.append_assoc],?_⟩
  intro last present
  obtain ⟨middle,between,newer⟩ := two.ws last present
  obtain ⟨first,before,older⟩ := one.ws middle between
  rw [one.account] at newer
  exact ⟨first,before,older.trans newer⟩

-- All accounts, by their index.
def AllHand (rest : Nat → List (Web.Request × Callback × String)) (ws : Nat → List String) (c after : Controller Y Q S B E D R) : Prop :=
  ∀ (index : Nat) b, after.accounts[index]? = some b → ∃ a, c.accounts[index]? = some a ∧ Hands (rest index) (ws index) a b

def Idle : Controller Y Q S B E D R → Controller Y Q S B E D R → Prop := AllHand (fun _ => []) (fun _ => [])

theorem Idle.same {c after : Controller Y Q S B E D R} (accounts : after.accounts = c.accounts) : Idle c after := by
  intro index b present
  exact ⟨b,accounts ▸ present,.refl b⟩

theorem Idle.trans {a b c : Controller Y Q S B E D R} (one : Idle a b) (two : Idle b c) : Idle a c := by
  intro index last present
  obtain ⟨middle,between,newer⟩ := two index last present
  obtain ⟨first,before,older⟩ := one index middle between
  exact ⟨first,before,older.trans newer⟩

theorem AllHand.set {c after : Controller Y Q S B E D R} {rest : Nat → List (Web.Request × Callback × String)} {ws : Nat → List String}
    (present : c.accounts[index]? = some a) (one : Hands (rest index) (ws index) a b)
    (accounts : after.accounts = c.accounts.set index b) (others : ∀ other, index ≠ other → rest other = [] ∧ ws other = []) :
    AllHand rest ws c after := by
  intro other last later
  rw [accounts] at later
  by_cases same : index = other
  · subst same
    rw [List.getElem?_set_self (List.getElem?_eq_some_iff.mp present).1] at later
    exact ⟨a,present,Option.some.inj later ▸ one⟩
  · rw [List.getElem?_set_ne same] at later
    rw [(others other same).1,(others other same).2]
    exact ⟨last,later,.refl last⟩

section visits
variable [Download2 E OrderEntryREST.State] [Download2 D DropCopy.State] [LimitRequest R] [LawfulDownload2 E]
  [LawfulDownload2 D] [LawfulLimitRequest R]

theorem continued_hands {a : AccountStreams E D R} {event : Event} (streamId : Nat)
    (ran : AccountSystem.step a.config a.world event = some world) (other : ∀ action, event ≠ .rest (.action action)) :
    Hands [] [] a (continued streamId a world) := by
  have idle := step_idle ran other
  unfold continued
  split
  · exact ⟨rfl,by rw [List.append_nil]; exact idle,fun later present => ⟨later,present,.quiet rfl⟩⟩
  · exact ⟨rfl,by rw [List.append_nil]; exact idle,fun later present => ⟨later,present,.quiet rfl⟩⟩

-- A stream that is visited, for whatever reason but an order action.
def isAction : StreamEvent B → Bool
  | .account _ (.action _) | .orderEntryWs _ (.action _) => true
  | _ => false

theorem eventOf_other {call : AccountCall B} (other : isAction (.account index call) = false) (symbols : List String) :
    ∀ action, eventOf symbols call ≠ .rest (.action action) := by
  intro action
  cases call with
  | action => cases other
  | _ => nofun

variable [Symbols Y] [LimitQueue Q] [Sequencer S B]

theorem visit_idle {c after : Controller Y Q S B E D R} {event : StreamEvent B} (ran : visit config c event = some after)
    (other : isAction event = false) : Idle c after := by
  cases event with
  | account index call =>
      cases onAccount_called ran with
      | missing => exact .same rfl
      | called present stepped =>
          exact AllHand.set present (continued_hands c.streamId stepped (eventOf_other other _)) (adopt_accounts _ _ _ _)
            fun _ _ => ⟨rfl,rfl⟩
  | orderEntryWs index event =>
      cases onOrderEntryWs_called ran with
      | missing => exact .same rfl
      | @called a ws session present stream stepped =>
          have spoken : Says (wsConfig a ws).account [] ws.session session := by
            refine session_idle stepped ?_
            rintro action rfl
            cases other
          have one : Hands [] [] a {a with orderEntryWs := some {ws with session := session}} := by
            refine ⟨rfl,(List.append_nil _).symm,?_⟩
            intro later same
            obtain rfl := Option.some.inj same
            exact ⟨ws,stream,spoken⟩
          exact AllHand.set present one rfl fun _ _ => ⟨rfl,rfl⟩
  | marketData index event => exact .same (onMarketData_accounts ran)

end visits

theorem visits_other (t : TraceInfo) (now : Nanoseconds) (answers : TimerAnswers) (c : Controller Y Q S B E D R) :
    ∀ event ∈ visits t now answers c, isAction event = false := by
  intro event member
  simp only [visits,restVisits,wsVisits,dropCopyVisits,marketDataVisits,List.mem_append,List.mem_map] at member
  rcases member with ((⟨_,_,rfl⟩ | ⟨_,_,rfl⟩) | ⟨_,_,rfl⟩) | ⟨_,_,rfl⟩
  · rfl
  · rfl
  · rfl
  · rfl

theorem isCallback_other {event : StreamEvent B} (own : event.isCallback = true) : isAction event = false := by
  cases event with
  | account index call =>
      cases call with
      | action => cases own
      | _ => rfl
  | orderEntryWs index event =>
      cases event with
      | action => cases own
      | _ => rfl
  | marketData => rfl

theorem unlessRefused_returned (outcome : Except ActionError Unit) (streamId : Nat) (done : List α) :
    unlessRefused (returned outcome streamId) done = unlessRefused outcome done := by
  cases outcome <;> rfl

-- What the request is handed over as, where there is somebody to take it.
theorem rest_hands {c : Controller Y Q S B E D R} {index : Nat} (present : c.accounts[index]? = some a) (action : OrderAction) :
    ∃ b, (handOver (.rest index) action c).2.accounts = c.accounts.set index b ∧
      Hands (unlessRefused (handOver (.rest index) action c).1 (orders a.config action)) [] a b := by
  have handed : ordersIn (OrderEntryREST.act a.config (receive (.rest (.action action)) a.world) action).2.log =
      ordersIn a.world.log ++
        unlessRefused (OrderEntryREST.act a.config (receive (.rest (.action action)) a.world) action).1 (orders a.config action) := by
    rw [act_orders a.config (receive (.rest (.action action)) a.world) action,receive,ordersIn_other rfl]
  simp only [handOver,present,unlessRefused_returned]
  exact ⟨_,rfl,rfl,handed,fun later stream => ⟨later,stream,.quiet rfl⟩⟩

theorem ws_hands {c : Controller Y Q S B E D R} {index : Nat} (present : c.accounts[index]? = some a)
    (stream : a.orderEntryWs = some ws) (action : OrderAction) :
    ∃ b, (handOver (.ws index) action c).2.accounts = c.accounts.set index b ∧
      Hands [] (unlessRefused (handOver (.ws index) action c).1 (texts a.config.platform action)) a b := by
  have spoken : Says (wsConfig a ws).account
      (unlessRefused (OrderEntryWS.act (wsConfig a ws) ws.session action).1 (texts (wsConfig a ws).platform action))
      ws.session (OrderEntryWS.act (wsConfig a ws) ws.session action).2 := act_said ws.session action
  simp only [handOver,present,stream,unlessRefused_returned]
  refine ⟨_,rfl,rfl,(List.append_nil _).symm,?_⟩
  intro later same
  obtain rfl := Option.some.inj same
  exact ⟨ws,stream,spoken⟩

theorem onRequest_hands (request : OrderRequest) (c : Controller Y Q S B E D R) :
    AllHand (fun index => acceptedRest config index c (.request request)) (fun index => acceptedWs config index c (.request request))
      c (onRequest config request c).2 := by
  cases found : addressee config c request with
  | error e =>
      simp only [acceptedRest,acceptedWs,onRequest_eq,found]
      exact Idle.same rfl
  | ok target =>
      obtain ⟨destination,action⟩ := target
      cases destination with
      | rest other =>
          simp only [acceptedRest,acceptedWs,onRequest_eq,found]
          cases present : c.accounts[other]? with
          | none =>
              intro index b later
              simp only [handOver,present] at later
              have apart : other ≠ index := by
                rintro rfl
                rw [present] at later
                cases later
              simp only [if_neg apart]
              exact ⟨b,later,.refl b⟩
          | some a =>
              obtain ⟨b,accounts,hands⟩ := rest_hands present action
              refine AllHand.set present ?_ accounts ?_
              · simpa [present] using hands
              · intro index apart
                exact ⟨if_neg apart,rfl⟩
      | ws other =>
          simp only [acceptedRest,acceptedWs,onRequest_eq,found]
          cases present : c.accounts[other]? with
          | none =>
              intro index b later
              simp only [handOver,present] at later
              have apart : other ≠ index := by
                rintro rfl
                rw [present] at later
                cases later
              simp only [if_neg apart]
              exact ⟨b,later,.refl b⟩
          | some a =>
              cases stream : a.orderEntryWs with
              | none =>
                  intro index b later
                  simp only [handOver,present,stream] at later ⊢
                  have refused : (if other = index then c.accounts[index]?.toList.flatMap fun a : AccountStreams E D R =>
                      unlessRefused (.error (.unknownAccount "") : Except RequestError Nat) (texts a.config.platform action)
                      else []) = [] := by
                    split
                    · simp [unlessRefused]
                    · rfl
                  rw [refused]
                  exact ⟨b,later,.refl b⟩
              | some ws =>
                  obtain ⟨b,accounts,hands⟩ := ws_hands present stream action
                  refine AllHand.set present ?_ accounts ?_
                  · simpa [present] using hands
                  · intro index apart
                    exact ⟨rfl,if_neg apart⟩

variable [Symbols Y] [LimitQueue Q] [Sequencer S B] [Download2 E OrderEntryREST.State] [Download2 D DropCopy.State]
  [LimitRequest R] [LawfulDownload2 E] [LawfulDownload2 D] [LawfulLimitRequest R]

theorem step_hands {c after : Controller Y Q S B E D R} {event : ControllerEvent B} (ran : step config c event = some after) :
    AllHand (fun index => acceptedRest config index c event) (fun index => acceptedWs config index c event) c after := by
  cases event with
  | timer t now answers =>
      have idle : Idle c after := execute_related_among Idle (fun _ => .same rfl) (fun _ _ _ => .trans)
        (fun _ event member _ stepped => visit_idle stepped (visits_other t now answers c event member)) ran
      exact idle
  | request request => exact Option.some.inj ran ▸ onRequest_hands request c
  | symbolsUpdate symbols => exact Option.some.inj ran ▸ Idle.same (onSymbolsUpdate_accounts symbols c)
  | callback event own => exact visit_idle ran (isCallback_other own)

omit [Sequencer S B] [Download2 D DropCopy.State] [LawfulDownload2 E] [LawfulDownload2 D] [LawfulLimitRequest R] in
theorem create_quiet {index : Nat} (present : (create config : Controller Y Q S B E D R).accounts[index]? = some a) :
    ordersIn a.world.log = [] ∧ ∀ ws, a.orderEntryWs = some ws → textsIn ws.session.log = [] := by
  have inside := (List.getElem?_eq_some_iff.mp present).1
  rw [create_opened.1] at inside
  have created := create_opened.2 index _ a (List.getElem?_eq_getElem inside) present
  refine ⟨by rw [created.world]; rfl,?_⟩
  intro ws stream
  rw [created.ws ws stream]
  rfl

theorem run_orders {c : Controller Y Q S B E D R} {events : List (ControllerEvent B)} {index : Nat}
    (ran : execute (step config) (create config) events = some c) (present : c.accounts[index]? = some a) :
    ordersIn a.world.log =
      projection (step config) (acceptedRest config index) (create config : Controller Y Q S B E D R) events := by
  refine execute_traces (fun (c : Controller Y Q S B E D R) done => ∀ a, c.accounts[index]? = some a → ordersIn a.world.log = done)
    ?_ (fun a known => (create_quiet known).1) ran a present
  intro c event after done known stepped b later
  obtain ⟨a,before,hands⟩ := step_hands stepped index b later
  rw [hands.rest,known a before]

-- Whatever else happens: what leaves for the exchange on an account's streams are the
-- orders that its clients were told had been taken, in their order, each of them once.
theorem orders_are_handed_over {c : Controller Y Q S B E D R} {events : List (ControllerEvent B)} {index : Nat}
    (ran : execute (step config) (create config) events = some c) (present : c.accounts[index]? = some a) :
    ordersIn a.world.log =
        projection (step config) (acceptedRest config index) (create config : Controller Y Q S B E D R) events ∧
      ∀ ws, a.orderEntryWs = some ws → ∃ sent : List Sent, textsIn ws.session.log = sent.map (Sent.text a.config.account) ∧
        sent.filterMap Sent.order? =
          projection (step config) (acceptedWs config index) (create config : Controller Y Q S B E D R) events := by
  refine ⟨run_orders ran present,?_⟩
  refine execute_traces (fun (c : Controller Y Q S B E D R) done => ∀ a, c.accounts[index]? = some a → ∀ ws,
      a.orderEntryWs = some ws → ∃ sent : List Sent, textsIn ws.session.log = sent.map (Sent.text a.config.account) ∧
      sent.filterMap Sent.order? = done) ?_ (fun a known ws stream => ⟨[],(create_quiet known).2 ws stream,rfl⟩) ran a present
  intro c event after done known stepped b later last stream
  obtain ⟨a,before,hands⟩ := step_hands stepped index b later
  obtain ⟨first,earlier,fresh,texts,own⟩ := hands.ws last stream
  obtain ⟨sent,sofar,rfl⟩ := known a before first earlier
  rw [hands.account]
  exact ⟨sent ++ fresh,by rw [texts,sofar,List.map_append],by rw [List.filterMap_append,own]⟩

end controller

section closed
open Smallest

-- The second account logs on and is given an order, which goes by its websocket, and
-- a request to cancel all orders, which goes by REST; one for an account that is not
-- there goes nowhere.
def trading : List (ControllerEvent Unit) :=
  logons ++ [order "A2",order "A3",.request (.cancelAllOrders ⟨5,t⟩ ⟨"A2",7,"kucoin","",.undefined,0⟩ "R2" ["XBTUSDTM","ETHUSDTM"])]

theorem orders_are_handed_over_trading : ∃ (c : SmallController) (a : AccountStreams _ _ _) (ws : WsStream) (sent : List Sent),
    execute (step (twoAccounts "wss")) (create (twoAccounts "wss")) trading = some c ∧ c.accounts[1]? = some a ∧
      a.orderEntryWs = some ws ∧ (ordersIn a.world.log).length = 2 ∧ (textsIn ws.session.log).length = 3 ∧
      ordersIn a.world.log = projection (step (twoAccounts "wss")) (acceptedRest (twoAccounts "wss") 1)
        (create (twoAccounts "wss") : SmallController) trading ∧
      textsIn ws.session.log = sent.map (Sent.text a.config.account) ∧
      sent.filterMap Sent.order? = projection (step (twoAccounts "wss")) (acceptedWs (twoAccounts "wss") 1)
        (create (twoAccounts "wss") : SmallController) trading := by
  have checked : (execute (step (twoAccounts "wss")) (create (twoAccounts "wss") : SmallController) trading).any (fun c =>
      (c.accounts[1]?).any fun a => (a.orderEntryWs).any fun ws =>
        (ordersIn a.world.log).length == 2 && (textsIn ws.session.log).length == 3) = true := by
    decide +kernel
  obtain ⟨c,ran,inside⟩ := (Option.any_eq_true _ _).mp checked
  obtain ⟨a,present,streams⟩ := (Option.any_eq_true _ _).mp inside
  obtain ⟨ws,stream,counted⟩ := (Option.any_eq_true _ _).mp streams
  simp only [Bool.and_eq_true,beq_iff_eq] at counted
  obtain ⟨rest,sockets⟩ := orders_are_handed_over ran present
  obtain ⟨sent,texts,own⟩ := sockets ws stream
  exact ⟨c,a,ws,sent,ran,present,stream,counted.1,counted.2,rest,texts,own⟩

end closed
end KucoinPro.OrderFlow
