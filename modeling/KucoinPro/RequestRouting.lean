import KucoinPro.OrderFlow

namespace KucoinPro.RequestRouting
open GuardedRuns AccountSystem EffectCauses OrderFlow ControllerSystem

variable {Y S B E D R : Type} {Q : Type → Type} {config : ControllerConfig}

def accountOf : OrderRequest → String
  | .createOrder _ createOrder _ _ => createOrder.account
  | .modifyOrder _ account _ _ => account
  | .cancelOrder _ cancelOrder _ _ => cancelOrder.account
  | .cancelAllOrders _ cancelAllOrders _ _ => cancelAllOrders.account
  | .massQuote | .cancelQuotes => ""

def actionOf : OrderRequest → Option OrderAction
  | .createOrder messageInfo createOrder refData requestId => some (.createOrder messageInfo createOrder refData requestId)
  | .modifyOrder messageInfo _ order requestId => some (.modifyOrder messageInfo order requestId)
  | .cancelOrder messageInfo cancelOrder order requestId => some (.cancelOrder messageInfo cancelOrder order requestId)
  | .cancelAllOrders messageInfo cancelAllOrders requestId symbols => some (.cancelAllOrders messageInfo cancelAllOrders requestId symbols)
  | .massQuote | .cancelQuotes => none

def byWebsocket (config : ControllerConfig) : OrderRequest → Bool
  | .cancelAllOrders _ _ _ _ => false
  | _ => config.wsApi

-- Orders are not modified here.
def supported : OrderAction → Bool
  | .modifyOrder _ _ _ => false
  | _ => true

-- Where in the configuration an account is, and the stream there is for a request.
def placeOf (config : ControllerConfig) (account : String) : Option Nat := config.accounts.findIdx? (·.name == account)

def destinationOf (config : ControllerConfig) (request : OrderRequest) : Option Destination :=
  if byWebsocket config request then
    if config.wsUri != "" then (placeOf config (accountOf request)).map .ws else none
  else (placeOf config (accountOf request)).map .rest

-- A REST stream has to be ready, a websocket takes what it is given.
def canTake (c : Controller Y Q S B E D R) : Destination → Bool
  | .rest index => (c.accounts[index]?).any fun a => OrderEntryREST.isReady a.world
  | .ws _ => true

def takes (config : ControllerConfig) (c : Controller Y Q S B E D R) (request : OrderRequest) : Bool :=
  (actionOf request).any supported && (destinationOf config request).any (canTake c)

-- Of an account, only the stream that an action goes to is another one, and by what the
-- action comes to; its id is what the client gets.
inductive Handed (config : ControllerConfig) (request : OrderRequest) (action : OrderAction) (a b : AccountStreams E D R) :
    Nat → Prop where
  | rest : byWebsocket config request = false → b = {a with world := b.world} →
      ordersIn b.world.log = ordersIn a.world.log ++ orders a.config action →
      Handed config request action a b a.config.orderEntryStreamId
  | ws {ws : WsStream} {later : OrderEntryWS.Session} : byWebsocket config request = true → a.orderEntryWs = some ws →
      b = {a with orderEntryWs := some {ws with session := later}} →
      textsIn later.log = textsIn ws.session.log ++ texts a.config.platform action →
      Handed config request action a b ws.streamId

-- What comes of a request that is taken, and of one that is thrown back.
structure Taken (config : ControllerConfig) (c after : Controller Y Q S B E D R) (request : OrderRequest) (index streamId : Nat)
    (action : OrderAction) (a b : AccountStreams E D R) : Prop where
  place : placeOf config (accountOf request) = some index
  name : a.config.account.name = accountOf request
  asked : actionOf request = some action
  before : c.accounts[index]? = some a
  after : after = {c with accounts := c.accounts.set index b}
  handed : Handed config request action a b streamId

def ThrownBack (c after : Controller Y Q S B E D R) : Prop := after = {c with accounts := after.accounts} ∧ Idle c after

theorem findIdx?_same {xs : List α} {p q : α → Bool} (same : ∀ x ∈ xs, p x = q x) : xs.findIdx? p = xs.findIdx? q := by
  induction xs with
  | nil => rfl
  | cons x rest ih =>
      rw [List.findIdx?_cons,List.findIdx?_cons,same x List.mem_cons_self,ih fun y member => same y (List.mem_cons_of_mem x member)]

section routes
variable [Symbols Y] [LimitQueue Q] [Sequencer S B] [Download2 E OrderEntryREST.State] [Download2 D DropCopy.State]
  [LimitRequest R] [LawfulDownload2 E] [LawfulDownload2 D] [LawfulLimitRequest R]

-- The accounts of a run are those of the configuration.
theorem run_accounts {c : Controller Y Q S B E D R} {events : List (ControllerEvent B)}
    (ran : execute (step config) (create config) events = some c) : c.accounts.map (·.config.account) = config.accounts := by
  have length : c.accounts.length = config.accounts.length := (run_continues ran).1.trans create_opened.1
  apply List.ext_getElem?
  intro index
  rw [List.getElem?_map]
  cases present : c.accounts[index]? with
  | none =>
      rw [List.getElem?_eq_none_iff,length] at present
      exact (List.getElem?_eq_none present).symm
  | some a => exact (run_configured ran present).1.symm

theorem run_findAccount {c : Controller Y Q S B E D R} {events : List (ControllerEvent B)}
    (ran : execute (step config) (create config) events = some c) (account : String) :
    findAccount account c = placeOf config account := by
  rw [placeOf,← run_accounts ran,List.findIdx?_map]
  rfl

theorem run_findAccountWs {c : Controller Y Q S B E D R} {events : List (ControllerEvent B)}
    (ran : execute (step config) (create config) events = some c) (account : String) (api : config.wsApi = true) :
    findAccountWs account c = if config.wsUri != "" then placeOf config account else none := by
  have offered : ∀ a ∈ c.accounts, a.orderEntryWs.isSome = (config.wsUri != "") := by
    intro a member
    obtain ⟨index,present⟩ := List.getElem?_of_mem member
    rw [(run_configured ran present).2.2.2,api,Bool.true_and]
  cases uri : config.wsUri != "" with
  | true =>
      rw [if_pos rfl,← run_findAccount ran,findAccountWs,findAccount]
      refine findIdx?_same fun a member => ?_
      rw [offered a member,uri,Bool.true_and]
  | false =>
      rw [if_neg Bool.false_ne_true,findAccountWs,List.findIdx?_eq_none_iff]
      intro a member
      rw [offered a member,uri,Bool.false_and]

def orUnknown (account : String) : Option Destination → Except RequestError Destination
  | some destination => .ok destination
  | none => .error (.unknownAccount account)

theorem run_getOrderEntryRest {c : Controller Y Q S B E D R} {events : List (ControllerEvent B)}
    (ran : execute (step config) (create config) events = some c) (account : String) :
    getOrderEntryRest account c = orUnknown account ((placeOf config account).map .rest) := by
  rw [getOrderEntryRest,run_findAccount ran]
  cases placeOf config account <;> rfl

theorem run_getOrderEntry {c : Controller Y Q S B E D R} {events : List (ControllerEvent B)}
    (ran : execute (step config) (create config) events = some c) (account : String) :
    getOrderEntry config account c = orUnknown account (if config.wsApi then
      if config.wsUri != "" then (placeOf config account).map .ws else none
      else (placeOf config account).map .rest) := by
  unfold getOrderEntry
  by_cases api : config.wsApi = true
  · rw [if_pos api,if_pos api,getOrderEntryWs,run_findAccountWs ran account api]
    by_cases uri : (config.wsUri != "") = true
    · rw [if_pos uri,if_pos uri]
      cases placeOf config account <;> rfl
    · rw [if_neg uri,if_neg uri]
      rfl
  · rw [if_neg api,if_neg api]
    exact run_getOrderEntryRest ran account

theorem orUnknown_map (account : String) (found : Option Destination) (action : OrderAction) :
    (orUnknown account found).map (·,action) = match found with
      | some destination => .ok (destination,action)
      | none => .error (.unknownAccount account) := by
  cases found <;> rfl

-- In a run, whom a request goes to is known from the configuration.
theorem run_addressee {c : Controller Y Q S B E D R} {events : List (ControllerEvent B)}
    (ran : execute (step config) (create config) events = some c) {request : OrderRequest} (asked : actionOf request = some action) :
    addressee config c request = match destinationOf config request with
      | some destination => .ok (destination,action)
      | none => .error (.unknownAccount (accountOf request)) := by
  cases request with
  | createOrder =>
      cases asked
      exact (congrArg _ (run_getOrderEntry ran _)).trans (orUnknown_map _ _ _)
  | modifyOrder =>
      cases asked
      exact (congrArg _ (run_getOrderEntry ran _)).trans (orUnknown_map _ _ _)
  | cancelOrder =>
      cases asked
      exact (congrArg _ (run_getOrderEntry ran _)).trans (orUnknown_map _ _ _)
  | cancelAllOrders =>
      cases asked
      exact (congrArg _ (run_getOrderEntryRest ran _)).trans (orUnknown_map _ _ _)
  | massQuote => cases asked
  | cancelQuotes => cases asked

omit [Download2 E OrderEntryREST.State] [Download2 D DropCopy.State] [LimitRequest R] [LawfulDownload2 E] [LawfulDownload2 D]
  [LawfulLimitRequest R] in
theorem act_refuses (config : Config) (w : World E D R) (action : OrderAction) :
    (supported action && OrderEntryREST.isReady w) = true ∧ (OrderEntryREST.act config w action).1 = .ok () ∨
      (supported action && OrderEntryREST.isReady w) = false ∧
        ∃ e, OrderEntryREST.act config w action = (.error e,w) := by
  cases ready : OrderEntryREST.isReady w with
  | true =>
      cases action with
      | modifyOrder => exact .inr ⟨rfl,_,rfl⟩
      | createOrder => exact .inl ⟨rfl,by simp [OrderEntryREST.act,OrderEntryREST.createOrder,ready]⟩
      | cancelOrder => exact .inl ⟨rfl,by simp [OrderEntryREST.act,OrderEntryREST.cancelOrder,ready]⟩
      | cancelAllOrders => exact .inl ⟨rfl,by simp [OrderEntryREST.act,OrderEntryREST.cancelAllOrders,ready]⟩
  | false =>
      refine .inr ⟨Bool.and_false _,?_⟩
      cases action with
      | modifyOrder => exact ⟨_,rfl⟩
      | createOrder => exact ⟨_,by simp only [OrderEntryREST.act,OrderEntryREST.createOrder,ready]; rfl⟩
      | cancelOrder => exact ⟨_,by simp only [OrderEntryREST.act,OrderEntryREST.cancelOrder,ready]; rfl⟩
      | cancelAllOrders => exact ⟨_,by simp only [OrderEntryREST.act,OrderEntryREST.cancelAllOrders,ready]; rfl⟩

theorem run_present {c : Controller Y Q S B E D R} {events : List (ControllerEvent B)} {index : Nat}
    (ran : execute (step config) (create config) events = some c) (place : placeOf config account = some index) :
    ∃ a, c.accounts[index]? = some a ∧ a.config.account.name = account := by
  obtain ⟨inside,named,_⟩ := List.findIdx?_eq_some_iff_getElem.mp place
  have listed : index < c.accounts.length := by
    rw [← run_accounts ran,List.length_map] at inside
    exact inside
  have present := List.getElem?_eq_getElem listed
  refine ⟨c.accounts[index],present,?_⟩
  have same := (run_configured ran present).1
  rw [List.getElem?_eq_getElem inside] at same
  rw [← Option.some.inj same]
  exact beq_iff_eq.mp named

end routes

theorem rest_taken {c : Controller Y Q S B E D R} {index : Nat} (present : c.accounts[index]? = some a)
    (takes : (supported action && OrderEntryREST.isReady a.world) = true) : ∃ b,
    handOver (.rest index) action c = (.ok a.config.orderEntryStreamId,{c with accounts := c.accounts.set index b}) ∧
      b = {a with world := b.world} ∧ ordersIn b.world.log = ordersIn a.world.log ++ orders a.config action := by
  let received := receive (.rest (.action action)) a.world
  obtain ⟨_,done⟩ | ⟨refuses,_⟩ := act_refuses a.config received action
  · refine ⟨{a with world := (OrderEntryREST.act a.config received action).2},?_,rfl,?_⟩
    · simp only [handOver,present,received,done,returned]
    · have handed := act_orders a.config received action
      rw [done] at handed
      rw [handed]
      exact congrArg (· ++ _) (ordersIn_other rfl _)
  · exact absurd (refuses.symm.trans takes) Bool.false_ne_true

theorem rest_refused {c : Controller Y Q S B E D R} {index : Nat} (present : c.accounts[index]? = some a)
    (refuses : (supported action && OrderEntryREST.isReady a.world) = false) :
    ∃ e, (handOver (.rest index) action c).1 = .error e ∧ ThrownBack c (handOver (.rest index) action c).2 := by
  let received := receive (.rest (.action action)) a.world
  obtain ⟨takes,_⟩ | ⟨_,e,undone⟩ := act_refuses a.config received action
  · exact absurd (refuses.symm.trans takes) Bool.false_ne_true
  · obtain ⟨b,accounts,hands⟩ := rest_hands present action
    have outcome : (handOver (.rest index) action c).1 = .error (.action e) := by
      simp only [handOver,present,received,undone,returned]
    rw [outcome] at hands
    refine ⟨.action e,outcome,?_,AllHand.set present hands accounts fun _ _ => ⟨rfl,rfl⟩⟩
    simp only [handOver,present]

-- What a websocket is given, it sends.
theorem ws_taken {c : Controller Y Q S B E D R} {index : Nat} (present : c.accounts[index]? = some a)
    (stream : a.orderEntryWs = some ws) (takes : supported action = true)
    (single : ∀ m cancel id symbols, action ≠ .cancelAllOrders m cancel id symbols) : ∃ session : OrderEntryWS.Session,
    handOver (.ws index) action c = (.ok ws.streamId,
      {c with accounts := c.accounts.set index {a with orderEntryWs := some {ws with session := session}}}) ∧
      textsIn session.log = textsIn ws.session.log ++ texts a.config.platform action := by
  refine ⟨(OrderEntryWS.act (wsConfig a ws) ws.session action).2,?_,?_⟩
  · cases action with
    | createOrder => simp only [handOver,present,stream,OrderEntryWS.act,returned]
    | cancelOrder => simp only [handOver,present,stream,OrderEntryWS.act,returned]
    | modifyOrder => cases takes
    | cancelAllOrders => exact absurd rfl (single _ _ _ _)
  · cases action with
    | createOrder => exact List.reverse_cons
    | cancelOrder => exact List.reverse_cons
    | modifyOrder => cases takes
    | cancelAllOrders => exact absurd rfl (single _ _ _ _)

theorem ws_refused {c : Controller Y Q S B E D R} {index : Nat} (present : c.accounts[index]? = some a)
    (stream : a.orderEntryWs = some ws) (refuses : supported action = false) :
    ∃ e, (handOver (.ws index) action c).1 = .error e ∧ ThrownBack c (handOver (.ws index) action c).2 := by
  obtain ⟨b,accounts,hands⟩ := ws_hands present stream action
  cases action with
  | modifyOrder messageInfo order requestId =>
      have outcome : (handOver (.ws index) (.modifyOrder messageInfo order requestId) c).1 =
          .error (.action (.notSupported "not supported")) := by
        simp only [handOver,present,stream,OrderEntryWS.act,returned]
      rw [outcome] at hands
      refine ⟨_,outcome,?_,AllHand.set present hands accounts fun _ _ => ⟨rfl,rfl⟩⟩
      simp only [handOver,present,stream]
  | _ => cases refuses

variable [Symbols Y] [LimitQueue Q] [Sequencer S B] [Download2 E OrderEntryREST.State] [Download2 D DropCopy.State]
  [LimitRequest R] [LawfulDownload2 E] [LawfulDownload2 D] [LawfulLimitRequest R]

theorem run_websocket {c : Controller Y Q S B E D R} {events : List (ControllerEvent B)} {index : Nat}
    (ran : execute (step config) (create config) events = some c) (destined : destinationOf config request = some (.ws index)) :
    byWebsocket config request = true ∧ placeOf config (accountOf request) = some index ∧
      ∀ a, c.accounts[index]? = some a → ∃ ws, a.orderEntryWs = some ws := by
  unfold destinationOf at destined
  split at destined
  case isTrue byWs =>
      split at destined
      case isTrue uri =>
          obtain ⟨_,place,same⟩ := Option.map_eq_some_iff.mp destined
          cases same
          refine ⟨byWs,place,?_⟩
          intro a present
          refine Option.isSome_iff_exists.mp ?_
          have api : config.wsApi = true := by
            cases request with
            | cancelAllOrders => cases byWs
            | _ => exact byWs
          rw [(run_configured ran present).2.2.2,api,Bool.true_and]
          exact uri
      case isFalse => cases destined
  case isFalse => obtain ⟨_,_,other⟩ := Option.map_eq_some_iff.mp destined; cases other

theorem destinationOf_rest {index : Nat} (destined : destinationOf config request = some (.rest index)) :
    byWebsocket config request = false ∧ placeOf config (accountOf request) = some index := by
  unfold destinationOf at destined
  split at destined
  case isTrue =>
      split at destined
      case isTrue => obtain ⟨_,_,other⟩ := Option.map_eq_some_iff.mp destined; cases other
      case isFalse => cases destined
  case isFalse byRest =>
      obtain ⟨_,place,same⟩ := Option.map_eq_some_iff.mp destined
      cases same
      exact ⟨Bool.eq_false_iff.mpr byRest,place⟩

theorem actionOf_single (byWs : byWebsocket config request = true) (asked : actionOf request = some action) :
    ∀ m cancel id symbols, action ≠ .cancelAllOrders m cancel id symbols := by
  rintro m cancel id symbols rfl
  cases request with
  | cancelAllOrders => cases byWs
  | _ => cases asked

-- A request is taken by one stream of one account, the one that the configuration says
-- it is for; or else the client is told, and nothing has been sent for it.
theorem requests_are_routed {c : Controller Y Q S B E D R} {events : List (ControllerEvent B)}
    (ran : execute (step config) (create config) events = some c) (request : OrderRequest) :
    (takes config c request = true → ∃ index streamId action a b, (onRequest config request c).1 = .ok streamId ∧
      Taken config c (onRequest config request c).2 request index streamId action a b) ∧
    (takes config c request = false → ∃ e, (onRequest config request c).1 = .error e ∧
      ThrownBack c (onRequest config request c).2) := by
  cases asked : actionOf request with
  | none =>
      have refused : onRequest config request c = (.error (.action (.notSupported "not supported")),c) := by
        cases request with
        | massQuote => rfl
        | cancelQuotes => rfl
        | _ => cases asked
      rw [refused]
      exact ⟨fun may => by simp [takes,asked] at may,fun _ => ⟨_,rfl,rfl,.same rfl⟩⟩
  | some action =>
      have found := run_addressee ran asked
      cases destined : destinationOf config request with
      | none =>
          rw [destined] at found
          rw [onRequest_eq,found]
          exact ⟨fun may => by simp [takes,destined] at may,fun _ => ⟨_,rfl,rfl,.same rfl⟩⟩
      | some destination =>
          rw [destined] at found
          rw [onRequest_eq,found]
          have may : takes config c request = (supported action && canTake c destination) := by
            rw [takes,asked,destined,Option.any_some,Option.any_some]
          rw [may]
          cases destination with
          | rest index =>
              obtain ⟨byRest,place⟩ := destinationOf_rest destined
              obtain ⟨a,present,named⟩ := run_present ran place
              have ready : canTake c (.rest index) = OrderEntryREST.isReady a.world := by
                rw [canTake,present,Option.any_some]
              rw [ready]
              refine ⟨?_,rest_refused present⟩
              intro taken
              obtain ⟨b,handed,same,sent⟩ := rest_taken present taken
              exact ⟨index,_,action,a,b,congrArg Prod.fst handed,place,named,asked,present,congrArg Prod.snd handed,
                .rest byRest same sent⟩
          | ws index =>
              obtain ⟨byWs,place,offered⟩ := run_websocket ran destined
              obtain ⟨a,present,named⟩ := run_present ran place
              obtain ⟨ws,stream⟩ := offered a present
              rw [canTake,Bool.and_true]
              refine ⟨?_,ws_refused present stream⟩
              intro taken
              obtain ⟨session,handed,sent⟩ := ws_taken present stream taken (actionOf_single byWs asked)
              exact ⟨index,_,action,a,_,congrArg Prod.fst handed,place,named,asked,present,congrArg Prod.snd handed,
                .ws byWs stream rfl sent⟩

section closed
open Smallest

-- Once both accounts have logged on, and with the websocket for orders: where the second
-- account's orders go, where its cancelling of all orders goes, and that a third account
-- is not known.
def cancelling (account : String) : OrderRequest := .cancelAllOrders ⟨5,t⟩ ⟨account,7,"kucoin","",.undefined,0⟩ "R2" ["XBTUSDTM"]
def placing (account : String) : OrderRequest :=
  .createOrder ⟨5,t⟩ ⟨account,7,"XBTUSDTM",.buy,.market,.undefined,false,false,1,nan,nan⟩ ⟨0,0⟩ "R1"

theorem requests_are_routed_placing : ∃ c : SmallController,
    execute (step (twoAccounts "wss")) (create (twoAccounts "wss")) logons = some c ∧
      (∃ index streamId action a b, (onRequest (twoAccounts "wss") (cancelling "A2") c).1 = .ok streamId ∧
        Taken (twoAccounts "wss") c (onRequest (twoAccounts "wss") (cancelling "A2") c).2 (cancelling "A2") index streamId action a b) ∧
      (∃ index streamId action a b, (onRequest (twoAccounts "wss") (placing "A2") c).1 = .ok streamId ∧
        Taken (twoAccounts "wss") c (onRequest (twoAccounts "wss") (placing "A2") c).2 (placing "A2") index streamId action a b) ∧
      ∃ e, (onRequest (twoAccounts "wss") (placing "A3") c).1 = .error e ∧
        ThrownBack c (onRequest (twoAccounts "wss") (placing "A3") c).2 := by
  have checked : (execute (step (twoAccounts "wss")) (create (twoAccounts "wss") : SmallController) logons).any (fun c =>
      takes (twoAccounts "wss") c (cancelling "A2") && takes (twoAccounts "wss") c (placing "A2") &&
        !takes (twoAccounts "wss") c (placing "A3")) = true := by
    decide +kernel
  obtain ⟨c,ran,inside⟩ := (Option.any_eq_true _ _).mp checked
  simp only [Bool.and_eq_true,Bool.not_eq_true'] at inside
  obtain ⟨⟨all,one⟩,none⟩ := inside
  exact ⟨c,ran,(requests_are_routed ran _).1 all,(requests_are_routed ran _).1 one,(requests_are_routed ran _).2 none⟩

end closed
end KucoinPro.RequestRouting
