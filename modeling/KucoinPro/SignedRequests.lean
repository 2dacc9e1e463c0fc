import KucoinPro.AccountMoves
import KucoinPro.OrderEncoding

namespace KucoinPro.SignedRequests
open OrderEntryREST AccountSystem

def headerText : List (String × String) → String
  | [] => ""
  | (name,value) :: rest => name ++ ": " ++ value ++ "\r\n" ++ headerText rest

-- The signature is that of the time shown and of what the request is made of.
def Signed (crypto : Crypto) (request : Web.Request) : Prop := ∃ timestamp : Nat,
  let signed := toString timestamp ++ request.method.text ++ request.path ++ request.query ++ request.body
  request.headers = headerText [("KC-API-KEY",crypto.key),("KC-API-SIGN",crypto.sign signed),
    ("KC-API-TIMESTAMP",toString timestamp),("KC-API-PASSPHRASE",crypto.signedPassphrase),("KC-API-KEY-VERSION","3")]

-- There is a content type exactly when there is content.
def Declared (request : Web.Request) : Prop :=
  request.contentType = if request.body = "" then .undefined else .applicationJson

-- The functions that build a request, with their arguments.
inductive Builder where
  | getPrivateToken (traceInfo : TraceInfo) (sequence : Nat)
  | getAccount (traceInfo : TraceInfo)
  | getPosition (traceInfo : TraceInfo)
  | getOrders (traceInfo : TraceInfo)
  | getOrder (traceInfo : TraceInfo) (clientOrderId externalOrderId symbol : String)
  | getExecution (traceInfo : TraceInfo)
  | createOrder (messageInfo : MessageInfo) (createOrder : CreateOrder) (refData : RefData) (requestId : String)
  | cancelOrder (messageInfo : MessageInfo) (cancelOrder : CancelOrder) (order : Order) (requestId : String)
  | cancelAllOrders (messageInfo : MessageInfo) (cancelAllOrders : CancelAllOrders) (requestId : String) (symbols : List String)
  | getOrderBook (traceInfo : TraceInfo) (symbol : String)

-- cancel_order and cancel_all_orders
def Builder.cancels : Builder → Bool
  | .cancelOrder _ _ _ _ | .cancelAllOrders _ _ _ _ => true
  | _ => false

variable {E D R : Type} (config : Config)

def Builder.run : Builder → World E D R → World E D R
  | .getPrivateToken t sequence,w => OrderEntryREST.getPrivateToken config t sequence w
  | .getAccount t,w => OrderEntryREST.getAccount config t w
  | .getPosition t,w => OrderEntryREST.getPosition config t w
  | .getOrders t,w => OrderEntryREST.getOrders config t w
  | .getOrder t clientOrderId externalOrderId symbol,w => OrderEntryREST.getOrder config t clientOrderId externalOrderId symbol w
  | .getExecution t,w => OrderEntryREST.getExecution config t w
  | .createOrder info order refData requestId,w => (OrderEntryREST.createOrder config info order refData requestId w).2
  | .cancelOrder info cancel order requestId,w => (OrderEntryREST.cancelOrder config info cancel order requestId w).2
  | .cancelAllOrders info cancelAll requestId symbols,w =>
      (OrderEntryREST.cancelAllOrders config info cancelAll requestId symbols w).2
  | .getOrderBook t symbol,w => OrderEntryREST.getOrderBook config t symbol w

variable {config}

theorem createHeaders_text (crypto : Crypto) (method : Web.Method) (path query body : String) (timestamp : Nat) :
    crypto.createHeaders method path query body timestamp = headerText [("KC-API-KEY",crypto.key),
      ("KC-API-SIGN",crypto.sign (toString timestamp ++ method.text ++ path ++ query ++ body)),
      ("KC-API-TIMESTAMP",toString timestamp),("KC-API-PASSPHRASE",crypto.signedPassphrase),
      ("KC-API-KEY-VERSION","3")] := by
  have key : "KC-API-KEY: " = "KC-API-KEY" ++ ": " := by decide
  have sign : "KC-API-SIGN: " = "KC-API-SIGN" ++ ": " := by decide
  have shown : "KC-API-TIMESTAMP: " = "KC-API-TIMESTAMP" ++ ": " := by decide
  have passphrase : "KC-API-PASSPHRASE: " = "KC-API-PASSPHRASE" ++ ": " := by decide
  have version : "KC-API-KEY-VERSION: 3\r\n" = "KC-API-KEY-VERSION" ++ ": " ++ "3" ++ "\r\n" := by decide
  unfold Crypto.createHeaders
  rw [key,sign,shown,passphrase,version]
  simp only [headerText,String.append_assoc,String.append_empty]

theorem getRequest_signed (t : TraceInfo) (path query : String) (quality : Web.QualityOfService) :
    Signed config.account.crypto (getRequest config t path query quality) :=
  ⟨milliseconds t.originCreateTimeUtc,createHeaders_text config.account.crypto .get path query "" _⟩

theorem postRequest_signed (t : TraceInfo) (path : String) (contentType : Web.ContentType) (body : String) :
    Signed config.account.crypto (postRequest config t path contentType body) :=
  ⟨milliseconds t.originCreateTimeUtc,createHeaders_text config.account.crypto .post path "" body _⟩

theorem getRequest_declared (t : TraceInfo) (path query : String) (quality : Web.QualityOfService) :
    Declared (getRequest config t path query quality) := (if_pos rfl).symm

theorem postRequest_declared (t : TraceInfo) (path : String) (contentType : Web.ContentType) (content : body ≠ "") :
    Declared (postRequest config t path contentType body) ↔ contentType = .applicationJson := by
  unfold Declared
  exact iff_of_eq (congrArg (contentType = ·) (if_neg content))

-- Every message of the encoder is an object.

theorem object_nonempty (members : List (String × JsonText.Value)) : (JsonText.Value.object members).text ≠ "" := by
  intro empty
  have opened := congrArg String.toList empty
  simp [JsonText.Value.text,JsonText.render] at opened

-- The requests of a builder.
def Built (config : Config) : Builder → Web.Request → Prop
  | .getPrivateToken t _,request => request = postRequest config t API.restPrivate.bulletPrivate .undefined ""
  | .getAccount t,request => request = getRequest config t API.restPrivate.accountBalance "?accountType=FUNDING" .immediate
  | .getPosition t,request => request = getRequest config t API.restPrivate.positionOpenList "?accountMode=UNIFIED" .immediate
  | .getOrders t,request =>
      request = getRequest config t API.restPrivate.orderOpenList "?accountMode=UNIFIED&tradeType=FUTURES" .immediate
  | .getOrder t clientOrderId externalOrderId symbol,request =>
      request = getRequest config t API.restPrivate.orderDetails (getOrderQuery clientOrderId externalOrderId symbol) .immediate
  | .getExecution t,request =>
      request = getRequest config t API.restPrivate.orderExecution "?accountMode=UNIFIED&tradeType=FUTURES" .immediate
  | .createOrder info order refData requestId,request => request = postRequest config info.traceInfo API.restPrivate.orderPlace
      .applicationJson (JsonText.Value.object (Encoder.addOrderMembers config.platform order refData requestId)).text
  | .cancelOrder info _ order _,request => request = postRequest config info.traceInfo API.restPrivate.orderCancel
      .undefined (JsonText.Value.object (Encoder.cancelOrderMembers order)).text
  | .cancelAllOrders info _ _ _,request => ∃ symbol, request = postRequest config info.traceInfo API.restPrivate.orderCancelAll
      .undefined (JsonText.Value.object (Encoder.cancelAllOrdersMembers symbol)).text
  | .getOrderBook t symbol,request => request = getRequest config t API.restPublic.marketOrderbook
      ("?tradeType=FUTURES&symbol=" ++ symbol ++ "&limit=FULL") .undefined

-- All that is added to the requests in flight has a property.
def Submits (property : Web.Request → Prop) (before after : World E D R) : Prop :=
  ∃ fresh, after.inFlight = fresh ++ before.inFlight ∧ ∀ s ∈ fresh, property s.request

theorem Submits.none (w : World E D R) : Submits property w w := ⟨[],rfl,fun _ absent => by cases absent⟩

theorem Submits.submit {request : Web.Request} (known : property request) (callback : Callback) (requestId : String)
    (w : World E D R) : Submits property w (w.submit request callback requestId) := by
  refine ⟨[_],rfl,?_⟩
  intro s member
  cases List.mem_singleton.mp member
  exact known

theorem Submits.trans {a b c : World E D R} (one : Submits property a b) (two : Submits property b c) : Submits property a c := by
  obtain ⟨older,flights,earlier⟩ := one
  obtain ⟨newer,flights',later⟩ := two
  refine ⟨newer ++ older,by rw [flights',flights,List.append_assoc],?_⟩
  intro s member
  rcases List.mem_append.mp member with now | before
  · exact later s now
  · exact earlier s before

theorem Submits.implies {before after : World E D R} (submits : Submits property before after)
    (each : ∀ request, property request → implied request) : Submits implied before after := by
  obtain ⟨fresh,flights,known⟩ := submits
  exact ⟨fresh,flights,fun s member => each s.request (known s member)⟩

theorem cancelAllOrders_submits (info : MessageInfo) (cancelAllOrders : CancelAllOrders) (requestId : String)
    (symbols : List String) (w : World E D R)
    (known : ∀ symbol, property (postRequest config info.traceInfo API.restPrivate.orderCancelAll .undefined
      (JsonText.Value.object (Encoder.cancelAllOrdersMembers symbol)).text)) :
    Submits property w (OrderEntryREST.cancelAllOrders config info cancelAllOrders requestId symbols w).2 := by
  unfold OrderEntryREST.cancelAllOrders
  split
  · exact .none w
  · dsimp only
    rename_i ready
    clear ready
    induction symbols generalizing w with
    | nil => exact .none w
    | cons symbol rest ih =>
        rw [List.foldl_cons]
        refine Submits.trans ?_ (ih _)
        split
        · exact .none w
        · rw [Encoder.cancelAllOrders_text]
          exact Submits.submit (known symbol) .cancelAllOrdersAck requestId w

theorem run_built (config : Config) (builder : Builder) (w : World E D R) :
    Submits (Built config builder) w (builder.run config w) := by
  cases builder with
  | createOrder info order refData requestId =>
      dsimp only [Builder.run,OrderEntryREST.createOrder]
      split
      · exact .none w
      · rw [Encoder.addOrder_text]
        refine Submits.submit ?_ _ _ w
        rfl
  | cancelOrder info cancel order requestId =>
      dsimp only [Builder.run,OrderEntryREST.cancelOrder]
      split
      · exact .none w
      · rw [Encoder.cancelOrder_text]
        refine Submits.submit ?_ _ _ w
        rfl
  | cancelAllOrders info cancelAll requestId symbols =>
      exact cancelAllOrders_submits info cancelAll requestId symbols w fun symbol => ⟨symbol,rfl⟩
  | _ =>
      refine Submits.submit ?_ _ _ w
      rfl

-- What a builder adds to the requests in flight.
def Builds (crypto : Crypto) (cancels : Bool) (before after : World E D R) : Prop :=
  ∃ fresh, after.inFlight = fresh ++ before.inFlight ∧
    ∀ s ∈ fresh, Signed crypto s.request ∧ (Declared s.request ↔ cancels = false)

-- Each request is signed as it is sent, and the cancellations are sent without
-- the content type that they need.
theorem requests_are_signed_and_declared (config : Config) (builder : Builder) (w : World E D R) :
    Builds config.account.crypto builder.cancels w (builder.run config w) := by
  suffices known : ∀ request, Built config builder request →
      Signed config.account.crypto request ∧ (Declared request ↔ builder.cancels = false) from
    (run_built config builder w).implies known
  intro request built
  cases builder with
  | getPrivateToken t sequence =>
      obtain rfl := built
      exact ⟨postRequest_signed t _ _ _,iff_of_true (if_pos rfl).symm rfl⟩
  | getAccount t | getPosition t | getOrders t | getOrder t | getExecution t | getOrderBook t =>
      obtain rfl := built
      exact ⟨getRequest_signed t _ _ _,iff_of_true (getRequest_declared t _ _ _) rfl⟩
  | createOrder info order refData requestId =>
      obtain rfl := built
      exact ⟨postRequest_signed _ _ _ _,iff_of_true ((postRequest_declared _ _ _ (object_nonempty _)).mpr rfl) rfl⟩
  | cancelOrder info cancel order requestId =>
      obtain rfl := built
      refine ⟨postRequest_signed _ _ _ _,(postRequest_declared _ _ _ (object_nonempty _)).trans ?_⟩
      exact iff_of_false Web.ContentType.noConfusion Bool.noConfusion
  | cancelAllOrders info cancelAll requestId symbols =>
      obtain ⟨symbol,rfl⟩ := built
      refine ⟨postRequest_signed _ _ _ _,(postRequest_declared _ _ _ (object_nonempty _)).trans ?_⟩
      exact iff_of_false Web.ContentType.noConfusion Bool.noConfusion

-- And so it is with whatever is in flight in a run.
theorem flights_are_signed [Download2 E OrderEntryREST.State] [Download2 D DropCopy.State] [LimitRequest R]
    [LawfulDownload2 E] [LawfulDownload2 D] [LawfulLimitRequest R] (config : Config) (w : World E D R)
    (path : Run config allowed w) : ∀ s ∈ w.inFlight, Signed config.account.crypto s.request := by
  intro s flying
  have asked := (run_proper path s flying).asked
  unfold Asked at asked
  cases known : s.callback with
  | getPrivateTokenAck =>
      rw [known] at asked
      obtain ⟨t,request⟩ := asked
      rw [request]
      exact postRequest_signed t _ _ _
  | getAccountAck | getPositionAck | getOrdersAck | getExecutionAck | getOrderBookAck =>
      rw [known] at asked
      obtain ⟨t,request⟩ := asked
      rw [request]
      exact getRequest_signed t _ _ _
  | getOrderAck =>
      rw [known] at asked
      obtain ⟨t,externalOrderId,symbol,request⟩ := asked
      rw [request]
      exact getRequest_signed t _ _ _
  | createOrderAck | cancelOrderAck | cancelAllOrdersAck =>
      rw [known] at asked
      obtain ⟨t,body,request⟩ := asked
      rw [request]
      exact postRequest_signed t _ _ _

section closed
open Smallest

instance (request : Web.Request) : Decidable (Declared request) := inferInstanceAs (Decidable (_ = _))

-- The order stream is READY, and an order is cancelled.
theorem cancellation_is_not_declared :
    (GuardedRuns.execute (AccountSystem.step (setup true)) (initial : Small) [.rest (.connected t),answer 0 (reply "ok")]).any
      (fun w => isReady w && ((Builder.cancelOrder ⟨0,t⟩ ⟨"A1",1,2⟩ ⟨0,1,"XBTUSDTM","1",""⟩ "2").run (setup true) w).inFlight.any
        fun s => s.request.body != "" && !decide (Declared s.request)) = true := by
  decide +kernel

end closed
end KucoinPro.SignedRequests
