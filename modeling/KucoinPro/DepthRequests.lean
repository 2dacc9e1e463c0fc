import KucoinPro.OrderFlow
import KucoinPro.SymbolBooks

namespace KucoinPro.DepthRequests
open GuardedRuns AccountSystem OrderEntryREST OrderOutcome EffectCauses

section accounts
variable {E D R : Type} {config : Config}

-- The symbols whose order books an account has asked for, oldest first.

def bookSymbol (s : Submission) : Option String :=
  match s.callback with
  | .getOrderBookAck symbol => some symbol
  | _ => none

def bookRequest (entry : Entry) : Option String := (submissionOf entry).bind bookSymbol

def booksIn (log : List Entry) : List String := (log.filterMap bookRequest).reverse

theorem booksIn_other (other : bookRequest entry = none) (log : List Entry) : booksIn (entry :: log) = booksIn log := by
  rw [booksIn,List.filterMap_cons_none other,booksIn]

theorem booksIn_cons (known : bookRequest entry = some symbol) (log : List Entry) :
    booksIn (entry :: log) = booksIn log ++ [symbol] := by
  rw [booksIn,List.filterMap_cons_some known,List.reverse_cons,booksIn]

theorem booksIn_effects (fresh : List Effect) (log : List Entry) (other : ∀ e ∈ fresh, bookRequest (.effect e) = none) :
    booksIn (fresh.map .effect ++ log) = booksIn log := by
  induction fresh with
  | nil => rfl
  | cons e rest ih =>
      rw [List.map_cons,List.cons_append,booksIn_other (other e List.mem_cons_self)]
      exact ih fun e member => other e (List.mem_cons_of_mem _ member)

-- A part of a handler that asks for none.
def Bookless (w after : World E D R) : Prop := booksIn after.log = booksIn w.log

theorem Bookless.refl (w : World E D R) : Bookless w w := rfl

theorem Bookless.trans {a b c : World E D R} (one : Bookless a b) (two : Bookless b c) : Bookless a c := Eq.trans two one

theorem Bookless.nothing {w after : World E D R} (bookless : Bookless w after) : booksIn after.log = booksIn w.log ++ [] := by
  rw [List.append_nil]
  exact bookless

theorem Bookless.note (w : World E D R) (other : bookRequest entry = none) : Bookless w {w with log := entry :: w.log} :=
  booksIn_other other w.log

theorem Bookless.fields {w after : World E D R} (log : after.log = w.log) : Bookless w after := by
  rw [Bookless,log]

theorem onDownload_bookless [Download2 E OrderEntryREST.State]
    (t : TraceInfo) (walker : E) (s : OrderEntryREST.State) (w : World E D R) :
    Bookless w (OrderEntryREST.onDownload config t walker s w).2 := by
  cases s with
  | undefined => exact .refl w
  | privateToken =>
      simp only [OrderEntryREST.onDownload]
      split
      · exact .refl w
      · have published : Bookless w (OrderEntryREST.onConnectionStatus config .downloading OrderEntryREST.State.privateToken.name w) :=
          .note _ rfl
        exact published.trans (.note _ rfl)
  | done => exact .note _ rfl

theorem onToken_bookless [Download2 D DropCopy.State]
    (token : Json.Token) (w : World E D R) : Bookless w (onToken config token w) := by
  have noted : Bookless w ((w.emit (.token token)).emit (.privateToken ⟨config.account.name,"?token=" ++ token.data.token⟩)) :=
    .trans (.note w rfl) (.note _ rfl)
  refine noted.trans ?_
  simp only [onToken,Controller.onPrivateToken]
  split
  · exact .note _ rfl
  · split
    · exact .note _ rfl
    · exact .refl _

theorem checkPending_bookless [LimitRequest R]
    {callback : World E D R → World E D R} (t : TraceInfo) (kind : Kind) (granted : Bool) (w : World E D R)
    (each : ∀ w, Bookless w (callback w)) : Bookless w (checkPending t kind granted callback w) := by
  have taken : Bookless w {w with request := (w.request.checkPending t kind granted).2} := .fields rfl
  unfold checkPending
  dsimp only
  split
  · exact taken.trans (each _)
  · exact taken

theorem getStaleOrders_bookless (t : TraceInfo) (findOrder : Nat → Nat → Option Order) (w : World E D R) :
    Bookless w (getStaleOrders config t findOrder w) := by
  have each : ∀ (w : World E D R) key, Bookless w (getStaleOrder config t findOrder w key) := by
    intro w key
    unfold getStaleOrder
    split
    · exact .refl w
    · exact .trans (.note w rfl) (.fields rfl)
  have all : ∀ (keys : List (Nat × Nat)) (w : World E D R), Bookless w (keys.foldl (getStaleOrder config t findOrder) w) := by
    intro keys
    induction keys with
    | nil => exact .refl
    | cons key rest ih => exact fun w => (each w key).trans (ih _)
  exact (all _ w).trans (.fields rfl)

theorem getOrderBooks_books (t : TraceInfo) (symbols : List String) (w : World E D R) :
    booksIn (symbols.foldl (fun w symbol => getOrderBook config t symbol w) w).log = booksIn w.log ++ symbols := by
  induction symbols generalizing w with
  | nil => exact (List.append_nil _).symm
  | cons symbol rest ih =>
      have one : booksIn (getOrderBook config t symbol w).log = booksIn w.log ++ [symbol] := booksIn_cons rfl _
      rw [List.foldl_cons,ih,one,List.append_assoc]
      rfl

theorem checkRequestQueue_books [LimitRequest R]
    (t : TraceInfo) (canRequest : Kind → Bool) (findOrder : Nat → Nat → Option Order)
    (symbols : List String) (w : World E D R) :
    booksIn (checkRequestQueue config t canRequest findOrder symbols w).log = booksIn w.log ++ symbols := by
  unfold checkRequestQueue
  rw [getOrderBooks_books]
  congr 1
  refine Bookless.trans ?_ (checkPending_bookless t .trades _ _ fun w => .note w rfl)
  refine Bookless.trans ?_ (checkPending_bookless t .staleOrders _ _ fun w => getStaleOrders_bookless t findOrder w)
  refine Bookless.trans ?_ (checkPending_bookless t .openOrders _ _ fun w => .note w rfl)
  refine Bookless.trans ?_ (checkPending_bookless t .positions _ _ fun w => .note w rfl)
  exact checkPending_bookless t .balances _ w fun w => .note w rfl

theorem onTimer_books [Download2 E OrderEntryREST.State] [LimitRequest R]
    (t : TraceInfo) (refresh : Bool) (canRequest : Kind → Bool) (findOrder : Nat → Nat → Option Order)
    (symbols : List String) (w : World E D R) : booksIn (OrderEntryREST.onTimer config t refresh canRequest findOrder symbols w).log =
      booksIn w.log ++ if serving config refresh w then symbols else [] := by
  have token : ∀ w : World E D R, Bookless w (checkPending t .privateToken (canRequest .privateToken)
      (fun w => getPrivateToken config t (StagedWalk.Walker.sequence w.rest.download) w) w) :=
    fun w => checkPending_bookless t _ _ w fun w => .note w rfl
  unfold OrderEntryREST.onTimer serving
  by_cases ready : (refresh && OrderEntryREST.isReady w) = true
  · rw [if_pos ready,ready,Bool.true_and]
    cases config.account.master with
    | true => exact Eq.trans (token _) (checkRequestQueue_books t canRequest findOrder symbols w)
    | false => exact Eq.trans (token w) (List.append_nil _).symm
  · rw [if_neg ready,Bool.eq_false_iff.mpr ready]
    exact (List.append_nil _).symm

theorem withDownload_bookless {w : World E D R} {result : E × World E D R} (walked : Bookless w result.2) :
    Bookless w (withDownload result) := walked.trans (.fields rfl)

variable [Download2 E OrderEntryREST.State]

theorem onConnected_bookless [LawfulDownload2 E]
    (t : TraceInfo) (w : World E D R) : Bookless w (OrderEntryREST.onConnected config t w) := by
  unfold OrderEntryREST.onConnected
  cases running : isDownloading w with
  | true =>
      exact withDownload_bookless ((LawfulDownload2.bump_running (OrderEntryREST.onDownload config t) w.rest.download w running).related
        Bookless (fun _ _ _ => .trans) (onDownload_bookless t))
  | false =>
      exact withDownload_bookless ((LawfulDownload2.begin_idle (OrderEntryREST.onDownload config t) w.rest.download w running).related
        Bookless (fun _ _ _ => .trans) (onDownload_bookless t))

theorem onDisconnected_bookless (w : World E D R) : Bookless w (OrderEntryREST.onDisconnected config w) := by
  have published : Bookless w (OrderEntryREST.onConnectionStatus config .disconnected "" w) := .note _ rfl
  simp only [OrderEntryREST.onDisconnected]
  split
  · exact published
  · exact published.trans (.fields rfl)

variable [Download2 D DropCopy.State] [LimitRequest R] [LawfulDownload2 E]

theorem getPrivateTokenAck_bookless {sequence : Nat} {w after : World E D R}
    (ran : getPrivateTokenAck config t sequence response w = some after) : Bookless w after := by
  obtain ⟨processed,acked,rfl⟩ := getPrivateTokenAck_cases ran
  have committed : Bookless processed (commit t .privateToken processed) := .fields rfl
  refine Bookless.trans ?_ committed
  have check : ∀ w : World E D R, Bookless w (checkPrivateToken config t w) := by
    intro w
    unfold checkPrivateToken
    split
    · exact withDownload_bookless (check_related Bookless .refl (fun _ _ _ => .trans) (onDownload_bookless t) _ _ w)
    · exact .refl w
  cases acked with
  | retried _ =>
      unfold retryPrivateToken
      split
      · exact withDownload_bookless (retry_related Bookless .refl (fun _ _ _ => .trans) (onDownload_bookless t) _ _ w)
      · exact .refl w
  | skipped _ => exact .refl w
  | @processed _ token _ _ _ =>
      have dispatched : Bookless w (if token.code = Json.SYSTEM_CODE_SUCCESS then onToken config token w else w) := by
        split
        · exact onToken_bookless token w
        · exact .refl w
      exact (dispatched.trans (check _)).trans (.fields rfl)

theorem orders_callback {action : OrderAction} (known : orderOf s ∈ orders config action) : isOrderAction s.callback = true := by
  cases action with
  | createOrder | cancelOrder =>
      have callback : s.callback = _ := congrArg (fun order => order.2.1) (List.mem_singleton.mp known)
      rw [callback]
      rfl
  | modifyOrder => cases known
  | cancelAllOrders =>
      obtain ⟨_,_,same⟩ := List.mem_map.mp known
      have callback : s.callback = _ := congrArg (fun order => order.2.1) same.symm
      rw [callback]
      rfl

theorem order_bookless {s : Submission} (own : isOrderAction s.callback = true) : bookSymbol s = none := by
  unfold bookSymbol
  cases callback : s.callback with
  | getOrderBookAck =>
      rw [callback] at own
      cases own
  | _ => rfl

theorem causes_bookless (causes : Causes config cause e) (calm : ¬ cause.downloads) : bookRequest (.effect e) = none := by
  cases causes with
  | quiet silent => rw [bookRequest,quiet_other silent]; rfl
  | asked may => exact absurd may calm
  | noted known =>
      cases e with
      | submit => simp [notes] at known
      | _ => rfl
  | ordered known => exact order_bookless (orders_callback known)
  | _ => rfl

omit [Download2 E OrderEntryREST.State] [Download2 D DropCopy.State] [LimitRequest R] [LawfulDownload2 E] in
theorem prepared_bookless (w : World E D R) (event : Event) : Bookless w (prepared w event) := by
  unfold prepared
  split
  · exact .trans (.note w rfl) (.trans (.note _ rfl) (.fields rfl))
  · exact .note w rfl

variable [LawfulLimitRequest R] [LawfulDownload2 D]

theorem calm_bookless {w after : World E D R} (ran : AccountSystem.step config w event = some after)
    (calm : ¬ (causeOf w event).downloads) : Bookless w after := by
  obtain ⟨fresh,log,causes,_⟩ := (step_adds ran).fresh
  refine (prepared_bookless w event).trans ?_
  rw [Bookless,log]
  exact booksIn_effects fresh _ fun e member => causes_bookless (causes e member) calm

-- What an event hands to an account that serves it.
def booksOf (config : Config) (w : World E D R) : Event → List String
  | .rest (.timer _ refresh _ _ symbols) => if serving config refresh w then symbols else []
  | _ => []

theorem step_books {w after : World E D R} (ran : AccountSystem.step config w event = some after) :
    booksIn after.log = booksIn w.log ++ booksOf config w event := by
  have received : Bookless w (receive event w) := .note w rfl
  cases event with
  | dropCopy happened => exact (calm_bookless ran nofun).nothing
  | rest happened =>
      cases happened with
      | timer t refresh canRequest findOrder symbols =>
          obtain rfl := Option.some.inj ran
          have asked : booksIn (OrderEntryREST.onTimer config t refresh canRequest findOrder symbols _).log = _ :=
            onTimer_books t refresh canRequest findOrder symbols (receive (.rest (.timer t refresh canRequest findOrder symbols)) w)
          rw [received] at asked
          exact asked
      | connected t =>
          obtain rfl := Option.some.inj ran
          exact (received.trans (onConnected_bookless t _)).nothing
      | disconnected t =>
          obtain rfl := Option.some.inj ran
          exact (received.trans (onDisconnected_bookless _)).nothing
      | action action => exact (calm_bookless ran nofun).nothing
      | response t id response =>
          refine Bookless.nothing ?_
          cases found : w.inFlight.find? (fun s => s.id == id) with
          | none =>
              have unknown : (receive (.rest (.response t id response)) w).inFlight.find? (fun s => s.id == id) = none := found
              simp only [AccountSystem.step,OrderEntryREST.step,onResponse,unknown,Option.some.injEq] at ran
              exact ran ▸ received
          | some submission =>
              by_cases token : submission.callback.kind = some .privateToken
              · have answered : Bookless (receive (.rest (.response t id response)) w)
                    (answering submission (receive (.rest (.response t id response)) w)) := .trans (.note _ rfl) (.fields rfl)
                refine (received.trans answered).trans ?_
                rw [step_response found] at ran
                cases callback : submission.callback with
                | getPrivateTokenAck sequence =>
                    simp only [invoke,callback] at ran
                    exact getPrivateTokenAck_bookless ran
                | _ =>
                    rw [callback] at token
                    cases token
              · refine calm_bookless ran ?_
                have known : responseOf w (.rest (.response t id response)) = some (submission,response) :=
                  responseOf_iff.mpr ⟨t,id,rfl,found⟩
                simp only [causeOf,known]
                exact token

end accounts

section requests
variable {Y S B : Type} {Q : Type → Type} {config : GatewayConfig} {symbol : String}
  {publish : SequencerCall → Option MarketByPriceUpdate}

-- The symbols whose order books the streams and the accounts are in need of, oldest first.
def requested : MarketEntry B → Option String
  | .effect (.requested symbol) => some symbol
  | _ => none

theorem requested_blind : MarketPublications.Blind (requested : MarketEntry B → Option String) :=
  ⟨fun _ => rfl,fun _ => rfl,fun _ _ => rfl,fun _ _ => rfl,fun _ => rfl,fun _ => rfl⟩

variable [LimitQueue Q]

-- What is noted as requested is queued, and nothing else is.
def Asks (before after : Shared Y Q S B) : Prop :=
  ∃ fresh, MarketPublications.watched requested after.log = MarketPublications.watched requested before.log ++ fresh ∧
    LimitQueue.items after.depthRequestQueue = LimitQueue.items before.depthRequestQueue ++ fresh

namespace Asks

theorem quiet {before after : Shared Y Q S B} (queue : after.depthRequestQueue = before.depthRequestQueue)
    (log : MarketPublications.watched requested after.log = MarketPublications.watched requested before.log) : Asks before after :=
  ⟨[],by rw [log,List.append_nil],by rw [queue,List.append_nil]⟩

theorem refl (shared : Shared Y Q S B) : Asks shared shared := .quiet rfl rfl

theorem trans {a b c : Shared Y Q S B} (one : Asks a b) (two : Asks b c) : Asks a c := by
  obtain ⟨first,log,queue⟩ := one
  obtain ⟨second,later,last⟩ := two
  exact ⟨first ++ second,by rw [later,log,List.append_assoc],by rw [last,queue,List.append_assoc]⟩

theorem emit (shared : Shared Y Q S B) (other : requested (.effect e) = none) : Asks shared (shared.emit e) :=
  .quiet rfl (MarketPublications.watched_other other _)

theorem requestDepth [LawfulLimitQueue Q]
    (symbol : String) (shared : Shared Y Q S B) : Asks shared (shared.requestDepth symbol) := by
  have noted : requested (.effect (.requested symbol : MarketEffect B)) = some symbol := rfl
  exact ⟨[symbol],MarketPublications.watched_some noted _,LawfulLimitQueue.emplaceBack_items symbol _⟩

end Asks

theorem called_asks [LawfulLimitQueue Q]
    {before after : Shared Y Q S B} (called : Shared.Called symbol publish before after) : Asks before after := by
  cases called with
  | asked => exact .requestDepth symbol before
  | silent => exact .refl before
  | published => exact .emit before rfl

variable [Sequencer S B] [LawfulLimitQueue Q]

theorem sequence_asks {shared after : Shared Y Q S B} {operation : Operation B}
    (ran : shared.sequence config symbol operation publish = some after) : Asks shared after := by
  obtain ⟨middle,calls,rfl⟩ := Option.map_eq_some_iff.mp ran
  have operated : Asks shared middle := by
    refine Asks.trans ?_ (Shared.callbacks_related config .refl (fun _ _ _ => .trans) (fun _ _ => called_asks) _ calls)
    exact .quiet rfl (MarketPublications.watched_other rfl _)
  split
  · refine operated.trans (Asks.trans ?_ (.requestDepth symbol _))
    exact .quiet rfl (MarketPublications.watched_other rfl _)
  · exact operated

theorem step_asks [Symbols Y]
    {c after : Feed Y Q S B} {event : MarketDataEvent B} (ran : MarketData.step config c event = some after) :
    Asks c.shared after.shared := by
  cases event with
  | timer t now refresh granted =>
      obtain rfl := Option.some.inj ran
      exact .quiet (OrderBooks.onTimer_quiet t now refresh granted c).queue
        (MarketPublications.onTimer_watched requested_blind t now refresh granted c)
  | connected t => exact Option.some.inj ran ▸ .refl _
  | disconnected t =>
      obtain rfl := Option.some.inj ran
      exact .quiet rfl ((MarketPublications.watched_other rfl _).trans (MarketPublications.watched_other rfl _))
  | welcome t =>
      obtain rfl := Option.some.inj ran
      have status : OrderBooks.Quiet c.shared (MarketData.onConnectionStatus .ready {c with stream.welcome := true}).shared :=
        .emit _ rfl
      exact .quiet (status.trans (OrderBooks.subscribe_quiet 0 _)).queue (MarketPublications.onWelcome_watched requested_blind c)
  | ticker t ticker => exact Option.some.inj ran ▸ .emit _ rfl
  | trade t trade => exact Option.some.inj ran ▸ .emit _ rfl
  | obu t obu book =>
      have running : MarketData.onOBU config obu book c = some after := ran
      unfold MarketData.onOBU at running
      split at running
      · cases running
      · cases running
      · exact Option.some.inj running ▸ .emit _ rfl
      · obtain ⟨shared,sequenced,rfl⟩ := Option.map_eq_some_iff.mp running
        have filled : Asks (c.shared.getMbp.fillMbp _ _) shared := sequence_asks sequenced
        exact Asks.trans (.quiet rfl rfl) filled
  | logged => exact Option.some.inj ran ▸ .refl _
  | unexpected => cases ran

end requests

section controller
open ControllerSystem MarketPublications
variable {Y S B E D R : Type} {Q : Type → Type} {config : ControllerConfig}

-- What the queue hands out, each symbol with the account that it is handed to.

variable [LimitQueue Q]

def handed (c : Controller Y Q S B E D R) : StreamEvent B → List (Nat × String)
  | .account index call => (c.accounts[index]?).toList.flatMap fun a => (handedOut a call c.shared.depthRequestQueue).1.map (index,·)
  | .orderEntryWs _ _ | .marketData _ _ => []

def handedIn [Symbols Y] [Sequencer S B] [Download2 E OrderEntryREST.State] [Download2 D DropCopy.State] [LimitRequest R]
    (config : ControllerConfig) (c : Controller Y Q S B E D R) : ControllerEvent B → List (Nat × String)
  | .timer t now answers => projection (visit config) handed c (visits t now answers c)
  | .callback event _ => handed c event
  | .request _ | .symbolsUpdate _ => []

def handedTo (index : Nat) (done : List (Nat × String)) : List String := (done.filter (·.1 == index)).map (·.2)

theorem handedTo_append (index : Nat) (one two : List (Nat × String)) :
    handedTo index (one ++ two) = handedTo index one ++ handedTo index two := by
  rw [handedTo,List.filter_append,List.map_append,handedTo,handedTo]

theorem handedTo_own (index : Nat) (symbols : List String) : handedTo index (symbols.map (index,·)) = symbols := by
  induction symbols with
  | nil => rfl
  | cons symbol rest ih =>
      have first : handedTo index ((symbol :: rest).map (index,·)) = symbol :: handedTo index (rest.map (index,·)) := by
        simp [handedTo]
      rw [first,ih]

theorem handedTo_other (apart : index ≠ other) (symbols : List String) : handedTo other (symbols.map (index,·)) = [] := by
  have none : (symbols.map (index,·)).filter (·.1 == other) = [] := by
    refine List.filter_eq_nil_iff.mpr ?_
    intro pair member
    obtain ⟨_,_,rfl⟩ := List.mem_map.mp member
    simpa using apart
  rw [handedTo,none,List.map_nil]

-- Where all requests are once a run has handed out these.
structure Settled (config : ControllerConfig) (c : Controller Y Q S B E D R) (done : List (Nat × String)) : Prop where
  queued : watched requested c.shared.log = done.map (·.2) ++ LimitQueue.items c.shared.depthRequestQueue
  asked : ∀ (index : Nat) a, c.accounts[index]? = some a → booksIn a.world.log = handedTo index done
  masters : ∀ pair ∈ done, ∃ account, config.accounts[pair.1]? = some account ∧ account.master = true
  accounts : ∀ (index : Nat) a, c.accounts[index]? = some a → config.accounts[index]? = some a.config.account

theorem Settled.calm {c after : Controller Y Q S B E D R} (settled : Settled config c done) (asks : Asks c.shared after.shared)
    (accounts : ∀ (index : Nat) b, after.accounts[index]? = some b → ∃ a, c.accounts[index]? = some a ∧
      booksIn b.world.log = booksIn a.world.log ∧ b.config.account = a.config.account) : Settled config after (done ++ []) := by
  obtain ⟨fresh,log,queue⟩ := asks
  rw [List.append_nil]
  refine ⟨by rw [log,queue,settled.queued,List.append_assoc],?_,settled.masters,?_⟩
  · intro index b present
    obtain ⟨a,before,books,_⟩ := accounts index b present
    exact books.trans (settled.asked index a before)
  · intro index b present
    obtain ⟨a,before,_,account⟩ := accounts index b present
    exact account ▸ settled.accounts index a before

theorem handedOut_items [LawfulLimitQueue Q] (a : AccountStreams E D R) (call : AccountCall B) (queue : Q String) :
    (handedOut a call queue).1 ++ LimitQueue.items (handedOut a call queue).2 = LimitQueue.items queue := by
  unfold handedOut
  split
  · split
    · exact LawfulLimitQueue.dispatch_items _ _ _
    · rfl
  · rfl

theorem passOn_asks [Sequencer S B] [LawfulLimitQueue Q]
    {a : AccountStreams E D R} {call : AccountCall B} {shared after : Shared Y Q S B}
    (passed : passOn config a call shared = some after) : Asks shared after := by
  unfold passOn at passed
  split at passed
  · split at passed
    · exact Option.some.inj passed ▸ .refl _
    · rename_i ack _
      have filled : Asks (shared.getMbp.fillMbp _ _) after := sequence_asks passed
      exact Asks.trans (.quiet rfl rfl) filled
  · exact Option.some.inj passed ▸ .refl _

-- An account is handed symbols only where it asks for them, and then it is a master.
theorem handedOut_books (a : AccountStreams E D R) (call : AccountCall B) (queue : Q String) :
    booksOf a.config a.world (eventOf (handedOut a call queue).1 call) = (handedOut a call queue).1 ∧
      ((handedOut a call queue).1 ≠ [] → a.config.account.master = true) := by
  cases call with
  | timer t refresh canRequest findOrder granted =>
      cases serves : serving a.config refresh a.world with
      | false =>
          simp only [handedOut,serves,Bool.false_eq_true,if_false,eventOf,booksOf]
          exact ⟨trivial,fun none => absurd rfl none⟩
      | true =>
          simp only [handedOut,serves,if_true,eventOf,booksOf]
          refine ⟨trivial,fun _ => ?_⟩
          unfold serving at serves
          rw [Bool.and_eq_true] at serves
          exact serves.2
  | _ => exact ⟨rfl,fun none => absurd rfl none⟩

omit [LimitQueue Q] in
theorem calm_same {c after : Controller Y Q S B E D R} (accounts : after.accounts = c.accounts) :
    ∀ (index : Nat) b, after.accounts[index]? = some b → ∃ a, c.accounts[index]? = some a ∧
      booksIn b.world.log = booksIn a.world.log ∧ b.config.account = a.config.account := by
  intro index b present
  exact ⟨b,accounts ▸ present,rfl,rfl⟩

omit [LimitQueue Q] in
theorem calm_set {c after : Controller Y Q S B E D R} {index : Nat} {b : AccountStreams E D R} (present : c.accounts[index]? = some a)
    (accounts : after.accounts = c.accounts.set index b) (books : booksIn b.world.log = booksIn a.world.log)
    (account : b.config.account = a.config.account) :
    ∀ (index : Nat) b, after.accounts[index]? = some b → ∃ a, c.accounts[index]? = some a ∧
      booksIn b.world.log = booksIn a.world.log ∧ b.config.account = a.config.account := by
  intro other last later
  rw [accounts] at later
  by_cases same : index = other
  · subst same
    rw [List.getElem?_set_self (List.getElem?_eq_some_iff.mp present).1] at later
    obtain rfl := Option.some.inj later
    exact ⟨a,present,books,account⟩
  · rw [List.getElem?_set_ne same] at later
    exact ⟨last,later,rfl,rfl⟩

theorem continued_account (streamId : Nat) (a : AccountStreams E D R) (world : World E D R) :
    (continued streamId a world).config.account = a.config.account := by
  unfold continued
  split
  · rfl
  · rfl

variable [Sequencer S B] [Download2 E OrderEntryREST.State] [Download2 D DropCopy.State] [LimitRequest R]
  [LawfulLimitQueue Q] [LawfulDownload2 E] [LawfulDownload2 D] [LawfulLimitRequest R]

theorem called_settled {c : Controller Y Q S B E D R} {index : Nat} {call : AccountCall B} (settled : Settled config c done)
    (present : c.accounts[index]? = some a)
    (stepped : AccountSystem.step a.config a.world (eventOf (handedOut a call c.shared.depthRequestQueue).1 call) = some world)
    (passed : passOn config a call {c.shared with depthRequestQueue := (handedOut a call c.shared.depthRequestQueue).2} = some shared) :
    Settled config (adopt index a world {c with shared := shared})
      (done ++ (handedOut a call c.shared.depthRequestQueue).1.map (index,·)) := by
  obtain ⟨takes,serves⟩ := handedOut_books a call c.shared.depthRequestQueue
  have books : booksIn world.log = booksIn a.world.log ++ (handedOut a call c.shared.depthRequestQueue).1 := by
    rw [step_books stepped,takes]
  obtain ⟨fresh,log,queue⟩ := passOn_asks passed
  have handedOn := handedOut_items a call c.shared.depthRequestQueue
  have pairs : ((handedOut a call c.shared.depthRequestQueue).1.map (index,·)).map (·.2) =
      (handedOut a call c.shared.depthRequestQueue).1 := by
    rw [List.map_map]
    exact List.map_id _
  refine ⟨?_,?_,?_,?_⟩
  · rw [(adopt_shared _ _ _ _).1]
    calc watched requested shared.log = watched requested c.shared.log ++ fresh := log
      _ = done.map (·.2) ++ LimitQueue.items c.shared.depthRequestQueue ++ fresh := by rw [settled.queued]
      _ = _ := by rw [← handedOn,queue,List.map_append,pairs]; simp only [List.append_assoc]
  · intro other b later
    rw [adopt_accounts] at later
    rw [handedTo_append]
    by_cases same : index = other
    · subst same
      rw [List.getElem?_set_self (List.getElem?_eq_some_iff.mp present).1] at later
      obtain rfl := Option.some.inj later
      rw [continued_world,books,settled.asked index a present,handedTo_own]
    · rw [List.getElem?_set_ne same] at later
      rw [handedTo_other same,List.append_nil]
      exact settled.asked other b later
  · intro pair member
    rcases List.mem_append.mp member with before | fresh
    · exact settled.masters pair before
    · obtain ⟨symbol,taken,rfl⟩ := List.mem_map.mp fresh
      exact ⟨_,settled.accounts index a present,serves (List.ne_nil_of_mem taken)⟩
  · intro other b later
    rw [adopt_accounts] at later
    by_cases same : index = other
    · subst same
      rw [List.getElem?_set_self (List.getElem?_eq_some_iff.mp present).1] at later
      obtain rfl := Option.some.inj later
      rw [continued_account]
      exact settled.accounts index a present
    · rw [List.getElem?_set_ne same] at later
      exact settled.accounts other b later

variable [Symbols Y]

theorem visit_settled {c after : Controller Y Q S B E D R} {event : StreamEvent B} (settled : Settled config c done)
    (ran : visit config c event = some after) : Settled config after (done ++ handed c event) := by
  cases event with
  | account index call =>
      cases onAccount_called ran with
      | missing absent =>
          rw [handed,absent]
          exact settled.calm (.refl _) (calm_same rfl)
      | called present stepped passed =>
          rw [handed,present,Option.toList_some,List.flatMap_singleton]
          exact called_settled settled present stepped passed
  | orderEntryWs index event =>
      cases onOrderEntryWs_called ran with
      | missing => exact settled.calm (.refl _) (calm_same rfl)
      | called present => exact settled.calm (.refl _) (calm_set present rfl rfl rfl)
  | marketData index event =>
      have accounts := onMarketData_accounts ran
      simp only [visit,onMarketData] at ran
      split at ran
      · exact Option.some.inj ran ▸ settled.calm (.refl _) (calm_same rfl)
      · obtain ⟨feed,stepped,rfl⟩ := Option.map_eq_some_iff.mp ran
        refine settled.calm (Asks.trans ?_ (step_asks stepped)) (calm_same accounts)
        exact .quiet rfl (watched_other rfl _)

omit [Symbols Y] [LimitQueue Q] [Sequencer S B] [LawfulLimitQueue Q] in
theorem handOver_calm (destination : Destination) (action : OrderAction) (c : Controller Y Q S B E D R) :
    ∀ (index : Nat) b, (handOver destination action c).2.accounts[index]? = some b → ∃ a, c.accounts[index]? = some a ∧
      booksIn b.world.log = booksIn a.world.log ∧ b.config.account = a.config.account := by
  cases destination with
  | rest index =>
      cases present : c.accounts[index]? with
      | none =>
          simp only [handOver,present]
          exact calm_same rfl
      | some a =>
          obtain ⟨world,stepped,same,_⟩ := handOver_rest present action
          have books : booksIn world.log = booksIn a.world.log ++ [] := step_books stepped
          rw [List.append_nil] at books
          rw [same]
          exact calm_set present rfl books rfl
  | ws index =>
      cases present : c.accounts[index]? with
      | none =>
          simp only [handOver,present]
          exact calm_same rfl
      | some a =>
          cases stream : a.orderEntryWs with
          | none =>
              simp only [handOver,present,stream]
              exact calm_same rfl
          | some ws =>
              have spoken : (handOver (.ws index) action c).2.accounts = c.accounts.set index
                  {a with orderEntryWs := some {ws with session := (OrderEntryWS.act (wsConfig a ws) ws.session action).2}} := by
                simp only [handOver,present,stream]
              exact calm_set present spoken rfl rfl

omit [Symbols Y] [LimitQueue Q] [Sequencer S B] [LawfulLimitQueue Q] in
theorem onRequest_calm (request : OrderRequest) (c : Controller Y Q S B E D R) :
    ∀ (index : Nat) b, (onRequest config request c).2.accounts[index]? = some b → ∃ a, c.accounts[index]? = some a ∧
      booksIn b.world.log = booksIn a.world.log ∧ b.config.account = a.config.account := by
  rw [onRequest_eq]
  cases addressee config c request with
  | error e => exact calm_same rfl
  | ok target => exact handOver_calm target.1 target.2 c

omit [Symbols Y] [Sequencer S B] [Download2 E OrderEntryREST.State] [Download2 D DropCopy.State] [LimitRequest R]
  [LawfulLimitQueue Q] [LawfulDownload2 E] [LawfulDownload2 D] [LawfulLimitRequest R] in
theorem createStreams_queue (count : Nat) (c : Controller Y Q S B E D R) :
    (createStreams count c).shared.depthRequestQueue = c.shared.depthRequestQueue := by
  induction count generalizing c with
  | zero => rfl
  | succ count ih => exact ih (createMarketData c)

theorem step_settled {c after : Controller Y Q S B E D R} {event : ControllerEvent B} (settled : Settled config c done)
    (ran : step config c event = some after) : Settled config after (done ++ handedIn config c event) := by
  cases event with
  | timer t now answers =>
      exact execute_traces (Settled config) (fun _ _ _ _ known stepped => visit_settled known stepped) settled ran
  | request request =>
      obtain rfl := Option.some.inj ran
      refine settled.calm ?_ (onRequest_calm request c)
      rw [(ControllerSystem.onRequest_streams config request c).2]
      exact .refl _
  | symbolsUpdate symbols =>
      obtain rfl := Option.some.inj ran
      refine settled.calm (.quiet ?_ (onSymbolsUpdate_watched requested_blind symbols c)) (calm_same (onSymbolsUpdate_accounts symbols c))
      have created := createStreams_queue ((Symbols.update symbols c.shared.symbols).1.1 - c.marketData.length)
        {c with shared.symbols := (Symbols.update symbols c.shared.symbols).2}
      exact (OrderBooks.subscribeStreams_quiet _ _ _).queue.trans created
  | callback event _ => exact visit_settled settled ran

omit [Sequencer S B] [Download2 D DropCopy.State] [LawfulDownload2 E] [LawfulDownload2 D] [LawfulLimitRequest R] in
theorem create_settled : Settled config (create config : Controller Y Q S B E D R) [] := by
  have opened : ∀ {index : Nat} {a : AccountStreams E D R}, (create config : Controller Y Q S B E D R).accounts[index]? = some a →
      config.accounts[index]? = some a.config.account ∧ a.world = AccountSystem.initial := by
    intro index a present
    have inside := (List.getElem?_eq_some_iff.mp present).1
    rw [create_opened.1] at inside
    have created := create_opened.2 index _ a (List.getElem?_eq_getElem inside) present
    exact ⟨by rw [created.account]; exact List.getElem?_eq_getElem inside,created.world⟩
  refine ⟨?_,?_,?_,?_⟩
  · have empty : LimitQueue.items (LimitQueue.create : Q String) = [] := LawfulLimitQueue.create_items
    exact empty.symm
  · intro index a present
    rw [(opened present).2]
    rfl
  · intro pair member
    cases member
  · intro index a present
    exact (opened present).1

-- The streams and the accounts put what they need into one queue, and the master accounts
-- that are ready take from it: whatever is taken is asked for on the connection of the one
-- that takes it, once, and nothing is passed over.
theorem depth_requests_are_served {c : Controller Y Q S B E D R} {events : List (ControllerEvent B)}
    (ran : execute (step config) (create config) events = some c) :
    let taken := projection (step config) (handedIn config) (create config : Controller Y Q S B E D R) events
    watched requested c.shared.log = taken.map (·.2) ++ LimitQueue.items c.shared.depthRequestQueue ∧
      (∀ (index : Nat) a, c.accounts[index]? = some a → booksIn a.world.log = handedTo index taken) ∧
      ∀ pair ∈ taken, ∃ account, config.accounts[pair.1]? = some account ∧ account.master = true := by
  have settled : Settled config c ([] ++ _) := execute_traces (Settled config) (fun _ _ _ _ known stepped => step_settled known stepped)
    create_settled ran
  exact ⟨settled.queued,settled.asked,settled.masters⟩

end controller

section closed
open Smallest ControllerSystem MarketPublications SymbolBooks

-- Two symbols on two streams are out of step, and the master account asks for both; then
-- one of them gets into a bad state, and nobody has asked for it yet.
def missing : List (ControllerEvent Unit) :=
  [.symbolsUpdate ["A","B","C"],greets 0,greets 1,connects 0,answers 0 0 (reply "ok"),increments 0 "A" 2 3,increments 1 "C" 5 5,turn,
    increments 0 "A" 9 8]

theorem depth_requests_are_served_missing : ∃ c : SmallController,
    execute (step (twoAccounts "")) (create (twoAccounts "")) missing = some c ∧
      watched requested c.shared.log = ["A","C","A"] ∧ LimitQueue.items c.shared.depthRequestQueue = ["A"] ∧
      let taken := projection (step (twoAccounts "")) (handedIn (twoAccounts "")) (create (twoAccounts "") : SmallController) missing
      watched requested c.shared.log = taken.map (·.2) ++ LimitQueue.items c.shared.depthRequestQueue ∧
        (∀ (index : Nat) a, c.accounts[index]? = some a → booksIn a.world.log = handedTo index taken) ∧
        ∀ pair ∈ taken, ∃ account, (twoAccounts "").accounts[pair.1]? = some account ∧ account.master = true := by
  have checked : (execute (step (twoAccounts "")) (create (twoAccounts "") : SmallController) missing).any (fun c =>
      decide (watched requested c.shared.log = ["A","C","A"] ∧ LimitQueue.items c.shared.depthRequestQueue = ["A"])) = true := by
    decide +kernel
  obtain ⟨c,ran,known⟩ := (Option.any_eq_true _ _).mp checked
  obtain ⟨asked,left⟩ := of_decide_eq_true known
  exact ⟨c,ran,asked,left,depth_requests_are_served ran⟩

end closed
end KucoinPro.DepthRequests
