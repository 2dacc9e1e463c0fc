import KucoinPro.AccountSystem
import KucoinPro.OrderEncoding

namespace KucoinPro.CancelAll
open GuardedRuns AccountSystem OrderEntryREST

-- The filter of the request: one symbol, or none.
def Passes (cancelAllOrders : CancelAllOrders) (symbol : String) : Prop :=
  cancelAllOrders.symbol = "" ∨ symbol = cancelAllOrders.symbol

instance (cancelAllOrders : CancelAllOrders) (symbol : String) : Decidable (Passes cancelAllOrders symbol) :=
  inferInstanceAs (Decidable (_ ∨ _))

structure Asks (requestId symbol : String) (submission : Submission) : Prop where
  method : submission.request.method = .post
  path : submission.request.path = API.restPrivate.orderCancelAll
  body : submission.request.body = (JsonText.Value.object [("tradeType",.string "FUTURES"),("symbol",.string symbol)]).text
  requestId : submission.requestId = requestId

structure Acknowledges (config : Config) (requestId symbol : String) (ack : CancelAllOrdersAck) : Prop where
  streamId : ack.streamId = config.orderEntryStreamId
  account : ack.account = config.account.name
  symbol : ack.symbol = symbol
  requestStatus : ack.requestStatus = .forwarded
  requestId : ack.requestId = requestId

-- A request for each of the symbols, in their order, with its acknowledgement
-- right behind it, and nothing else.
inductive Cancels (config : Config) (requestId : String) : List String → List Effect → Prop where
  | nil : Cancels config requestId [] []
  | cons {ack : CancelAllOrdersAck} : Asks requestId symbol submission → Acknowledges config requestId symbol ack →
      Cancels config requestId symbols effects →
      Cancels config requestId (symbol :: symbols) (.submit submission :: .cancelAllOrdersAck ack :: effects)

-- One for each symbol that passes the filter, and none for any other.
def Executed (config : Config) (cancelAllOrders : CancelAllOrders) (requestId : String) (symbols : List String)
    (effects : List Effect) : Prop :=
  ∃ matching : List String, matching.Nodup ∧
    (∀ symbol, symbol ∈ matching ↔ symbol ∈ symbols ∧ Passes cancelAllOrders symbol) ∧
    Cancels config requestId matching effects

-- The caller hears of it.
def Acknowledged (requestId : String) (effects : List Effect) : Prop :=
  ∃ ack, .cancelAllOrdersAck ack ∈ effects ∧ ack.requestId = requestId

def Handled (config : Config) (cancelAllOrders : CancelAllOrders) (requestId : String) (symbols : List String)
    (effects : List Effect) : Prop :=
  Executed config cancelAllOrders requestId symbols effects ∧ Acknowledged requestId effects

variable {E D R : Type} {config : Config} {cancelAllOrders : CancelAllOrders} {requestId : String} {effects : List Effect}

theorem Cancels.acknowledged_iff (cancels : Cancels config requestId symbols effects) :
    Acknowledged requestId effects ↔ symbols ≠ [] := by
  cases cancels with
  | nil =>
      refine iff_of_false ?_ (fun some => some rfl)
      intro acknowledged
      obtain ⟨ack,member,_⟩ := acknowledged
      cases member
  | @cons symbol submission rest later ack asks acknowledges others =>
      have told : Effect.cancelAllOrdersAck ack ∈ .submit submission :: .cancelAllOrdersAck ack :: later := by simp
      exact iff_of_true ⟨ack,told,acknowledges.requestId⟩ (List.cons_ne_nil symbol rest)

-- What is done for one symbol, and for all of them, by induction on the symbols
-- that are left.
theorem cancelAllOrders_cancels (messageInfo : MessageInfo) (symbols : List String) (w : World E D R)
    (ready : isReady w = true) : ∃ after effects,
      OrderEntryREST.cancelAllOrders config messageInfo cancelAllOrders requestId symbols w = (.ok (),after) ∧
      after.log = effects.reverse.map .effect ++ w.log ∧
      Cancels config requestId (symbols.filter fun symbol => Passes cancelAllOrders symbol) effects := by
  simp only [OrderEntryREST.cancelAllOrders,ready,Bool.not_true,Bool.false_eq_true,if_false]
  clear ready
  induction symbols generalizing w with
  | nil => exact ⟨w,[],rfl,rfl,.nil⟩
  | cons symbol rest ih =>
      rw [List.foldl_cons]
      by_cases passes : Passes cancelAllOrders symbol
      · have taken : ¬ (cancelAllOrders.symbol ≠ "" ∧ symbol ≠ cancelAllOrders.symbol) := by
          intro filtered
          exact passes.elim filtered.1 filtered.2
        rw [if_neg taken]
        obtain ⟨after,effects,executed,log,cancels⟩ := ih ((w.submit (postRequest config messageInfo.traceInfo
          API.restPrivate.orderCancelAll .undefined (Encoder.cancelAllOrders symbol)) .cancelAllOrdersAck requestId).emit
            (.cancelAllOrdersAck (forwardedAck config cancelAllOrders requestId symbol)))
        let submission : Submission := ⟨w.submitted,postRequest config messageInfo.traceInfo API.restPrivate.orderCancelAll
          .undefined (Encoder.cancelAllOrders symbol),.cancelAllOrdersAck,requestId⟩
        let ack := forwardedAck config cancelAllOrders requestId symbol
        refine ⟨after,.submit submission :: .cancelAllOrdersAck ack :: effects,executed,?_,?_⟩
        · rw [log,List.reverse_cons,List.reverse_cons,List.map_append,List.map_append,List.append_assoc,List.append_assoc]
          rfl
        · rw [List.filter_cons_of_pos (by simpa using passes)]
          exact .cons ⟨rfl,rfl,Encoder.cancelAllOrders_text symbol,rfl⟩ ⟨rfl,rfl,rfl,rfl,rfl⟩ cancels
      · have skipped : cancelAllOrders.symbol ≠ "" ∧ symbol ≠ cancelAllOrders.symbol := not_or.mp passes
        rw [if_pos skipped,List.filter_cons_of_neg (by simpa using passes)]
        exact ih w

variable [Download2 E OrderEntryREST.State] [Download2 D DropCopy.State] [LimitRequest R]

-- The call as an event of the account.
theorem step_cancels (w : World E D R) (messageInfo : MessageInfo) (symbols : List String) (ready : isReady w = true) :
    let action : OrderAction := .cancelAllOrders messageInfo cancelAllOrders requestId symbols
    ∃ after effects, act config (receive (.rest (.action action)) w) action = (.ok (),after) ∧
      AccountSystem.step config w (.rest (.action action)) = some after ∧
      after.log = effects.reverse.map .effect ++ .event (.rest (.action action)) :: w.log ∧
      Cancels config requestId (symbols.filter fun symbol => Passes cancelAllOrders symbol) effects := by
  intro action
  obtain ⟨after,effects,acted,log,cancels⟩ :=
    cancelAllOrders_cancels messageInfo symbols (receive (.rest (.action action)) w) ready
  have stepped : AccountSystem.step config w (.rest (.action action)) =
      some (OrderEntryREST.cancelAllOrders config messageInfo cancelAllOrders requestId symbols
        (receive (.rest (.action action)) w)).2 := rfl
  rw [acted] at stepped
  exact ⟨after,effects,acted,stepped,log,cancels⟩

-- The requests and their acknowledgements are the same for every set of
-- symbols: what is missing is an answer when there is none to cancel.
theorem cancel_all_is_answered (config : Config) (w : World E D R) (messageInfo : MessageInfo)
    (cancelAllOrders : CancelAllOrders) (requestId : String) (symbols : List String) (ready : isReady w = true)
    (distinct : symbols.Nodup) :
    let action : OrderAction := .cancelAllOrders messageInfo cancelAllOrders requestId symbols
    ∃ after effects, act config (receive (.rest (.action action)) w) action = (.ok (),after) ∧
      AccountSystem.step config w (.rest (.action action)) = some after ∧
      after.log = effects.reverse.map .effect ++ .event (.rest (.action action)) :: w.log ∧
      Executed config cancelAllOrders requestId symbols effects ∧
      (Handled config cancelAllOrders requestId symbols effects ↔ ∃ symbol ∈ symbols, Passes cancelAllOrders symbol) := by
  intro action
  obtain ⟨after,effects,acted,stepped,log,cancels⟩ := step_cancels w messageInfo symbols ready
  have executed : Executed config cancelAllOrders requestId symbols effects := by
    refine ⟨_,distinct.filter _,?_,cancels⟩
    intro symbol
    rw [List.mem_filter,decide_eq_true_iff]
  refine ⟨after,effects,acted,stepped,log,executed,?_⟩
  have answered := cancels.acknowledged_iff
  constructor
  · intro handled
    obtain ⟨symbol,found⟩ := List.exists_mem_of_ne_nil _ (answered.mp handled.2)
    obtain ⟨known,passes⟩ := List.mem_filter.mp found
    exact ⟨symbol,known,of_decide_eq_true passes⟩
  · intro some
    obtain ⟨symbol,known,passes⟩ := some
    have found : symbol ∈ symbols.filter fun symbol => Passes cancelAllOrders symbol := by
      rw [List.mem_filter]
      exact ⟨known,decide_eq_true passes⟩
    exact ⟨executed,answered.mpr (List.ne_nil_of_mem found)⟩

section closed
open Smallest

def flatten (symbol : String) : CancelAllOrders where
  account := "A1"
  orderId := 0
  exchange := "kucoin"
  symbol := symbol
  side := .undefined
  strategyId := 0

def online : List Event := [.rest (.connected t),answer 0 (reply "ok")]

theorem online_ready : ∃ w : Small, Run (setup true) (fun _ _ => True) w ∧ isReady w = true := by
  have ran : (execute (AccountSystem.step (setup true)) (initial : Small) online).any isReady = true := by decide +kernel
  obtain ⟨w,executed,ready⟩ := (Option.any_eq_true _ _).mp ran
  exact ⟨w,execute_reached executed,ready⟩

theorem cancel_all_of_two : ∃ (w after : Small) (effects : List Effect),
    after.log = effects.reverse.map .effect ++
      .event (.rest (.action (.cancelAllOrders ⟨5,t⟩ (flatten "") "R9" ["XBTUSDTM","ETHUSDTM"]))) :: w.log ∧
    Handled (setup true) (flatten "") "R9" ["XBTUSDTM","ETHUSDTM"] effects := by
  obtain ⟨w,_,ready⟩ := online_ready
  obtain ⟨after,effects,_,_,log,_,handled⟩ :=
    cancel_all_is_answered (setup true) w ⟨5,t⟩ (flatten "") "R9" ["XBTUSDTM","ETHUSDTM"] ready (by decide)
  exact ⟨w,after,effects,log,handled.mpr ⟨"XBTUSDTM",by decide,by decide⟩⟩

def Answers (cancelAllOrders : CancelAllOrders) (symbols : List String) : Prop :=
  ∀ (w after : Small) (messageInfo : MessageInfo) (requestId : String) (effects : List Effect),
    Run (setup true) (fun _ _ => True) w → isReady w = true → symbols.Nodup →
    AccountSystem.step (setup true) w (.rest (.action (.cancelAllOrders messageInfo cancelAllOrders requestId symbols))) =
      some after →
    after.log = effects.reverse.map .effect ++
      .event (.rest (.action (.cancelAllOrders messageInfo cancelAllOrders requestId symbols))) :: w.log →
    Handled (setup true) cancelAllOrders requestId symbols effects

theorem not_answers (distinct : symbols.Nodup) (flat : symbols.filter (fun symbol => Passes cancelAllOrders symbol) = []) :
    ¬ Answers cancelAllOrders symbols := by
  intro answers
  obtain ⟨w,ran,ready⟩ := online_ready
  obtain ⟨after,effects,_,stepped,log,cancels⟩ := step_cancels w ⟨5,t⟩ symbols ready
  have handled := answers w after ⟨5,t⟩ "R9" effects ran ready distinct stepped log
  exact cancels.acknowledged_iff.mp handled.2 flat

-- No order at all, or none that the filter lets through: the caller hears nothing.
theorem flat_account_unanswered : ¬ Answers (flatten "") [] ∧ ¬ Answers (flatten "ETHUSDTM") ["XBTUSDTM"] :=
  ⟨not_answers (by decide) (by decide),not_answers (by decide) (by decide)⟩

end closed
end KucoinPro.CancelAll
