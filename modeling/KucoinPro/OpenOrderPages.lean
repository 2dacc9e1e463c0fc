import Mathlib.Data.List.Nodup
import Mathlib.Data.List.TakeWhile
import KucoinPro.AccountMoves

namespace KucoinPro.OpenOrderPages
open GuardedRuns AccountSystem OrderEntryREST Json

-- A prefix of distinct things has all of them once only if it is all of them.
theorem count_prefix_iff [DecidableEq α] {before ids : List α} (start : before <+: ids) (distinct : ids.Nodup) :
    (∀ x ∈ ids, before.count x = 1) ↔ before = ids := by
  obtain ⟨rest,rfl⟩ := start
  constructor
  · intro once
    cases rest with
    | nil => exact (List.append_nil before).symm
    | cons x rest =>
        have later : x ∈ before ++ x :: rest := List.mem_append_right before List.mem_cons_self
        have earlier : x ∈ before := List.count_pos_iff.mp (by rw [once x later]; decide)
        exact absurd rfl ((List.nodup_append.mp distinct).2.2 x earlier x List.mem_cons_self)
  · intro all x member
    rw [all]
    exact List.count_eq_one_of_mem distinct member

theorem takeWhile_take_iff {xs : List α} {ok : α → Bool} :
    (xs.take n).takeWhile ok = xs ↔ xs.length ≤ n ∧ ∀ x ∈ xs, ok x = true := by
  constructor
  · intro all
    have short : xs.length ≤ n := by
      have first : (xs.take n).length ≤ n := List.length_take_le n xs
      have second : ((xs.take n).takeWhile ok).length ≤ (xs.take n).length := (List.takeWhile_prefix ok).length_le
      rw [all] at second
      omega
    rw [List.take_of_length_le short] at all
    exact ⟨short,List.takeWhile_eq_self_iff.mp all⟩
  · rintro ⟨short,good⟩
    rw [List.take_of_length_le short]
    exact List.takeWhile_eq_self_iff.mpr good

variable {E D R : Type} {config : Config}

-- The names of the parameters of a query.
def parameters (query : String) : List String :=
  ((query.toList.drop 1).splitOn '&').map fun part => String.ofList (part.takeWhile (· ≠ '='))

-- The open orders at the exchange, which answers in pages; `pageOf` is the page
-- that a query asks for, the first one if it does not say.
structure Exchange where
  orders : List OrdersAckDataItemsItem
  distinct : (orders.map (·.orderId)).Nodup
  pageSize : Nat
  positive : 0 < pageSize
  pageParameter : String
  named : pageParameter ∉ ["accountMode","tradeType"]
  pageOf : String → Nat
  unpaged : ∀ query, pageParameter ∉ parameters query → pageOf query = 1

def Exchange.page (exchange : Exchange) (number : Nat) : List OrdersAckDataItemsItem :=
  (exchange.orders.drop ((number - 1) * exchange.pageSize)).take exchange.pageSize

def Exchange.answer (exchange : Exchange) (query : String) : OrdersAck where
  code := SYSTEM_CODE_SUCCESS
  msg := ""
  data := {
    pageNumber := exchange.pageOf query
    pageSize := exchange.pageSize
    totalNum := exchange.orders.length
    totalPage := ((exchange.orders.length + exchange.pageSize - 1) / exchange.pageSize : Nat)
    items := exchange.page (exchange.pageOf query) }

-- The order updates among some effects, oldest first.
def updates (fresh : List Entry) : List OrderUpdate := (fresh.filterMap fun
  | .effect (.orderUpdate update _) => some update
  | _ => none).reverse

-- Every open order has been dispatched exactly once, as SNAPSHOT.
structure Complete (exchange : Exchange) (dispatched : List OrderUpdate) : Prop where
  snapshot : ∀ update ∈ dispatched, update.updateType = .snapshot
  once : ∀ order ∈ exchange.orders, (dispatched.map (·.externalOrderId)).count order.orderId = 1

def converts (config : Config) (item : OrdersAckDataItemsItem) : Bool := (orderStatus config item).toOption.isSome

-- The updates of a list of items: those up to the first one whose status is not
-- converted.
def converted (config : Config) (items : List OrdersAckDataItemsItem) : List OrderUpdate :=
  (items.takeWhile (converts config)).filterMap fun item =>
    (orderStatus config item).toOption.map (orderUpdate config item)

theorem converted_cons (item : OrdersAckDataItemsItem) (rest : List OrdersAckDataItemsItem)
    (known : orderStatus config item = .ok status) :
    converted config (item :: rest) = orderUpdate config item status :: converted config rest := by
  simp [converted,converts,known,Except.toOption]

theorem converted_stops (item : OrdersAckDataItemsItem) (rest : List OrdersAckDataItemsItem)
    (thrown : orderStatus config item = .error e) : converted config (item :: rest) = [] := by
  simp [converted,converts,thrown,Except.toOption]

theorem converted_ids (items : List OrdersAckDataItemsItem) :
    (converted config items).map (·.externalOrderId) = (items.takeWhile (converts config)).map (·.orderId) := by
  induction items with
  | nil => rfl
  | cons item rest ih =>
      cases known : orderStatus config item with
      | error e =>
          rw [converted_stops item rest known]
          simp [converts,known,Except.toOption]
      | ok status =>
          have good : converts config item = true := by simp [converts,known,Except.toOption]
          rw [converted_cons item rest known,List.takeWhile_cons_of_pos good,List.map_cons,List.map_cons,ih]
          rfl

theorem converted_snapshot (items : List OrdersAckDataItemsItem) :
    ∀ update ∈ converted config items, update.updateType = .snapshot := by
  intro update member
  obtain ⟨item,_,mapped⟩ := List.mem_filterMap.mp member
  obtain ⟨status,_,rfl⟩ := Option.map_eq_some_iff.mp mapped
  rfl

theorem onOrderItems_log (config : Config) (items : List OrdersAckDataItemsItem) (w : World E D R) : ∃ fresh,
    (onOrderItems config items w).2.log = fresh ++ w.log ∧ updates fresh = converted config items := by
  induction items generalizing w with
  | nil => exact ⟨[],rfl,rfl⟩
  | cons item rest ih =>
      simp only [onOrderItems]
      cases known : orderStatus config item with
      | error e => exact ⟨[],rfl,(converted_stops item rest known).symm⟩
      | ok status =>
          let one : Effect := .orderUpdate (orderUpdate config item status) config.orderEntryStreamId
          obtain ⟨fresh,log,same⟩ := ih (w.emit one)
          refine ⟨fresh ++ [.effect one],?_,?_⟩
          · rw [log,World.emit,List.append_assoc,List.singleton_append]
          · rw [converted_cons item rest known,← same]
            simp [updates,one]

variable [Download2 E OrderEntryREST.State] [Download2 D DropCopy.State] [LimitRequest R] [LawfulLimitRequest R]

theorem orders_answered (t : TraceInfo) {id : Nat} {ack : OrdersAck} {w : World E D R}
    (found : w.inFlight.find? (fun s => s.id == id) = some submission) (own : submission.callback = .getOrdersAck)
    (known : content response = some body) (decoded : config.platform.ordersAck body = .ok ack)
    (success : ack.code = SYSTEM_CODE_SUCCESS) : ∃ after fresh,
      AccountSystem.step config w (.rest (.response t id response)) = some after ∧ after.log = fresh ++ w.log ∧
      after.request.response .openOrders = true ∧ updates fresh = converted config ack.data.items := by
  let start := answering submission (receive (.rest (.response t id response)) w)
  have stepped : AccountSystem.step config w (.rest (.response t id response)) = getOrdersAck config t response start := by
    rw [step_response found]
    simp only [invoke,own]
    rfl
  let handled := onOrdersAck config ack start
  obtain ⟨fresh,log,same⟩ := onOrderItems_log config ack.data.items (start.emit (.ordersAck ack))
  have logged : (commit t .openOrders handled.2).log = (fresh ++ [.effect (.ordersAck ack),.effect (.answer submission),
      .event (.rest (.response t id response))]) ++ w.log := by
    rw [List.append_assoc]
    exact log
  have finished : finish logError handled = handled.2 := by
    rcases handled with ⟨outcome,during⟩
    cases outcome with
    | ok => rfl
    | error e => cases e <;> rfl
  have flagged : (commit t .openOrders handled.2).request.response .openOrders = true := by simp [commit]
  refine ⟨commit t .openOrders handled.2,_,?_,logged,flagged,?_⟩
  · rw [stepped,getOrdersAck,getAck,processResponse_content known]
    simp only [decoded,success,if_true,Option.map_some]
    exact congrArg (fun after => some (commit t .openOrders after)) finished
  · rw [← same]
    simp [updates]

-- The one query of the gateway has no page parameter.
theorem first_page (exchange : Exchange) (query : Asked config submission) (own : submission.callback = .getOrdersAck) :
    (exchange.answer submission.request.query).data.items = exchange.orders.take exchange.pageSize := by
  have asked : submission.request.query = "?accountMode=UNIFIED&tradeType=FUTURES" := by
    simp only [Asked,own] at query
    obtain ⟨_,request⟩ := query
    rw [request]
    rfl
  have names : parameters "?accountMode=UNIFIED&tradeType=FUTURES" = ["accountMode","tradeType"] := by decide
  have one : exchange.pageOf submission.request.query = 1 := by
    apply exchange.unpaged
    rw [asked,names]
    exact exchange.named
  simp [Exchange.answer,Exchange.page,one]

theorem complete_iff (exchange : Exchange) : Complete exchange (converted config (exchange.orders.take exchange.pageSize)) ↔
    exchange.orders.length ≤ exchange.pageSize ∧ ∀ order ∈ exchange.orders, converts config order = true := by
  let reached := (exchange.orders.take exchange.pageSize).takeWhile (converts config)
  have start : reached <+: exchange.orders := (List.takeWhile_prefix _).trans (List.take_prefix _ _)
  have counted : (∀ x ∈ exchange.orders.map (·.orderId), (reached.map (·.orderId)).count x = 1) ↔
      reached.map (·.orderId) = exchange.orders.map (·.orderId) :=
    count_prefix_iff (start.map _) exchange.distinct
  rw [← takeWhile_take_iff]
  constructor
  · intro complete
    have same : reached.map (·.orderId) = exchange.orders.map (·.orderId) := by
      apply counted.mp
      intro x member
      obtain ⟨order,present,rfl⟩ := List.mem_map.mp member
      rw [← converted_ids]
      exact complete.once order present
    exact start.eq_of_length (by simpa using congrArg List.length same)
  · intro all
    refine ⟨converted_snapshot _,?_⟩
    intro order present
    rw [converted_ids]
    exact counted.mpr (congrArg (List.map (·.orderId)) all) order.orderId (List.mem_map_of_mem present)

variable [LawfulDownload2 E] [LawfulDownload2 D]

-- A success of a GET of open orders, in any run: the orders of the first page
-- are dispatched, and these are all of them if and only if there is one page.
theorem first_page_is_dispatched (config : Config) (exchange : Exchange) (w : World E D R) (t : TraceInfo) (id : Nat)
    (response : Web.Response) (submission : Submission) (body : String) (path : Run config (fun _ _ => True) w)
    (found : w.inFlight.find? (fun s => s.id == id) = some submission) (own : submission.callback = .getOrdersAck)
    (known : content response = some body)
    (answered : config.platform.ordersAck body = .ok (exchange.answer submission.request.query)) :
    ∃ after fresh, AccountSystem.step config w (.rest (.response t id response)) = some after ∧
      after.log = fresh ++ w.log ∧ after.request.response .openOrders = true ∧
      updates fresh = converted config (exchange.orders.take exchange.pageSize) ∧
      (Complete exchange (updates fresh) ↔
        exchange.orders.length ≤ exchange.pageSize ∧ ∀ order ∈ exchange.orders, converts config order = true) := by
  have proper := run_proper path submission (List.mem_of_find?_eq_some found)
  obtain ⟨after,fresh,stepped,log,flagged,dispatched⟩ := orders_answered t found own known answered rfl
  rw [first_page exchange proper.asked own] at dispatched
  refine ⟨after,fresh,stepped,log,flagged,dispatched,?_⟩
  rw [dispatched]
  exact complete_iff exchange

section closed
open Smallest

def working (orderId : String) : OrdersAckDataItemsItem where
  orderId := orderId
  symbol := "XBTUSDTM"
  orderType := .limit
  side := .buy
  size := 1
  price := 1
  timeInForce := .gtc
  orderTime := 0
  filledSize := 0
  avgPrice := 0
  updatedTime := ⟨0⟩
  clientOid := ""
  status := 2

def book (pageSize : Nat) (positive : 0 < pageSize) : Exchange where
  orders := [working "1",working "2"]
  distinct := by decide
  pageSize := pageSize
  positive := positive
  pageParameter := "pageNumber"
  named := by decide
  pageOf query := if "pageNumber" ∈ parameters query then 2 else 1
  unpaged _ absent := if_neg absent

def trading (exchange : Exchange) : Config :=
  {setup true with platform.ordersAck := fun _ => .ok (exchange.answer "?accountMode=UNIFIED&tradeType=FUTURES")}

def askingOrders : List Event :=
  startup ++ [ack "SUBSCRIBE_BALANCES",poll,answer 1 (reply "ok"),tick,
    ack "SUBSCRIBE_POSITIONS",poll,answer 2 (reply "ok"),tick,
    ack "SUBSCRIBE_ORDERS",poll]

def isOrdersGet (s : Submission) : Bool :=
  s.callback == .getOrdersAck && s.request.query == "?accountMode=UNIFIED&tradeType=FUTURES"

theorem asking_orders (exchange : Exchange)
    (ran : (execute (AccountSystem.step (trading exchange)) (initial : Small) askingOrders).any
      (fun w => (w.inFlight.find? (fun s => s.id == 3)).any isOrdersGet) = true) :
    ∃ (w : Small) (submission : Submission), Run (trading exchange) (fun _ _ => True) w ∧
      w.inFlight.find? (fun s => s.id == 3) = some submission ∧ submission.callback = .getOrdersAck ∧
      (trading exchange).platform.ordersAck "ok" = .ok (exchange.answer submission.request.query) := by
  obtain ⟨w,executed,flying⟩ := (Option.any_eq_true _ _).mp ran
  obtain ⟨submission,found,own⟩ := (Option.any_eq_true _ _).mp flying
  simp only [isOrdersGet,Bool.and_eq_true,beq_iff_eq] at own
  exact ⟨w,submission,execute_reached executed,found,own.1,own.2 ▸ rfl⟩

theorem first_page_is_dispatched_whole : ∃ (w after : Small) (fresh : List Entry), after.log = fresh ++ w.log ∧
    after.request.response .openOrders = true ∧ Complete (book 2 (by decide)) (updates fresh) := by
  obtain ⟨w,submission,path,found,own,answered⟩ := asking_orders (book 2 (by decide)) (by decide +kernel)
  obtain ⟨after,fresh,_,log,flagged,_,complete⟩ := first_page_is_dispatched (trading (book 2 (by decide)))
    (book 2 (by decide)) w t 3 (reply "ok") submission "ok" path found own rfl answered
  exact ⟨w,after,fresh,log,flagged,complete.mpr ⟨by decide,by decide⟩⟩

-- A page for each: the second one is never asked for.
theorem second_page_is_missed : ¬ ∀ (config : Config) (exchange : Exchange) (w after : Small) (submission : Submission)
    (fresh : List Entry),
    Run config (fun _ _ => True) w → w.inFlight.find? (fun s => s.id == 3) = some submission →
    submission.callback = .getOrdersAck → config.platform.ordersAck "ok" = .ok (exchange.answer submission.request.query) →
    AccountSystem.step config w (answer 3 (reply "ok")) = some after → after.log = fresh ++ w.log →
    after.request.response .openOrders = true → Complete exchange (updates fresh) := by
  intro all
  obtain ⟨w,submission,path,found,own,answered⟩ := asking_orders (book 1 (by decide)) (by decide +kernel)
  have known : content (reply "ok") = some "ok" := rfl
  obtain ⟨after,fresh,stepped,log,flagged,dispatched⟩ := orders_answered t found own known answered rfl
  have complete := all _ _ w after submission fresh path found own answered stepped log flagged
  have proper := run_proper path submission (List.mem_of_find?_eq_some found)
  rw [dispatched,first_page _ proper.asked own] at complete
  exact absurd ((complete_iff _).mp complete).1 (by decide)

end closed
end KucoinPro.OpenOrderPages
