import KucoinPro.AccountMoves

namespace KucoinPro.StaleOrderQueries
open GuardedRuns AccountSystem OrderEntryREST

variable {E D R : Type} [Download2 E OrderEntryREST.State] [Download2 D DropCopy.State] [LimitRequest R] {config : Config}

-- The parameters of a query, as the exchange reads them.
def parameter (part : List Char) : String × String :=
  (String.ofList (part.takeWhile (· ≠ '=')),String.ofList ((part.dropWhile (· ≠ '=')).drop 1))

def parameters (query : String) : List (String × String) := ((query.toList.drop 1).splitOn '&').map parameter

-- Those that ask for one order: the id of the exchange where it is known.
def identity (order : Order) : List (String × String) :=
  [("accountMode","UNIFIED"),("tradeType","FUTURES"),("symbol",order.symbol),
    if order.externalOrderId = "" then ("clientOid",order.clientOrderId) else ("orderId",order.externalOrderId)]

def Identifies (findOrder : Nat → Nat → Option Order) (key : Nat × Nat) (s : Submission) : Prop :=
  ∃ order, findOrder key.1 key.2 = some order ∧ s.request.method = .get ∧ s.request.path = API.restPrivate.orderDetails ∧
    parameters s.request.query = identity order

-- What a pass that picks up the stale orders owes: one order-detail request for
-- each key that is found, in the order of the set, and an empty set.
structure Queried (findOrder : Nat → Nat → Option Order) (before after : World E D R) : Prop where
  asked : ∃ fresh, orderDetails after = fresh ++ orderDetails before ∧
    List.Forall₂ (Identifies findOrder) (foundKeys findOrder before) fresh.reverse
  emptied : after.request.detailsStaleOrders = []

-- The three texts that get_order takes one for another.
def Alike (order : Order) : Prop :=
  order.externalOrderId = order.symbol ∧ order.clientOrderId = order.symbol ∧ '&' ∉ order.symbol.toList

theorem splitOn_cut {text : List Char} (cut : '&' ∈ text) : 2 ≤ (text.splitOn '&').length := by
  obtain ⟨front,back,rfl⟩ := List.append_of_mem cut
  rw [List.splitOn_append_cons_self,List.length_append]
  have one := List.length_pos_iff.mpr (List.splitOn_ne_nil '&' front)
  have two := List.length_pos_iff.mpr (List.splitOn_ne_nil '&' back)
  omega

theorem parameters_parts (symbol name value : String) :
    parameters ("?accountMode=UNIFIED&tradeType=FUTURES&symbol=" ++ symbol ++ ("&" ++ name ++ "=" ++ value)) =
      ("accountMode","UNIFIED") :: ("tradeType","FUTURES") ::
        ((("symbol=".toList ++ symbol.toList).splitOn '&').map parameter ++
          ((name.toList ++ '=' :: value.toList).splitOn '&').map parameter) := by
  have front : ("?accountMode=UNIFIED&tradeType=FUTURES&symbol=" ++ symbol ++ ("&" ++ name ++ "=" ++ value)).toList.drop 1 =
      "accountMode=UNIFIED".toList ++ '&' :: ("tradeType=FUTURES".toList ++
        '&' :: (("symbol=".toList ++ symbol.toList) ++ '&' :: (name.toList ++ '=' :: value.toList))) := by simp
  have mode : ("accountMode=UNIFIED".toList.splitOn '&').map parameter = [("accountMode","UNIFIED")] := by decide
  have trade : ("tradeType=FUTURES".toList.splitOn '&').map parameter = [("tradeType","FUTURES")] := by decide
  rw [parameters,front]
  simp only [List.splitOn_append_cons_self,List.map_append,mode,trade]
  rfl

theorem parameter_plain (name value : String) (plain : '=' ∉ name.toList) :
    parameter (name.toList ++ '=' :: value.toList) = (name,value) := by
  have each : ∀ c ∈ name.toList, (decide (c ≠ '=')) = true := by
    intro c member
    simp only [ne_eq,decide_eq_true_eq]
    exact fun same => plain (same ▸ member)
  rw [parameter,List.takeWhile_append_of_pos each,List.dropWhile_append_of_pos each]
  simp

-- A query has the four parameters that were put in exactly when no text cuts one
-- of them in two.
theorem parameters_iff (symbol name value : String) (plain : '=' ∉ name.toList ∧ '&' ∉ name.toList) (third fourth : String × String) :
    parameters ("?accountMode=UNIFIED&tradeType=FUTURES&symbol=" ++ symbol ++ ("&" ++ name ++ "=" ++ value)) =
        [("accountMode","UNIFIED"),("tradeType","FUTURES"),third,fourth] ↔
      ('&' ∉ symbol.toList ∧ '&' ∉ value.toList) ∧ third = ("symbol",symbol) ∧ fourth = (name,value) := by
  rw [parameters_parts]
  by_cases whole : '&' ∉ symbol.toList ∧ '&' ∉ value.toList
  · have one : ("symbol=".toList ++ symbol.toList).splitOn '&' = [("symbol=".toList ++ symbol.toList)] :=
      List.splitOn_eq_singleton (by simp [whole.1])
    have two : (name.toList ++ '=' :: value.toList).splitOn '&' = [name.toList ++ '=' :: value.toList] :=
      List.splitOn_eq_singleton (by simp [whole.2,plain.2])
    have first : parameter ("symbol=".toList ++ symbol.toList) = ("symbol",symbol) :=
      parameter_plain "symbol" symbol (by decide)
    have second : parameter (name.toList ++ '=' :: value.toList) = (name,value) := parameter_plain name value plain.1
    rw [one,two,List.map_singleton,List.map_singleton,first,second]
    simp [whole,eq_comm]
  · constructor
    · intro equal
      have size := congrArg List.length equal
      simp only [List.length_cons,List.length_append,List.length_map,List.length_nil] at size
      have one := List.length_pos_iff.mpr (List.splitOn_ne_nil '&' ("symbol=".toList ++ symbol.toList))
      have two := List.length_pos_iff.mpr (List.splitOn_ne_nil '&' (name.toList ++ '=' :: value.toList))
      exfalso
      apply whole
      constructor
      · intro cut
        have more : 2 ≤ (("symbol=".toList ++ symbol.toList).splitOn '&').length := splitOn_cut (by simp [cut])
        omega
      · intro cut
        have more : 2 ≤ ((name.toList ++ '=' :: value.toList).splitOn '&').length := splitOn_cut (by simp [cut])
        omega
    · exact fun known => absurd known.1 whole

theorem query_identifies (order : Order) :
    parameters (getOrderQuery order.symbol order.clientOrderId order.externalOrderId) = identity order ↔ Alike order := by
  unfold getOrderQuery identity Alike
  by_cases anonymous : order.clientOrderId = ""
  · rw [if_pos anonymous]
    refine (parameters_iff order.externalOrderId "clientOid" order.symbol (by decide) _ _).trans ?_
    by_cases unknown : order.externalOrderId = ""
    · rw [if_pos unknown,unknown,anonymous]
      simp only [Prod.mk.injEq,true_and]
      constructor
      · rintro ⟨⟨_,whole⟩,symbol,_⟩
        exact ⟨symbol.symm,symbol.symm,whole⟩
      · rintro ⟨symbol,_,whole⟩
        exact ⟨⟨by simp,whole⟩,symbol.symm,symbol⟩
    · rw [if_neg unknown,anonymous]
      constructor
      · rintro ⟨_,_,fourth⟩
        simp at fourth
      · rintro ⟨same,empty,_⟩
        exact absurd (same.trans empty.symm) unknown
  · rw [if_neg anonymous]
    refine (parameters_iff order.externalOrderId "orderId" order.clientOrderId (by decide) _ _).trans ?_
    by_cases unknown : order.externalOrderId = ""
    · rw [if_pos unknown]
      constructor
      · rintro ⟨_,_,fourth⟩
        simp at fourth
      · rintro ⟨same,alike,_⟩
        exact absurd (alike.trans (same.symm.trans unknown)) anonymous
    · rw [if_neg unknown]
      simp only [Prod.mk.injEq,true_and]
      constructor
      · rintro ⟨⟨whole,_⟩,symbol,orderId⟩
        exact ⟨symbol.symm,orderId.symm.trans symbol.symm,symbol ▸ whole⟩
      · rintro ⟨symbol,orderId,whole⟩
        rw [symbol,orderId]
        exact ⟨⟨whole,whole⟩,rfl,rfl⟩

theorem forall₂_iff {r s : α → β → Prop} {p : α → Prop} (known : List.Forall₂ r xs ys) (each : ∀ x y, r x y → (s x y ↔ p x)) :
    List.Forall₂ s xs ys ↔ ∀ x ∈ xs, p x := by
  induction known with
  | nil => simp
  | cons one _ ih => simp [each _ _ one,ih]

theorem detail_identifies {s : Submission} (detail : IsDetail config t findOrder key s) :
    Identifies findOrder key s ↔ ∀ order, findOrder key.1 key.2 = some order → Alike order := by
  obtain ⟨order,found,_,request⟩ := detail
  have alike : parameters s.request.query = identity order ↔ Alike order := by
    rw [request]
    exact query_identifies order
  constructor
  · rintro ⟨other,same,_,_,query⟩ another again
    cases found.symm.trans same
    cases found.symm.trans again
    exact alike.mp query
  · intro all
    exact ⟨order,found,by rw [request]; rfl,by rw [request]; rfl,alike.mpr (all order found)⟩

variable [LawfulLimitRequest R]

-- One request for each order, always; under its own identity only if the order's
-- three texts are one and the same.
theorem stale_orders_are_identified (config : Config) (t : TraceInfo) (refresh : Bool) (canRequest : Kind → Bool)
    (findOrder : Nat → Nat → Option Order) (symbols : List String) (w : World E D R)
    (picked : picks config refresh canRequest w = true) :
    Queried findOrder w (onTimer config t refresh canRequest findOrder symbols w) ↔
      ∀ key ∈ w.request.detailsStaleOrders, ∀ order, findOrder key.1 key.2 = some order → Alike order := by
  obtain ⟨⟨fresh,asked,details⟩,_,emptied⟩ := onTimer_picks (t := t) canRequest findOrder symbols w picked
  have exactly : Queried findOrder w (onTimer config t refresh canRequest findOrder symbols w) ↔
      List.Forall₂ (Identifies findOrder) (foundKeys findOrder w) fresh.reverse := by
    constructor
    · rintro ⟨⟨others,same,each⟩,_⟩
      have equal : others = fresh := List.append_cancel_right (same.symm.trans asked)
      exact equal ▸ each
    · intro each
      exact ⟨⟨fresh,asked,each⟩,emptied⟩
  rw [exactly,forall₂_iff details fun _ _ detail => detail_identifies detail]
  constructor
  · intro all key member order found
    exact all key (List.mem_filter.mpr ⟨member,by simp [found]⟩) order found
  · intro all key member
    exact all key (List.mem_filter.mp member).1

section closed
open Smallest

def lookup (order : Order) (userId orderId : Nat) : Option Order :=
  if userId = order.userId ∧ orderId = order.orderId then some order else none

-- The drop copy is in GET_STALE_ORDERS, and the timer is about to pick it up.
theorem stale_order_is_picked (order : Order) (key : order.userId = 1 ∧ order.orderId = 7)
    (ran : (execute (AccountSystem.step (setup true)) (initial : Small) (toStaleOrders [order])).any (fun w =>
      picks (setup true) true (fun _ => true) w && w.request.detailsStaleOrders == [(1,7)]) = true) :
    ∃ w : Small, Run (setup true) (fun _ _ => True) w ∧ picks (setup true) true (fun _ => true) w = true ∧
      w.request.detailsStaleOrders = [(1,7)] ∧ lookup order 1 7 = some order := by
  obtain ⟨w,executed,checked⟩ := (Option.any_eq_true _ _).mp ran
  simp only [Bool.and_eq_true,beq_iff_eq] at checked
  exact ⟨w,execute_reached executed,checked.1,checked.2,by simp [lookup,key]⟩

theorem stale_orders_are_identified_alike : ∃ w : Small, Run (setup true) (fun _ _ => True) w ∧
    Queried (lookup ⟨1,7,"A","A","A"⟩) w
      (onTimer (setup true) t true (fun _ => true) (lookup ⟨1,7,"A","A","A"⟩) [] w) := by
  obtain ⟨w,path,picked,details,_⟩ := stale_order_is_picked ⟨1,7,"A","A","A"⟩ ⟨rfl,rfl⟩ (by decide +kernel)
  refine ⟨w,path,(stale_orders_are_identified (setup true) t true (fun _ => true) _ [] w picked).mpr ?_⟩
  intro key member order found
  rw [details,List.mem_singleton] at member
  subst member
  cases found
  exact ⟨rfl,rfl,by decide⟩

-- An order of XBTUSDTM is asked for as one of the symbol "E1" with the id "C1".
theorem stale_order_is_mistaken : ¬ ∀ (w : Small) (findOrder : Nat → Nat → Option Order), Run (setup true) (fun _ _ => True) w →
    picks (setup true) true (fun _ => true) w = true →
    Queried findOrder w (onTimer (setup true) t true (fun _ => true) findOrder [] w) := by
  intro all
  obtain ⟨w,path,picked,details,known⟩ := stale_order_is_picked ⟨1,7,"XBTUSDTM","C1","E1"⟩ ⟨rfl,rfl⟩ (by decide +kernel)
  have alike := (stale_orders_are_identified (setup true) t true (fun _ => true) _ [] w picked).mp (all w _ path picked)
    (1,7) (by simp [details]) _ known
  exact absurd alike.1 (by decide)

end closed
end KucoinPro.StaleOrderQueries
