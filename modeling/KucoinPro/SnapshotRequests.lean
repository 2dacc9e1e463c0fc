import KucoinPro.AccountMoves
import KucoinPro.OrderBooks

namespace KucoinPro.SnapshotRequests
open GuardedRuns MarketSystem OrderBooks OrderEntryREST

variable {Y S B E D R : Type} {Q : Type → Type} {config : GatewayConfig}

-- The book of a symbol is asked for.
def flying (symbol : String) (inFlight : List Submission) : Bool := inFlight.any fun s => s.callback == .getOrderBookAck symbol

variable [LimitQueue Q]

def waiting (symbol : String) (g : Gateway Y Q S B E D R) : Bool :=
  (LimitQueue.items g.shared.depthRequestQueue).contains symbol

def Accounted (g : Gateway Y Q S B E D R) : Prop :=
  ∀ symbol, owed symbol g.shared.log = true → waiting symbol g = true ∨ flying symbol g.account.inFlight = true

-- Whether a response carries an order book of the symbol.
def brings (config : Config) (symbol : String) (response : Web.Response) : Bool :=
  match content response with
  | none => false
  | some body =>
    match config.platform.orderBookAck body with
    | .error _ => false
    | .ok ack => ack.code == Json.SYSTEM_CODE_SUCCESS && ack.data.symbol == symbol

def remaining (id : Nat) (g : Gateway Y Q S B E D R) : List Submission := g.account.inFlight.eraseP fun s => s.id == id

-- The last request for a symbol that is owed a snapshot is answered with something else.
def loses (config : GatewayConfig) (g : Gateway Y Q S B E D R) : GatewayEvent B → Bool
  | .account (.rest (.response _ id response)) _ _ =>
      match g.account.inFlight.find? (fun s => s.id == id) with
      | some ⟨_,_,.getOrderBookAck symbol,_⟩ =>
          owed symbol g.shared.log && !waiting symbol g && !flying symbol (remaining id g) &&
            !brings config.account symbol response
      | _ => false
  | _ => false

theorem waiting_iff {g : Gateway Y Q S B E D R} :
    waiting symbol g = true ↔ symbol ∈ LimitQueue.items g.shared.depthRequestQueue := by
  unfold waiting
  rw [List.contains_iff_mem]

theorem flying_iff : flying symbol inFlight = true ↔ ∃ s ∈ inFlight, s.callback = .getOrderBookAck symbol := by
  unfold flying
  rw [List.any_eq_true]
  constructor
  · rintro ⟨s,present,same⟩
    exact ⟨s,present,beq_iff_eq.mp same⟩
  · rintro ⟨s,present,same⟩
    exact ⟨s,present,beq_iff_eq.mpr same⟩

-- What get_order_book_ack passes on is what decodes with code 200000.
theorem orderBookAck_eq (account : Config) (response : Web.Response) :
    orderBookAck account response = (content response).bind fun body =>
      match account.platform.orderBookAck body with
      | .error _ => none
      | .ok ack => if ack.code = Json.SYSTEM_CODE_SUCCESS then some ack else none := by
  unfold orderBookAck
  cases known : content response with
  | none =>
      generalize ran : processResponse account response _ _ _ = processed
      cases processed with
      | none => rfl
      | some passed =>
          obtain ⟨_,_,_,_,_,rfl⟩ := processResponse_failed known ran
          rfl
  | some body =>
      rw [processResponse_content known,Option.join_some,Option.bind_some]
      cases decoded : account.platform.orderBookAck body with
      | error e => cases e <;> rfl
      | ok ack => rfl

theorem brings_eq (account : Config) (symbol : String) (response : Web.Response) :
    brings account symbol response = (orderBookAck account response).any fun ack => ack.data.symbol == symbol := by
  rw [orderBookAck_eq]
  unfold brings
  cases content response with
  | none => rfl
  | some body =>
      simp only [Option.bind_some]
      cases account.platform.orderBookAck body with
      | error e => rfl
      | ok ack =>
          by_cases success : ack.code = Json.SYSTEM_CODE_SUCCESS
          · simp [success]
          · simp [success]

-- The account: requests stay in flight until they are answered.

-- The response to a request for the book of the symbol.
def answersBook (symbol : String) (w : World E D R) : Event → Bool
  | .rest (.response _ id _) => (w.inFlight.find? fun s => s.id == id).any fun s => s.callback == .getOrderBookAck symbol
  | _ => false

variable [Download2 E OrderEntryREST.State] [Download2 D DropCopy.State] [LimitRequest R] [LawfulDownload2 E]
  [LawfulDownload2 D] [LawfulLimitRequest R]

theorem step_flying {account : Config} {w after : World E D R} (ran : AccountSystem.step account w event = some after)
    (other : answersBook symbol w event = false) (before : flying symbol w.inFlight = true) :
    flying symbol after.inFlight = true := by
  obtain ⟨s,present,callback⟩ := flying_iff.mp before
  cases AccountSystem.step_happens ran with
  | lost => exact before
  | copied => exact before
  | served _ _ _ serves => exact flying_iff.mpr ⟨s,serves.keeps s present,callback⟩
  | @answered t response submission _ id same found ran serves =>
      subst same
      have differs : s ≠ submission := by
        rintro rfl
        simp [answersBook,found,callback] at other
      have stays : s ∈ (answering submission (AccountSystem.receive (.rest (.response t id response)) w)).inFlight :=
        answering_keeps found present differs
      exact flying_iff.mpr ⟨s,serves.keeps s stays,callback⟩

omit [LawfulDownload2 E] [LawfulDownload2 D] [LawfulLimitRequest R] in
theorem response_flying {account : Config} {w after : World E D R} {id : Nat}
    (found : w.inFlight.find? (fun s => s.id == id) = some submission) (callback : submission.callback = .getOrderBookAck symbol)
    (ran : AccountSystem.step account w (.rest (.response t id response)) = some after) :
    after.inFlight = w.inFlight.eraseP fun s => s.id == id := by
  rw [AccountSystem.step_response found,invoke,callback] at ran
  have known : submission.id = id := by simpa using List.find?_some found
  subst known
  exact getOrderBookAck_flying ran

variable [Symbols Y] [Sequencer S B] [LawfulLimitQueue Q]

-- The order books: what is owed stays owed or is queued, and what is queued stays
-- so or is asked for.
omit [LawfulDownload2 E] [LawfulDownload2 D] [LawfulLimitRequest R] in
theorem step_owed {g after : Gateway Y Q S B E D R} (ran : step config g event = some after) (symbol : String)
    (due : owed symbol after.shared.log = true) : owed symbol g.shared.log = true ∨ waiting symbol after = true := by
  have later {operation : Operation B} {other : String} (sequences : Sequences other operation g.shared after.shared) :
      owed symbol g.shared.log = true ∨ waiting symbol after = true := by
    by_cases own : symbol = other
    · subst own
      rcases sequences.own due with earlier | queued
      · rw [owed_cons,Bool.and_eq_true,Bool.or_eq_true] at earlier
        exact .inl (earlier.2.resolve_left (by simp [isRequested]))
      · exact .inr (waiting_iff.mpr queued)
    · rw [sequences.apart symbol own] at due
      exact .inl due
  cases step_recorded ran with
  | incremented _ _ _ sequences => exact later sequences
  | acked _ _ sequences => exact later sequences
  | erased _ _ erased =>
      rw [owed_filter,erased.log,owed_cons,← owed_filter] at due
      exact .inl (by simpa [isSnapshot,isRequested] using due)
  | polled _ _ polled =>
      rw [owed_filter,polled.log,← owed_filter] at due
      exact .inl due
  | apart _ _ _ quiet =>
      rw [quiet.owed] at due
      exact .inl due

omit [LawfulDownload2 E] [LawfulDownload2 D] in
theorem step_waiting {g after : Gateway Y Q S B E D R} (ran : step config g event = some after) (symbol : String)
    (before : waiting symbol g = true) : waiting symbol after = true ∨ flying symbol after.account.inFlight = true := by
  have queued := waiting_iff.mp before
  cases step_recorded ran with
  | incremented _ _ _ sequences => exact .inl (waiting_iff.mpr (sequences.kept symbol queued))
  | acked _ _ sequences => exact .inl (waiting_iff.mpr (sequences.kept symbol queued))
  | erased _ _ erased =>
      rw [← erased.queue] at queued
      exact .inl (waiting_iff.mpr queued)
  | apart _ _ _ quiet =>
      rw [← quiet.queue] at queued
      exact .inl (waiting_iff.mpr queued)
  | @polled t refresh canRequest findOrder handed _ _ _ stepped idle polled =>
      rw [← polled.items,List.mem_append] at queued
      rcases queued with out | still
      · have served : serving config.account refresh g.account = true := by
          cases serves : serving config.account refresh g.account with
          | true => rfl
          | false => simp [idle serves] at out
        have account : onTimer config.account t refresh canRequest findOrder handed
            (AccountSystem.receive (.rest (.timer t refresh canRequest findOrder handed)) g.account) = after.account :=
          Option.some.inj stepped
        rw [← account]
        exact .inr (flying_iff.mpr (onTimer_asked t canRequest findOrder handed _ served out))
      · exact .inl (waiting_iff.mpr still)

theorem step_asked {g after : Gateway Y Q S B E D R} (ran : step config g event = some after) (symbol : String)
    (other : ∀ happened granted book, event = .account happened granted book → answersBook symbol g.account happened = false)
    (before : flying symbol g.account.inFlight = true) : flying symbol after.account.inFlight = true := by
  have moved : ∀ happened, AccountSystem.step config.account g.account happened = some after.account →
      answersBook symbol g.account happened = false → flying symbol after.account.inFlight = true :=
    fun _ stepped silent => step_flying stepped silent before
  cases step_recorded ran with
  | incremented _ _ same _ =>
      rw [same]
      exact before
  | erased _ same _ =>
      rw [same]
      exact before
  | acked _ stepped _ => exact moved _ stepped (other _ _ _ rfl)
  | polled stepped _ _ => exact moved _ stepped rfl
  | apart _ _ stepped _ =>
      cases event with
      | account happened granted book => exact moved happened stepped (other happened granted book rfl)
      | symbolsUpdate =>
          have same : after.account = g.account := stepped
          rw [same]
          exact before
      | marketData =>
          have same : after.account = g.account := stepped
          rw [same]
          exact before

-- The response to the request of a symbol: no other request is answered, and what
-- it brings decides.
structure Answered (symbol : String) (id : Nat) (g after : Gateway Y Q S B E D R) (brought : Bool) : Prop where
  inFlight : after.account.inFlight = remaining id g
  settled : brought = true → owed symbol after.shared.log = true → waiting symbol after = true
  unsettled : brought = false → owed symbol after.shared.log = owed symbol g.shared.log ∧ waiting symbol after = waiting symbol g

omit [LawfulDownload2 E] [LawfulDownload2 D] [LawfulLimitRequest R] in
theorem step_answered {id : Nat} {g after : Gateway Y Q S B E D R}
    (found : g.account.inFlight.find? (fun s => s.id == id) = some submission) (callback : submission.callback = .getOrderBookAck symbol)
    (ran : step config g (.account (.rest (.response t id response)) granted book) = some after) :
    Answered symbol id g after (brings config.account symbol response) := by
  have passed : passedOn config id response g.account = orderBookAck config.account response := by
    obtain ⟨number,request,called,requestId⟩ := submission
    cases callback
    simp only [passedOn,found]
  rw [brings_eq,← passed]
  cases step_recorded ran with
  | @acked _ _ _ _ _ ack known stepped sequences =>
      rw [known,Option.any_some]
      refine ⟨response_flying found callback stepped,?_,?_⟩
      · intro own due
        obtain rfl := beq_iff_eq.mp own
        rcases sequences.own due with earlier | queued
        · simp [owed_cons,isSnapshot,snapshotOf] at earlier
        · exact waiting_iff.mpr queued
      · intro other
        have differs : symbol ≠ ack.data.symbol := fun same => by simp [same] at other
        refine ⟨sequences.apart symbol differs,?_⟩
        apply Bool.eq_iff_iff.mpr
        rw [waiting_iff,waiting_iff]
        constructor
        · intro queued
          exact (sequences.fresh symbol queued).resolve_right differs
        · exact sequences.kept symbol
  | apart unreached _ moved quiet =>
      have nothing : passedOn config id response g.account = none := by simpa [reaches] using unreached
      rw [nothing,Option.any_none]
      refine ⟨response_flying found callback moved,?_,fun _ => ⟨quiet.owed symbol,?_⟩⟩
      · intro brought
        cases brought
      · unfold waiting
        rw [quiet.queue]

-- Answers of the request for the book of a symbol.
def Answers (symbol : String) (id : Nat) (response : Web.Response) (g : Gateway Y Q S B E D R) (event : GatewayEvent B) : Prop :=
  ∃ t granted book submission, event = .account (.rest (.response t id response)) granted book ∧
    g.account.inFlight.find? (fun s => s.id == id) = some submission ∧ submission.callback = .getOrderBookAck symbol

omit [Symbols Y] [Sequencer S B] [Download2 E OrderEntryREST.State] [Download2 D DropCopy.State] [LimitRequest R]
  [LawfulDownload2 E] [LawfulDownload2 D] [LawfulLimitRequest R] [LawfulLimitQueue Q] in
theorem loses_answers {g : Gateway Y Q S B E D R} {id : Nat} (answers : Answers symbol id response g event) :
    loses config g event = (owed symbol g.shared.log && !waiting symbol g && !flying symbol (remaining id g) &&
      !brings config.account symbol response) := by
  obtain ⟨t,granted,book,⟨_,_,_,_⟩,rfl,found,callback⟩ := answers
  cases callback
  simp only [loses,found]

omit [Symbols Y] [Sequencer S B] [Download2 E OrderEntryREST.State] [Download2 D DropCopy.State] [LimitRequest R]
  [LawfulDownload2 E] [LawfulDownload2 D] [LawfulLimitRequest R] [LawfulLimitQueue Q] in
theorem loses_cases {g : Gateway Y Q S B E D R} (lost : loses config g event = true) :
    ∃ symbol id response, Answers symbol id response g event := by
  unfold loses at lost
  split at lost
  · split at lost
    · rename_i symbol _ found
      exact ⟨symbol,_,_,_,_,_,_,rfl,found,rfl⟩
    · cases lost
  · cases lost

omit [LawfulDownload2 E] [LawfulDownload2 D] [LawfulLimitRequest R] in
theorem Answers.answered {g after : Gateway Y Q S B E D R} {id : Nat} (answers : Answers symbol id response g event)
    (ran : step config g event = some after) : Answered symbol id g after (brings config.account symbol response) := by
  obtain ⟨t,granted,book,submission,rfl,found,callback⟩ := answers
  exact step_answered found callback ran

omit [Symbols Y] [LimitQueue Q] [Sequencer S B] [Download2 E OrderEntryREST.State] [Download2 D DropCopy.State]
  [LimitRequest R] [LawfulDownload2 E] [LawfulDownload2 D] [LawfulLimitRequest R] [LawfulLimitQueue Q] in
theorem not_answers {g : Gateway Y Q S B E D R} (other : ¬∃ id response, Answers symbol id response g event)
    (same : event = .account happened granted book) : answersBook symbol g.account happened = false := by
  subst same
  unfold answersBook
  split
  · rename_i id response
    cases found : g.account.inFlight.find? (fun s => s.id == id) with
    | none => rfl
    | some submission =>
        refine beq_eq_false_iff_ne.mpr fun callback => other ⟨id,response,_,_,_,submission,rfl,found,callback⟩
  · rfl

theorem step_accounted {g after : Gateway Y Q S B E D R} (ran : step config g event = some after) (before : Accounted g)
    (kept : loses config g event = false) : Accounted after := by
  intro symbol due
  rcases step_owed ran symbol due with earlier | queued
  · by_cases answers : ∃ id response, Answers symbol id response g event
    · obtain ⟨id,response,answers⟩ := answers
      have answered := answers.answered ran
      cases brought : brings config.account symbol response with
      | true => exact .inl (answered.settled brought due)
      | false =>
          -- another request, or a place in the queue, was left
          rw [loses_answers answers,earlier,brought] at kept
          rw [answered.inFlight,(answered.unsettled brought).2]
          simpa [or_iff_not_imp_left] using kept
    · rcases before symbol earlier with queued | asked
      · exact step_waiting ran symbol queued
      · exact .inr (step_asked ran symbol (fun _ _ _ same => not_answers answers same) asked)
  · exact .inl queued

omit [LawfulDownload2 E] [LawfulDownload2 D] [LawfulLimitRequest R] in
theorem loses_unaccounted {g after : Gateway Y Q S B E D R} (ran : step config g event = some after)
    (lost : loses config g event = true) : ¬Accounted after := by
  intro accounted
  obtain ⟨symbol,id,response,answers⟩ := loses_cases lost
  have answered := answers.answered ran
  rw [loses_answers answers] at lost
  simp only [Bool.and_eq_true,Bool.not_eq_true',and_assoc] at lost
  obtain ⟨due,idle,last,other⟩ := lost
  obtain ⟨stillDue,stillIdle⟩ := answered.unsettled other
  rcases accounted symbol (stillDue.trans due) with queued | asked
  · rw [stillIdle,idle] at queued
    cases queued
  · rw [answered.inFlight,last] at asked
    cases asked

omit [Sequencer S B] [Download2 D DropCopy.State] [LawfulDownload2 E] [LawfulDownload2 D] [LawfulLimitRequest R]
  [LawfulLimitQueue Q] in
theorem initial_accounted (streamId : Nat) : Accounted (initial config streamId : Gateway Y Q S B E D R) := by
  intro symbol due
  cases due

theorem requests_are_kept (config : GatewayConfig) (streamId : Nat) (events : List (GatewayEvent B)) :
    EveryStep (step config) (initial config streamId : Gateway Y Q S B E D R) events (fun _ _ after => Accounted after) ↔
      EveryStep (step config) (initial config streamId : Gateway Y Q S B E D R) events
        (fun g event _ => loses config g event = false) := by
  apply everyStep_exactly
  · intro g event after _ ran lost
    exact loses_unaccounted ran lost
  · intro g event after path ran kept
    have before : Accounted g := path.invariant (initial_accounted streamId)
      fun _ _ _ known kept stepped => step_accounted stepped known kept
    exact step_accounted ran before kept

section closed
open Smallest

-- The body names the symbol of the order book.
def bookOf (body : String) : Json.OrderBookAck := ⟨if body = "" then 400100 else Json.SYSTEM_CODE_SUCCESS,⟨5,body,[],[],⟨0⟩⟩⟩

def books : GatewayConfig := {market 2 with account.platform.orderBookAck := fun body => .ok (bookOf body)}

-- The first increment of a symbol asks for its snapshot, and the timer for its book.
def asking : List (GatewayEvent Unit) := logon ++ [.symbolsUpdate ["A"],connect 0,greet 0,increment 0 "A" 2 3,served poll]

theorem requests_are_kept_answered :
    EveryStep (step books) (initial books 3 : SmallGateway)
      (asking ++ [increment 0 "A" 4 4,served poll,served (answer 1 (failure 500)),served (answer 2 (reply "A")),increment 0 "A" 5 5])
      (fun _ _ after => Accounted after) :=
  (requests_are_kept books 3 _).mpr (everyStep_never (loses books) (by decide +kernel))

-- The exchange fails once, and nobody asks again.
theorem failed_book_is_forgotten : ¬ ∀ events,
    EveryStep (step books) (initial books 3 : SmallGateway) events (fun _ _ after => Accounted after) := by
  intro all
  obtain ⟨g,after,executed,stepped,lost⟩ := met_at_last (initial books 3 : SmallGateway) (step books) (loses books) asking
    (served (answer 1 (failure 500))) (by decide +kernel)
  exact loses_unaccounted stepped lost ((all _).last executed stepped)

end closed
end KucoinPro.SnapshotRequests
