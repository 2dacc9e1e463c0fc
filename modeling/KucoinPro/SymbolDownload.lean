import KucoinPro.Rest

namespace KucoinPro.SymbolDownload
open GuardedRuns RestSystem StagedWalk Json

variable {F σ ε : Type} {config : RestConfig} {receiver : Receiver σ ε}

def updateOf : RestEffect → Option (List String)
  | .symbolsUpdate symbols => some symbols
  | _ => none

-- The updates that were passed to the controller, in their order.
def updates (log : List RestEffect) : List (List String) := (log.filterMap updateOf).reverse

structure Forwarded (w : RestWorld F σ) : Prop where
  once : ∀ symbol, symbol ∈ w.allSymbols ↔ (updates w.log).countP (fun symbols => symbols.contains symbol) = 1
  unique : (updates w.log).flatten.Nodup

-- The ack that is handled, if any.
def processed [Download2 F Rest.State]
    (decode : String → Except Exception (Envelope α)) (state : Rest.State) (sequence : Nat) (response : Web.Response)
    (w : RestWorld F σ) : Option (Envelope α) :=
  if Download2.skip sequence state w.rest.download then none
  else (OrderEntryREST.content response).bind fun body =>
    match decode body with
    | .error _ => none
    | .ok ack => if ack.code = SYSTEM_CODE_SUCCESS then some ack else none

-- The instrument list that an event brings, with the answers its items get.
def instrumentList [Download2 F Rest.State]
    (config : RestConfig) (w : RestWorld F σ) : RestEvent ε → Option (InstrumentAck × (Nat → ItemAnswer))
  | .response _ id response answers =>
      match w.inFlight.find? (fun s => s.id == id) with
      | some ⟨_,_,.getInstrumentAck sequence,_⟩ =>
          (processed config.instrumentAck .instrument sequence response w).map fun ack => (ack,answers)
      | _ => none
  | _ => none

def fails : Except Exception α → Bool
  | .error _ => true
  | .ok _ => false

def casts (config : RestConfig) (item : InstrumentAckDataListItem) : Bool :=
  !fails (config.issueDate item.launchTime) && !fails (config.settlementDate item.settlementTime) &&
    !fails (config.expiryDatetimeUtc item.expiryTime)

-- An exception before the set is reached.
def throws (config : RestConfig) (answer : ItemAnswer) (item : InstrumentAckDataListItem) : Bool :=
  fails answer.discardSymbol || !casts config item || fails answer.referenceData

def discards (answer : ItemAnswer) : Bool :=
  match answer.discardSymbol with
  | .ok discard => discard
  | .error _ => false

-- Where an exception ends the loop, and whether a symbol of the list has been put
-- into the set before.
def breaks (config : RestConfig) (answers : Nat → ItemAnswer) :
    Nat → List InstrumentAckDataListItem → Finset String → Bool → Option Bool
  | _,[],_,_ => none
  | index,item :: rest,known,added =>
      if throws config (answers index) item then some added
      else if discards (answers index) ∨ item.symbol ∈ known then breaks config answers (index + 1) rest known added
      else if fails (answers index).emplaceBack then some true
      else breaks config answers (index + 1) rest (insert item.symbol known) true

def breaksList (config : RestConfig) (w : RestWorld F σ) (list : InstrumentAck × (Nat → ItemAnswer)) : Option Bool :=
  breaks config list.2 0 list.1.data.list w.allSymbols false

def strands [Download2 F Rest.State] (config : RestConfig) (w : RestWorld F σ) (event : RestEvent ε) : Bool :=
  (instrumentList config w event).any fun list => breaksList config w list == some true

-- A list that no exception breaks has all its symbols forwarded, now or before,
-- unless they are discarded.
def Delivered [Download2 F Rest.State]
    (config : RestConfig) (w : RestWorld F σ) (event : RestEvent ε) (after : RestWorld F σ) : Prop :=
  ∀ list, instrumentList config w event = some list → breaksList config w list = none →
    ∀ (index : Nat) item, list.1.data.list[index]? = some item → (list.2 index).discardSymbol = .ok false →
      ∃ symbols ∈ updates after.log, item.symbol ∈ symbols

-- The download leaves the set, the updates and the controller alone.
structure Untouched (before after : RestWorld F σ) : Prop where
  allSymbols : after.allSymbols = before.allSymbols
  updates : updates after.log = updates before.log
  controller : after.controller = before.controller

namespace Untouched

theorem refl (w : RestWorld F σ) : Untouched w w := ⟨rfl,rfl,rfl⟩

theorem trans {a b c : RestWorld F σ} (one : Untouched a b) (two : Untouched b c) : Untouched a c :=
  ⟨two.allSymbols.trans one.allSymbols,two.updates.trans one.updates,two.controller.trans one.controller⟩

theorem emit (w : RestWorld F σ) (other : updateOf effect = none) : Untouched w (w.emit effect) := by
  refine ⟨rfl,?_,rfl⟩
  simp only [RestWorld.emit,SymbolDownload.updates]
  rw [List.filterMap_cons_none other]

end Untouched

theorem onConnectionStatus_untouched (status : ConnectionStatus) (reason : String) (w : RestWorld F σ) :
    Untouched w (Rest.onConnectionStatus config status reason w) := by
  have moved : Untouched w {w with rest.connectionStatus := status} := ⟨rfl,rfl,rfl⟩
  exact moved.trans (.emit _ rfl)

theorem onDownload_untouched [Download2 F Rest.State] (walker : F) (s : Rest.State) (w : RestWorld F σ) :
    Untouched w (Rest.onDownload config walker s w).2 := by
  have submits : ∀ (w : RestWorld F σ) request callback requestId, Untouched w (w.submit request callback requestId) :=
    fun w _ _ _ => ⟨rfl,(Untouched.emit w rfl).updates,rfl⟩
  cases s with
  | undefined => exact .refl w
  | currencies => exact (onConnectionStatus_untouched _ _ w).trans (submits _ _ _ _)
  | instrument => exact (onConnectionStatus_untouched _ _ w).trans (submits _ _ _ _)
  | done => exact onConnectionStatus_untouched _ _ w

-- What is left of a call of the download.
theorem withDownload_untouched {w : RestWorld F σ} {result : F × RestWorld F σ} (moved : Untouched w result.2) :
    Untouched w (Rest.withDownload result) := ⟨moved.allSymbols,moved.updates,moved.controller⟩

section connection
variable [Download2 F Rest.State] [LawfulDownload2 F]

theorem retry_untouched (s : Rest.State) (w : RestWorld F σ) : Untouched w (Rest.retry config s w) :=
  withDownload_untouched (retry_related Untouched .refl (fun _ _ _ one two => one.trans two) onDownload_untouched s _ w)

theorem check_untouched (s : Rest.State) (w : RestWorld F σ) : Untouched w (Rest.check config s w) :=
  withDownload_untouched (check_related Untouched .refl (fun _ _ _ one two => one.trans two) onDownload_untouched s _ w)

theorem onConnected_untouched (w : RestWorld F σ) : Untouched w (Rest.onConnected config w) := by
  unfold Rest.onConnected
  split
  · rename_i running
    have walk := LawfulDownload2.bump_running (Rest.onDownload config) w.rest.download w running
    exact withDownload_untouched (walk.related Untouched (fun _ _ _ one two => one.trans two) onDownload_untouched)
  · exact withDownload_untouched (begin_related Untouched .refl (fun _ _ _ one two => one.trans two) onDownload_untouched _ w)

end connection

theorem onDisconnected_untouched [Download2 F Rest.State] (w : RestWorld F σ) : Untouched w (Rest.onDisconnected config w) := by
  have status : Untouched w (Rest.onConnectionStatus config .disconnected "" w) := onConnectionStatus_untouched _ _ w
  unfold Rest.onDisconnected
  dsimp only
  split
  · exact status
  · exact ⟨status.allSymbols,status.updates,status.controller⟩

-- New symbols are put into the set, and not passed on yet.
structure Puts (fresh : List String) (before after : RestWorld F σ) : Prop where
  nodup : fresh.Nodup
  unknown : ∀ symbol ∈ fresh, symbol ∉ before.allSymbols
  members : ∀ symbol, symbol ∈ after.allSymbols ↔ symbol ∈ before.allSymbols ∨ symbol ∈ fresh
  updates : updates after.log = updates before.log
  controller : after.controller = before.controller

-- One turn of the loop.
inductive Turn (config : RestConfig) (answer : ItemAnswer) (item : InstrumentAckDataListItem) (w after : RestWorld F σ) :
    Except Exception (Option String) → Prop where
  | thrown : throws config answer item = true → Untouched w after → Turn config answer item w after (.error e)
  | passed : throws config answer item = false → discards answer = true ∨ item.symbol ∈ w.allSymbols → Untouched w after →
      Turn config answer item w after (.ok none)
  | emplaced : throws config answer item = false → ¬(discards answer = true ∨ item.symbol ∈ w.allSymbols) →
      fails answer.emplaceBack = false → Puts [item.symbol] w after → Turn config answer item w after (.ok (some item.symbol))
  | stranded : throws config answer item = false → ¬(discards answer = true ∨ item.symbol ∈ w.allSymbols) →
      fails answer.emplaceBack = true → Puts [item.symbol] w after → Turn config answer item w after (.error e)

theorem referenceData_fails (config : RestConfig) (tradeType : TradeType) (item : InstrumentAckDataListItem) (discard : Bool) :
    fails (Rest.referenceData config tradeType item discard) = !casts config item := by
  unfold Rest.referenceData casts
  cases config.issueDate item.launchTime with
  | error => rfl
  | ok =>
      cases config.settlementDate item.settlementTime with
      | error => rfl
      | ok => cases config.expiryDatetimeUtc item.expiryTime <;> rfl

theorem onItem_turn (config : RestConfig) (tradeType : TradeType) (answer : ItemAnswer) (item : InstrumentAckDataListItem)
    (w : RestWorld F σ) :
    Turn config answer item w (Rest.onItem config tradeType answer item w).2 (Rest.onItem config tradeType answer item w).1 := by
  cases discarded : answer.discardSymbol with
  | error e =>
      simp only [Rest.onItem,discarded]
      exact .thrown (by simp [throws,discarded,fails]) (.refl w)
  | ok discard =>
      have cast := referenceData_fails config tradeType item discard
      cases made : Rest.referenceData config tradeType item discard with
      | error e =>
          rw [made] at cast
          simp only [Rest.onItem,discarded,made]
          exact .thrown (by simp [throws,← cast,fails]) (.refl w)
      | ok referenceData =>
          rw [made] at cast
          have dispatched : Untouched w (w.emit (.referenceData referenceData)) := .emit w rfl
          cases answered : answer.referenceData with
          | error e =>
              simp only [Rest.onItem,discarded,made,answered]
              exact .thrown (by simp [throws,answered,fails]) dispatched
          | ok _ =>
              have silent : throws config answer item = false := by simp [throws,discarded,answered,← cast,fails]
              have drops : discards answer = discard := by simp only [discards,discarded]
              simp only [Rest.onItem,discarded,made,answered]
              by_cases drop : discard = true
              · rw [if_pos drop]
                exact .passed silent (.inl (drops.trans drop)) dispatched
              · rw [if_neg drop]
                by_cases known : item.symbol ∈ w.allSymbols
                · have listed : item.symbol ∈ (w.emit (.referenceData referenceData)).allSymbols := known
                  rw [if_pos listed]
                  exact .passed silent (.inr known) dispatched
                · have unlisted : item.symbol ∉ (w.emit (.referenceData referenceData)).allSymbols := known
                  rw [if_neg unlisted]
                  have fresh : ¬(discards answer = true ∨ item.symbol ∈ w.allSymbols) := by simp [drops,drop,known]
                  have puts : Puts [item.symbol] w {w.emit (.referenceData referenceData) with
                      allSymbols := insert item.symbol w.allSymbols} := by
                    refine ⟨List.nodup_singleton _,?_,?_,dispatched.updates,rfl⟩
                    · intro symbol inside
                      rw [List.mem_singleton] at inside
                      exact inside ▸ known
                    · intro symbol
                      rw [Finset.mem_insert,List.mem_singleton,or_comm]
                  cases stored : answer.emplaceBack with
                  | error e => exact .stranded silent fresh (by rw [stored]; rfl) puts
                  | ok _ => exact .emplaced silent fresh (by rw [stored]; rfl) puts

namespace Puts

theorem quiet {before after : RestWorld F σ} (untouched : Untouched before after) : Puts [] before after := by
  refine ⟨List.nodup_nil,nofun,?_,untouched.updates,untouched.controller⟩
  intro symbol
  rw [untouched.allSymbols]
  simp

theorem trans {a b c : RestWorld F σ} (one : Puts fresh a b) (two : Puts fresh' b c) : Puts (fresh ++ fresh') a c := by
  refine ⟨?_,?_,?_,two.updates.trans one.updates,two.controller.trans one.controller⟩
  · refine List.nodup_append.mpr ⟨one.nodup,two.nodup,?_⟩
    rintro symbol early _ late rfl
    exact two.unknown symbol late ((one.members symbol).mpr (.inr early))
  · intro symbol inside
    rcases List.mem_append.mp inside with early | late
    · exact one.unknown symbol early
    · exact fun known => two.unknown symbol late ((one.members symbol).mpr (.inl known))
  · intro symbol
    rw [two.members,one.members,List.mem_append,or_assoc]

theorem insert {before after : RestWorld F σ} (puts : Puts [symbol] before after) :
    after.allSymbols = Insert.insert symbol before.allSymbols := by
  ext other
  rw [puts.members,Finset.mem_insert,List.mem_singleton,or_comm]

end Puts

-- The symbols that are not discarded have been put into the set.
def Kept (answers : Nat → ItemAnswer) (index : Nat) (items : List InstrumentAckDataListItem) (after : RestWorld F σ) : Prop :=
  ∀ (i : Nat) item, items[i]? = some item → (answers (index + i)).discardSymbol = .ok false → item.symbol ∈ after.allSymbols

-- The whole loop, from some point on: it ends with what it has put into the set,
-- or it breaks and that is lost.
inductive Loop (config : RestConfig) (answers : Nat → ItemAnswer) (index : Nat) (items : List InstrumentAckDataListItem)
    (symbols : List String) (added : Bool) (w after : RestWorld F σ) : Except Exception (List String) → Prop where
  | ended : Puts fresh w after → breaks config answers index items w.allSymbols added = none → Kept answers index items after →
      all = symbols ++ fresh → Loop config answers index items symbols added w after (.ok all)
  | broken : Puts fresh w after → breaks config answers index items w.allSymbols added = some (added || !fresh.isEmpty) →
      Loop config answers index items symbols added w after (.error e)

theorem Kept.cons {after : RestWorld F σ}
    (first : (answers index).discardSymbol = .ok false → item.symbol ∈ after.allSymbols)
    (others : Kept answers (index + 1) rest after) : Kept answers index (item :: rest) after := by
  intro i one found kept
  cases i with
  | zero =>
      obtain rfl := Option.some.inj found
      exact first kept
  | succ i =>
      refine others i one found ?_
      rw [Nat.add_assoc,Nat.add_comm 1 i]
      exact kept

theorem onItems_loop (config : RestConfig) (tradeType : TradeType) (answers : Nat → ItemAnswer) (items : List InstrumentAckDataListItem)
    (index : Nat) (symbols : List String) (added : Bool) (w : RestWorld F σ) :
    Loop config answers index items symbols added w (Rest.onItems config tradeType answers index items symbols w).2
      (Rest.onItems config tradeType answers index items symbols w).1 := by
  induction items generalizing index symbols added w with
  | nil => exact .ended (.quiet (.refl w)) rfl (fun _ _ found => by cases found) (List.append_nil _).symm
  | cons item rest ih =>
      have turn := onItem_turn config tradeType (answers index) item w
      unfold Rest.onItems
      generalize Rest.onItem config tradeType (answers index) item w = turned at turn
      obtain ⟨result,middle⟩ := turned
      cases turn with
      | thrown threw untouched =>
          refine .broken (.quiet untouched) ?_
          rw [breaks,if_pos threw]
          simp
      | stranded silent fresh failed puts =>
          refine .broken puts ?_
          rw [breaks,if_neg (by simp [silent]),if_neg fresh,if_pos failed]
          simp
      | passed silent known untouched =>
          have same : breaks config answers index (item :: rest) w.allSymbols added =
              breaks config answers (index + 1) rest middle.allSymbols added := by
            rw [breaks,if_neg (by simp [silent]),if_pos known,untouched.allSymbols]
          have later := ih (index + 1) (symbols ++ none.toList) added middle
          dsimp only
          generalize Rest.onItems config tradeType answers (index + 1) rest (symbols ++ none.toList) middle = looped at later ⊢
          obtain ⟨outcome,after⟩ := looped
          have before := Puts.quiet untouched
          cases later with
          | ended puts whole kept all =>
              refine .ended (before.trans puts) (same.trans whole) (.cons ?_ kept) (by rw [all]; simp)
              intro stays
              have present : item.symbol ∈ w.allSymbols := known.resolve_left (by simp [discards,stays])
              exact (puts.members _).mpr (.inl ((before.members _).mpr (.inl present)))
          | broken puts broken => exact .broken (before.trans puts) (same.trans broken)
      | emplaced silent fresh stored first =>
          have same : breaks config answers index (item :: rest) w.allSymbols added =
              breaks config answers (index + 1) rest middle.allSymbols true := by
            rw [breaks,if_neg (by simp [silent]),if_neg fresh,if_neg (by simp [stored]),first.insert]
          have later := ih (index + 1) (symbols ++ (some item.symbol).toList) true middle
          dsimp only
          generalize Rest.onItems config tradeType answers (index + 1) rest (symbols ++ (some item.symbol).toList) middle =
            looped at later ⊢
          obtain ⟨outcome,after⟩ := looped
          cases later with
          | ended puts whole kept all =>
              refine .ended (first.trans puts) (same.trans whole) (.cons ?_ kept) (by rw [all]; simp)
              intro _
              exact (puts.members _).mpr (.inl ((first.members _).mpr (.inr List.mem_cons_self)))
          | broken puts broken => exact .broken (first.trans puts) (by rw [same,broken]; simp)

section acks
variable [Download2 F Rest.State]

-- What follows once an ack is handled.
def proceed (config : RestConfig) (s : Rest.State) : Except Exception Unit × RestWorld F σ → RestWorld F σ
  | (.error _,after) => Rest.retry config s after
  | (.ok _,after) => Rest.check config s after

theorem proceed_untouched [LawfulDownload2 F]
    (config : RestConfig) (s : Rest.State) (handled : Except Exception Unit × RestWorld F σ) :
    Untouched handled.2 (proceed config s handled) := by
  obtain ⟨outcome,after⟩ := handled
  cases outcome with
  | error e => exact retry_untouched s after
  | ok => exact check_untouched s after

-- The error handler retries, whatever it is told.
theorem finish_retry (s : Rest.State) (result : Except Exception Unit × RestWorld F σ) :
    Rest.finish (fun _ _ _ _ w => Rest.retry config s w) result =
      if fails result.1 then Rest.retry config s result.2 else result.2 := by
  obtain ⟨outcome,during⟩ := result
  cases outcome with
  | error e => cases e <;> rfl
  | ok => rfl

variable [LawfulDownload2 F]

theorem finish_untouched (s : Rest.State) (result : Except Exception Unit × RestWorld F σ) :
    Untouched result.2 (Rest.finish (fun _ _ _ _ w => Rest.retry config s w) result) := by
  rw [finish_retry]
  split
  · exact retry_untouched s result.2
  · exact .refl result.2

-- What comes of a response: nothing that is handled, or the one ack that is.
def Acks (config : RestConfig) (decode : String → Except Exception (Envelope α))
    (handler : Envelope α → RestWorld F σ → Except Exception Unit × RestWorld F σ) (s : Rest.State) (sequence : Nat)
    (response : Web.Response) (w after : RestWorld F σ) : Prop :=
  processed decode s sequence response w = none ∧ Untouched w after ∨
    ∃ ack, processed decode s sequence response w = some ack ∧ after = proceed config s (handler ack w)

theorem acks_content {decode : String → Except Exception (Envelope α)}
    {handler : Envelope α → RestWorld F σ → Except Exception Unit × RestWorld F σ} {sequence : Nat}
    (known : OrderEntryREST.content response = some body) (s : Rest.State) (w : RestWorld F σ) :
    Acks config decode handler s sequence response w (Rest.finish (fun _ _ _ _ w => Rest.retry config s w)
      (if Download2.skip sequence s w.rest.download then (.ok (),w)
        else match decode body with
          | .error e => (.error e,w)
          | .ok ack =>
              if ack.code = SYSTEM_CODE_SUCCESS then
                match handler ack w with
                | (.error e,after) => (.error e,after)
                | (.ok _,after) => (.ok (),Rest.check config s after)
              else (.ok (),Rest.retry config s w))) := by
  unfold Acks processed
  rw [known,Option.bind_some]
  cases Download2.skip sequence s w.rest.download with
  | true => exact .inl ⟨rfl,finish_untouched s (.ok (),w)⟩
  | false =>
      simp only [Bool.false_eq_true,if_false]
      cases decode body with
      | error e => exact .inl ⟨rfl,finish_untouched s (.error e,w)⟩
      | ok ack =>
          dsimp only
          by_cases code : ack.code = SYSTEM_CODE_SUCCESS
          · rw [if_pos code,if_pos code]
            refine .inr ⟨ack,rfl,?_⟩
            rw [finish_retry]
            obtain ⟨outcome,during⟩ := handler ack w
            cases outcome with
            | error => rfl
            | ok => rfl
          · rw [if_neg code,if_neg code]
            exact .inl ⟨rfl,(retry_untouched s w).trans (finish_untouched s (.ok (),Rest.retry config s w))⟩

theorem getAck_acks {decode : String → Except Exception (Envelope α)}
    {handler : Envelope α → RestWorld F σ → Except Exception Unit × RestWorld F σ} {sequence : Nat} {w after : RestWorld F σ}
    (ran : Rest.getAck config decode handler s sequence response w = some after) :
    Acks config decode handler s sequence response w after := by
  have fails (empty : OrderEntryREST.content response = none) (untouched : Untouched w after) :
      Acks config decode handler s sequence response w after := by
    refine .inl ⟨?_,untouched⟩
    unfold processed
    rw [empty]
    split <;> rfl
  unfold Rest.getAck Rest.processResponse at ran
  cases result : response.result with
  | error e =>
      rw [result] at ran
      obtain rfl := Option.some.inj ran
      exact fails (by simp [OrderEntryREST.content,result]) (finish_untouched s (.error e,w))
  | ok r =>
      rw [result] at ran
      obtain ⟨status,category,body⟩ := r
      cases category with
      | unknown | informationalResponse =>
          obtain rfl := Option.some.inj ran
          exact fails (by simp [OrderEntryREST.content,result]) (finish_untouched s (response.expect _,w))
      | success | clientError =>
          obtain rfl := Option.some.inj ran
          exact acks_content (by simp [OrderEntryREST.content,result]) s w
      | redirection => cases ran
      | serverError =>
          obtain rfl := Option.some.inj ran
          exact fails (by simp [OrderEntryREST.content,result]) (retry_untouched s w)

end acks

-- New symbols are put into the set and passed to the controller in one update.
structure Passes (receiver : Receiver σ ε) (fresh : List String) (before after : RestWorld F σ) : Prop where
  nodup : fresh.Nodup
  unknown : ∀ symbol ∈ fresh, symbol ∉ before.allSymbols
  members : ∀ symbol, symbol ∈ after.allSymbols ↔ symbol ∈ before.allSymbols ∨ symbol ∈ fresh
  updates : updates after.log = updates before.log ++ [fresh]
  controller : after.controller = (receiver.onSymbolsUpdate fresh before.controller).2

-- What one event does to the set, the updates and the controller, and whether
-- symbols get stuck between them.
inductive Moves (receiver : Receiver σ ε) (event : RestEvent ε) (w after : RestWorld F σ) : Bool → Prop where
  | quiet : Untouched w after → Moves receiver event w after false
  | passed : Passes receiver fresh w after → Moves receiver event w after false
  | stranded : fresh ≠ [] → Puts fresh w after → Moves receiver event w after true
  | stepped : event = .controller happened → receiver.step w.controller happened = some after.controller →
      after.allSymbols = w.allSymbols → updates after.log = updates w.log → Moves receiver event w after false

theorem Moves.around {before w after last : RestWorld F σ} (first : Untouched before w) (moves : Moves receiver event w after stuck)
    (second : Untouched after last) : Moves receiver event before last stuck := by
  cases moves with
  | quiet untouched => exact .quiet (first.trans (untouched.trans second))
  | passed passes =>
      refine .passed ⟨passes.nodup,?_,?_,?_,?_⟩
      · rw [← first.allSymbols]
        exact passes.unknown
      · rw [← first.allSymbols,second.allSymbols]
        exact passes.members
      · rw [second.updates,passes.updates,first.updates]
      · rw [second.controller,passes.controller,first.controller]
  | stranded some puts =>
      refine .stranded some ⟨puts.nodup,?_,?_,?_,?_⟩
      · rw [← first.allSymbols]
        exact puts.unknown
      · rw [← first.allSymbols,second.allSymbols]
        exact puts.members
      · rw [second.updates,puts.updates,first.updates]
      · rw [second.controller,puts.controller,first.controller]
  | stepped same stepped allSymbols updates =>
      refine .stepped same ?_ (second.allSymbols.trans (allSymbols.trans first.allSymbols))
        (second.updates.trans (updates.trans first.updates))
      rw [← first.controller,second.controller]
      exact stepped

theorem Puts.untouched {before after : RestWorld F σ} (puts : Puts [] before after) : Untouched before after := by
  refine ⟨?_,puts.updates,puts.controller⟩
  ext symbol
  rw [puts.members]
  simp

theorem dispatchSymbolsUpdate_passes (receiver : Receiver σ ε) {w during : RestWorld F σ} (puts : Puts fresh w during) :
    Passes receiver fresh w (Rest.dispatchSymbolsUpdate receiver fresh during).2 := by
  refine ⟨puts.nodup,puts.unknown,puts.members,?_,?_⟩
  · rw [← puts.updates]
    exact List.reverse_cons
  · rw [← puts.controller]
    rfl

theorem onInstrumentAck_moves (config : RestConfig) (receiver : Receiver σ ε) (answers : Nat → ItemAnswer) (ack : InstrumentAck)
    (w : RestWorld F σ) :
    Moves receiver event w (Rest.onInstrumentAck config receiver answers ack w).2
      (breaks config answers 0 ack.data.list w.allSymbols false == some true) ∧
    (breaks config answers 0 ack.data.list w.allSymbols false = none →
      Kept answers 0 ack.data.list (Rest.onInstrumentAck config receiver answers ack w).2) := by
  have received : Untouched w (w.emit (.instrumentAck ack)) := .emit w rfl
  have loop := onItems_loop config ack.data.tradeType answers ack.data.list 0 [] false (w.emit (.instrumentAck ack))
  unfold Rest.onInstrumentAck
  generalize Rest.onItems config ack.data.tradeType answers 0 ack.data.list [] (w.emit (.instrumentAck ack)) = looped at loop ⊢
  obtain ⟨outcome,after⟩ := looped
  cases loop with
  | @ended fresh all puts whole kept same =>
      obtain rfl : all = fresh := same
      rw [received.allSymbols] at whole
      rw [whole]
      by_cases nothing : all = []
      · subst nothing
        exact ⟨.quiet (received.trans puts.untouched),fun _ => kept⟩
      · simp only [nothing,if_false]
        have moves : Moves receiver event (w.emit (.instrumentAck ack)) (Rest.dispatchSymbolsUpdate receiver all after).2 false :=
          .passed (dispatchSymbolsUpdate_passes receiver puts)
        exact ⟨moves.around received (.refl _),fun _ => kept⟩
  | @broken fresh _ puts broken =>
      rw [received.allSymbols] at broken
      rw [broken]
      refine ⟨?_,nofun⟩
      cases fresh with
      | nil => exact .quiet (received.trans puts.untouched)
      | cons symbol rest => exact Moves.around received (.stranded (List.cons_ne_nil _ _) puts) (.refl _)

theorem emplace_puts (symbols : List String) (w : RestWorld F σ) (fresh : List String) {during : RestWorld F σ}
    (puts : Puts fresh w during) :
    Puts (symbols.foldl Controller.emplace (fresh,during.allSymbols)).1 w
      {during with allSymbols := (symbols.foldl Controller.emplace (fresh,during.allSymbols)).2} := by
  induction symbols generalizing fresh during with
  | nil => exact puts
  | cons symbol rest ih =>
      rw [List.foldl_cons]
      unfold Controller.emplace
      dsimp only
      split
      · exact ih fresh puts
      · rename_i unknown
        have one : Puts [symbol] during {during with allSymbols := insert symbol during.allSymbols} := by
          refine ⟨List.nodup_singleton _,?_,?_,rfl,rfl⟩
          · intro other inside
            rw [List.mem_singleton] at inside
            exact inside ▸ unknown
          · intro other
            rw [Finset.mem_insert,List.mem_singleton,or_comm]
        exact ih (fresh ++ [symbol]) (puts.trans one)

section steps
variable [Download2 F Rest.State]

-- One event, and what is kept of the list it brings.
structure Steps (config : RestConfig) (receiver : Receiver σ ε) (w : RestWorld F σ) (event : RestEvent ε)
    (after : RestWorld F σ) : Prop where
  moves : Moves receiver event w after (strands config w event)
  kept : ∀ list, instrumentList config w event = some list → breaksList config w list = none →
    Kept list.2 0 list.1.data.list after

theorem Steps.unlisted {w after : RestWorld F σ} {event : RestEvent ε} (nothing : instrumentList config w event = none)
    (moves : Moves receiver event w after false) : Steps config receiver w event after := by
  refine ⟨?_,fun list brought => ?_⟩
  · rw [strands,nothing]
    exact moves
  · rw [nothing] at brought
    cases brought

theorem Steps.listed {w after : RestWorld F σ} {event : RestEvent ε} (brought : instrumentList config w event = some list)
    (moves : Moves receiver event w after (breaksList config w list == some true))
    (kept : breaksList config w list = none → Kept list.2 0 list.1.data.list after) : Steps config receiver w event after := by
  refine ⟨?_,fun another same => ?_⟩
  · rw [strands,brought]
    exact moves
  · obtain rfl := Option.some.inj (brought.symm.trans same)
    exact kept

theorem instrumentList_found {id sequence : Nat} {w : RestWorld F σ}
    (found : w.inFlight.find? (fun s => s.id == id) = some submission)
    (callback : submission.callback = .getInstrumentAck sequence) :
    instrumentList config w (.response t id response answers : RestEvent ε) =
      (processed config.instrumentAck .instrument sequence response w).map fun ack => (ack,answers) := by
  obtain ⟨_,_,_,_⟩ := submission
  cases callback
  simp only [instrumentList,found]

theorem instrumentList_other {id : Nat} {w : RestWorld F σ}
    (other : ∀ (submission : RestSubmission) (sequence : Nat), w.inFlight.find? (fun s => s.id == id) = some submission →
      submission.callback ≠ .getInstrumentAck sequence) :
    instrumentList config w (.response t id response answers : RestEvent ε) = none := by
  unfold instrumentList
  dsimp only
  split
  · rename_i sequence _ found
    exact absurd rfl (other _ sequence found)
  · rfl

variable [LawfulDownload2 F]

-- A response that brings an instrument list, and one that does not.
theorem onResponse_steps {id : Nat} {w after : RestWorld F σ}
    (ran : Rest.onResponse config receiver id response answers w = some after) :
    Steps config receiver w (.response t id response answers) after := by
  unfold Rest.onResponse at ran
  have answered : Untouched w {w with inFlight := w.inFlight.eraseP fun s => s.id == id} := ⟨rfl,rfl,rfl⟩
  cases found : w.inFlight.find? (fun s => s.id == id) with
  | none =>
      rw [found] at ran
      obtain rfl := Option.some.inj ran
      refine .unlisted (instrumentList_other ?_) (.quiet (.refl w))
      intro submission _ same
      cases found.symm.trans same
  | some submission =>
      rw [found] at ran
      dsimp only at ran
      cases callback : submission.callback with
      | getCurrenciesAck sequence =>
          rw [callback] at ran
          refine .unlisted (instrumentList_other ?_) (.quiet (answered.trans ?_))
          · intro another _ same
            obtain rfl := Option.some.inj (found.symm.trans same)
            rw [callback]
            nofun
          · rcases getAck_acks ran with ⟨_,untouched⟩ | ⟨ack,_,rfl⟩
            · exact untouched
            · have noted : Untouched {w with inFlight := w.inFlight.eraseP fun s => s.id == id}
                  (Rest.onCurrenciesAck ack {w with inFlight := w.inFlight.eraseP fun s => s.id == id}).2 := .emit _ rfl
              exact noted.trans (proceed_untouched config _ _)
      | getInstrumentAck sequence =>
          rw [callback] at ran
          have brings : instrumentList config w (.response t id response answers : RestEvent ε) =
              (processed config.instrumentAck .instrument sequence response w).map fun ack => (ack,answers) :=
            instrumentList_found found callback
          rcases getAck_acks ran with ⟨nothing,untouched⟩ | ⟨ack,handled,rfl⟩
          · have none_brought : processed config.instrumentAck .instrument sequence response w = none := nothing
            rw [none_brought] at brings
            exact .unlisted brings (.quiet (answered.trans untouched))
          · have brought : processed config.instrumentAck .instrument sequence response w = some ack := handled
            rw [brought] at brings
            obtain ⟨moves,kept⟩ := onInstrumentAck_moves config receiver answers ack
              {w with inFlight := w.inFlight.eraseP fun s => s.id == id}
            have proceeds := proceed_untouched config .instrument (Rest.onInstrumentAck config receiver answers ack
              {w with inFlight := w.inFlight.eraseP fun s => s.id == id})
            refine .listed brings (moves.around answered proceeds) ?_
            intro whole i item listed stays
            rw [proceeds.allSymbols]
            exact kept whole i item listed stays

theorem step_steps {w after : RestWorld F σ} (ran : step config receiver w event = some after) :
    Steps config receiver w event after := by
  cases event with
  | connected t =>
      obtain rfl := Option.some.inj ran
      exact .unlisted rfl (.quiet (onConnected_untouched w))
  | disconnected t =>
      obtain rfl := Option.some.inj ran
      exact .unlisted rfl (.quiet (onDisconnected_untouched w))
  | response t id response answers => exact onResponse_steps ran
  | subscribe symbols =>
      have passes := dispatchSymbolsUpdate_passes receiver (emplace_puts symbols w [] (.quiet (.refl w)))
      simp only [step,Controller.onSubscribe] at ran
      generalize Rest.dispatchSymbolsUpdate receiver _ _ = dispatched at passes ran
      obtain ⟨outcome,during⟩ := dispatched
      cases outcome with
      | error => cases ran
      | ok =>
          obtain rfl := Option.some.inj ran
          exact .unlisted rfl (.passed passes)
  | controller happened =>
      obtain ⟨controller,stepped,rfl⟩ := Option.map_eq_some_iff.mp ran
      exact .unlisted rfl (.stepped rfl stepped rfl rfl)
  | logged =>
      obtain rfl := Option.some.inj ran
      exact .unlisted rfl (.quiet (.refl w))

end steps

-- In every run: what was passed on is in the set, and was passed on once.
structure Valid (w : RestWorld F σ) : Prop where
  nodup : (updates w.log).flatten.Nodup
  known : ∀ symbol ∈ (updates w.log).flatten, symbol ∈ w.allSymbols

theorem Moves.valid {w after : RestWorld F σ} (moves : Moves receiver event w after stuck) (valid : Valid w) : Valid after := by
  cases moves with
  | quiet untouched =>
      refine ⟨?_,?_⟩
      · rw [untouched.updates]
        exact valid.nodup
      · rw [untouched.updates,untouched.allSymbols]
        exact valid.known
  | stepped _ _ allSymbols same =>
      refine ⟨?_,?_⟩
      · rw [same]
        exact valid.nodup
      · rw [same,allSymbols]
        exact valid.known
  | stranded _ puts =>
      refine ⟨?_,?_⟩
      · rw [puts.updates]
        exact valid.nodup
      · rw [puts.updates]
        exact fun symbol passed => (puts.members symbol).mpr (.inl (valid.known symbol passed))
  | @passed fresh passes =>
      have flat : (updates after.log).flatten = (updates w.log).flatten ++ fresh := by
        rw [passes.updates,List.flatten_append,List.flatten_singleton]
      refine ⟨?_,?_⟩
      · rw [flat]
        refine List.nodup_append.mpr ⟨valid.nodup,passes.nodup,?_⟩
        rintro symbol earlier _ new rfl
        exact passes.unknown symbol new (valid.known symbol earlier)
      · rw [flat]
        intro symbol passed
        rw [List.mem_append] at passed
        exact (passes.members symbol).mpr (passed.imp_left (valid.known symbol))

-- Among updates without a repetition, a symbol is in one or in none.
theorem count_updates {passed : List (List String)} (nodup : passed.flatten.Nodup) (symbol : String) :
    passed.countP (fun symbols => symbols.contains symbol) = if symbol ∈ passed.flatten then 1 else 0 := by
  induction passed with
  | nil => rfl
  | cons first rest ih =>
      rw [List.flatten_cons] at nodup
      obtain ⟨_,others,apart⟩ := List.nodup_append.mp nodup
      rw [List.countP_cons,ih others]
      by_cases inside : symbol ∈ first
      · have outside : symbol ∉ rest.flatten := fun later => apart symbol inside symbol later rfl
        simp [inside,outside]
      · simp [inside]

theorem forwarded_iff {w : RestWorld F σ} (valid : Valid w) :
    Forwarded w ↔ ∀ symbol ∈ w.allSymbols, symbol ∈ (updates w.log).flatten := by
  have count := count_updates valid.nodup
  constructor
  · intro forwarded symbol inside
    have one := (forwarded.once symbol).mp inside
    rw [count] at one
    by_contra missing
    rw [if_neg missing] at one
    cases one
  · intro all
    refine ⟨?_,valid.nodup⟩
    intro symbol
    rw [count]
    constructor
    · intro inside
      rw [if_pos (all symbol inside)]
    · intro one
      by_cases passed : symbol ∈ (updates w.log).flatten
      · exact valid.known symbol passed
      · rw [if_neg passed] at one
        cases one

theorem Moves.forwarded {w after : RestWorld F σ} (moves : Moves receiver event w after false) (valid : Valid w)
    (forwarded : Forwarded w) :
    Forwarded after := by
  have before := (forwarded_iff valid).mp forwarded
  apply (forwarded_iff (moves.valid valid)).mpr
  cases moves with
  | quiet untouched =>
      rw [untouched.updates,untouched.allSymbols]
      exact before
  | stepped _ _ allSymbols same =>
      rw [same,allSymbols]
      exact before
  | passed passes =>
      intro symbol inside
      rw [passes.updates,List.flatten_append,List.flatten_singleton,List.mem_append]
      exact ((passes.members symbol).mp inside).imp_left (before symbol)

theorem Moves.stuck {w after : RestWorld F σ} (moves : Moves receiver event w after true) (valid : Valid w) :
    ¬Forwarded after := by
  have later := moves.valid valid
  cases moves with
  | stranded some puts =>
      intro forwarded
      obtain ⟨symbol,inside⟩ := List.exists_mem_of_ne_nil _ some
      have passed := (forwarded_iff later).mp forwarded symbol ((puts.members symbol).mpr (.inr inside))
      rw [puts.updates] at passed
      exact puts.unknown symbol inside (valid.known symbol passed)

variable [Download2 F Rest.State]

theorem initial_valid (controller : σ) : Valid (initial controller : RestWorld F σ) := by
  refine ⟨List.nodup_nil,?_⟩
  intro symbol passed
  cases passed

theorem initial_forwarded (controller : σ) : Forwarded (initial controller : RestWorld F σ) := by
  apply (forwarded_iff (initial_valid controller)).mpr
  intro symbol inside
  cases inside

variable [LawfulDownload2 F]

theorem reached_valid {guard : RestWorld F σ → RestEvent ε → Prop} {w : RestWorld F σ}
    (path : Reached (initial controller) (step config receiver) guard w) : Valid w :=
  path.invariant (initial_valid controller) fun _ _ _ valid _ ran => (step_steps ran).moves.valid valid

structure Sound (w : RestWorld F σ) : Prop where
  valid : Valid w
  forwarded : Forwarded w

theorem step_forwarded {w after : RestWorld F σ} (ran : step config receiver w event = some after) (sound : Sound w)
    (kept : strands config w event = false) : Sound after ∧ Delivered config w event after := by
  have steps := step_steps ran
  have moves := steps.moves
  rw [kept] at moves
  have all := moves.forwarded sound.valid sound.forwarded
  refine ⟨⟨moves.valid sound.valid,all⟩,?_⟩
  intro list brought whole index item found stays
  rw [← Nat.zero_add index] at stays
  have present := steps.kept list brought whole index item found stays
  exact List.mem_flatten.mp ((forwarded_iff (moves.valid sound.valid)).mp all item.symbol present)

theorem symbols_are_forwarded (config : RestConfig) (receiver : Receiver σ ε) (controller : σ) (events : List (RestEvent ε)) :
    EveryStep (step config receiver) (initial controller : RestWorld F σ) events
        (fun w event after => Forwarded after ∧ Delivered config w event after) ↔
      EveryStep (step config receiver) (initial controller : RestWorld F σ) events
        (fun w event _ => strands config w event = false) := by
  apply everyStep_exactly
  · intro w event after path ran stuck forwarded
    have moves := (step_steps ran).moves
    rw [stuck] at moves
    exact moves.stuck (reached_valid path) forwarded.1
  · intro w event after path ran kept
    have sound : Sound w := path.invariant ⟨initial_valid controller,initial_forwarded controller⟩
      fun _ _ _ known kept stepped => (step_forwarded stepped known kept).1
    obtain ⟨later,delivered⟩ := step_forwarded ran sound kept
    exact ⟨later.forwarded,delivered⟩

section closed
open Smallest

-- The list fails at its first item, the connection is renewed and the list comes
-- again; in between there is a Subscribe, and afterwards another session.
def downloads : List (RestEvent (GatewayEvent Unit)) :=
  [attach,listed 0 3,listed 1 0,.subscribe ["C","B","C"],attach,listed 2 3,.disconnected t,attach,listed 3 3,listed 4 3,
    .subscribe ["A"]]

theorem symbols_are_forwarded_again :
    EveryStep (step reference (MarketSystem.receiver (market 2))) (initial (MarketSystem.initial (market 2) 1) : SmallRest) downloads
      (fun w event after => Forwarded after ∧ Delivered reference w event after) :=
  (symbols_are_forwarded reference (MarketSystem.receiver (market 2)) (MarketSystem.initial (market 2) 1) downloads).mpr
    (everyStep_never (strands reference) (by decide +kernel))

-- The list fails at its second item, when the first is in the set, and comes again
-- without a failure: the first is passed over then.
def retried : List (RestEvent (GatewayEvent Unit)) := [attach,listed 0 3,listed 1 1,attach]

theorem failed_list_loses_symbols : ¬ ∀ events,
    EveryStep (step reference (MarketSystem.receiver (market 2))) (initial (MarketSystem.initial (market 2) 1) : SmallRest) events
      (fun w event after => Forwarded after ∧ Delivered reference w event after) := by
  intro all
  have ran : (execute (step reference (MarketSystem.receiver (market 2)))
      (initial (MarketSystem.initial (market 2) 1) : SmallRest) retried).any (fun w =>
        (step reference (MarketSystem.receiver (market 2)) w (listed 2 3)).any fun after =>
          decide ("A" ∈ after.allSymbols) && updates after.log == [["B"]]) = true := by decide +kernel
  obtain ⟨w,executed,checked⟩ := (Option.any_eq_true _ _).mp ran
  obtain ⟨after,stepped,lost⟩ := (Option.any_eq_true _ _).mp checked
  rw [Bool.and_eq_true,decide_eq_true_eq,beq_iff_eq] at lost
  have once := (((all _).last executed stepped).1.once "A").mp lost.1
  rw [lost.2] at once
  cases once

end closed
end KucoinPro.SymbolDownload
