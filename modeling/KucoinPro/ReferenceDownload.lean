import KucoinPro.Protocols
import KucoinPro.SymbolDownload

namespace KucoinPro.ReferenceDownload
open GuardedRuns StagedWalk Json Protocols

-- The public REST stream as seen from outside: what it asks for, what it gets to know
-- and what it tells the server. `left` are the symbols of the list that are still to be
-- published.
inductive Stage where
  | idle
  | currencies
  | instrument
  | listing (left : List String)
  | ready
  deriving DecidableEq, Repr

def Stage.state : Stage → Rest.State
  | idle => .undefined
  | currencies => .currencies
  | instrument | listing _ => .instrument
  | ready => .done

def onDownloading (reason : String) : Stage → Option Stage
  | .idle | .currencies | .ready => if reason = Rest.State.currencies.name then some .currencies else none
  | .instrument | .listing _ => if reason = Rest.State.instrument.name then some .instrument else none

def onReady : Stage → Option Stage
  | .listing [] => some .ready
  | .idle | .currencies | .instrument | .listing (_ :: _) | .ready => none

-- A download that is not complete is taken up again.
def onDisconnected : Stage → Stage
  | .ready => .idle
  | stage => stage

def onCurrencies : Stage → Stage
  | .currencies => .instrument
  | stage => stage

def onInstrument (symbols : List String) : Stage → Stage
  | .instrument | .listing _ => .listing symbols
  | stage => stage

-- A list that is not waited for is published all the same.
def onReferenceData (symbol : String) : Stage → Option Stage
  | .listing (next :: left) => if symbol = next then some (.listing left) else none
  | .instrument | .listing [] => none
  | stage => some stage

def advance (stage : Stage) : RestEffect → Option Stage
  | .submit submission =>
    match submission.callback with
    | .getCurrenciesAck _ => if stage = .currencies then some stage else none
    | .getInstrumentAck _ => if stage = .instrument then some stage else none
  | .streamStatus status =>
    match status.connectionStatus with
    | .downloading => onDownloading status.reason stage
    | .ready => onReady stage
    | .disconnected => some (onDisconnected stage)
    | _ => none
  | .currenciesAck ack => if ack.code = SYSTEM_CODE_SUCCESS then some (onCurrencies stage) else none
  | .instrumentAck ack =>
      if ack.code = SYSTEM_CODE_SUCCESS then some (onInstrument (ack.data.list.map (·.symbol)) stage) else none
  | .referenceData referenceData => onReferenceData referenceData.symbol stage
  | .symbolsUpdate _ => some stage

-- What the word that has led to a stage has in it.

def readies : RestEffect → Bool
  | .streamStatus status => status.connectionStatus == .ready
  | _ => false

def publishedSymbol : RestEffect → Option String
  | .referenceData referenceData => some referenceData.symbol
  | _ => none

def Heard (word : List RestEffect) : Prop := ∃ before ack after, word = before ++ .currenciesAck ack :: after ∧
  ack.code = SYSTEM_CODE_SUCCESS ∧ ∀ e ∈ after, readies e = false

-- The currencies and then a list, and of the list all but what is left.
def Listed (left : List String) (word : List RestEffect) : Prop := ∃ before currencies between ack after,
  word = before ++ .currenciesAck currencies :: (between ++ .instrumentAck ack :: after) ∧
    currencies.code = SYSTEM_CODE_SUCCESS ∧ ack.code = SYSTEM_CODE_SUCCESS ∧ (∀ e ∈ between ++ after, readies e = false) ∧
    ack.data.list.map (·.symbol) = after.filterMap publishedSymbol ++ left

-- All of this, and nothing has been told about the connection since.
def Completed (word : List RestEffect) : Prop := ∃ before status after, word = before ++ .streamStatus status :: after ∧
  status.connectionStatus = .ready ∧ Listed [] before ∧ ∀ e ∈ after, ∀ other, e ≠ .streamStatus other

def Past (word : List RestEffect) : Stage → Prop
  | .idle | .currencies => True
  | .instrument => Heard word
  | .listing left => Listed left word
  | .ready => Completed word

theorem Heard.more (heard : Heard word) (quiet : readies e = false) : Heard (word ++ [e]) := by
  obtain ⟨before,ack,after,rfl,code,none⟩ := heard
  refine ⟨before,ack,after ++ [e],by simp,code,?_⟩
  intro other member
  rcases List.mem_append.mp member with inside | last
  · exact none other inside
  · exact List.mem_singleton.mp last ▸ quiet

theorem Listed.heard (known : Listed left word) : Heard word := by
  obtain ⟨before,currencies,between,ack,after,rfl,code,_,none,_⟩ := known
  refine ⟨before,currencies,_,rfl,code,?_⟩
  intro other member
  rcases List.mem_append.mp member with inside | rest
  · exact none other (List.mem_append_left _ inside)
  · rcases List.mem_cons.mp rest with rfl | inside
    · rfl
    · exact none other (List.mem_append_right _ inside)

theorem Listed.more (known : Listed left word) (quiet : readies e = false) (published : left = (publishedSymbol e).toList ++ later) :
    Listed later (word ++ [e]) := by
  obtain ⟨before,currencies,between,ack,after,rfl,code,success,none,whole⟩ := known
  refine ⟨before,currencies,between,ack,after ++ [e],by simp,code,success,?_,?_⟩
  · intro other member
    rw [← List.append_assoc] at member
    rcases List.mem_append.mp member with inside | last
    · exact none other inside
    · exact List.mem_singleton.mp last ▸ quiet
  · rw [whole,published,List.filterMap_append,List.append_assoc]
    cases known : publishedSymbol e with
    | none => rw [List.filterMap_cons_none known]; rfl
    | some symbol => rw [List.filterMap_cons_some known]; rfl

theorem Heard.list (heard : Heard word) {ack : InstrumentAck} (success : ack.code = SYSTEM_CODE_SUCCESS) :
    Listed (ack.data.list.map (·.symbol)) (word ++ [.instrumentAck ack]) := by
  obtain ⟨before,currencies,between,rfl,code,none⟩ := heard
  exact ⟨before,currencies,between,ack,[],by simp,code,success,by rwa [List.append_nil],rfl⟩

theorem Completed.more (completed : Completed word) (quiet : ∀ other, e ≠ .streamStatus other) : Completed (word ++ [e]) := by
  obtain ⟨before,status,after,rfl,ready,known,none⟩ := completed
  refine ⟨before,status,after ++ [e],by simp,ready,known,?_⟩
  intro other member
  rcases List.mem_append.mp member with inside | last
  · exact none other inside
  · exact List.mem_singleton.mp last ▸ quiet

-- Whatever is not said of the download leaves it where it is.
theorem Past.more {stage : Stage} (past : Past word stage) (quiet : ∀ other, e ≠ .streamStatus other) (unlisted : publishedSymbol e = none) :
    Past (word ++ [e]) stage := by
  have calm : readies e = false := by
    cases e with
    | streamStatus status => exact absurd rfl (quiet status)
    | _ => rfl
  cases stage with
  | idle | currencies => trivial
  | instrument => exact Heard.more past calm
  | listing left => exact Listed.more past calm (by rw [unlisted]; rfl)
  | ready => exact Completed.more past quiet

theorem status_past {stage later : Stage} (past : Past word stage) (status : StreamStatus)
    (moved : advance stage (.streamStatus status) = some later) : Past (word ++ [.streamStatus status]) later := by
  simp only [advance] at moved
  cases known : status.connectionStatus with
  | downloading =>
      have quiet : readies (.streamStatus status) = false := by simp [readies,known]
      simp only [known] at moved
      cases stage with
      | idle | currencies | ready =>
          simp only [onDownloading] at moved
          split at moved
          · exact Option.some.inj moved ▸ trivial
          · cases moved
      | instrument =>
          simp only [onDownloading] at moved
          split at moved
          · exact Option.some.inj moved ▸ Heard.more past quiet
          · cases moved
      | listing left =>
          simp only [onDownloading] at moved
          split at moved
          · exact Option.some.inj moved ▸ Heard.more (Listed.heard past) quiet
          · cases moved
  | ready =>
      simp only [known] at moved
      cases stage with
      | listing left =>
          cases left with
          | nil => exact Option.some.inj moved ▸ ⟨word,status,[],rfl,known,past,by simp⟩
          | cons => cases moved
      | _ => cases moved
  | disconnected =>
      have quiet : readies (.streamStatus status) = false := by simp [readies,known]
      simp only [known,Option.some.injEq] at moved
      obtain rfl := moved
      cases stage with
      | idle | currencies | ready => trivial
      | instrument => exact Heard.more past quiet
      | listing left => exact Listed.more past quiet rfl
  | _ => simp [known] at moved

theorem advance_past {stage later : Stage} (past : Past word stage) (moved : advance stage e = some later) :
    Past (word ++ [e]) later := by
  cases e with
  | submit submission =>
      have stays : later = stage := by
        simp only [advance] at moved
        split at moved
        · split at moved
          · exact (Option.some.inj moved).symm
          · cases moved
        · split at moved
          · exact (Option.some.inj moved).symm
          · cases moved
      exact stays ▸ past.more nofun rfl
  | streamStatus status => exact status_past past status moved
  | currenciesAck ack =>
      simp only [advance] at moved
      split at moved
      · rename_i code
        obtain rfl := Option.some.inj moved
        cases stage with
        | currencies => exact ⟨word,ack,[],rfl,code,by simp⟩
        | _ => exact past.more nofun rfl
      · cases moved
  | instrumentAck ack =>
      simp only [advance] at moved
      split at moved
      · rename_i code
        obtain rfl := Option.some.inj moved
        cases stage with
        | instrument => exact Heard.list past code
        | listing => exact Heard.list (Listed.heard past) code
        | _ => exact past.more nofun rfl
      · cases moved
  | referenceData referenceData =>
      simp only [advance] at moved
      cases stage with
      | idle | currencies => exact Option.some.inj moved ▸ trivial
      | instrument => cases moved
      | ready => exact Option.some.inj moved ▸ Completed.more past nofun
      | listing left =>
          cases left with
          | nil => cases moved
          | cons next left =>
              simp only [onReferenceData] at moved
              split at moved
              · rename_i same
                exact Option.some.inj moved ▸ Listed.more past rfl (by rw [publishedSymbol,same]; rfl)
              · cases moved
  | symbolsUpdate symbols =>
      obtain rfl := Option.some.inj moved
      exact past.more nofun rfl

section streams
variable {F σ ε : Type} {config : RestConfig} {receiver : Receiver σ ε}

-- The stage goes with the world.
abbrev Staged (F σ : Type) := Stage × RestWorld F σ

def Says : Staged F σ → Staged F σ → Prop := Speaks advance (fun a => a.2.log.reverse) Prod.fst

namespace Says

theorem refl (a : Staged F σ) : Says a a := Speaks.refl a

theorem trans {a b c : Staged F σ} (one : Says a b) (two : Says b c) : Says a c := Speaks.trans one two

theorem fields {w after : RestWorld F σ} (stage : Stage) (log : after.log = w.log) : Says (stage,w) (stage,after) :=
  Speaks.silent (congrArg List.reverse log) rfl

theorem emit {stage later : Stage} (effect : RestEffect) (allowed : advance stage effect = some later) (w : RestWorld F σ) :
    Says (stage,w) (later,w.emit effect) := Speaks.say List.reverse_cons allowed

end Says

section follows
variable [Download2 F Rest.State]

-- Where the stream is, at each stage.
structure Fits (stage : Stage) (w : RestWorld F σ) : Prop where
  state : stage.state = Walker.state w.rest.download
  ready : w.rest.connectionStatus = .ready ↔ stage = .ready

-- A part of a handler, from whatever stage.
def Follows (w after : RestWorld F σ) : Prop := ∀ stage, Fits stage w → ∃ later, Says (stage,w) (later,after) ∧ Fits later after

namespace Follows

theorem fields {w after : RestWorld F σ} (log : after.log = w.log) (status : after.rest.connectionStatus = w.rest.connectionStatus)
    (state : Walker.state after.rest.download = Walker.state w.rest.download) : Follows w after := by
  intro stage fits
  exact ⟨stage,.fields stage log,by rw [state]; exact fits.state,by rw [status]; exact fits.ready⟩

theorem refl (w : RestWorld F σ) : Follows w w := .fields rfl rfl rfl

theorem trans {a b c : RestWorld F σ} (one : Follows a b) (two : Follows b c) : Follows a c := by
  intro stage fits
  obtain ⟨middle,said,fitting⟩ := one stage fits
  obtain ⟨later,more,last⟩ := two middle fitting
  exact ⟨later,said.trans more,last⟩

end Follows

omit [Download2 F Rest.State] in
theorem status_said {stage later : Stage} (status : ConnectionStatus) (reason : String)
    (allowed : ∀ streamStatus : StreamStatus, streamStatus.connectionStatus = status → streamStatus.reason = reason →
      advance stage (.streamStatus streamStatus) = some later) (w : RestWorld F σ) :
    Says (stage,w) (later,Rest.onConnectionStatus config status reason w) := by
  have kept : Says (stage,w) (stage,{w with rest.connectionStatus := status}) := .fields stage rfl
  exact kept.trans (.emit _ (allowed _ rfl rfl) _)

-- What the download does where it rests.

theorem onDownload_currencies {stage : Stage} (may : stage = .idle ∨ stage = .currencies ∨ stage = .ready) (walker : F)
    (w : RestWorld F σ) : Says (stage,w) (.currencies,(Rest.onDownload config walker .currencies w).2) := by
  have announced : Says (stage,w) (.currencies,Rest.onConnectionStatus config .downloading Rest.State.currencies.name w) := by
    refine status_said _ _ ?_ w
    intro streamStatus status reason
    simp only [advance,status,reason]
    rcases may with rfl | rfl | rfl
    · rfl
    · rfl
    · rfl
  exact announced.trans (.emit _ rfl _)

theorem onDownload_instrument {stage : Stage} (may : stage.state = .instrument) (walker : F) (w : RestWorld F σ) :
    Says (stage,w) (.instrument,(Rest.onDownload config walker .instrument w).2) := by
  have announced : Says (stage,w) (.instrument,Rest.onConnectionStatus config .downloading Rest.State.instrument.name w) := by
    refine status_said _ _ ?_ w
    intro streamStatus status reason
    simp only [advance,status,reason]
    cases stage with
    | instrument | listing => rfl
    | idle | currencies | ready => cases may
  exact announced.trans (.emit _ rfl _)

theorem onDownload_done (walker : F) (w : RestWorld F σ) :
    Says (.listing [],w) (.ready,(Rest.onDownload config walker .done w).2) := by
  refine status_said _ _ ?_ w
  intro streamStatus status _
  simp only [advance,status]
  rfl

theorem walk_waits {s : Rest.State} {d : F} {w after : RestWorld F σ} (walk : Walk (Rest.onDownload config) s w d after)
    (busy : s = .currencies ∨ s = .instrument) :
    Walker.state d = s ∧ ∃ during, after = (Rest.onDownload config during s w).2 := by
  cases walk with
  | wait _ _ rests _ => exact ⟨rests,_,rfl⟩
  | last rests => exact ⟨rests,_,rfl⟩
  | pass _ zero _ =>
      rcases busy with rfl | rfl
      · cases zero
      · cases zero

theorem walk_ends {s : Rest.State} {d : F} {w after : RestWorld F σ} (walk : Walk (Rest.onDownload config) s w d after)
    (last : s = .done) : Walker.state d = .done ∧ ∃ during, after = (Rest.onDownload config during .done w).2 := by
  subst last
  cases walk with
  | wait working => exact absurd rfl working
  | last rests => exact ⟨rests,_,rfl⟩
  | pass working => exact absurd rfl working

theorem onDownload_status {s : Rest.State} (busy : s = .currencies ∨ s = .instrument) (walker : F) (w : RestWorld F σ) :
    (Rest.onDownload config walker s w).2.rest.connectionStatus = .downloading := by
  rcases busy with rfl | rfl
  · rfl
  · rfl

-- A walk that comes to rest on a stage, with the stage it says so from.
theorem walk_said {stage later : Stage} {s : Rest.State} {d : F} {w after : RestWorld F σ}
    (walk : Walk (Rest.onDownload config) s w d after) (busy : s = .currencies ∨ s = .instrument) (state : later.state = s)
    (asks : ∀ walker : F, Says (stage,w) (later,(Rest.onDownload config walker s w).2)) :
    Says (stage,w) (later,Rest.withDownload (d,after)) ∧ Fits later (Rest.withDownload (d,after)) := by
  obtain ⟨rests,during,rfl⟩ := walk_waits walk busy
  refine ⟨(asks during).trans (.fields _ rfl),?_,?_⟩
  · exact state.trans rests.symm
  · have status : (Rest.withDownload (d,(Rest.onDownload config during s w).2)).rest.connectionStatus = .downloading :=
      onDownload_status busy during w
    rw [status]
    constructor
    · intro other
      cases other
    · rintro rfl
      rcases busy with rfl | rfl
      · cases state
      · cases state

theorem downloading_busy [LawfulDownload2 F]
    (d : F) : Download2.downloading d = true ↔ Walker.state d = Rest.State.currencies ∨ Walker.state d = Rest.State.instrument := by
  rw [LawfulDownload2.downloading_iff]
  cases Walker.state d <;> decide

theorem rearm_said {s : Rest.State} {w after : RestWorld F σ} {d : F} (walk : Walk (Rest.onDownload config) s w d after)
    (busy : s = .currencies ∨ s = .instrument) {stage : Stage} (state : stage.state = s) :
    ∃ later, Says (stage,w) (later,Rest.withDownload (d,after)) ∧ Fits later (Rest.withDownload (d,after)) := by
  rcases busy with rfl | rfl
  · have waiting : stage = .currencies := by
      cases stage with
      | currencies => rfl
      | _ => cases state
    exact ⟨_,walk_said walk (.inl rfl) rfl fun walker => onDownload_currencies (.inr (.inl waiting)) walker w⟩
  · exact ⟨_,walk_said walk (.inr rfl) rfl fun walker => onDownload_instrument state walker w⟩

variable [LawfulDownload2 F]

theorem onConnected_follows (w : RestWorld F σ) : Follows w (Rest.onConnected config w) := by
  intro stage fits
  unfold Rest.onConnected
  cases running : Rest.isDownloading w with
  | true =>
      have walk := LawfulDownload2.bump_running (Rest.onDownload config) w.rest.download w running
      exact rearm_said walk ((downloading_busy _).mp running) fits.state
  | false =>
      have walk := LawfulDownload2.begin_idle (Rest.onDownload config) w.rest.download w running
      have may : stage = .idle ∨ stage = .currencies ∨ stage = .ready := by
        have resting : ¬(stage.state = .currencies ∨ stage.state = .instrument) := by
          rw [fits.state,← downloading_busy]
          exact Bool.eq_false_iff.mp running
        cases stage with
        | idle => exact .inl rfl
        | currencies => exact .inr (.inl rfl)
        | ready => exact .inr (.inr rfl)
        | instrument | listing => exact absurd (.inr rfl) resting
      exact ⟨_,walk_said walk (.inl rfl) rfl fun walker => onDownload_currencies may walker w⟩

theorem onDisconnected_follows (w : RestWorld F σ) : Follows w (Rest.onDisconnected config w) := by
  intro stage fits
  have published : Says (stage,w) (onDisconnected stage,Rest.onConnectionStatus config .disconnected "" w) := by
    refine status_said _ _ ?_ w
    intro streamStatus status _
    simp only [advance,status]
  have running : Rest.isDownloading (Rest.onConnectionStatus config .disconnected "" w) = Download2.downloading w.rest.download := rfl
  simp only [Rest.onDisconnected,running]
  have left : onDisconnected stage ≠ .ready := by
    cases stage <;> nofun
  cases busy : Download2.downloading w.rest.download with
  | true =>
      refine ⟨_,published,?_,?_⟩
      · have working := (downloading_busy _).mp busy
        rw [← fits.state] at working
        have stays : onDisconnected stage = stage := by
          cases stage with
          | ready =>
              rcases working with other | other
              · cases other
              · cases other
          | _ => rfl
        rw [stays]
        exact fits.state
      · exact ⟨nofun,fun other => absurd other left⟩
  | false =>
      refine ⟨_,published.trans (.fields _ rfl),?_,?_⟩
      · have reset : Walker.state (Download2.reset w.rest.download) = Rest.State.undefined := LawfulDownload2.reset_state _
        have idle : (onDisconnected stage).state = .undefined := by
          have resting := Bool.eq_false_iff.mp busy
          rw [ne_eq,downloading_busy,← fits.state] at resting
          cases stage with
          | idle | ready => rfl
          | currencies => exact absurd (.inl rfl) resting
          | instrument | listing => exact absurd (.inr rfl) resting
        exact idle.trans reset.symm
      · exact ⟨nofun,fun other => absurd other left⟩

theorem retry_follows (config : RestConfig) {s : Rest.State} (busy : s = .currencies ∨ s = .instrument) (w : RestWorld F σ) :
    Follows w (Rest.retry config s w) := by
  intro stage fits
  unfold Rest.retry
  rcases LawfulDownload2.retry_rearms (Rest.onDownload config) s w.rest.download w with ⟨state,same⟩ | ⟨_,current,walk⟩
  · have still : Follows w (Rest.withDownload (Download2.retry (Rest.onDownload config) s w.rest.download w)) := by
      unfold Rest.withDownload
      rw [same]
      exact .fields rfl rfl state
    exact still stage fits
  · exact rearm_said walk busy (fits.state.trans current.symm)

theorem check_walks (config : RestConfig) {s : Rest.State} {d : F} (current : Walker.state d = s) (busy : s = .currencies ∨ s = .instrument)
    (w : RestWorld F σ) : Walk (Rest.onDownload config) (Stages.next s) w (Download2.check (Rest.onDownload config) s d w).1
      (Download2.check (Rest.onDownload config) s d w).2 := by
  subst current
  exact LawfulDownload2.check_current _ d w ((downloading_busy d).mpr busy)

theorem check_stays (config : RestConfig) {s : Rest.State} {w : RestWorld F σ} (other : s ≠ Walker.state w.rest.download) :
    Follows w (Rest.check config s w) := by
  obtain ⟨state,same⟩ := LawfulDownload2.check_other (Rest.onDownload config) s w.rest.download w other
  unfold Rest.check Rest.withDownload
  rw [same]
  exact .fields rfl rfl state

-- The currencies, if they are waited for or not.
theorem currencies_follow {ack : CurrenciesAck} (code : ack.code = SYSTEM_CODE_SUCCESS) (w : RestWorld F σ) :
    Follows w (Rest.check config .currencies (w.emit (.currenciesAck ack))) := by
  intro stage fits
  have allowed : advance stage (.currenciesAck ack) = some (onCurrencies stage) := if_pos code
  have noted : Says (stage,w) (onCurrencies stage,w.emit (.currenciesAck ack)) := .emit _ allowed w
  by_cases current : Walker.state w.rest.download = .currencies
  · have waiting : stage = .currencies := by
      have state := fits.state.trans current
      cases stage with
      | currencies => rfl
      | _ => cases state
    subst waiting
    have walk := check_walks config current (.inl rfl) (w.emit (.currenciesAck ack))
    have moved : Stage.instrument.state = .instrument := rfl
    obtain ⟨said,later⟩ := walk_said walk (.inr rfl) moved fun walker => onDownload_instrument moved walker _
    exact ⟨_,noted.trans said,later⟩
  · have stays : onCurrencies stage = stage := by
      cases stage with
      | currencies => exact absurd fits.state.symm current
      | _ => rfl
    rw [stays] at noted
    have still : Follows (w.emit (.currenciesAck ack)) (Rest.check config .currencies (w.emit (.currenciesAck ack))) :=
      check_stays config (Ne.symm current)
    obtain ⟨later,said,fitting⟩ := still stage ⟨fits.state,fits.ready⟩
    exact ⟨later,noted.trans said,fitting⟩

theorem referenceData_symbol {tradeType : TradeType} {item : InstrumentAckDataListItem} {discard : Bool} {referenceData : ReferenceData}
    (made : Rest.referenceData config tradeType item discard = .ok referenceData) : referenceData.symbol = item.symbol := by
  unfold Rest.referenceData at made
  cases issued : config.issueDate item.launchTime with
  | error e => simp [issued,bind,Except.bind] at made
  | ok =>
      cases settled : config.settlementDate item.settlementTime with
      | error e => simp [issued,settled,bind,Except.bind] at made
      | ok =>
          cases expires : config.expiryDatetimeUtc item.expiryTime with
          | error e => simp [issued,settled,expires,bind,Except.bind] at made
          | ok =>
              simp only [issued,settled,expires,bind,Except.bind] at made
              exact Except.ok.inj made ▸ rfl

end follows

-- One turn of the loop: it publishes its item, unless it fails before.
theorem onItem_said (config : RestConfig) (tradeType : TradeType) (answer : ItemAnswer) {stage later : Stage}
    {item : InstrumentAckDataListItem} (each : ∀ referenceData : ReferenceData, referenceData.symbol = item.symbol →
      advance stage (.referenceData referenceData) = some later) (w : RestWorld F σ) :
    (Rest.onItem config tradeType answer item w).2.rest = w.rest ∧
      (Says (stage,w) (later,(Rest.onItem config tradeType answer item w).2) ∨
        SymbolDownload.fails (Rest.onItem config tradeType answer item w).1 = true ∧
          Says (stage,w) (stage,(Rest.onItem config tradeType answer item w).2)) := by
  unfold Rest.onItem
  cases answer.discardSymbol with
  | error e => exact ⟨rfl,.inr ⟨rfl,.refl _⟩⟩
  | ok discard =>
      dsimp only
      cases made : Rest.referenceData config tradeType item discard with
      | error e => exact ⟨rfl,.inr ⟨rfl,.refl _⟩⟩
      | ok referenceData =>
          have published : Says (stage,w) (later,w.emit (.referenceData referenceData)) :=
            .emit _ (each _ (referenceData_symbol made)) w
          dsimp only
          cases answer.referenceData with
          | error e => exact ⟨rfl,.inl published⟩
          | ok =>
              dsimp only
              split
              · exact ⟨rfl,.inl published⟩
              · split
                · exact ⟨rfl,.inl published⟩
                · cases answer.emplaceBack with
                  | error e => exact ⟨rfl,.inl (published.trans (.fields later rfl))⟩
                  | ok => exact ⟨rfl,.inl (published.trans (.fields later rfl))⟩

-- A list that is waited for: what is left of it is what has not been published.
theorem onItems_lists (config : RestConfig) (tradeType : TradeType) (answers : Nat → ItemAnswer)
    (items : List InstrumentAckDataListItem) (index : Nat) (symbols : List String) (w : RestWorld F σ) :
    (Rest.onItems config tradeType answers index items symbols w).2.rest = w.rest ∧
      ∃ left, Says (.listing (items.map (·.symbol)),w) (.listing left,(Rest.onItems config tradeType answers index items symbols w).2) ∧
        (SymbolDownload.fails (Rest.onItems config tradeType answers index items symbols w).1 = false → left = []) := by
  induction items generalizing index symbols w with
  | nil => exact ⟨rfl,[],.refl _,fun _ => rfl⟩
  | cons item rest ih =>
      have each : ∀ referenceData : ReferenceData, referenceData.symbol = item.symbol →
          advance (.listing (item.symbol :: rest.map (·.symbol))) (.referenceData referenceData) =
            some (.listing (rest.map (·.symbol))) := fun _ symbol => if_pos symbol
      obtain ⟨same,said⟩ := onItem_said config tradeType (answers index) each w
      unfold Rest.onItems
      generalize Rest.onItem config tradeType (answers index) item w = result at same said
      obtain ⟨outcome,after⟩ := result
      cases outcome with
      | error e =>
          rcases said with published | ⟨_,silent⟩
          · exact ⟨same,_,published,fun wrong => by cases wrong⟩
          · exact ⟨same,_,silent,fun wrong => by cases wrong⟩
      | ok added =>
          have published := said.resolve_right fun other => by cases other.1
          obtain ⟨others,left,more,whole⟩ := ih (index + 1) (symbols ++ added.toList) after
          exact ⟨others.trans same,left,published.trans more,whole⟩

-- A list that is not.
theorem onItems_stray (config : RestConfig) (tradeType : TradeType) (answers : Nat → ItemAnswer) {stage : Stage}
    (stays : ∀ symbol, onReferenceData symbol stage = some stage) (items : List InstrumentAckDataListItem) (index : Nat)
    (symbols : List String) (w : RestWorld F σ) :
    (Rest.onItems config tradeType answers index items symbols w).2.rest = w.rest ∧
      Says (stage,w) (stage,(Rest.onItems config tradeType answers index items symbols w).2) := by
  induction items generalizing index symbols w with
  | nil => exact ⟨rfl,.refl _⟩
  | cons item rest ih =>
      have each : ∀ referenceData : ReferenceData, referenceData.symbol = item.symbol →
          advance stage (.referenceData referenceData) = some stage := fun referenceData _ => stays referenceData.symbol
      obtain ⟨same,said⟩ := onItem_said config tradeType (answers index) each w
      have silent := said.elim id (·.2)
      unfold Rest.onItems
      generalize Rest.onItem config tradeType (answers index) item w = result at same silent
      obtain ⟨outcome,after⟩ := result
      cases outcome with
      | error e => exact ⟨same,silent⟩
      | ok added =>
          obtain ⟨others,more⟩ := ih (index + 1) (symbols ++ added.toList) after
          exact ⟨others.trans same,silent.trans more⟩

theorem dispatchSymbolsUpdate_said (receiver : Receiver σ ε) (stage : Stage) (symbols : List String) (w : RestWorld F σ) :
    (Rest.dispatchSymbolsUpdate receiver symbols w).2.rest = w.rest ∧
      Says (stage,w) (stage,(Rest.dispatchSymbolsUpdate receiver symbols w).2) := by
  have passed : Says (stage,w) (stage,{w with controller := (receiver.onSymbolsUpdate symbols w.controller).2}) := .fields stage rfl
  exact ⟨rfl,passed.trans (.emit _ rfl _)⟩

-- What is made of a list that is waited for: all of it is published, or it fails.
theorem onInstrumentAck_lists (config : RestConfig) (receiver : Receiver σ ε) (answers : Nat → ItemAnswer) {ack : InstrumentAck}
    (code : ack.code = SYSTEM_CODE_SUCCESS) {stage : Stage} (waits : stage.state = .instrument) (w : RestWorld F σ) :
    (Rest.onInstrumentAck config receiver answers ack w).2.rest = w.rest ∧
      ∃ left, Says (stage,w) (.listing left,(Rest.onInstrumentAck config receiver answers ack w).2) ∧
        (SymbolDownload.fails (Rest.onInstrumentAck config receiver answers ack w).1 = false → left = []) := by
  have noted : Says (stage,w) (.listing (ack.data.list.map (·.symbol)),w.emit (.instrumentAck ack)) := by
    have allowed : advance stage (.instrumentAck ack) = some (.listing (ack.data.list.map (·.symbol))) := by
      cases stage with
      | instrument | listing => exact if_pos code
      | idle | currencies | ready => cases waits
    exact .emit _ allowed w
  obtain ⟨same,left,said,whole⟩ := onItems_lists config ack.data.tradeType answers ack.data.list 0 [] (w.emit (.instrumentAck ack))
  unfold Rest.onInstrumentAck
  generalize Rest.onItems config ack.data.tradeType answers 0 ack.data.list [] (w.emit (.instrumentAck ack)) = result at same said whole
  obtain ⟨outcome,after⟩ := result
  cases outcome with
  | error e => exact ⟨same,left,noted.trans said,nofun⟩
  | ok symbols =>
      obtain rfl := whole rfl
      dsimp only
      split
      · exact ⟨same,[],noted.trans said,fun _ => rfl⟩
      · obtain ⟨kept,passed⟩ := dispatchSymbolsUpdate_said receiver (.listing []) symbols after
        exact ⟨kept.trans same,[],(noted.trans said).trans passed,fun _ => rfl⟩

-- And of one that is not.
theorem onInstrumentAck_stray (config : RestConfig) (receiver : Receiver σ ε) (answers : Nat → ItemAnswer) {ack : InstrumentAck}
    (code : ack.code = SYSTEM_CODE_SUCCESS) {stage : Stage} (other : stage.state ≠ .instrument) (w : RestWorld F σ) :
    (Rest.onInstrumentAck config receiver answers ack w).2.rest = w.rest ∧
      Says (stage,w) (stage,(Rest.onInstrumentAck config receiver answers ack w).2) := by
  have stays : ∀ symbol, onReferenceData symbol stage = some stage := by
    intro symbol
    cases stage with
    | instrument | listing => exact absurd rfl other
    | idle | currencies | ready => rfl
  have noted : Says (stage,w) (stage,w.emit (.instrumentAck ack)) := by
    have allowed : advance stage (.instrumentAck ack) = some stage := by
      cases stage with
      | instrument | listing => exact absurd rfl other
      | idle | currencies | ready => exact if_pos code
    exact .emit _ allowed w
  obtain ⟨same,said⟩ := onItems_stray config ack.data.tradeType answers stays ack.data.list 0 [] (w.emit (.instrumentAck ack))
  unfold Rest.onInstrumentAck
  generalize Rest.onItems config ack.data.tradeType answers 0 ack.data.list [] (w.emit (.instrumentAck ack)) = result at same said
  obtain ⟨outcome,after⟩ := result
  cases outcome with
  | error e => exact ⟨same,noted.trans said⟩
  | ok symbols =>
      dsimp only
      split
      · exact ⟨same,noted.trans said⟩
      · obtain ⟨kept,passed⟩ := dispatchSymbolsUpdate_said receiver stage symbols after
        exact ⟨kept.trans same,(noted.trans said).trans passed⟩

variable [Download2 F Rest.State]

theorem Fits.same {stage later : Stage} {w after : RestWorld F σ} (fits : Fits stage w) (rest : after.rest = w.rest)
    (state : later.state = stage.state) (ready : later = .ready ↔ stage = .ready) : Fits later after := by
  refine ⟨?_,?_⟩
  · rw [rest,state]
    exact fits.state
  · rw [rest,ready]
    exact fits.ready

-- The list has been dealt with: the download is complete, or the list is asked for again.
theorem instrument_follow [LawfulDownload2 F] (receiver : Receiver σ ε) (answers : Nat → ItemAnswer) {ack : InstrumentAck}
    (code : ack.code = SYSTEM_CODE_SUCCESS) (w : RestWorld F σ) :
    Follows w (SymbolDownload.proceed config .instrument (Rest.onInstrumentAck config receiver answers ack w)) := by
  intro stage fits
  by_cases waits : stage.state = .instrument
  · obtain ⟨same,left,said,whole⟩ := onInstrumentAck_lists config receiver answers code waits w
    generalize Rest.onInstrumentAck config receiver answers ack w = result at same said whole
    obtain ⟨outcome,after⟩ := result
    have fitting : Fits (.listing left) after := by
      refine fits.same same waits.symm ⟨nofun,?_⟩
      rintro rfl
      cases waits
    cases outcome with
    | error e =>
        obtain ⟨later,more,last⟩ := retry_follows config (.inr rfl) after _ fitting
        exact ⟨later,said.trans more,last⟩
    | ok =>
        obtain rfl := whole rfl
        have current : Walker.state after.rest.download = .instrument := fitting.state.symm
        have walk := check_walks config current (.inr rfl) after
        obtain ⟨rests,during,ended⟩ := walk_ends walk rfl
        have completed : Says (.listing [],after) (.ready,Rest.check config .instrument after) := by
          have published : Says (.listing [],after) (.ready,(Download2.check (Rest.onDownload config) .instrument after.rest.download after).2) :=
            ended ▸ onDownload_done during after
          exact published.trans (.fields _ rfl)
        have status : (Rest.check config .instrument after).rest.connectionStatus = .ready := by
          unfold Rest.check Rest.withDownload
          rw [ended]
          rfl
        exact ⟨_,said.trans completed,rests.symm,fun _ => rfl,fun _ => status⟩
  · obtain ⟨same,said⟩ := onInstrumentAck_stray config receiver answers code waits w
    generalize Rest.onInstrumentAck config receiver answers ack w = result at same said
    obtain ⟨outcome,after⟩ := result
    have fitting : Fits stage after := fits.same same rfl .rfl
    cases outcome with
    | error e =>
        obtain ⟨later,more,last⟩ := retry_follows config (.inr rfl) after _ fitting
        exact ⟨later,said.trans more,last⟩
    | ok =>
        have still : Follows after (Rest.check config .instrument after) := by
          refine check_stays config ?_
          rw [← fitting.state]
          exact Ne.symm waits
        obtain ⟨later,more,last⟩ := still stage fitting
        exact ⟨later,said.trans more,last⟩

-- What comes of a response: nothing, a request once more, or the one ack that is handled.
theorem getAck_cases {decode : String → Except Exception (Envelope α)}
    {handler : Envelope α → RestWorld F σ → Except Exception Unit × RestWorld F σ} {s : Rest.State} {sequence : Nat}
    {response : Web.Response} {w after : RestWorld F σ}
    (ran : Rest.getAck config decode handler s sequence response w = some after) :
    after = w ∨ after = Rest.retry config s w ∨
      ∃ ack, ack.code = SYSTEM_CODE_SUCCESS ∧ after = SymbolDownload.proceed config s (handler ack w) := by
  unfold Rest.getAck Rest.processResponse at ran
  split at ran
  · rename_i e _
    obtain rfl := Option.some.inj ran
    exact .inr (.inl (SymbolDownload.finish_retry s (.error e,w)))
  · rename_i r _
    cases category : r.category with
    | unknown | informationalResponse =>
        simp only [category,Option.some.injEq] at ran
        obtain rfl := ran
        rw [SymbolDownload.finish_retry]
        split
        · exact .inr (.inl rfl)
        · exact .inl rfl
    | redirection => simp [category] at ran
    | serverError =>
        simp only [category,Option.some.injEq] at ran
        exact .inr (.inl ran.symm)
    | success | clientError =>
        simp only [category,Option.some.injEq,SymbolDownload.finish_retry] at ran
        obtain rfl := ran
        by_cases skipped : Download2.skip sequence s w.rest.download = true
        · simp [skipped,SymbolDownload.fails]
        · simp only [skipped]
          cases decode r.body with
          | error e => exact .inr (.inl rfl)
          | ok ack =>
              dsimp only
              by_cases code : ack.code = SYSTEM_CODE_SUCCESS
              · refine .inr (.inr ⟨ack,code,?_⟩)
                simp only [code,if_true]
                generalize handler ack w = handled
                obtain ⟨outcome,during⟩ := handled
                cases outcome with
                | error e => rfl
                | ok => rfl
              · simp only [code,if_false]
                exact .inr (.inl rfl)

variable [LawfulDownload2 F]

theorem getAck_follows {decode : String → Except Exception (Envelope α)}
    {handler : Envelope α → RestWorld F σ → Except Exception Unit × RestWorld F σ} {s : Rest.State} {sequence : Nat}
    {response : Web.Response} {w after : RestWorld F σ}
    (ran : Rest.getAck config decode handler s sequence response w = some after) (busy : s = .currencies ∨ s = .instrument)
    (handles : ∀ ack, ack.code = SYSTEM_CODE_SUCCESS → Follows w (SymbolDownload.proceed config s (handler ack w))) :
    Follows w after := by
  rcases getAck_cases ran with rfl | rfl | ⟨ack,code,rfl⟩
  · exact .refl _
  · exact retry_follows config busy w
  · exact handles ack code

theorem onResponse_follows {id : Nat} {response : Web.Response} {answers : Nat → ItemAnswer} {w after : RestWorld F σ}
    (ran : Rest.onResponse config receiver id response answers w = some after) :
    Follows w after := by
  unfold Rest.onResponse at ran
  split at ran
  · exact Option.some.inj ran ▸ .refl _
  · rename_i submission _
    have taken : Follows w {w with inFlight := w.inFlight.eraseP fun s => s.id == id} := .fields rfl rfl rfl
    cases callback : submission.callback with
    | getCurrenciesAck sequence =>
        simp only [callback] at ran
        exact taken.trans (getAck_follows ran (.inl rfl) fun ack code => currencies_follow code _)
    | getInstrumentAck sequence =>
        simp only [callback] at ran
        exact taken.trans (getAck_follows ran (.inr rfl) fun ack code => instrument_follow receiver answers code _)

theorem step_follows {w after : RestWorld F σ} {event : RestEvent ε} (ran : RestSystem.step config receiver w event = some after) :
    Follows w after := by
  cases event with
  | connected t => exact Option.some.inj ran ▸ onConnected_follows w
  | disconnected t => exact Option.some.inj ran ▸ onDisconnected_follows w
  | response t id response answers => exact onResponse_follows ran
  | subscribe symbols =>
      simp only [RestSystem.step,Controller.onSubscribe] at ran
      generalize symbols.foldl Controller.emplace ([],w.allSymbols) = emplaced at ran
      obtain ⟨added,allSymbols⟩ := emplaced
      have publishedSymbol : Follows w {w with allSymbols := allSymbols} := .fields rfl rfl rfl
      have passed := fun stage => dispatchSymbolsUpdate_said receiver stage added {w with allSymbols := allSymbols}
      generalize Rest.dispatchSymbolsUpdate receiver added {w with allSymbols := allSymbols} = result at ran passed
      obtain ⟨outcome,during⟩ := result
      cases outcome with
      | error e => cases ran
      | ok =>
          obtain rfl := Option.some.inj ran
          refine publishedSymbol.trans ?_
          intro stage fits
          exact ⟨stage,(passed stage).2,fits.same (passed stage).1 rfl .rfl⟩
  | controller event =>
      obtain ⟨controller,_,rfl⟩ := Option.map_eq_some_iff.mp ran
      exact .fields rfl rfl rfl
  | logged => exact Option.some.inj ran ▸ .refl _

theorem initial_fits (controller : σ) : Fits .idle (RestSystem.initial controller : RestWorld F σ) := by
  refine ⟨?_,?_⟩
  · have created : Walker.state (Download2.create : F) = Rest.State.undefined := LawfulDownload2.create_state
    exact created.symm
  · exact ⟨nofun,nofun⟩

-- The stream says that it is READY only when it has been given the currencies and after
-- them a list, each without an error, and has published all of the list, in its order and
-- each item once; and it says so again only when it has done all of this again.
theorem ready_means_downloaded {controller : σ} {events : List (RestEvent ε)} {w : RestWorld F σ}
    (ran : execute (RestSystem.step config receiver) (RestSystem.initial controller) events = some w) :
    (∃ stage, execute advance .idle w.log.reverse = some stage ∧ Fits stage w) ∧
      (w.rest.connectionStatus = .ready → Completed w.log.reverse) := by
  have followed : ∀ a b : RestWorld F σ, (∃ events, execute (RestSystem.step config receiver) a events = some b) → Follows a b := by
    rintro a b ⟨events,ran⟩
    exact execute_related Follows .refl (fun _ _ _ => .trans) (fun _ _ _ => step_follows) ran
  obtain ⟨stage,said,fits⟩ := followed _ w ⟨events,ran⟩ .idle (initial_fits controller)
  have word : execute advance .idle w.log.reverse = some stage := by
    obtain ⟨word,more,allowed⟩ := said
    have same : w.log.reverse = word := more
    rw [same]
    exact allowed
  refine ⟨⟨stage,word,fits⟩,?_⟩
  intro ready
  have start : Past [] .idle := trivial
  have past : Past w.log.reverse stage := execute_history (fun _ _ _ _ => advance_past) start word
  rw [fits.ready.mp ready] at past
  exact past

end streams

section closed
open Smallest

-- A list that fails and is asked for again when the connection has been renewed.
def renewed : List (RestEvent (GatewayEvent Unit)) := [attach,listed 0 3,listed 1 1,attach,listed 2 3]

theorem ready_means_downloaded_renewed : ∃ w : SmallRest,
    execute (RestSystem.step reference (MarketSystem.receiver (market 2))) (RestSystem.initial (MarketSystem.initial (market 2) 1)) renewed =
        some w ∧
      w.rest.connectionStatus = .ready ∧ (∃ stage, execute advance .idle w.log.reverse = some stage ∧ Fits stage w) ∧
      (w.rest.connectionStatus = .ready → Completed w.log.reverse) := by
  have checked : (execute (RestSystem.step reference (MarketSystem.receiver (market 2)))
      (RestSystem.initial (MarketSystem.initial (market 2) 1) : SmallRest) renewed).any (fun w =>
        decide (w.rest.connectionStatus = .ready)) = true := by
    decide +kernel
  obtain ⟨w,ran,ready⟩ := (Option.any_eq_true _ _).mp checked
  exact ⟨w,ran,of_decide_eq_true ready,ready_means_downloaded ran⟩

end closed
end KucoinPro.ReferenceDownload
