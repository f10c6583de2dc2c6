import MarketConnector.Auth.BearerTokens
import MarketConnector.Ws.Lifecycle

/-!
# Ws - Tokens in frames

`TokenFetchAuth` fetches a token before each socket is opened and at each refresh, and puts it
into the URL or into the messages.  The token is kept in a dictionary that the copies of an auth
model share, as `dataclasses.replace` passes the dictionary on.

Main results:

- Definition `tokenMachine`: connectors whose auth models share a token.
- Theorem `Unprepared.step`: nothing is connected before a token is fetched.
- Theorem `frames_carry_tokens`: which token a frame carries.
- Theorem `frames_carry_tokens_shared`: a frame with the token of another connector.
-/

namespace MarketConnector
namespace Ws

open Foundations Auth

/-! ## The auth model -/

inductive TokenInjectStrategy where
  | urlQuery | subscribePayload | connectHeader
deriving DecidableEq

structure TokenFetchAuth where
  tokenEndpoint : String
  tokenResponsePath : String
  tokenTtlSeconds : Int
  injectStrategy : TokenInjectStrategy

/-- `KRAKEN_PRIVATE_WS_AUTH` -/
def krakenPrivateWsAuth : TokenFetchAuth where
  tokenEndpoint := "/0/private/GetWebSocketsToken"
  tokenResponsePath := "result.token"
  tokenTtlSeconds := 900
  injectStrategy := .subscribePayload

/-- `prepare_connection`, after the token is fetched. -/
def TokenFetchAuth.preparedUrl (auth : TokenFetchAuth) (baseUrl token : String) : String :=
  if auth.injectStrategy = .urlQuery then
    baseUrl ++ (if baseUrl.toList.contains '?' then "&" else "?") ++ "token=" ++ token
  else baseUrl

/-- `transform_outgoing`, with the token that is kept. -/
def TokenFetchAuth.transformOutgoing (auth : TokenFetchAuth) (token : Option String)
    (message : Dict String PyValue) : Dict String PyValue :=
  if auth.injectStrategy = .subscribePayload then message.set "token" (.str (token.getD ""))
  else message

/-! ## Connectors that share a token -/

/-- What happened, in order. -/
inductive TokenEntry where
  /-- a connector fetched a token -/
  | token (connector : Nat) (token : String)
  /-- a connector opens a URL -/
  | opens (connector : Nat) (url : String)
  /-- a connector sends a message in a frame -/
  | frame (connector : Nat) (message frame : Dict String PyValue)

structure TokenState where
  connectors : Nat → Connector
  token : Option String
  log : List TokenEntry

inductive TokenLabel where
  /-- a connector moves; `answer` is the document of a fetch that ends with the move -/
  | moves (connector : Nat) (label : Label) (answer : Option PyValue)
  /-- a message is sent through a connector -/
  | send (connector : Nat) (message : Dict String PyValue)

/-- The fetch that ends with a move of a connector. -/
inductive FetchEnd where
  | none
  | connect (ok : Bool)
  | refresh

def fetchEnd (c : Connector) : Label → FetchEnd
  | .connectResumes caller ok => if stageOf c caller = some .preparing then .connect ok else .none
  | .taskWakes id => if c.live.get? id = some ⟨.refresh, .acting⟩ then .refresh else .none
  | _ => .none

/-- `_fetch_token`: the token of a document, if it has one at the path. -/
def fetchedToken (prim : Primitives) (auth : TokenFetchAuth) (answer : Option PyValue) :
    Option String :=
  answer.bind fun data => (resolveNestedPath prim data auth.tokenResponsePath).toOption

/-- Keep a token that was fetched. -/
def TokenState.keep (s : TokenState) (i : Nat) (token : String) : TokenState :=
  { s with token := some token, log := s.log ++ [.token i token] }

section Machine

variable (prim : Primitives) (auth : TokenFetchAuth) (urls : Nat → String) (refreshEnabled : Bool)

/-- The token after a move of a connector; a `connect()` goes on only with a token. -/
def TokenState.fetch (s : TokenState) (i : Nat) (token : Option String) :
    FetchEnd → Option TokenState
  | .none => some s
  | .connect ok =>
      match token, ok with
      | some token, true =>
          let s := s.keep i token
          some { s with log := s.log ++ [.opens i (auth.preparedUrl (urls i) token)] }
      | none, false => some s
      | _, _ => none
  | .refresh =>
      match token with
      | some token => some (s.keep i token)
      | none => some s

/-- `send`: without a connection it raises. -/
def TokenState.send (s : TokenState) (i : Nat) (message : Dict String PyValue) : TokenState :=
  if (s.connectors i).connected && (s.connectors i).ws.isSome then
    { s with log := s.log ++ [.frame i message (auth.transformOutgoing s.token message)] }
  else s

def tokenStep (s : TokenState) : TokenLabel → Option TokenState
  | .moves i l answer =>
      (step refreshEnabled (s.connectors i) l).bind fun c =>
        { s with connectors := Function.update s.connectors i c }.fetch auth urls i
          (fetchedToken prim auth answer) (fetchEnd (s.connectors i) l)
  | .send i message => some (s.send auth i message)

def tokenMachine : Machine TokenState TokenLabel where
  init := ⟨fun _ => .init, none, []⟩
  step := tokenStep prim auth urls refreshEnabled

end Machine

/-! ## Nothing is connected before a token is fetched -/

/-- No `connect()` of the connector is past its first await. -/
structure Unprepared (c : Connector) : Prop where
  down : c.connected = false
  calls : ∀ id stage, c.connectCalls.get? id = some stage → stage = .preparing
  tasks : ∀ id stage, c.live.get? id = some ⟨.listen, .connecting stage⟩ → stage = .preparing

theorem unprepared_init : Unprepared .init :=
  ⟨rfl, fun id stage hid => by simp [Connector.init] at hid,
    fun id stage hid => by simp [Connector.init] at hid⟩

section Unprepared

variable {c c' : Connector} {r : Bool}

theorem Unprepared.of_dicts (h : Unprepared c) (hdown : c'.connected = false)
    (hcalls : ∀ id stage, c'.connectCalls.get? id = some stage →
      c.connectCalls.get? id = some stage)
    (htasks : ∀ id task, c'.live.get? id = some task → c.live.get? id = some task) :
    Unprepared c' :=
  ⟨hdown, fun id stage hid => h.calls id stage (hcalls id stage hid),
    fun id stage hid => h.tasks id stage (htasks id _ hid)⟩

theorem Unprepared.stage (h : Unprepared c) {caller : Caller} {stage : ConnectStage}
    (hstage : stageOf c caller = some stage) : stage = .preparing := by
  cases caller with
  | call id => exact h.calls id stage hstage
  | task id => exact h.tasks id stage (stageOf_task hstage)

theorem Unprepared.endTask (h : Unprepared c) (id : Nat) : Unprepared (endTask c id) :=
  h.of_dicts h.down (fun _ _ hid => hid) fun _ _ hid => Dict.get?_of_pop hid

theorem Unprepared.listenTop (h : Unprepared c) (id : Nat) : Unprepared (listenTop c id) := by
  unfold Ws.listenTop
  rw [h.down]
  exact h.endTask id

theorem Unprepared.pauseTop (h : Unprepared c) (id : Nat) (kind : LoopKind) :
    Unprepared (pauseTop c id kind) := by
  unfold Ws.pauseTop
  rw [h.down]
  exact h.endTask id

theorem Unprepared.leaveConnect (h : Unprepared c) (caller : Caller) :
    Unprepared (leaveConnect c caller) := by
  cases caller with
  | call id => exact h.of_dicts h.down (fun _ _ hid => Dict.get?_of_pop hid) fun _ _ hid => hid
  | task id => exact h.listenTop id

theorem Unprepared.startDisconnect (h : Unprepared c) : Unprepared (startDisconnect c) := by
  have hlive : ∀ id task, (c.live.without (storedTasks c)).get? id = some task →
      c.live.get? id = some task := by
    intro id task hid
    rw [Dict.get?_without] at hid
    split_ifs at hid
    exact hid
  unfold Ws.startDisconnect
  cases c.ws with
  | none => exact h.of_dicts rfl (fun _ _ hid => hid) hlive
  | some w => exact h.of_dicts rfl (fun _ _ hid => hid) hlive

/-- Only a `connect()` that has its token goes on. -/
theorem Unprepared.step {l : Label} (h : Unprepared c) (hstep : step r c l = some c')
    (hfetch : fetchEnd c l ≠ .connect true) : Unprepared c' := by
  cases step_move hstep with
  | connect =>
      refine ⟨h.down, fun id stage hid => ?_, h.tasks⟩
      simp only [Dict.get?_set] at hid
      split_ifs at hid
      · cases hid
        rfl
      · exact h.calls id stage hid
  | connectFails hstage => exact h.leaveConnect _
  | prepared hstage => simp [fetchEnd, hstage] at hfetch
  | opened hstage => cases h.stage hstage
  | loggedIn hstage => cases h.stage hstage
  | disconnect => exact h.startDisconnect
  | closed hid => exact h.of_dicts h.down (fun _ _ hid => hid) fun _ _ hid => hid
  | listenStarts hid => exact h.listenTop _
  | pauseStarts hid hkind => exact h.pauseTop _ _
  | readEnds hid hclosed => exact h.listenTop _
  | readFails hid hclosed hconnected =>
      rw [h.down] at hconnected
      cases hconnected
  | listenLeaves hid hclosed hconnected => exact h.endTask _
  | @reconnects id hid =>
      refine ⟨h.down, h.calls, fun id' stage hid' => ?_⟩
      simp only [setPhase, Dict.get?_set] at hid'
      split_ifs at hid'
      · cases hid'
        rfl
      · exact h.tasks id' stage hid'
  | @intervalEnds id kind hid hkind =>
      have htop : afterInterval c id kind = Ws.pauseTop c id kind := by
        simp [afterInterval, h.down]
      rw [htop]
      exact h.pauseTop id kind
  | actionEnds hid hkind => exact h.pauseTop _ _
  | socketFails hopen => exact h.of_dicts h.down (fun _ _ hid => hid) fun _ _ hid => hid

end Unprepared

/-! ## What the log says -/

/-- The token that was fetched last, and by whom. -/
def lastToken (log : List TokenEntry) : Option (Nat × String) :=
  (log.filterMap fun
    | .token i token => some (i, token)
    | _ => none).getLast?

/-- A connector has fetched a token. -/
def Fetched (log : List TokenEntry) (i : Nat) : Prop :=
  ∃ token, .token i token ∈ log

/-- A connector opens its URL with its own token.  A frame carries the last token of all, which may
be another connector's, and only connectors that have fetched one send frames. -/
def EntryFits (auth : TokenFetchAuth) (urls : Nat → String) (before : List TokenEntry) :
    TokenEntry → Prop
  | .token _ _ => True
  | .opens i url =>
      ∃ token, lastToken before = some (i, token) ∧ url = auth.preparedUrl (urls i) token
  | .frame i message frame =>
      Fetched before i ∧ ∃ j token, lastToken before = some (j, token) ∧
        frame = auth.transformOutgoing (some token) message

/-- Every entry of the log fits what comes before it. -/
def LogFits (auth : TokenFetchAuth) (urls : Nat → String) (log : List TokenEntry) : Prop :=
  ∀ before entry after, log = before ++ entry :: after → EntryFits auth urls before entry

variable {prim : Primitives} {auth : TokenFetchAuth} {urls : Nat → String} {r : Bool}
  {s s' : TokenState}

theorem LogFits.concat {log : List TokenEntry} {entry : TokenEntry} (h : LogFits auth urls log)
    (hentry : EntryFits auth urls log entry) : LogFits auth urls (log ++ [entry]) := by
  intro before entry' after heq
  rcases List.eq_nil_or_concat' after with rfl | ⟨after, last, rfl⟩
  · obtain ⟨rfl, hlast⟩ := List.append_inj' heq rfl
    cases hlast
    exact hentry
  · rw [← List.cons_append, ← List.append_assoc] at heq
    obtain ⟨hlog, -⟩ := List.append_inj' heq rfl
    exact h before entry' after hlog

theorem Fetched.mono {log log' : List TokenEntry} {i : Nat} (h : Fetched log i)
    (hmono : ∀ entry ∈ log, entry ∈ log') : Fetched log' i := by
  obtain ⟨token, hmem⟩ := h
  exact ⟨token, hmono _ hmem⟩

theorem exists_lastToken {log : List TokenEntry} {i : Nat} (h : Fetched log i) :
    ∃ j token, lastToken log = some (j, token) := by
  obtain ⟨token, hmem⟩ := h
  have hsome : (lastToken log).isSome = true := by
    unfold lastToken
    rw [List.getLast?_isSome]
    exact List.ne_nil_of_mem (List.mem_filterMap.2 ⟨_, hmem, rfl⟩)
  obtain ⟨⟨j, token⟩, hlast⟩ := Option.isSome_iff_exists.1 hsome
  exact ⟨j, token, hlast⟩

/-- The token that is kept is the last one, and who has none is not connected. -/
structure TokenInv (auth : TokenFetchAuth) (urls : Nat → String) (s : TokenState) : Prop where
  token : s.token = (lastToken s.log).map Prod.snd
  fetched : ∀ i, Fetched s.log i ∨ Unprepared (s.connectors i)
  fits : LogFits auth urls s.log

theorem TokenInv.keep (h : TokenInv auth urls s) (i : Nat) (token : String) :
    TokenInv auth urls (s.keep i token) where
  token := by simp [TokenState.keep, lastToken]
  fetched i' := (h.fetched i').imp_left fun hi' => hi'.mono fun _ hmem =>
    List.mem_append_left _ hmem
  fits := h.fits.concat trivial

/-- A connector that has its token moves. -/
theorem TokenInv.moved (h : TokenInv auth urls s) {i : Nat} {c : Connector}
    (hi : Fetched s.log i ∨ Unprepared c) :
    TokenInv auth urls { s with connectors := Function.update s.connectors i c } where
  token := h.token
  fetched i' := by
    by_cases heq : i' = i
    · subst heq
      simpa using hi
    · simpa [heq] using h.fetched i'
  fits := h.fits

theorem TokenInv.opens (h : TokenInv auth urls s) {i : Nat} {token url : String}
    (hlast : lastToken s.log = some (i, token)) (hurl : url = auth.preparedUrl (urls i) token) :
    TokenInv auth urls { s with log := s.log ++ [.opens i url] } where
  token := by simpa [lastToken] using h.token
  fetched i' := (h.fetched i').imp_left fun hi' => hi'.mono fun _ hmem =>
    List.mem_append_left _ hmem
  fits := h.fits.concat ⟨token, hlast, hurl⟩

theorem TokenInv.send (h : TokenInv auth urls s) (i : Nat) (message : Dict String PyValue) :
    TokenInv auth urls (s.send auth i message) := by
  unfold TokenState.send
  split_ifs with hready
  · simp only [Bool.and_eq_true] at hready
    have hfetched : Fetched s.log i := by
      refine (h.fetched i).resolve_right fun hnone => ?_
      rw [hnone.down] at hready
      cases hready.1
    obtain ⟨j, token, hlast⟩ := exists_lastToken hfetched
    have htoken : s.token = some token := by rw [h.token, hlast, Option.map_some]
    refine ⟨by simpa [lastToken] using h.token, fun i' => ?_, h.fits.concat ?_⟩
    · exact (h.fetched i').imp_left fun hi' => hi'.mono fun _ hmem => List.mem_append_left _ hmem
    · exact ⟨hfetched, j, token, hlast, by rw [htoken]⟩
  · exact h

theorem TokenInv.step {l : TokenLabel} (h : TokenInv auth urls s)
    (hstep : tokenStep prim auth urls r s l = some s') : TokenInv auth urls s' := by
  cases l with
  | send i message =>
      cases hstep
      exact h.send i message
  | moves i l answer =>
      obtain ⟨c, hc, hfetch⟩ := Option.bind_eq_some_iff.1 hstep
      have hstays : fetchEnd (s.connectors i) l ≠ .connect true →
          TokenInv auth urls { s with connectors := Function.update s.connectors i c } :=
        fun hend => h.moved ((h.fetched i).imp_right fun hi => hi.step hc hend)
      generalize fetchedToken prim auth answer = token at hfetch
      cases hend : fetchEnd (s.connectors i) l with
      | none =>
          rw [hend] at hfetch hstays
          cases hfetch
          exact hstays (by simp)
      | refresh =>
          rw [hend] at hfetch hstays
          cases token with
          | none =>
              cases hfetch
              exact hstays (by simp)
          | some token =>
              cases hfetch
              exact (hstays (by simp)).keep i token
      | connect ok =>
          rw [hend] at hfetch hstays
          cases token with
          | none =>
              cases ok with
              | true => cases hfetch
              | false =>
                  cases hfetch
                  exact hstays (by simp)
          | some token =>
              cases ok with
              | false => cases hfetch
              | true =>
                  cases hfetch
                  have hkept := h.keep i token
                  have hown : Fetched (s.log ++ [.token i token]) i := ⟨token, by simp⟩
                  have hlast : lastToken (s.log ++ [.token i token]) = some (i, token) := by
                    simp [lastToken]
                  exact TokenInv.opens (hkept.moved (Or.inl hown)) hlast rfl

/-- In every run of connectors that share a token, each opens its URL with the token it has just
fetched, none sends a frame before it has fetched one, and a frame carries the last token that any
of them has fetched. -/
theorem frames_carry_tokens (prim : Primitives) (auth : TokenFetchAuth) (urls : Nat → String)
    (refreshEnabled : Bool) {s : TokenState}
    (hs : (tokenMachine prim auth urls refreshEnabled).Reachable s) : LogFits auth urls s.log := by
  have hinit : TokenInv auth urls (tokenMachine prim auth urls refreshEnabled).init :=
    ⟨rfl, fun _ => Or.inr unprepared_init, fun before entry after heq => by
      cases before <;> cases heq⟩
  exact ((tokenMachine prim auth urls refreshEnabled).invariant_reachable hinit
    (fun _ _ _ h hstep => h.step hstep) hs).fits

/-- Two connectors whose auth models come from the same template fetch a token each, and then the
first one sends a message. -/
def sharedTokenRun : List TokenLabel :=
  [.moves 0 .connect none,
    .moves 0 (.connectResumes (.call 0) true)
      (some (.dict [("result", .dict [("token", .str "first")])])),
    .moves 0 (.connectResumes (.call 0) true) none,
    .moves 1 .connect none,
    .moves 1 (.connectResumes (.call 0) true)
      (some (.dict [("result", .dict [("token", .str "second")])])),
    .send 0 (Dict.ofList [("event", .str "subscribe")])]

/-- The text of the token in a frame of a connector. -/
def sentToken? (i : Nat) : TokenEntry → Option String
  | .frame j _ frame => if j = i then (frame.get? "token").bind PyValue.asStr? else none
  | _ => none

/-- The message of the first connector carries the token of the second. -/
theorem frames_carry_tokens_shared : ∃ s,
    (tokenMachine tokenPrimitives krakenPrivateWsAuth (fun _ => "wss://ws-auth.kraken.com")
      false).run ⟨fun _ => .init, none, []⟩ sharedTokenRun = some s ∧
    s.log.filterMap (sentToken? 0) = ["second"] ∧
    LogFits krakenPrivateWsAuth (fun _ => "wss://ws-auth.kraken.com") s.log := by
  have hrun : ((tokenMachine tokenPrimitives krakenPrivateWsAuth
      (fun _ => "wss://ws-auth.kraken.com") false).run ⟨fun _ => .init, none, []⟩
        sharedTokenRun).map (fun s => s.log.filterMap (sentToken? 0)) = some ["second"] := by
    decide +kernel
  obtain ⟨s, hs, hsent⟩ := Option.map_eq_some_iff.1 hrun
  exact ⟨s, hs, hsent, frames_carry_tokens _ _ _ _ ⟨sharedTokenRun, hs⟩⟩

end Ws
end MarketConnector
