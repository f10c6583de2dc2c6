import MarketConnector.Foundations.Transitions
import MarketConnector.Transport.SignedRequests

/-!
# Transport - Counter nonces on the wire

Concurrent `request()` calls through one client whose signer draws its nonces from a
counter.  A call signs and transmits without an await in between, so first transmissions
leave in the order of their nonces.  A retry after a 5xx transmits the signed request
again, after others may have signed and sent.

Main results:

- Definition `connectorMachine`: the calls, run from await to await.
- Theorem `connectorStep_move`: what one step puts on the wire.
- Theorem `nonces_increasing_iff`: the runs whose nonces increase.
- Theorem `retried_nonce_goes_back`: a retry that another call overtakes.
-/

namespace MarketConnector
namespace Transport

open Foundations Auth

variable {L Charge : Type}

/-! ## The calls of a client -/

/-- The fields of a signer whose nonces are counted. -/
structure CounterSigner where
  prim : Primitives
  spec : HmacSigningSpec
  creds : Credentials
  counted : spec.nonce.source = .counter

/-- Await a `request()` call is suspended in: the reservation, the HTTP client, the sleep
before a retry. -/
inductive CallPhase where
  | reserving
  | awaiting (call : HttpCall) (nonce : Option Nat) (attempt : Nat)
  | sleeping (call : HttpCall) (nonce : Option Nat) (attempt : Nat)

/-- The nonce of the signed request a call holds. -/
def CallPhase.nonce : CallPhase → Option Nat
  | .reserving => none
  | .awaiting _ nonce _ => nonce
  | .sleeping _ nonce _ => nonce

structure PendingCall where
  args : CallArgs
  endpoint : Endpoint
  resolvedPath : String
  phase : CallPhase

/-- The signer's counter, the calls in progress, and what was handed to the HTTP client,
each time with the counter nonce it was signed with. -/
structure Connector where
  counter : Nat
  calls : Dict Nat PendingCall
  next : Nat
  wire : List (HttpCall × Option Nat)

def Connector.init : Connector where
  counter := 0
  calls := ∅
  next := 0
  wire := []

inductive CallLabel where
  /-- `request()` is called and runs up to the reservation -/
  | call (args : CallArgs)
  /-- the reservation returns; the timestamp is drawn -/
  | reserved (id : Nat) (ts : String)
  /-- the HTTP client returns a reply -/
  | replied (id : Nat) (reply : HttpReply)
  /-- the sleep before a retry ends -/
  | slept (id : Nat)
  /-- the await of a call raises or is cancelled -/
  | aborted (id : Nat)

/-- `active_signer.sign`: the counter after it, and the signed request with its counter
nonce.  A per-call signer brings nonces of its own. -/
def signCall (signer : CounterSigner) (counter : Nat) (ts : String) (override : Option Signer)
    (unsigned : Request) : Nat × Option (Request × Option Nat) :=
  match override with
  | some sign =>
      match sign unsigned with
      | .returned req => (counter, some (req, none))
      | .raised _ => (counter, none)
      | .cancelled => (counter, none)
  | none =>
      let nonce := counter + 1
      match signHmac signer.prim signer.spec signer.creds ts (toString nonce) unsigned with
      | .ok req => (nonce, some (req, some nonce))
      | .error _ => (nonce, none)

/-- A call hands its request to the HTTP client. -/
def transmit (s : Connector) (id : Nat) (pending : PendingCall) (call : HttpCall)
    (nonce : Option Nat) (attempt : Nat) : Connector :=
  { s with
    calls := s.calls.set id { pending with phase := .awaiting call nonce attempt }
    wire := s.wire ++ [(call, nonce)] }

/-- A call returns or raises. -/
def endCall (s : Connector) (id : Nat) : Connector :=
  { s with calls := s.calls.pop id }

/-- From the reservation to the first HTTP call. -/
def signAndSend (env : Env L Charge) (client : Client) (signer : CounterSigner) (s : Connector)
    (id : Nat) (pending : PendingCall) (ts : String) : Connector :=
  match bodyStr env pending.args with
  | .error _ => endCall s id
  | .ok body =>
      let unsigned :=
        unsignedRequest client pending.args pending.endpoint pending.resolvedPath body
      match signCall signer s.counter ts pending.args.signer unsigned with
      | (counter, none) => endCall { s with counter := counter } id
      | (counter, some (req, nonce)) =>
          let s := { s with counter := counter }
          if 0 ≤ client.maxRetries then
            transmit s id pending (httpCall client pending.args pending.resolvedPath body req)
              nonce 0
          else endCall s id

/-- A reply ends the call, unless it is a 5xx and a retry is left. -/
def receive (client : Client) (s : Connector) (id : Nat) (pending : PendingCall)
    (call : HttpCall) (nonce : Option Nat) (attempt : Nat) (reply : HttpReply) : Connector :=
  if 500 ≤ reply.statusCode ∧ (attempt : Int) < client.maxRetries then
    { s with calls := s.calls.set id { pending with phase := .sleeping call nonce attempt } }
  else endCall s id

/-- `request()` up to the reservation. -/
def startCall (env : Env L Charge) (client : Client) (s : Connector) (args : CallArgs) :
    Connector :=
  match client.endpoints.get? args.endpointName with
  | none => s
  | some endpoint =>
      match resolvePath env.reprText endpoint args.pathParams with
      | .error _ => s
      | .ok resolvedPath =>
          { s with
            calls := s.calls.set s.next ⟨args, endpoint, resolvedPath, .reserving⟩
            next := s.next + 1 }

/-- One step: a call runs from one await to the next. -/
def connectorStep (env : Env L Charge) (client : Client) (signer : CounterSigner)
    (s : Connector) : CallLabel → Option Connector
  | .call args => some (startCall env client s args)
  | .reserved id ts =>
      match s.calls.get? id with
      | some ⟨args, endpoint, resolvedPath, .reserving⟩ =>
          some (signAndSend env client signer s id ⟨args, endpoint, resolvedPath, .reserving⟩ ts)
      | _ => none
  | .replied id reply =>
      match s.calls.get? id with
      | some ⟨args, endpoint, resolvedPath, .awaiting call nonce attempt⟩ =>
          some (receive client s id
            ⟨args, endpoint, resolvedPath, .awaiting call nonce attempt⟩ call nonce attempt reply)
      | _ => none
  | .slept id =>
      match s.calls.get? id with
      | some ⟨args, endpoint, resolvedPath, .sleeping call nonce attempt⟩ =>
          some (transmit s id
            ⟨args, endpoint, resolvedPath, .sleeping call nonce attempt⟩ call nonce (attempt + 1))
      | _ => none
  | .aborted id => if s.calls.contains id then some (endCall s id) else none

/-- The calls through one client. -/
def connectorMachine (env : Env L Charge) (client : Client) (signer : CounterSigner) :
    Machine Connector CallLabel where
  init := .init
  step := connectorStep env client signer

/-- Counter nonces in the order of transmission. -/
def counterNonces (s : Connector) : List Nat :=
  s.wire.filterMap Prod.snd

/-! ## The property -/

/-- The nonces on the wire are strictly increasing. -/
def NoncesIncrease (s : Connector) : Prop :=
  (counterNonces s).Pairwise (· < ·)

/-- The step does not transmit a request signed with a counter nonce a second time. -/
def SendsOnce (s : Connector) : CallLabel → Prop
  | .slept id => ∀ pending, s.calls.get? id = some pending → pending.phase.nonce = none
  | .call _ | .reserved _ _ | .replied _ _ | .aborted _ => True

/-! ## What a step puts on the wire -/

/-- Calls of the second state hold signed requests of the first. -/
def KeepsRequests (s s' : Connector) : Prop :=
  ∀ id pending n, s'.calls.get? id = some pending → pending.phase.nonce = some n →
    ∃ pending', s.calls.get? id = some pending' ∧ pending'.phase.nonce = some n

/-- The moves of the client: nothing is sent, a request is signed and sent, or a signed
request is sent again. -/
inductive ConnectorMove (s : Connector) : CallLabel → Connector → Prop where
  | quiet {l : CallLabel} {s' : Connector} (hsends : SendsOnce s l)
      (hcounter : s.counter ≤ s'.counter) (hwire : counterNonces s' = counterNonces s)
      (hkeeps : KeepsRequests s s') :
      ConnectorMove s l s'
  | first {id : Nat} {ts : String} {s' : Connector} (hcounter : s'.counter = s.counter + 1)
      (hwire : counterNonces s' = counterNonces s ++ [s.counter + 1])
      (hkeeps : ∀ id' pending n, s'.calls.get? id' = some pending →
        pending.phase.nonce = some n → n = s.counter + 1 ∨
          ∃ pending', s.calls.get? id' = some pending' ∧ pending'.phase.nonce = some n) :
      ConnectorMove s (.reserved id ts) s'
  | again {id n : Nat} {pending : PendingCall} {s' : Connector}
      (hid : s.calls.get? id = some pending) (hnonce : pending.phase.nonce = some n)
      (hcounter : s'.counter = s.counter) (hwire : counterNonces s' = counterNonces s ++ [n])
      (hkeeps : KeepsRequests s s') : ConnectorMove s (.slept id) s'

theorem KeepsRequests.refl {s s' : Connector} (h : s'.calls = s.calls) : KeepsRequests s s' := by
  intro id pending n hid hnonce
  rw [h] at hid
  exact ⟨pending, hid, hnonce⟩

theorem KeepsRequests.pop {s s' : Connector} {id : Nat} (h : s'.calls = s.calls.pop id) :
    KeepsRequests s s' := by
  intro id' pending n hid hnonce
  rw [h, Dict.get?_pop] at hid
  split_ifs at hid
  exact ⟨pending, hid, hnonce⟩

/-- A call whose phase changes holds the request it held before, or none. -/
theorem KeepsRequests.set {s s' : Connector} {id : Nat} {after : PendingCall}
    (h : s'.calls = s.calls.set id after)
    (hid : ∀ n, after.phase.nonce = some n →
      ∃ before, s.calls.get? id = some before ∧ before.phase.nonce = some n) :
    KeepsRequests s s' := by
  intro id' pending n hid' hnonce
  rw [h, Dict.get?_set] at hid'
  split_ifs at hid' with heq
  · subst heq
    cases hid'
    exact hid n hnonce
  · exact ⟨pending, hid', hnonce⟩

theorem counterNonces_transmit (s : Connector) (id : Nat) (pending : PendingCall)
    (call : HttpCall) (nonce : Option Nat) (attempt : Nat) :
    counterNonces (transmit s id pending call nonce attempt) =
      counterNonces s ++ nonce.toList := by
  cases nonce <;> simp [counterNonces, transmit]

/-- What the signer returns: a request with the next nonce, or one that has none. -/
theorem signCall_cases (signer : CounterSigner) (counter : Nat) (ts : String)
    (override : Option Signer) (unsigned : Request) {counter' : Nat}
    {signed : Option (Request × Option Nat)}
    (h : signCall signer counter ts override unsigned = (counter', signed)) :
    (counter ≤ counter' ∧ ∀ req n, signed ≠ some (req, some n)) ∨
      (counter' = counter + 1 ∧ ∃ req, signed = some (req, some (counter + 1))) := by
  unfold signCall at h
  cases override with
  | some sign =>
      left
      cases hsign : sign unsigned <;> simp only [hsign, Prod.mk.injEq] at h <;>
        obtain ⟨rfl, rfl⟩ := h <;> simp
  | none =>
      cases hsign : signHmac signer.prim signer.spec signer.creds ts (toString (counter + 1))
          unsigned with
      | ok req =>
          simp only [hsign, Prod.mk.injEq] at h
          exact Or.inr ⟨h.1.symm, req, h.2.symm⟩
      | error e =>
          simp only [hsign, Prod.mk.injEq] at h
          obtain ⟨rfl, rfl⟩ := h
          exact Or.inl ⟨Nat.le_succ _, by simp⟩

/-- Signing and the first transmission. -/
theorem signAndSend_move (env : Env L Charge) (client : Client) (signer : CounterSigner)
    (s : Connector) (id : Nat) (pending : PendingCall) (ts : String) :
    ConnectorMove s (.reserved id ts) (signAndSend env client signer s id pending ts) := by
  unfold signAndSend
  cases bodyStr env pending.args with
  | error e => exact .quiet trivial (Nat.le_refl _) rfl (.pop rfl)
  | ok body =>
      simp only
      split
      · rename_i counter hsigned
        have hcounter : s.counter ≤ counter := by
          rcases signCall_cases _ _ _ _ _ hsigned with ⟨h, -⟩ | ⟨-, req, h⟩
          · exact h
          · cases h
        exact .quiet trivial hcounter rfl (.pop rfl)
      · rename_i counter req nonce hsigned
        rcases signCall_cases _ _ _ _ _ hsigned with ⟨hcounter, hnone⟩ | ⟨hcounter, req', h⟩
        · obtain rfl : nonce = none := by
            cases nonce with
            | none => rfl
            | some n => exact absurd rfl (hnone req n)
          split_ifs
          · refine .quiet trivial hcounter ?_ (.set rfl (by simp [CallPhase.nonce]))
            rw [counterNonces_transmit]
            exact List.append_nil _
          · exact .quiet trivial hcounter rfl (.pop rfl)
        · cases h
          split_ifs
          · refine .first hcounter ?_ ?_
            · rw [counterNonces_transmit]
              rfl
            · intro id' pending' n hid' hnonce
              simp only [transmit, Dict.get?_set] at hid'
              split_ifs at hid' with heq
              · cases hid'
                simp only [CallPhase.nonce, Option.some.injEq] at hnonce
                exact Or.inl hnonce.symm
              · exact Or.inr ⟨pending', hid', hnonce⟩
          · exact .quiet trivial (hcounter ▸ Nat.le_succ _) rfl (.pop rfl)

/-- Every step is a move. -/
theorem connectorStep_move {env : Env L Charge} {client : Client} {signer : CounterSigner}
    {s s' : Connector} {l : CallLabel} (hstep : connectorStep env client signer s l = some s') :
    ConnectorMove s l s' := by
  cases l with
  | call args =>
      cases hstep
      unfold startCall
      cases client.endpoints.get? args.endpointName with
      | none => exact .quiet trivial (Nat.le_refl _) rfl (.refl rfl)
      | some endpoint =>
          simp only
          cases resolvePath env.reprText endpoint args.pathParams with
          | error e => exact .quiet trivial (Nat.le_refl _) rfl (.refl rfl)
          | ok resolvedPath =>
              exact .quiet trivial (Nat.le_refl _) rfl (.set rfl (by simp [CallPhase.nonce]))
  | reserved id ts =>
      simp only [connectorStep] at hstep
      split at hstep
      · cases hstep
        exact signAndSend_move env client signer s id _ ts
      · cases hstep
  | replied id reply =>
      simp only [connectorStep] at hstep
      split at hstep
      · rename_i args endpoint resolvedPath call nonce attempt hid
        cases hstep
        unfold receive
        split_ifs
        · exact .quiet trivial (Nat.le_refl _) rfl (.set rfl fun n hn => ⟨_, hid, hn⟩)
        · exact .quiet trivial (Nat.le_refl _) rfl (.pop rfl)
      · cases hstep
  | slept id =>
      simp only [connectorStep] at hstep
      split at hstep
      · rename_i args endpoint resolvedPath call nonce attempt hid
        cases hstep
        have hkeeps : KeepsRequests s (transmit s id
            ⟨args, endpoint, resolvedPath, .sleeping call nonce attempt⟩ call nonce
            (attempt + 1)) :=
          .set rfl fun n hn => ⟨_, hid, hn⟩
        cases nonce with
        | none =>
            refine .quiet (fun pending hid' => ?_) (Nat.le_refl _)
              (by simp [counterNonces_transmit]) hkeeps
            cases hid.symm.trans hid'
            rfl
        | some n =>
            exact .again hid rfl rfl (by simp [counterNonces_transmit]) hkeeps
      · cases hstep
  | aborted id =>
      simp only [connectorStep] at hstep
      split_ifs at hstep
      cases hstep
      exact .quiet trivial (Nat.le_refl _) rfl (.pop rfl)

/-! ## Runs -/

/-- The nonces on the wire have been drawn from the counter, and a call that holds a signed
request has sent it. -/
structure NoncesDrawn (s : Connector) : Prop where
  drawn : ∀ n ∈ counterNonces s, n ≤ s.counter
  sent : ∀ id pending n, s.calls.get? id = some pending → pending.phase.nonce = some n →
    n ∈ counterNonces s

theorem noncesDrawn_init : NoncesDrawn .init := by
  refine ⟨by simp [counterNonces, Connector.init], fun id pending n hid => ?_⟩
  cases hid

/-- Every step sends nonces that the counter has reached. -/
theorem NoncesDrawn.step {env : Env L Charge} {client : Client} {signer : CounterSigner}
    {s s' : Connector} {l : CallLabel} (h : NoncesDrawn s)
    (hstep : connectorStep env client signer s l = some s') : NoncesDrawn s' := by
  cases connectorStep_move hstep with
  | quiet hsends hcounter hwire hkeeps =>
      refine ⟨fun n hn => ?_, fun id pending n hid hnonce => ?_⟩
      · rw [hwire] at hn
        exact (h.drawn n hn).trans hcounter
      · obtain ⟨pending', hid', hnonce'⟩ := hkeeps id pending n hid hnonce
        rw [hwire]
        exact h.sent id pending' n hid' hnonce'
  | first hcounter hwire hkeeps =>
      refine ⟨fun n hn => ?_, fun id pending n hid hnonce => ?_⟩
      · rw [hwire, List.mem_append, List.mem_singleton] at hn
        rw [hcounter]
        rcases hn with hn | rfl
        · exact (h.drawn n hn).trans (Nat.le_succ _)
        · exact Nat.le_refl _
      · rw [hwire, List.mem_append, List.mem_singleton]
        rcases hkeeps id pending n hid hnonce with rfl | ⟨pending', hid', hnonce'⟩
        · exact Or.inr rfl
        · exact Or.inl (h.sent id pending' n hid' hnonce')
  | again hid hnonce hcounter hwire hkeeps =>
      have hbefore := h.sent _ _ _ hid hnonce
      refine ⟨fun n hn => ?_, fun id pending n hid hnonce => ?_⟩
      · rw [hwire, List.mem_append, List.mem_singleton] at hn
        rw [hcounter]
        rcases hn with hn | rfl
        · exact h.drawn n hn
        · exact h.drawn n hbefore
      · obtain ⟨pending', hid', hnonce'⟩ := hkeeps id pending n hid hnonce
        rw [hwire, List.mem_append]
        exact Or.inl (h.sent id pending' n hid' hnonce')

/-- A step keeps the nonces increasing exactly when it sends nothing twice. -/
theorem noncesIncrease_step_iff {env : Env L Charge} {client : Client} {signer : CounterSigner}
    {s s' : Connector} {l : CallLabel} (hdrawn : NoncesDrawn s) (h : NoncesIncrease s)
    (hstep : connectorStep env client signer s l = some s') :
    NoncesIncrease s' ↔ SendsOnce s l := by
  unfold NoncesIncrease at h ⊢
  cases connectorStep_move hstep with
  | quiet hsends hcounter hwire hkeeps =>
      rw [hwire]
      exact iff_of_true h hsends
  | first hcounter hwire hkeeps =>
      refine iff_of_true ?_ trivial
      rw [hwire, List.pairwise_append]
      refine ⟨h, List.pairwise_singleton _ _, fun n hn m hm => ?_⟩
      rw [List.mem_singleton] at hm
      have hle := hdrawn.drawn n hn
      omega
  | @again id n pending _ hid hnonce hcounter hwire hkeeps =>
      -- the nonce is on the wire already
      have hbefore := hdrawn.sent id pending n hid hnonce
      refine iff_of_false ?_ fun hsends => ?_
      · rw [hwire, List.pairwise_append]
        rintro ⟨-, -, hlater⟩
        exact Nat.lt_irrefl n (hlater n hbefore n (List.mem_singleton_self n))
      · cases hnonce.symm.trans (hsends pending hid)

/-- The nonces on the wire increase in every state of a run exactly when no step of it sends
a request with a counter nonce a second time. -/
theorem nonces_increasing_iff (env : Env L Charge) (client : Client) (signer : CounterSigner)
    (ls : List CallLabel) :
    (connectorMachine env client signer).AllStates NoncesIncrease .init ls ↔
      (connectorMachine env client signer).AllSteps SendsOnce .init ls := by
  have hkept : ∀ s l s', (NoncesDrawn s ∧ NoncesIncrease s) → SendsOnce s l →
      (connectorMachine env client signer).step s l = some s' →
        NoncesDrawn s' ∧ NoncesIncrease s' := fun s l s' h hsends hstep =>
    ⟨h.1.step hstep, (noncesIncrease_step_iff h.1 h.2 hstep).2 hsends⟩
  refine Machine.allStates_iff_allSteps _ hkept (fun _ h => h.2) ?_
    ⟨noncesDrawn_init, List.Pairwise.nil⟩
  intro s l s' h hstep hincrease
  exact (noncesIncrease_step_iff h.1 h.2 hstep).1 hincrease

/-! ## A retry that is overtaken -/

/-- A signer with Kraken's spec. -/
def krakenCounterSigner : CounterSigner where
  prim := transparent
  spec := krakenHmacSpec
  creds := plainCredentials
  counted := rfl

/-- A reply with status 503. -/
def unavailableReply : HttpReply where
  statusCode := 503
  header _ := none
  text := ""
  content := ByteArray.empty
  json := .error ""

/-- The first call is answered 503 and sleeps, a second call signs and sends, and the first
sends its nonce again. -/
theorem retried_nonce_goes_back :
    ∃ s, (connectorMachine emptyReplies krakenClient krakenCounterSigner).run .init
        [.call krakenOrder, .reserved 0 "7", .replied 0 unavailableReply, .call krakenOrder,
          .reserved 1 "8", .slept 0] = some s ∧
      counterNonces s = [1, 2, 1] ∧
      ¬ (connectorMachine emptyReplies krakenClient krakenCounterSigner).AllStates
        NoncesIncrease .init
        [.call krakenOrder, .reserved 0 "7", .replied 0 unavailableReply, .call krakenOrder,
          .reserved 1 "8", .slept 0] := by
  refine ⟨_, rfl, rfl, fun h => ?_⟩
  have hlast := (((((h.2 _ rfl).2 _ rfl).2 _ rfl).2 _ rfl).2 _ rfl).2 _ rfl
  have hback : ([1, 2, 1] : List Nat).Pairwise (· < ·) := hlast
  revert hback
  decide

end Transport
end MarketConnector
