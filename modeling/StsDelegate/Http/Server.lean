import StsDelegate.Http.Online
import StsDelegate.Lib.Pool

/-!
# The server

The handlers put to work. `machine` answers their calls from the two stores and
from a **tick**, what the surroundings supply at that moment: the clock, a fresh
token id, and the randomness of a signature. Over it

* `serve` runs one request to its end,
* `serveAll` runs requests one after another, and
* `ServerPool` is any number of requests in flight, interleaved call by call.

Clock readings are seconds since the epoch, so they are not negative.
-/

namespace StsDelegate

open Text Effectful

/-! ### The revocation set -/

/-- `RevocationState`: revocation keys with the expiry of their tokens. -/
abbrev Revoked : Type := ExpiryMap String Int64

/-- `sweep_revoked`. -/
def sweepRevoked (revoked : Revoked) (now : Int64) : Revoked := ExpiryMap.sweep now revoked

variable [Crates]

def revocationKey (token : String) : String :=
  hexLower (Crates.sha256 (asBytes "sts-revocation-v1" ++ [0] ++ asBytes token))

/-- Different tokens have different keys, if different texts have different digests. -/
theorem revocationKey_injective (hsha : Function.Injective Crates.sha256) :
    Function.Injective revocationKey := by
  intro token token' h
  exact asBytes_injective (List.append_cancel_left (hsha (hexLower_injective h)))

/-- `RevocationState::revoke`. -/
def Revoked.revoke (revoked : Revoked) (token : String) (exp now : Int64) (maxSeen : Nat) :
    Except HttpError Unit × Revoked :=
  let swept := sweepRevoked revoked now
  let key := revocationKey token
  if key ∉ swept ∧ maxSeen ≤ ExpiryMap.size swept then
    (.error (.serviceUnavailable "revocation store full, retry shortly"), swept)
  else (.ok (), swept.insert key exp)

/-- `RevocationState::is_revoked_or_unavailable`. -/
def Revoked.isRevokedOrUnavailable (revoked : Revoked) (token : String) (now : Int64) :
    Bool × Revoked :=
  let swept := sweepRevoked revoked now
  (decide (revocationKey token ∈ swept), swept)

/-! ### Stores and ticks -/

/-- The two stores that requests share. -/
structure Stores where
  replay : InMemoryReplayStore
  revoked : Revoked

/-- The stores of a process that has just started. -/
def Stores.initial (config : RuntimeConfig) : Stores where
  replay := .new config.maxSeenJti 256
  revoked := ∅

/-- What the surroundings supply at one moment. -/
structure Tick where
  now : Int64
  jti : String
  entropy : Bytes
  now_nonneg : 0 ≤ now

/-- The machine that answers the calls of request handlers. -/
def machine (state : HttpState) : Prog.Machine sts Stores Tick where
  answer c tick stores :=
    match c with
    | .unixNow => (tick.now, stores)
    | .checkAndRecord jti exp now =>
        let r := stores.replay.checkAndRecord jti exp now
        (r.1, { stores with replay := r.2 })
    | .newJti => (tick.jti, stores)
    | .signClaims claims => (state.signer.signClaims claims tick.entropy, stores)
    | .revoke token exp now maxSeen =>
        let r := Revoked.revoke stores.revoked token exp now maxSeen
        (r.1, { stores with revoked := r.2 })
    | .isRevokedOrUnavailable token now =>
        let r := Revoked.isRevokedOrUnavailable stores.revoked token now
        (r.1, { stores with revoked := r.2 })

/-! ### Requests -/

/-- The endpoints that use the stores. -/
inductive Endpoint
  | token
  | introspect
  | revoke
  deriving DecidableEq

/-- A request. -/
structure Request where
  endpoint : Endpoint
  headers : HeaderMap
  body : Bytes

/-- A successful response. -/
inductive Reply
  | token (headers : HeaderMap) (response : TokenResponse)
  | introspection (headers : HeaderMap) (response : Json)
  | revocation (headers : HeaderMap)

/-- The handler of a request. -/
def handle (state : HttpState) (request : Request) : Handler HttpError Reply :=
  match request.endpoint with
  | .token => do
      let (headers, response) ← tokenInner request.headers state request.body
      pure (.token headers response)
  | .introspect => do
      let (headers, response) ← introspect request.headers state request.body
      pure (.introspection headers response)
  | .revoke => do
      let headers ← revoke request.headers state request.body
      pure (.revocation headers)

/-- Run one request to its end. -/
def serve (state : HttpState) (request : Request) (ticks : Nat → Tick) (stores : Stores) :
    Prog.Result sts HttpError Reply Stores :=
  (handle state request).run (machine state) ticks stores

/-- Run requests one after another; each comes with the ticks of its own calls. -/
def serveAll (state : HttpState) :
    List (Request × (Nat → Tick)) → Stores → List (Prog.Result sts HttpError Reply Stores)
  | [], _ => []
  | (request, ticks) :: rest, stores =>
      let r := serve state request ticks stores
      r :: serveAll state rest r.state

/-- Requests in flight over one pair of stores. -/
abbrev ServerPool : Type := Pool sts HttpError Reply Stores Request

/-- A whole run of a process that has just started. -/
def ServerPool.run (state : HttpState) (moves : List (Move Request Tick)) : Option ServerPool :=
  Pool.exec (machine state) (handle state) (Pool.initial (Stores.initial state.config)) moves

/-! ### The clock of a run -/

/-- The readings of the clock among completed calls, in order. -/
def readings (t : List Ev) : List Int64 :=
  t.filterMap fun ev =>
    match ev with
    | ⟨.unixNow, now⟩ => some now
    | _ => none

/-- No reading of the pool is earlier than one before it. -/
def ServerPool.ClockNondecreasing (w : ServerPool) : Prop :=
  (readings (w.log.map Prod.snd)).Pairwise (· ≤ ·)

/-- Requests served one after another are a run. -/
theorem run_sequential (state : HttpState) (requests : List (Request × (Nat → Tick))) :
    ∃ moves, ServerPool.run state moves = some (Pool.sequential (machine state) (handle state)
      (Pool.initial (Stores.initial state.config)) requests) :=
  Pool.exec_sequential _ _

theorem sequential_cons {state : HttpState} {stores stores' : Stores}
    {threads : List (Request × Handler HttpError Reply)} {log : List (Nat × Ev)}
    {request : Request} {ticks : Nat → Tick} {rest : List (Request × (Nat → Tick))}
    {outcome : Except HttpError Reply} {trace : List Ev}
    (h : serve state request ticks stores = ⟨outcome, stores', trace⟩) :
    Pool.sequential (machine state) (handle state) ⟨stores, threads, log⟩
        ((request, ticks) :: rest) =
      Pool.sequential (machine state) (handle state)
        ⟨stores', threads ++ [(request, .ofExcept outcome)],
          log ++ trace.map fun ev => (threads.length, ev)⟩ rest := by
  rw [serve] at h
  rw [Pool.sequential, h]

/-! ### What the calls can change -/

theorem machine_checkAndRecord {state : HttpState} {jti : String} {exp now : Int64} {tick : Tick}
    {stores : Stores} : (machine state).answer (.checkAndRecord jti exp now) tick stores =
      ((stores.replay.checkAndRecord jti exp now).1,
        { stores with replay := (stores.replay.checkAndRecord jti exp now).2 }) :=
  rfl

theorem machine_signClaims {state : HttpState} {claims : MintedClaims} {tick : Tick}
    {stores : Stores} : (machine state).answer (.signClaims claims) tick stores =
      (state.signer.signClaims claims tick.entropy, stores) :=
  rfl

theorem machine_revoke {state : HttpState} {token : String} {exp now : Int64} {maxSeen : Nat}
    {tick : Tick} {stores : Stores} : (machine state).answer (.revoke token exp now maxSeen) tick
      stores = ((Revoked.revoke stores.revoked token exp now maxSeen).1,
        { stores with revoked := (Revoked.revoke stores.revoked token exp now maxSeen).2 }) :=
  rfl

/-- Only the replay store's own call changes it. -/
theorem machine_replay {state : HttpState} {c : Call} {tick : Tick} {stores : Stores} :
    ((machine state).answer c tick stores).2.replay =
      match c with
      | .checkAndRecord jti exp now => (stores.replay.checkAndRecord jti exp now).2
      | _ => stores.replay := by
  cases c <;> rfl

/-- A call that reads the clock changes no store. -/
theorem machine_readsClock {state : HttpState} {c : Call} (h : ReadsClock c) {tick : Tick}
    {stores : Stores} : ((machine state).answer c tick stores).2 = stores := by
  rw [ReadsClock] at h
  subst h
  rfl

end StsDelegate
