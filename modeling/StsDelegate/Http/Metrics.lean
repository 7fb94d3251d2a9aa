import StsDelegate.Http.Server
import StsDelegate.Lib.Exposition
import StsDelegate.Lib.Observe
import StsDelegate.Lib.Tally
import Mathlib.Data.Prod.Lex
import Mathlib.Data.Bool.Basic

/-!
# Metrics

The counters of the server, `MetricsState`: what a token request does to them, and how
`GET /metrics` reads them and writes them down.

The counters are beside the two stores. Each is changed and read by itself (an atomic, or a
map behind its own mutex), so a scrape sees each counter at another moment, and requests go on
in between: `meteredMachine` answers one such access at a time. `metered_run_refines` says that
the counters make no difference to the server: whatever is answered, recorded and revoked is
what a run without them answers, records and revokes.
-/

namespace StsDelegate

open Text Effectful Prog Exposition

/-! ### The counters -/

/-- The labels of a token that was signed: the algorithm, and whether it is a fallback. -/
abbrev SigningLabel : Type := Lex (String × Bool)

/-- `MetricsState`. -/
structure MetricsState where
  exchangesMinted : UInt64 := 0
  exchangesDenied : UInt64 := 0
  denials : Tally String := .empty
  signingAlgs : Tally SigningLabel := .empty

/-- An access to the counters, or to the size of the replay store. -/
inductive MetricsCall
  | addMinted
  | addDenied
  | addDenial (error : String)
  | addSigning (label : SigningLabel)
  | loadMinted
  | loadDenied
  | cloneDenials
  | cloneSigningAlgs
  | cacheSize

abbrev MetricsCall.Answer : MetricsCall → Type
  | .addMinted => Unit
  | .addDenied => Unit
  | .addDenial _ => Unit
  | .addSigning _ => Unit
  | .loadMinted => UInt64
  | .loadDenied => UInt64
  | .cloneDenials => Tally String
  | .cloneSigningAlgs => Tally SigningLabel
  | .cacheSize => Nat

/-- The accesses to the counters. -/
abbrev counters : Signature where
  Call := MetricsCall
  Answer := MetricsCall.Answer

/-- `InMemoryReplayStore::cache_size`. -/
def InMemoryReplayStore.cacheSize (store : InMemoryReplayStore) : Nat := ExpiryMap.size store.seen

/-- What an access answers, and what it leaves. -/
def MetricsState.access (c : MetricsCall) (stores : Stores) (metrics : MetricsState) :
    c.Answer × MetricsState :=
  match c with
  | .addMinted => ((), { metrics with exchangesMinted := metrics.exchangesMinted + 1 })
  | .addDenied => ((), { metrics with exchangesDenied := metrics.exchangesDenied + 1 })
  | .addDenial error => ((), { metrics with denials := metrics.denials.bump error })
  | .addSigning label => ((), { metrics with signingAlgs := metrics.signingAlgs.bump label })
  | .loadMinted => (metrics.exchangesMinted, metrics)
  | .loadDenied => (metrics.exchangesDenied, metrics)
  | .cloneDenials => (metrics.denials, metrics)
  | .cloneSigningAlgs => (metrics.signingAlgs, metrics)
  | .cacheSize => (stores.replay.cacheSize, metrics)

/-- The accesses of a scrape, which change nothing. -/
def isRead : MetricsCall → Bool
  | .loadMinted | .loadDenied | .cloneDenials | .cloneSigningAlgs | .cacheSize => true
  | _ => false

/-- A handler that counts. -/
abbrev Metered (α : Type) : Type := Prog (sts.sum counters) HttpError α

/-- `MetricsState::record_exchange`. -/
def recordExchange {α : Type} : Except HttpError α → Metered Unit
  | .ok _ => beside (τ := counters) .addMinted
  | .error err =>
      beside (τ := counters) .addDenied >>= fun _ =>
        match err.error with
        | some error => beside (τ := counters) (.addDenial error)
        | none => pure ()

def SigningDecision.label (decision : SigningDecision) : SigningLabel :=
  toLex (decision.alg, decision.pqcFallback)

/-- `MetricsState::record_signing`. -/
def recordSigning (decision : SigningDecision) : Metered Unit :=
  beside (τ := counters) (.addSigning decision.label)

/-! ### The text -/

/-- What one scrape has read. -/
structure MetricsReport where
  replayCacheSize : Nat
  minted : UInt64
  denied : UInt64
  denials : Tally String
  signingAlgs : Tally SigningLabel

/-- `str::replace` of one character. -/
def replaceChar (c : Char) (by' : List Char) (cs : List Char) : List Char :=
  cs.flatMap fun d => if d = c then by' else [d]

def escapePrometheusLabel (value : String) : String :=
  String.ofList (replaceChar '\n' ['\\', 'n'] (replaceChar '"' ['\\', '"']
    (replaceChar '\\' ['\\', '\\'] value.toList)))

/-- `{}` of a counter. -/
def display (n : Nat) : String := String.ofList (Decimal.displayNat n)

def displayBool (b : Bool) : String := if b then "true" else "false"

/-- What `MetricsState::render` pushes for each error code. -/
def denialText (entry : String × UInt64) : String :=
  "sts_denials_total\x7berror=\"" ++ escapePrometheusLabel entry.1 ++ "\"\x7d " ++
    display entry.2.toNat ++ "\n"

/-- What `MetricsState::render` pushes for each signing algorithm. -/
def signingText (entry : SigningLabel × UInt64) : String :=
  "sts_token_signing_alg_total\x7balg=\"" ++ escapePrometheusLabel (ofLex entry.1).1 ++
    "\",pqc_fallback=\"" ++ displayBool (ofLex entry.1).2 ++ "\"\x7d " ++
    display entry.2.toNat ++ "\n"

/-- What `MetricsState::render` pushes, once the counters are read. -/
def MetricsReport.pieces (report : MetricsReport) : List String :=
  ["# HELP sts_exchanges_total Total token exchange outcomes (minted = success, denied = any OAuth error)\n",
    "# TYPE sts_exchanges_total counter\n",
    "sts_exchanges_total\x7bresult=\"minted\"\x7d " ++ display report.minted.toNat ++ "\n",
    "sts_exchanges_total\x7bresult=\"denied\"\x7d " ++ display report.denied.toNat ++ "\n",
    "# HELP sts_denials_total Token exchange denials labelled by OAuth error code\n",
    "# TYPE sts_denials_total counter\n"] ++
  report.denials.entries.map denialText ++
  ["# HELP sts_token_signing_alg_total Minted token signing algorithms selected by STS policy\n",
    "# TYPE sts_token_signing_alg_total counter\n"] ++
  report.signingAlgs.entries.map signingText ++
  ["# HELP sts_replay_cache_size Unexpired jtis currently held in the active replay cache\n",
    "# TYPE sts_replay_cache_size gauge\n",
    "sts_replay_cache_size " ++ display report.replayCacheSize ++ "\n"]

/-- `MetricsState::render`. -/
def MetricsReport.render (report : MetricsReport) : String := String.join report.pieces

/-- The headers of a scrape. -/
def metricsHeaders : HeaderMap :=
  [("content-type", asBytes "text/plain; version=0.0.4; charset=utf-8"),
    ("x-content-type-options", asBytes "nosniff"), ("cache-control", asBytes "no-store"),
    ("pragma", asBytes "no-cache")]

/-! ### The endpoints -/

variable [Crates]

/-- `token_inner`. Either exchange counts the signature last, under the decision that the
response names. -/
def meteredTokenInner (headers : HeaderMap) (state : HttpState) (body : Bytes) :
    Metered (HeaderMap × TokenResponse) :=
  (tokenInner headers state body).left >>= fun out =>
    recordSigning ⟨out.2.signingAlgSelected, out.2.pqcFallback, out.2.pqcFallbackReason⟩ >>=
      fun _ => pure out

/-- `token`. -/
def Metered.token (headers : HeaderMap) (state : HttpState) (body : Bytes) :
    Metered (HeaderMap × TokenResponse) :=
  (meteredTokenInner headers state body).attempt >>= fun result =>
    recordExchange result >>= fun _ => Prog.ofExcept result

/-- `metrics`: the argument of `render` is evaluated first, then the counters are read one by
one. -/
def metrics : Metered (HeaderMap × String) :=
  beside (τ := counters) .cacheSize >>= fun replayCacheSize =>
  beside (τ := counters) .loadMinted >>= fun minted =>
  beside (τ := counters) .loadDenied >>= fun denied =>
  beside (τ := counters) .cloneDenials >>= fun denials =>
  beside (τ := counters) .cloneSigningAlgs >>= fun signingAlgs =>
  pure (metricsHeaders,
    MetricsReport.render ⟨replayCacheSize, minted, denied, denials, signingAlgs⟩)

/-! ### The server with its counters -/

/-- A request, or a scrape. -/
inductive MeteredRequest
  | serve (request : Request)
  | scrape

inductive MeteredReply
  | served (reply : Reply)
  | scraped (headers : HeaderMap) (text : String)

/-- The handler of a request. -/
def meteredHandle (state : HttpState) : MeteredRequest → Metered MeteredReply
  | .serve request =>
      match request.endpoint with
      | .token => Metered.token request.headers state request.body >>= fun out =>
          pure (.served (.token out.1 out.2))
      | .introspect => (handle state request).left >>= fun reply => pure (.served reply)
      | .revoke => (handle state request).left >>= fun reply => pure (.served reply)
  | .scrape => metrics >>= fun out => pure (.scraped out.1 out.2)

/-- The machine of a process that counts. -/
def meteredMachine (state : HttpState) :
    Prog.Machine (sts.sum counters) (Stores × MetricsState) Tick :=
  (machine state).beside (τ := counters) MetricsState.access

/-- Requests and scrapes in flight. -/
abbrev MeteredPool : Type :=
  Pool (sts.sum counters) HttpError MeteredReply (Stores × MetricsState) MeteredRequest

/-- A whole run of a process that has just started, scrapes included. -/
def MeteredPool.run (state : HttpState) (moves : List (Move MeteredRequest Tick)) :
    Option MeteredPool :=
  Pool.exec (meteredMachine state) (meteredHandle state)
    (Pool.initial (Stores.initial state.config, {})) moves

/-! ### The counters make no difference -/

/-- The request of the server without counters, if there is one. -/
def MeteredRequest.base : MeteredRequest → Option Request
  | .serve request => some request
  | .scrape => none

variable {state : HttpState} {headers : HeaderMap} {body : Bytes}

omit [Crates] in
theorem shows_recordExchange {α β : Type} {r : α → β → Prop} {result : Except HttpError α}
    {f : Unit → Metered α} {p : Handler HttpError β} (h : Shows r (f ()) p) :
    Shows r (recordExchange result >>= f) p := by
  cases result with
  | ok a => exact .beside fun _ => h
  | error err =>
      obtain ⟨status, error, description, retryAfter, challenge⟩ := err
      refine .beside fun _ => ?_
      cases error with
      | some error => exact .beside fun _ => h
      | none => exact h

theorem shows_token : Shows Eq (Metered.token headers state body) (tokenInner headers state body) := by
  have hinner : Shows Eq (meteredTokenInner headers state body) (tokenInner headers state body) := by
    rw [← bind_pure (tokenInner headers state body)]
    refine (shows_left (tokenInner headers state body)).bind fun out out' hout => ?_
    exact .beside fun _ => .done hout
  rw [← bind_pure (tokenInner headers state body)]
  refine hinner.attempt_bind (fun out out' hout => ?_) fun err => ?_
  · exact shows_recordExchange (.done hout)
  · exact shows_recordExchange (.fail err)

omit [Crates] in
/-- The other endpoints count nothing. -/
theorem shows_served (p : Handler HttpError Reply) :
    Shows (fun metered reply => metered = MeteredReply.served reply)
      (p.left >>= fun reply => pure (.served reply) : Metered MeteredReply) p := by
  have hbind : Shows (fun metered reply => metered = MeteredReply.served reply)
      (p.left >>= fun reply => pure (.served reply) : Metered MeteredReply) (p >>= pure) :=
    (shows_left p).bind fun reply reply' hreply => .done (congrArg MeteredReply.served hreply)
  rwa [bind_pure] at hbind

/-- Without its counters, a handler is the handler of the plain server. -/
theorem shows_meteredHandle (request : Request) :
    Shows (fun metered reply => metered = MeteredReply.served reply)
      (meteredHandle state (.serve request)) (handle state request) := by
  obtain ⟨endpoint, headers, body⟩ := request
  cases endpoint with
  | token =>
      simp only [meteredHandle, handle]
      refine shows_token.bind fun out out' hout => ?_
      rw [hout]
      exact .done rfl
  | introspect => exact shows_served _
  | revoke => exact shows_served _

omit [Crates] in
/-- A scrape only reads. -/
theorem only_metrics : Only (σ := sts.sum counters) (fun c => ∃ d, c = Sum.inr d ∧ isRead d = true)
    (metrics : Metered _) := by
  have hread : ∀ d : MetricsCall, isRead d = true →
      Only (σ := sts.sum counters) (fun c => ∃ d, c = Sum.inr d ∧ isRead d = true)
        (beside (τ := counters) d : Metered _) :=
    fun d hd => only_perform (σ := sts.sum counters) (c := Sum.inr d) ⟨d, rfl, hd⟩
  refine only_bind (hread _ rfl) fun _ => only_bind (hread _ rfl) fun _ => ?_
  refine only_bind (hread _ rfl) fun _ => only_bind (hread _ rfl) fun _ => ?_
  exact only_bind (hread _ rfl) fun _ => only_done

omit [Crates] in
theorem silent_metrics : Silent (metrics : Metered _) := by
  intro t c hc
  obtain ⟨d, hd, -⟩ := only_metrics t c hc
  exact ⟨d, hd⟩

/-- **The counters make no difference.** A run of the server with its counters and with any
scrapes is, without them, a run of the server: the stores, the calls on them and the answers to
all requests are the same. -/
theorem metered_run_refines {moves : List (Move MeteredRequest Tick)} {w : MeteredPool}
    (hrun : MeteredPool.run state moves = some w) :
    ∃ moves₀ v, ServerPool.run state moves₀ = some v ∧
      Pool.Erases MeteredRequest.base (fun metered reply => metered = MeteredReply.served reply) w v := by
  refine Pool.erases_exec (fun q q₀ hq => ?_) (fun q hq => ?_) hrun
  · cases q with
    | serve request =>
        cases hq
        exact shows_meteredHandle _
    | scrape => cases hq
  · cases q with
    | serve request => cases hq
    | scrape => exact only_bind silent_metrics fun _ => only_done

end StsDelegate
