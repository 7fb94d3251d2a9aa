import StsDelegate.Http.Traces
import StsDelegate.Sample.Runs

/-!
# Single use across whole runs

A credential is single use if two requests never both succeed with it, however
many requests there are and however their calls are interleaved. The replay store
provides this for as long as it keeps the entry; an entry can go once the clock
has passed its expiry. But the gates accept an assertion for a leeway longer than
that, and a proof up to its last second with an older reading. So

* `Ledger` is what holds of every run: a recorded key is still in the store, or
  the clock has been seen past its expiry, and
* keys that are only ever recorded in time (`RecordsInTime`) are recorded once.

`assertion_single_use` and `proof_single_use` read this for actor and client
assertions and for proofs of possession; the runs after them show what happens
when a credential is recorded late.
-/

namespace StsDelegate

open Text Fallible Effectful Prog

section Ledger

variable [Crates] {state : HttpState} {P : String → Prop}

/-- A move that records one of the keys `P` comes in time: no reading of the clock
so far, by any request, lies beyond the expiry to be recorded. -/
def RecordsInTime (P : String → Prop) (w : ServerPool) (m : Move Request Tick) : Prop :=
  ∀ i tick request key exp now k, m = .step i tick →
    w.threads[i]? = some (request, Prog.call (σ := sts) (.checkAndRecord key exp now) k) → P key →
      ∀ j reading, (j, nowIs reading) ∈ w.log → reading ≤ exp

/-- What the log says about the store: a recorded key is still there with its
expiry, unless the clock has passed that; and the keys `P` were recorded by one
request only. -/
structure Ledger (P : String → Prop) (w : ServerPool) : Prop where
  kept : ∀ i key exp now, (i, recordIs key exp now (.ok ())) ∈ w.log →
    w.state.replay.seen.lookup key = some exp ∨
      ∃ j reading, (j, nowIs reading) ∈ w.log ∧ exp < reading
  once : ∀ i j key exp now now', P key → (i, recordIs key exp now (.ok ())) ∈ w.log →
    (j, recordIs key exp now' (.ok ())) ∈ w.log → i = j

omit [Crates] in
theorem ledger_initial {stores : Stores} : Ledger P (Pool.initial stores) :=
  ⟨by simp [Pool.initial], by simp [Pool.initial]⟩

omit [Crates] in
/-- A call that records nothing leaves the ledger in order. -/
theorem ledger_other {w w' : ServerPool} {i : Nat} {ev : Ev} (hledger : Ledger P w)
    (hlog : w'.log = w.log ++ [(i, ev)])
    (hother : ∀ key exp now, ev.1 ≠ .checkAndRecord key exp now)
    (hstore : w'.state.replay = w.state.replay) : Ledger P w' := by
  have hold : ∀ j key exp now, (j, recordIs key exp now (.ok ())) ∈ w'.log →
      (j, recordIs key exp now (.ok ())) ∈ w.log := by
    intro j key exp now hmem
    rw [hlog, List.mem_append, List.mem_singleton] at hmem
    rcases hmem with hmem | heq
    · exact hmem
    · cases heq
      exact absurd rfl (hother key exp now)
  refine ⟨fun j key exp now hmem => ?_, fun j j' key exp now now' hP hmem hmem' => ?_⟩
  · rw [hstore, hlog]
    rcases hledger.kept j key exp now (hold _ _ _ _ hmem) with hkept | ⟨j', reading, hreading, hlt⟩
    · exact Or.inl hkept
    · exact Or.inr ⟨j', reading, List.mem_append_left _ hreading, hlt⟩
  · exact hledger.once j j' key exp now now' hP (hold _ _ _ _ hmem) (hold _ _ _ _ hmem')

omit [Crates] in
/-- Nor does a recording disturb it, if its moment has been read from the clock and
it comes in time. -/
theorem ledger_record {w w' : ServerPool} {i : Nat} {key : String} {exp now : Int64}
    (hledger : Ledger P w)
    (hlog : w'.log = w.log ++
      [(i, recordIs key exp now (w.state.replay.checkAndRecord key exp now).1)])
    (hstore : w'.state.replay = (w.state.replay.checkAndRecord key exp now).2)
    (hnow : (i, nowIs now) ∈ w.log)
    (htime : P key → ∀ j reading, (j, nowIs reading) ∈ w.log → reading ≤ exp) :
    Ledger P w' := by
  -- an entry of the new log is an old one, or the record just made
  have hcases : ∀ j key' exp' now', (j, recordIs key' exp' now' (.ok ())) ∈ w'.log →
      (j, recordIs key' exp' now' (.ok ())) ∈ w.log ∨
        (j = i ∧ key' = key ∧ exp' = exp ∧
          (w.state.replay.checkAndRecord key exp now).1 = .ok ()) := by
    intro j key' exp' now' hmem
    rw [hlog, List.mem_append, List.mem_singleton] at hmem
    rcases hmem with hmem | heq
    · exact Or.inl hmem
    · generalize (w.state.replay.checkAndRecord key exp now).1 = answer at heq ⊢
      cases heq
      exact Or.inr ⟨rfl, rfl, rfl, rfl⟩
  -- a key recorded before is refused now
  have hrefused : ∀ j now', P key → (j, recordIs key exp now' (.ok ())) ∈ w.log →
      (w.state.replay.checkAndRecord key exp now).1 ≠ .ok () := by
    intro j now' hP hmem hok
    obtain ⟨-, hnotMem, -⟩ := InMemoryReplayStore.checkAndRecord_ok_iff.mp hok
    rcases hledger.kept j key exp now' hmem with hkept | ⟨j', reading, hreading, hlt⟩
    · rw [← AList.lookup_eq_none, hkept] at hnotMem
      cases hnotMem
    · exact absurd hlt (Int64.not_lt.mpr (htime hP j' reading hreading))
  refine ⟨fun j key' exp' now' hmem => ?_, fun j j' key' exp' now₁ now₂ hP hmem hmem' => ?_⟩
  · rw [hstore, hlog]
    rcases hcases j key' exp' now' hmem with hold | ⟨-, rfl, rfl, hok⟩
    · rcases hledger.kept j key' exp' now' hold with hkept | ⟨j', reading, hreading, hlt⟩
      · -- the store may only have dropped the entry if `now` lies beyond it
        by_cases hle : now ≤ exp'
        · exact Or.inl (InMemoryReplayStore.lookup_checkAndRecord hkept hle)
        · exact Or.inr ⟨i, now, List.mem_append_left _ hnow, Int64.not_le.mp hle⟩
      · exact Or.inr ⟨j', reading, List.mem_append_left _ hreading, hlt⟩
    · exact Or.inl (InMemoryReplayStore.lookup_self_of_ok hok)
  · rcases hcases j key' exp' now₁ hmem with hold | ⟨rfl, rfl, rfl, hok⟩
    · rcases hcases j' key' exp' now₂ hmem' with hold' | ⟨rfl, rfl, rfl, hok⟩
      · exact hledger.once j j' key' exp' now₁ now₂ hP hold hold'
      · exact absurd hok (hrefused j now₁ hP hold)
    · rcases hcases j' key' exp' now₂ hmem' with hold' | ⟨rfl, -, -, -⟩
      · exact absurd hok (hrefused j' now₂ hP hold')
      · rfl

/-- One move keeps the ledger in order. -/
theorem ledger_move {w w' : ServerPool} {m : Move Request Tick}
    (hthreaded : Pool.Threaded (handle state) w) (hledger : Ledger P w)
    (htime : RecordsInTime P w m)
    (h : w.move (machine state) (handle state) m = some w') : Ledger P w' := by
  obtain ⟨request, rfl, rfl⟩ | ⟨i, tick, request, c, k, rfl, hi, rfl⟩ := Pool.move_cases h
  · exact ⟨hledger.kept, hledger.once⟩
  · by_cases hrecord : ∃ key exp now, c = .checkAndRecord key exp now
    · obtain ⟨key, exp, now, rfl⟩ := hrecord
      have hcalls : Calls (handle state request) (Pool.traceOf i w.log)
          (.checkAndRecord key exp now) := ⟨k, hthreaded.steps i request _ hi⟩
      have hnow := Pool.mem_traceOf.mp (now_of_calls_handle hcalls)
      simp only [machine_checkAndRecord]
      exact ledger_record hledger rfl rfl hnow fun hP => htime i tick request key exp now k rfl hi hP
    · refine ledger_other hledger rfl (fun key exp now heq => hrecord ⟨key, exp, now, heq⟩) ?_
      rw [machine_replay]
      split
      · exact absurd ⟨_, _, _, rfl⟩ hrecord
      · rfl

/-- **The ledger is in order after every run** whose recordings of the keys `P`
come in time. -/
theorem ledger_run {moves : List (Move Request Tick)} {w : ServerPool}
    (hrun : ServerPool.run state moves = some w)
    (htime : Pool.Along (machine state) (handle state) (RecordsInTime P)
      (Pool.initial (Stores.initial state.config)) moves) :
    Pool.Threaded (handle state) w ∧ Ledger P w :=
  Pool.exec_invariant (C := RecordsInTime P)
    (P := fun w => Pool.Threaded (handle state) w ∧ Ledger P w)
    (fun _ _ _ hw hC hm => ⟨Pool.threaded_move hw.1 hm, ledger_move hw.1 hw.2 hC hm⟩)
    ⟨Pool.threaded_initial, ledger_initial⟩ htime hrun

/-- No reading after `bound`, and no recording that expires before it. -/
def Around (bound : Int64) : Ev → Prop
  | ⟨.unixNow, now⟩ => now ≤ bound
  | ⟨.checkAndRecord _ exp _, _⟩ => bound ≤ exp
  | _ => True

/-- A run whose recordings all expire after its last reading has made them in
time. -/
theorem along_of_around {moves : List (Move Request Tick)} {w w' : ServerPool} {bound : Int64}
    (h : w.exec (machine state) (handle state) moves = some w')
    (hlog : ∀ entry ∈ w'.log, Around bound entry.2) :
    Pool.Along (machine state) (handle state) (RecordsInTime P) w moves := by
  induction moves generalizing w with
  | nil => trivial
  | cons m moves ih =>
      rw [Pool.exec, Option.bind_eq_some_iff] at h
      obtain ⟨w₁, hm, hms⟩ := h
      refine ⟨?_, fun w₂ hm₂ => ?_⟩
      · rintro i tick request key exp now k rfl hi - j reading hreading
        have hsubset := (Pool.log_prefix_of_exec hms).subset
        simp only [Pool.move, hi, Option.some.injEq] at hm
        subst hm
        have hexp := hlog _ (hsubset (List.mem_append_right _ (List.mem_singleton.mpr rfl)))
        have hnow := hlog _ (hsubset (List.mem_append_left _ hreading))
        exact Int64.le_trans hnow hexp
      · cases hm.symm.trans hm₂
        exact ih hms

end Ledger

/-! ### Assertions -/

section Assertions

variable [Crates] {state : HttpState}

/-- The replay keys of actor and client assertions. -/
def IsAssertionKey (key : String) : Prop :=
  ∃ sub jti, key = actorReplayKey sub jti ∨ key = clientReplayKey sub jti

/-- Request `i` was answered with a token, and presented that actor assertion. -/
def ActorMinted (w : ServerPool) (i : Nat) (actorToken : String) : Prop :=
  ∃ request headers response, w.threads[i]? = some (request, .done (.token headers response)) ∧
    request.actorToken = some actorToken

/-- Request `i` presented that client assertion, and got past recording it. -/
def ClientAccepted (state : HttpState) (w : ServerPool) (i : Nat) (assertion : String) : Prop :=
  ∃ request prog claims alg kid typ now, w.threads[i]? = some (request, prog) ∧
    request.clientAssertion = some assertion ∧
    verifyClaimsAgainstJwksWithAllowedAlgs Crates.assertionFromSlice assertion state.clientJwks
      state.config.inboundAssertionAlgs = .ok ⟨claims, alg, kid, typ⟩ ∧
    (i, recordIs (clientCredential claims).key claims.exp now (.ok ())) ∈ w.log

/-- A request that presented a client assertion and was answered, by whichever
endpoint, got past recording it. -/
theorem clientAccepted_of_reply {w : ServerPool} (hthreaded : Pool.Threaded (handle state) w)
    {i : Nat} {request : Request} {reply : Reply} {assertion : String}
    (hi : w.threads[i]? = some (request, .done reply))
    (hassertion : request.clientAssertion = some assertion) :
    ClientAccepted state w i assertion := by
  have hreturns : Returns (handle state request) (Pool.traceOf i w.log) reply :=
    hthreaded.steps i request _ hi
  obtain ⟨claims, alg, kid, typ, now, hverified, hmem⟩ :=
    client_recorded hreturns hassertion
  exact ⟨request, _, claims, alg, kid, typ, now, hi, hassertion, hverified,
    Pool.mem_traceOf.mp hmem⟩

/-- A request answered with a token has recorded its actor assertion. -/
theorem actorMinted_recorded {w : ServerPool} (hthreaded : Pool.Threaded (handle state) w) {i : Nat}
    {actorToken : String} (h : ActorMinted w i actorToken) :
    ∃ claims alg kid typ now, verifyClaimsAgainstJwksWithAllowedAlgs Crates.assertionFromSlice
        actorToken state.actorJwks state.config.inboundAssertionAlgs =
          .ok ⟨claims, alg, kid, typ⟩ ∧
      (i, recordIs (actorCredential claims).key claims.exp now (.ok ())) ∈ w.log := by
  obtain ⟨request, headers, response, hi, hactor⟩ := h
  obtain ⟨hendpoint, hout⟩ := returns_handle_token (hthreaded.steps i request _ hi)
  simp only [Request.actorToken, hendpoint, Option.bind_eq_some_iff, toOption_eq_some] at hactor
  obtain ⟨form, hform, hpresented⟩ := hactor
  obtain ⟨claims, alg, kid, typ, now, hverified, hmem⟩ := actor_recorded hout hform hpresented
  exact ⟨claims, alg, kid, typ, now, hverified, Pool.mem_traceOf.mp hmem⟩

/-- **Assertions are single use in every run that records them in time.** However
the requests to the three endpoints are interleaved, an actor assertion leads to
at most one token and a client assertion is accepted by at most one request, as
long as no assertion is recorded after the clock has passed its expiry. -/
theorem assertion_single_use {moves : List (Move Request Tick)} {w : ServerPool}
    (hrun : ServerPool.run state moves = some w)
    (htime : Pool.Along (machine state) (handle state) (RecordsInTime IsAssertionKey)
      (Pool.initial (Stores.initial state.config)) moves) :
    (∀ actorToken i j, ActorMinted w i actorToken → ActorMinted w j actorToken → i = j) ∧
    (∀ assertion i j, ClientAccepted state w i assertion → ClientAccepted state w j assertion →
      i = j) := by
  obtain ⟨hthreaded, hledger⟩ := ledger_run hrun htime
  refine ⟨fun actorToken i j hi hj => ?_, fun assertion i j hi hj => ?_⟩
  · obtain ⟨claims, alg, kid, typ, now, hverified, hmem⟩ := actorMinted_recorded hthreaded hi
    obtain ⟨claims', alg', kid', typ', now', hverified', hmem'⟩ := actorMinted_recorded hthreaded hj
    cases hverified.symm.trans hverified'
    exact hledger.once i j _ _ now now' ⟨_, _, Or.inl rfl⟩ hmem hmem'
  · obtain ⟨-, -, claims, alg, kid, typ, now, -, -, hverified, hmem⟩ := hi
    obtain ⟨-, -, claims', alg', kid', typ', now', -, -, hverified', hmem'⟩ := hj
    cases hverified.symm.trans hverified'
    exact hledger.once i j _ _ now now' ⟨_, _, Or.inr rfl⟩ hmem hmem'

end Assertions

/-! #### An assertion used twice -/

section

open Sample

/-- A server that remembers one credential. -/
abbrev smallServer : HttpState := state .both 1 Nat.one_pos

/-- Three introspections: the second comes when the first client assertion has run
out, and the third presents that assertion again, within the leeway. -/
def lateAssertion : List (Request × (Nat → Tick)) :=
  [(introspectRequest "x" client1, clock 100 (by decide)),
    (introspectRequest "x" client2, clock 110 (by decide)),
    (introspectRequest "x" client1, clock 120 (by decide))]

/-- The stores before each of the three. -/
def lateStores₀ : Stores := .initial smallServer.config

def lateStores₁ : Stores := recorded lateStores₀ (clientReplayKey "app" "c1") 100 100

def lateStores₂ : Stores := recorded lateStores₁ (clientReplayKey "app" "c2") 105 110

/-- All three client assertions are recorded: the second pushes the first out. -/
theorem lateAssertion_recorded :
    (lateStores₀.replay.checkAndRecord (clientReplayKey "app" "c1") 100 100).1 = .ok () ∧
    (lateStores₁.replay.checkAndRecord (clientReplayKey "app" "c2") 105 110).1 = .ok () ∧
    (lateStores₂.replay.checkAndRecord (clientReplayKey "app" "c1") 100 120).1 = .ok () :=
  ⟨toOption_eq_some.mp (by decide), toOption_eq_some.mp (by decide),
    toOption_eq_some.mp (by decide)⟩

theorem lateAssertion_served :
    Pool.sequential (machine smallServer) (handle smallServer)
        (Pool.initial (Stores.initial smallServer.config)) lateAssertion =
      ⟨recorded lateStores₂ (clientReplayKey "app" "c1") 100 120,
        lateAssertion.map fun served =>
          (served.1, .done (.introspection tokenHeaders inactiveResponse)),
        [(0, nowIs 100), (0, nowIs 100),
          (0, recordIs (clientReplayKey "app" "c1") 100 100 (.ok ())), (0, nowIs 100),
          (1, nowIs 110), (1, nowIs 110),
          (1, recordIs (clientReplayKey "app" "c2") 105 110 (.ok ())), (1, nowIs 110),
          (2, nowIs 120), (2, nowIs 120),
          (2, recordIs (clientReplayKey "app" "c1") 100 120 (.ok ())), (2, nowIs 120)]⟩ := by
  obtain ⟨hfirst, hsecond, hthird⟩ := lateAssertion_recorded
  have hserve₀ : serve smallServer (introspectRequest "x" client1) (clock 100 (by decide))
      lateStores₀ = ⟨.ok (.introspection tokenHeaders inactiveResponse), lateStores₁, _⟩ :=
    serve_introspect _ issued_client1 clientJti_c1 (by decide) (by decide) hfirst
  have hserve₁ : serve smallServer (introspectRequest "x" client2) (clock 110 (by decide))
      lateStores₁ = ⟨.ok (.introspection tokenHeaders inactiveResponse), lateStores₂, _⟩ :=
    serve_introspect _ issued_client2 clientJti_c2 (by decide) (by decide) hsecond
  have hserve₂ : serve smallServer (introspectRequest "x" client1) (clock 120 (by decide))
      lateStores₂ = _ :=
    serve_introspect _ issued_client1 clientJti_c1 (by decide) (by decide) hthird
  rw [lateAssertion, Pool.initial, ← lateStores₀, sequential_cons hserve₀, sequential_cons hserve₁,
    sequential_cons hserve₂]
  rfl

/-- The sample's client assertion, as its request presents it. -/
theorem clientAssertion_introspectRequest (s : Signed) :
    (introspectRequest "x" s).clientAssertion = some s.token := by
  have hplain : Plain "x" := by decide
  have hform := parseOnlineTokenForm_client hplain (by decide) s
  simp only [Request.clientAssertion, introspectRequest, hform]
  rfl

/-- Once the first client assertion is recorded, it is refused. -/
theorem client1_replayed :
    (lateStores₁.replay.checkAndRecord (clientReplayKey "app" "c1") 100 100).1 =
      .error ⟨.replayDetected, "actor_token replay detected"⟩ := by
  decide

/-- Two introspections in time with the same client assertion: the first is accepted, and
no other of the run; the second is refused. -/
theorem sample_assertion_single_use :
    ∃ moves w, ServerPool.run smallServer moves = some w ∧
      w.threads = [(introspectRequest "x" client1, .done (.introspection tokenHeaders inactiveResponse)),
        (introspectRequest "x" client1, .fail (mapClientAssertionReplayError
          ⟨.replayDetected, "actor_token replay detected"⟩))] ∧
      ClientAccepted smallServer w 0 client1.token ∧
      ∀ j, ClientAccepted smallServer w j client1.token → 0 = j := by
  have hserve₀ : serve smallServer (introspectRequest "x" client1) (clock 100 (by decide))
      lateStores₀ = ⟨.ok (.introspection tokenHeaders inactiveResponse), lateStores₁, _⟩ :=
    serve_introspect _ issued_client1 clientJti_c1 (by decide) (by decide) lateAssertion_recorded.1
  have hserve₁ : serve smallServer (introspectRequest "x" client1) (clock 100 (by decide))
      lateStores₁ = _ :=
    serve_introspect_error _ issued_client1 clientJti_c1 (by decide) (by decide) client1_replayed
  obtain ⟨moves, hrun⟩ := run_sequential smallServer
    [(introspectRequest "x" client1, clock 100 (by decide)),
      (introspectRequest "x" client1, clock 100 (by decide))]
  have hthreaded := Pool.threaded_exec hrun
  rw [Pool.initial, ← lateStores₀, sequential_cons hserve₀, sequential_cons hserve₁] at hrun hthreaded
  have htime : Pool.Along (machine smallServer) (handle smallServer) (RecordsInTime IsAssertionKey)
      (Pool.initial (Stores.initial smallServer.config)) moves := by
    have haround : ∀ entry ∈ [((0 : Nat), nowIs 100), (0, nowIs 100),
        (0, recordIs (clientReplayKey "app" "c1") 100 100 (.ok ())), (0, nowIs 100),
        (1, nowIs 100), (1, nowIs 100),
        (1, recordIs (clientReplayKey "app" "c1") 100 100
          (.error ⟨.replayDetected, "actor_token replay detected"⟩))],
        Around 100 entry.2 := by
      simp [Around]
    exact along_of_around hrun haround
  have haccepted := clientAccepted_of_reply (i := 0) hthreaded rfl
    (clientAssertion_introspectRequest client1)
  exact ⟨moves, _, hrun, rfl, haccepted, fun j hj =>
    (assertion_single_use hrun htime).2 _ 0 j haccepted hj⟩

/-- **A client assertion is accepted twice.** With room for one credential, the
second introspection finds the first assertion expired and sweeps it; the third
presents it again within the leeway, and it is accepted. -/
theorem assertion_used_twice :
    ∃ moves w, ServerPool.run smallServer moves = some w ∧ w.ClockNondecreasing ∧
      ClientAccepted smallServer w 0 client1.token ∧
      ClientAccepted smallServer w 2 client1.token := by
  obtain ⟨moves, hrun⟩ := run_sequential smallServer lateAssertion
  have hthreaded := Pool.threaded_exec hrun
  rw [lateAssertion_served] at hrun hthreaded
  have hassertion := clientAssertion_introspectRequest client1
  refine ⟨moves, _, hrun, ?_, clientAccepted_of_reply hthreaded rfl hassertion,
    clientAccepted_of_reply hthreaded rfl hassertion⟩
  have hsorted : [100, 100, 100, 110, 110, 110, 120, 120, (120 : Int64)].Pairwise (· ≤ ·) := by
    decide
  exact hsorted

end

/-! ### Proofs of possession -/

section Proofs

variable [Crates] {state : HttpState}

/-- The replay keys of proofs. -/
def IsProofKey (key : String) : Prop := ∃ jkt jti, key = dpopReplayKey jkt jti

/-- Request `i` was answered with a token, and sent the proof of that holder with
that id and time. -/
def ProofMinted (state : HttpState) (w : ServerPool) (i : Nat) (jkt jti : String) (iat : Int64) :
    Prop :=
  ∃ request headers response now binding,
    w.threads[i]? = some (request, .done (.token headers response)) ∧
    validateDpopHeader request.headers state now = .ok (some binding) ∧
    binding.jkt = jkt ∧ binding.jti = jti ∧ binding.iat = iat

/-- Such a request has recorded the proof, until its time and the leeway. -/
theorem proofMinted_recorded {w : ServerPool} (hthreaded : Pool.Threaded (handle state) w) {i : Nat}
    {jkt jti : String} {iat : Int64} (h : ProofMinted state w i jkt jti iat) :
    ∃ now, (i, recordIs (dpopReplayKey jkt jti)
      (saturatingAdd iat (maxZero state.config.clockSkewLeeway)) now (.ok ())) ∈ w.log := by
  obtain ⟨request, headers, response, now, binding, hi, hbinding, rfl, rfl, rfl⟩ := h
  obtain ⟨-, hout⟩ := returns_handle_token (hthreaded.steps i request _ hi)
  obtain ⟨mode, exchangeRequest, plan, hplanned, hrecorded⟩ := plan_of_returns_tokenInner hout
  obtain ⟨hexpires, hsame⟩ := validateDpopHeader_ok hbinding
  obtain ⟨now', -, hdpop⟩ := hplanned.verified.dpop
  have hmem := hrecorded _ (hplanned.dpopCredential_mem (hsame now' _ hdpop))
  rw [← hexpires]
  exact ⟨plan.now, Pool.mem_traceOf.mp hmem⟩

/-- **Proofs are single use in every run that records them in time.** However the
token requests are interleaved, a proof of possession leads to at most one token,
as long as no proof is recorded after the clock has passed its time and the
leeway. -/
theorem proof_single_use {moves : List (Move Request Tick)} {w : ServerPool}
    (hrun : ServerPool.run state moves = some w)
    (htime : Pool.Along (machine state) (handle state) (RecordsInTime IsProofKey)
      (Pool.initial (Stores.initial state.config)) moves) :
    ∀ jkt jti iat i j, ProofMinted state w i jkt jti iat → ProofMinted state w j jkt jti iat →
      i = j := by
  obtain ⟨hthreaded, hledger⟩ := ledger_run hrun htime
  intro jkt jti iat i j hi hj
  obtain ⟨now, hmem⟩ := proofMinted_recorded hthreaded hi
  obtain ⟨now', hmem'⟩ := proofMinted_recorded hthreaded hj
  exact hledger.once i j _ _ now now' ⟨jkt, jti, rfl⟩ hmem hmem'

end Proofs

/-! #### A proof used twice -/

section

open Sample

theorem three_places : 1 ≤ 3 := by decide

/-- A server that remembers three credentials. -/
abbrev server : HttpState := state .both 3 three_places

/-- Two delegations with the same proof, after an introspection. The second one
validates the proof in its last second and records its credentials in the next. -/
def lateProof : List (Request × (Nat → Tick)) :=
  [(introspectRequest "x" client1, clock 100 (by decide)),
    (delegationRequest proofHeaders actor1, clock 100 (by decide)),
    (delegationRequest proofHeaders actor2, clockThen 3 100 101 (by decide) (by decide))]

/-- The stores before each of the three. -/
def proofStores₀ : Stores := .initial server.config

def proofStores₁ : Stores := recorded proofStores₀ (clientReplayKey "app" "c1") 100 100

def proofStores₂ : Stores :=
  recorded (recorded proofStores₁ (actorReplayKey "agent" "a1") 200 100) proofReplayKey 100 100

def proofStores₃ : Stores :=
  recorded (recorded proofStores₂ (actorReplayKey "agent" "a2") 200 101) proofReplayKey 100 101

/-- Every credential is recorded: the second actor assertion finds the store full
and pushes the proof out. -/
theorem lateProof_recorded :
    (proofStores₀.replay.checkAndRecord (clientReplayKey "app" "c1") 100 100).1 = .ok () ∧
    (proofStores₁.replay.checkAndRecord (actorReplayKey "agent" "a1") 200 100).1 = .ok () ∧
    ((recorded proofStores₁ (actorReplayKey "agent" "a1") 200 100).replay.checkAndRecord
      proofReplayKey 100 100).1 = .ok () ∧
    (proofStores₂.replay.checkAndRecord (actorReplayKey "agent" "a2") 200 101).1 = .ok () ∧
    ((recorded proofStores₂ (actorReplayKey "agent" "a2") 200 101).replay.checkAndRecord
      proofReplayKey 100 101).1 = .ok () :=
  ⟨toOption_eq_some.mp (by decide), toOption_eq_some.mp (by decide),
    toOption_eq_some.mp (by decide), toOption_eq_some.mp (by decide),
    toOption_eq_some.mp (by decide)⟩

theorem serve_lateProof₀ :
    serve server (introspectRequest "x" client1) (clock 100 (by decide)) proofStores₀ =
      ⟨.ok (.introspection tokenHeaders inactiveResponse), proofStores₁,
        [nowIs 100, nowIs 100, recordIs (clientReplayKey "app" "c1") 100 100 (.ok ()),
          nowIs 100]⟩ :=
  serve_introspect _ issued_client1 clientJti_c1 (by decide) (by decide) lateProof_recorded.1

theorem mem_mintedTokens_proof100 :
    (mintedProof100, actorPayload "a1" (some binding) 100) ∈ mintedTokens := by
  have heq : actorPayload "a1" (some binding) 100 =
    mintedClaims 100 105 "agent" (some (.mk "agent" none none)) (some thumbprint) := rfl
  rw [heq]
  simp [mintedTokens]

/-- The first delegation, when its credentials can be recorded. -/
theorem serve_proof {stores : Stores}
    (hactor : (stores.replay.checkAndRecord (actorReplayKey "agent" "a1") 200 100).1 = .ok ())
    (hproof : ((recorded stores (actorReplayKey "agent" "a1") 200 100).replay.checkAndRecord
      proofReplayKey 100 100).1 = .ok ()) :
    serve server (delegationRequest proofHeaders actor1) (clock 100 (by decide)) stores =
      ⟨.ok (.token tokenHeaders (actorResponse "a1" (some binding) 100 mintedProof100.token)),
        recorded (recorded stores (actorReplayKey "agent" "a1") 200 100) proofReplayKey 100 100,
        [nowIs 100, nowIs 100, nowIs 100, nowIs 100,
          recordIs (actorReplayKey "agent" "a1") 200 100 (.ok ()),
          recordIs proofReplayKey 100 100 (.ok ()), ⟨Call.newJti, "t1"⟩,
          signIs (actorPayload "a1" (some binding) 100) (.ok mintedProof100.token)]⟩ := by
  have hcommit : (commit server (actorPlan "a1" (some binding)
      (clock 100 (by decide) 3).now)).run (machine server)
        (fun n => clock 100 (by decide) (n + 4)) stores = _ :=
    run_commit_proof_ok _ hactor hproof rfl mem_mintedTokens_proof100
  exact serve_delegation (clock 100 (by decide)) (Or.inr rfl) issued_actor1 (by decide)
    (validateDpopHeader_proof (by decide)) (by decide) (by decide) hcommit

theorem serve_lateProof₁ :
    serve server (delegationRequest proofHeaders actor1) (clock 100 (by decide)) proofStores₁ =
      ⟨.ok (.token tokenHeaders (actorResponse "a1" (some binding) 100 mintedProof100.token)),
        proofStores₂, [nowIs 100, nowIs 100, nowIs 100, nowIs 100,
          recordIs (actorReplayKey "agent" "a1") 200 100 (.ok ()),
          recordIs proofReplayKey 100 100 (.ok ()), ⟨Call.newJti, "t1"⟩,
          signIs (actorPayload "a1" (some binding) 100) (.ok mintedProof100.token)]⟩ := by
  obtain ⟨-, hactor, hproof, -⟩ := lateProof_recorded
  exact serve_proof hactor hproof

theorem mem_mintedTokens_proof101 :
    (mintedProof101, actorPayload "a2" (some binding) 101) ∈ mintedTokens := by
  have heq : actorPayload "a2" (some binding) 101 =
    mintedClaims 101 105 "agent" (some (.mk "agent" none none)) (some thumbprint) := rfl
  rw [heq]
  simp [mintedTokens]

theorem serve_lateProof₂ :
    serve server (delegationRequest proofHeaders actor2)
        (clockThen 3 100 101 (by decide) (by decide)) proofStores₂ =
      ⟨.ok (.token tokenHeaders (actorResponse "a2" (some binding) 101 mintedProof101.token)),
        proofStores₃, [nowIs 100, nowIs 100, nowIs 100, nowIs 101,
          recordIs (actorReplayKey "agent" "a2") 200 101 (.ok ()),
          recordIs proofReplayKey 100 101 (.ok ()), ⟨Call.newJti, "t1"⟩,
          signIs (actorPayload "a2" (some binding) 101) (.ok mintedProof101.token)]⟩ := by
  obtain ⟨-, -, -, hactor, hproof⟩ := lateProof_recorded
  have hcommit : (commit server (actorPlan "a2" (some binding)
      (clockThen 3 100 101 (by decide) (by decide) 3).now)).run (machine server)
        (fun n => clockThen 3 100 101 (by decide) (by decide) (n + 4)) proofStores₂ = _ :=
    run_commit_proof_ok _ hactor hproof rfl mem_mintedTokens_proof101
  exact serve_delegation (clockThen 3 100 101 (by decide) (by decide)) (Or.inr rfl) issued_actor2
    (by decide) (validateDpopHeader_proof (by decide)) (by decide) (by decide) hcommit

/-- The stores after the first of two delegations in time with the same proof. -/
def timelyStores : Stores :=
  recorded (recorded proofStores₀ (actorReplayKey "agent" "a1") 200 100) proofReplayKey 100 100

/-- The second records its actor assertion, and finds the proof. -/
theorem timelyProof_recorded :
    (proofStores₀.replay.checkAndRecord (actorReplayKey "agent" "a1") 200 100).1 = .ok () ∧
    ((recorded proofStores₀ (actorReplayKey "agent" "a1") 200 100).replay.checkAndRecord
      proofReplayKey 100 100).1 = .ok () ∧
    (timelyStores.replay.checkAndRecord (actorReplayKey "agent" "a2") 200 100).1 = .ok () ∧
    ((recorded timelyStores (actorReplayKey "agent" "a2") 200 100).replay.checkAndRecord
      proofReplayKey 100 100).1 = .error ⟨.replayDetected, "actor_token replay detected"⟩ :=
  ⟨toOption_eq_some.mp (by decide), toOption_eq_some.mp (by decide),
    toOption_eq_some.mp (by decide), by decide⟩

/-- The two delegations served. -/
def proofPool : ServerPool where
  state := recorded (recorded timelyStores (actorReplayKey "agent" "a2") 200 100) proofReplayKey 100 100
  threads :=
    [(delegationRequest proofHeaders actor1,
        .done (.token tokenHeaders (actorResponse "a1" (some binding) 100 mintedProof100.token))),
      (delegationRequest proofHeaders actor2,
        .fail (mapDpopReplayError ⟨.replayDetected, "actor_token replay detected"⟩))]
  log :=
    [(0, nowIs 100), (0, nowIs 100), (0, nowIs 100), (0, nowIs 100),
      (0, recordIs (actorReplayKey "agent" "a1") 200 100 (.ok ())),
      (0, recordIs proofReplayKey 100 100 (.ok ())), (0, ⟨.newJti, "t1"⟩),
      (0, signIs (actorPayload "a1" (some binding) 100) (.ok mintedProof100.token)),
      (1, nowIs 100), (1, nowIs 100), (1, nowIs 100), (1, nowIs 100),
      (1, recordIs (actorReplayKey "agent" "a2") 200 100 (.ok ())),
      (1, recordIs proofReplayKey 100 100
        (.error ⟨.replayDetected, "actor_token replay detected"⟩))]

theorem run_proofPool : ∃ moves, ServerPool.run server moves = some proofPool := by
  obtain ⟨hfirst, hproof, hsecond, hrefused⟩ := timelyProof_recorded
  have hcommit : (commit server (actorPlan "a2" (some binding)
      (clock 100 (by decide) 3).now)).run (machine server)
        (fun n => clock 100 (by decide) (n + 4)) timelyStores = _ :=
    run_commit_proof_error _ hsecond hrefused
  have hserve : serve server (delegationRequest proofHeaders actor2) (clock 100 (by decide))
      timelyStores = _ :=
    serve_delegation (clock 100 (by decide)) (Or.inr rfl) issued_actor2 (by decide)
      (validateDpopHeader_proof (by decide)) (by decide) (by decide) hcommit
  obtain ⟨moves, hrun⟩ := run_sequential server
    [(delegationRequest proofHeaders actor1, clock 100 (by decide)),
      (delegationRequest proofHeaders actor2, clock 100 (by decide))]
  rw [Pool.initial, ← proofStores₀, sequential_cons (serve_proof hfirst hproof), ← timelyStores,
    sequential_cons hserve] at hrun
  exact ⟨moves, hrun⟩

/-- Two delegations in time with the same proof: it leads to one token, and the second is
refused. -/
theorem sample_proof_single_use :
    (∃ moves, ServerPool.run server moves = some proofPool) ∧
      ProofMinted server proofPool 0 thumbprint "p1" 70 ∧
      ∀ j, ProofMinted server proofPool j thumbprint "p1" 70 → 0 = j := by
  obtain ⟨moves, hrun⟩ := run_proofPool
  have haround : ∀ entry ∈ proofPool.log, Around 100 entry.2 := by
    simp [proofPool, Around]
  have htime : Pool.Along (machine server) (handle server) (RecordsInTime IsProofKey)
      (Pool.initial (Stores.initial server.config)) moves :=
    along_of_around hrun haround
  have hminted : ProofMinted server proofPool 0 thumbprint "p1" 70 :=
    ⟨_, _, _, 100, binding, rfl, validateDpopHeader_proof (by decide), rfl, rfl, rfl⟩
  exact ⟨⟨moves, hrun⟩, hminted, fun j hj =>
    proof_single_use hrun htime thumbprint "p1" 70 0 j hminted hj⟩

/-- **A proof leads to two tokens.** The second delegation validates the proof at
100, its last second, and reads the clock again at 101: recording its actor
assertion then sweeps the proof's own entry, so that the proof is recorded and a
token minted a second time. -/
theorem proof_used_twice :
    ∃ moves w, ServerPool.run server moves = some w ∧ w.ClockNondecreasing ∧
      ProofMinted server w 1 thumbprint "p1" 70 ∧ ProofMinted server w 2 thumbprint "p1" 70 := by
  obtain ⟨moves, hrun⟩ := run_sequential server lateProof
  rw [lateProof, Pool.initial, ← proofStores₀, sequential_cons serve_lateProof₀,
    sequential_cons serve_lateProof₁, sequential_cons serve_lateProof₂] at hrun
  have hvalid : validateDpopHeader proofHeaders server 100 = .ok (some binding) :=
    validateDpopHeader_proof (by decide)
  refine ⟨moves, _, hrun, ?_, ⟨_, _, _, 100, binding, rfl, hvalid, rfl, rfl, rfl⟩,
    ⟨_, _, _, 100, binding, rfl, hvalid, rfl, rfl, rfl⟩⟩
  have hsorted : [100, 100, 100, 100, 100, 100, 100, 100, 100, 100, (101 : Int64)].Pairwise
      (· ≤ ·) := by
    decide
  exact hsorted

end

end StsDelegate
