import StsDelegate.Http.Traces

/-!
# Tokens issued in a run

What stands behind a token that some request of a run was answered with: a plan, whose
claims the signer of the server signed. The other requests of the run may be interleaved
with it in any way.
-/

namespace StsDelegate

open Text Fallible Effectful Prog

variable [Crates] {state : HttpState} {moves : List (Move Request Tick)} {w : ServerPool}

/-- Program `i` of the run answered a token request with this response. -/
def ServerPool.Issues (w : ServerPool) (i : Nat) (request : Request) (response : TokenResponse) :
    Prop :=
  ∃ headers, w.threads[i]? = some (request, .done (.token headers response))

/-- A token, and what it was issued for. -/
structure IssuedFor (state : HttpState) (request : Request) (response : TokenResponse) (plan : Plan)
    (jti : String) : Prop where
  planned : ∃ t mode exchangeRequest,
    Planned request.headers state request.body t mode exchangeRequest plan
  signed : ∃ entropy,
    state.signer.signClaims (plan.payload state jti) entropy = .ok response.accessToken
  response_eq : response = tokenResponse plan.exchange plan.signingDecision
    (plan.payload state jti) response.accessToken

/-- Every token of a run was issued for a plan that was made at readings of the clock. -/
theorem planned_of_run {i : Nat} {request : Request} {response : TokenResponse}
    (hrun : ServerPool.run state moves = some w) (h : w.Issues i request response) :
    ∃ plan jti t mode exchangeRequest, IssuedFor state request response plan jti ∧
      Planned request.headers state request.body t mode exchangeRequest plan ∧
      ∀ now, nowIs now ∈ t → 0 ≤ now := by
  obtain ⟨headers, hi⟩ := h
  have hreturns : Returns (handle state request) (Pool.traceOf i w.log) (.token headers response) :=
    (Pool.threaded_exec hrun).steps i request _ hi
  obtain ⟨-, htoken⟩ := returns_handle_token hreturns
  obtain ⟨plan, t, jti, token, hplan, htrace, hout⟩ := returns_tokenInner.mp htoken
  obtain ⟨mode, exchangeRequest, hplanned⟩ := returns_planExchange hplan
  obtain ⟨-, hresponse⟩ := Prod.mk.inj hout
  -- the signature is in the log of the run, so the machine gave it in some state
  have hsign : (i, signIs (plan.payload state jti) (.ok token)) ∈ w.log := by
    rw [← Pool.mem_traceOf, htrace]
    simp
  obtain ⟨tick, stores, hanswer⟩ := Pool.answered_exec hrun hsign
  have haccess : response.accessToken = token := by rw [hresponse]; rfl
  refine ⟨plan, jti, t, mode, exchangeRequest, ⟨⟨t, mode, exchangeRequest, hplanned⟩,
    ⟨tick.entropy, ?_⟩, ?_⟩, hplanned, fun now hnow => ?_⟩
  · rw [haccess]
    exact hanswer.symm
  · rw [haccess]
    exact hresponse
  · -- the clock does not go back beyond the epoch
    have hmem : (i, nowIs now) ∈ w.log := by
      rw [← Pool.mem_traceOf, htrace]
      exact List.mem_append_left _ hnow
    obtain ⟨tick, stores, hread⟩ := Pool.answered_exec hrun hmem
    have hreading : now = tick.now := hread
    rw [hreading]
    exact tick.now_nonneg

/-- Every token of a run was issued for some plan. -/
theorem issuedFor_of_run {i : Nat} {request : Request} {response : TokenResponse}
    (hrun : ServerPool.run state moves = some w) (h : w.Issues i request response) :
    ∃ plan jti, IssuedFor state request response plan jti := by
  obtain ⟨plan, jti, -, -, -, hissued, -⟩ := planned_of_run hrun h
  exact ⟨plan, jti, hissued⟩

end StsDelegate
