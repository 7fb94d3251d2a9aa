import StsDelegate.Lib.Wrapping
import StsDelegate.Sample.Requests

/-!
# How long an accepted assertion stays usable

`validate_assertion_lifetime` caps the lifetime of an assertion. An assertion without
`iat` is measured from the clock, so what is left of it is capped. One with `iat` is
measured from a moment its signer chose, and that moment is compared with nothing: put
into the future it shifts the cap along, and put far enough into the past it makes the
subtraction wrap around.

`assertionCapped_iff` says for which `iat` the cap bounds what is left, whatever the
expiry.
-/

namespace StsDelegate

open Text Fallible Effectful Prog Wrapping

/-- What the two checks against the clock ask for when it reads `now`. -/
def ClockPasses (claims : AssertionClaims) (maxTtl clockSkewLeeway now : Int64) : Prop :=
  now ≤ claims.exp + clockSkewLeeway ∧
    claims.exp - claims.iat.getD now ≤ maxTtl + clockSkewLeeway

/-- The verifier accepts the assertion, and the clock reads `now` all the while. -/
def AcceptedAt [Crates] (token : String) (jwks : JwksDocument) (allowedAlgs : List String)
    (options : AssertionVerificationOptions) (now : Int64) (claims : AssertionClaims) : Prop :=
  ∃ t, Returns (verifyAssertionWithAllowedAlgs token jwks allowedAlgs options) t claims ∧
    ∀ ev ∈ t, ev = nowIs now

/-! ### The checks against the clock -/

theorem nowIs_inj {now now' : Int64} (h : nowIs now = nowIs now') : now = now' := by
  cases h
  rfl

theorem returns_validateAssertionLifetime {claims : AssertionClaims}
    {maxTtl clockSkewLeeway now : Int64} {t : List Ev} {u : Unit}
    (h : Returns (validateAssertionLifetime claims maxTtl clockSkewLeeway) t u)
    (hnow : ∀ ev ∈ t, ev = nowIs now) :
    claims.exp - claims.iat.getD now ≤ maxTtl + clockSkewLeeway := by
  rw [validateAssertionLifetime, assertionSpan] at h
  cases hiat : claims.iat with
  | some iat =>
      simp only [hiat, pure_eq, done_bind, liftM_eq, returns_ofExcept, rejectIf_eq_ok] at h
      exact Int64.not_lt.mp (of_decide_eq_false h.2)
  | none =>
      simp only [hiat, bind_assoc, returns_unixNow_bind, pure_eq, done_bind, liftM_eq,
        returns_ofExcept, rejectIf_eq_ok] at h
      obtain ⟨now', t', rfl, -, hspan⟩ := h
      rw [nowIs_inj (hnow _ (List.mem_cons_self ..))] at hspan
      exact Int64.not_lt.mp (of_decide_eq_false hspan)

/-- The check passes when the clock reads `now` all the while. -/
def PassesAt (now : Int64) (check : Handler VerifyError Unit) : Prop :=
  ∃ t, Returns check t () ∧ ∀ ev ∈ t, ev = nowIs now

theorem passesAt_validateTimeWindow {exp clockSkewLeeway now : Int64} {nbf : Option Int64} :
    PassesAt now (validateTimeWindow exp nbf clockSkewLeeway) ↔
      now ≤ exp + clockSkewLeeway ∧ ∀ n, nbf = some n → n - clockSkewLeeway ≤ now := by
  constructor
  · intro ⟨t, h, hnow⟩
    obtain ⟨now', hmem, hexp, hnbf⟩ := returns_validateTimeWindow h
    rw [nowIs_inj (hnow _ hmem)] at hexp hnbf
    exact ⟨hexp, hnbf⟩
  · intro ⟨hexp, hnbf⟩
    have hlate : ¬exp + clockSkewLeeway < now := Int64.not_lt.mpr hexp
    have hearly : (nbf.any fun n => now < n - clockSkewLeeway) = false := by
      cases nbf with
      | none => rfl
      | some n => simpa [Int64.not_lt] using hnbf n rfl
    refine ⟨[nowIs now], ?_, by simp⟩
    simp [validateTimeWindow, rejectIf, hlate, hearly, returns_unixNow_bind]

theorem passesAt_validateAssertionLifetime {claims : AssertionClaims}
    {maxTtl clockSkewLeeway now : Int64} :
    PassesAt now (validateAssertionLifetime claims maxTtl clockSkewLeeway) ↔
      claims.exp - claims.iat.getD now ≤ maxTtl + clockSkewLeeway := by
  constructor
  · intro ⟨t, h, hnow⟩
    exact returns_validateAssertionLifetime h hnow
  · intro hspan
    have hlong : ¬maxTtl + clockSkewLeeway < claims.exp - claims.iat.getD now :=
      Int64.not_lt.mpr hspan
    cases hiat : claims.iat with
    | some iat =>
        rw [hiat, Option.getD_some] at hlong
        refine ⟨[], ?_, by simp⟩
        simp [validateAssertionLifetime, assertionSpan, hiat, rejectIf, hlong]
    | none =>
        rw [hiat, Option.getD_none] at hlong
        refine ⟨[nowIs now], ?_, by simp⟩
        simp [validateAssertionLifetime, assertionSpan, hiat, rejectIf, hlong, returns_unixNow_bind]

/-- An accepted assertion has passed the checks against the clock. -/
theorem clockPasses_of_accepted [Crates] {token : String} {jwks : JwksDocument}
    {allowedAlgs : List String} {options : AssertionVerificationOptions} {now : Int64}
    {claims : AssertionClaims} (h : AcceptedAt token jwks allowedAlgs options now claims) :
    ClockPasses claims options.maxTtl options.clockSkewLeeway now := by
  obtain ⟨t, h, hnow⟩ := h
  simp only [verifyAssertionWithAllowedAlgs, returns_ofExcept_bind, liftM_eq] at h
  obtain ⟨verified, -, -, -, -, -, -, -, -, -, h⟩ := h
  rw [returns_bind] at h
  obtain ⟨_, t₁, t₂, rfl, hwindow, h⟩ := h
  rw [returns_bind] at h
  obtain ⟨_, t₃, t₄, rfl, hlifetime, h⟩ := h
  simp only [returns_ofExcept_bind, pure_eq, returns_done] at h
  obtain ⟨-, -, -, rfl⟩ := h
  constructor
  · obtain ⟨now', hmem, hexp, -⟩ := returns_validateTimeWindow hwindow
    rw [nowIs_inj (hnow _ (List.mem_append_left _ hmem))] at hexp
    exact hexp
  · refine returns_validateAssertionLifetime hlifetime fun ev hev => ?_
    exact hnow ev (List.mem_append_right _ (List.mem_append_left _ hev))

/-- And one that passes them is left alone by both. -/
theorem exists_returns_clockChecks {claims : AssertionClaims} {maxTtl clockSkewLeeway now : Int64}
    (h : ClockPasses claims maxTtl clockSkewLeeway now) :
    ∃ t, Returns (do
        validateTimeWindow claims.exp none clockSkewLeeway
        validateAssertionLifetime claims maxTtl clockSkewLeeway) t () ∧
      ∀ ev ∈ t, ev = nowIs now := by
  have hopen : PassesAt now (validateTimeWindow claims.exp none clockSkewLeeway) :=
    passesAt_validateTimeWindow.mpr ⟨h.1, nofun⟩
  obtain ⟨t₁, hwindow, hnow₁⟩ := hopen
  obtain ⟨t₂, hlifetime, hnow₂⟩ := passesAt_validateAssertionLifetime.mpr h.2
  refine ⟨t₁ ++ t₂, returns_bind.mpr ⟨(), t₁, t₂, rfl, hwindow, hlifetime⟩, fun ev hev => ?_⟩
  rcases List.mem_append.mp hev with hev | hev
  · exact hnow₁ ev hev
  · exact hnow₂ ev hev

/-! ### Any times can be signed -/

namespace Sample

/-- An assertion of `agent` about itself, with these times. -/
def timedClaims (exp : Int64) (iat : Option Int64) : AssertionClaims :=
  { assertionClaims "agent" exp "a1" with iat := iat }

/-- The sample crates, where the payload of the actor's assertion has these times. -/
abbrev timedCrates (exp : Int64) (iat : Option Int64) : Crates :=
  { crates with
    assertionFromSlice := fun bytes =>
      if bytes = actor1.payload then .ok (timedClaims exp iat) else .error refused }

def timedOptions (maxTtl clockSkewLeeway : Int64) : AssertionVerificationOptions where
  expectedIssuer := issuer
  expectedAudiences := [issuer]
  clockSkewLeeway := clockSkewLeeway
  maxTtl := maxTtl
  bindingSubjectToken := none
  requireSubjectBinding := false
  keyBindingRegistry := none

theorem verify_timed (exp : Int64) (iat : Option Int64) :
    @verifyClaimsAgainstJwksWithAllowedAlgs (timedCrates exp iat) _
      (timedCrates exp iat).assertionFromSlice actor1.token ⟨[jwk "agent-1"]⟩ ["RS256"] =
        .ok ⟨timedClaims exp iat, "RS256", "agent-1", some "JWT"⟩ := by
  have hheader : Crates.headerFromSlice actor1.header =
      .ok ⟨"RS256", some "agent-1", some "JWT"⟩ := toOption_eq_some.mp (by decide)
  have hs : actor1 ∈ signed := List.mem_cons_of_mem _ (List.mem_cons_self ..)
  exact verify_token hs hheader rfl (by simp) (if_pos rfl)

theorem validateIssuer_timed (exp : Int64) (iat : Option Int64) :
    @validateIssuer (timedCrates exp iat) issuer = .ok issuer :=
  validateIssuer_issuer

/-- An assertion that passes the checks against the clock is accepted. -/
theorem accepted_timed {exp : Int64} {iat : Option Int64} {maxTtl clockSkewLeeway now : Int64}
    (h : ClockPasses (timedClaims exp iat) maxTtl clockSkewLeeway now) :
    @AcceptedAt (timedCrates exp iat) actor1.token ⟨[jwk "agent-1"]⟩ ["RS256"]
      (timedOptions maxTtl clockSkewLeeway) now (timedClaims exp iat) := by
  obtain ⟨t, hreturns, hnow⟩ := exists_returns_clockChecks h
  have haud : (timedOptions maxTtl clockSkewLeeway).expectedAudiences.any
      (audienceMatches (timedClaims exp iat).aud) = true := by
    simp [timedOptions, timedClaims, assertionClaims, audienceMatches]
  have hbound : @boundToSubject (timedCrates exp iat) (timedClaims exp iat)
      (timedOptions maxTtl clockSkewLeeway) = true := by
    simp [boundToSubject, timedOptions]
  have heq := @verifyAssertionWithAllowedAlgs_eq (timedCrates exp iat) _ _ _ _
    (timedOptions maxTtl clockSkewLeeway) _ (verify_timed exp iat) (validateIssuer_timed exp iat) rfl
    haud rfl hbound
  refine ⟨t, ?_, hnow⟩
  rw [heq, returns_bind]
  exact ⟨(), t, [], (List.append_nil t).symm, hreturns, returns_done.mpr ⟨rfl, rfl⟩⟩

end Sample

/-! ### The cap -/

/-- Whatever is signed and however it expires: an assertion with this `iat` that is
accepted at `now` has at most the maximum and the leeway left. -/
def AssertionCapped (maxTtl clockSkewLeeway now : Int64) (iat : Option Int64) : Prop :=
  ∀ (_ : Crates) (token : String) (jwks : JwksDocument) (allowedAlgs : List String)
    (options : AssertionVerificationOptions) (claims : AssertionClaims),
    options.maxTtl = maxTtl → options.clockSkewLeeway = clockSkewLeeway → claims.iat = iat →
    AcceptedAt token jwks allowedAlgs options now claims →
      claims.exp.toInt - now.toInt ≤ maxTtl.toInt + clockSkewLeeway.toInt

/-- The moments from which the cap is measured rightly: none of them lies after `now`,
and from none of them the lifetime wraps around. -/
def MeasuredRightly (clockSkewLeeway now : Int64) (iat : Option Int64) : Prop :=
  ∀ issued, iat = some issued → -clockSkewLeeway.toInt ≤ issued.toInt ∧ issued ≤ now

/-- The cap is so large that no expiry an accepted assertion can have exceeds it. -/
def CapBeyondClock (maxTtl clockSkewLeeway now : Int64) : Prop :=
  2 ^ 63 - 1 - clockSkewLeeway.toInt - now.toInt ≤ maxTtl.toInt + clockSkewLeeway.toInt

section Arithmetic

variable {maxTtl clockSkewLeeway now : Int64} {claims : AssertionClaims}

/-- The window leaves room for the leeway after the expiry. -/
theorem ClockPasses.window (h : ClockPasses claims maxTtl clockSkewLeeway now)
    (hleeway : 0 ≤ clockSkewLeeway) (hnow : 0 ≤ now) :
    now.toInt ≤ claims.exp.toInt + clockSkewLeeway.toInt ∧
      claims.exp.toInt + clockSkewLeeway.toInt < 2 ^ 63 := by
  have hwindow := Int64.le_iff_toInt_le.mp h.1
  have hsum := toInt_add_cases claims.exp clockSkewLeeway
  have hexp := toInt_range claims.exp
  have hrange := toInt_range clockSkewLeeway
  rw [Int64.le_iff_toInt_le, Int64.toInt_zero] at hleeway hnow
  omega

/-- The span that is compared is at most the cap. -/
theorem ClockPasses.span (h : ClockPasses claims maxTtl clockSkewLeeway now)
    (hleeway : 0 ≤ clockSkewLeeway) (hmaxTtl : 1 ≤ maxTtl) :
    (claims.exp - claims.iat.getD now).toInt ≤ maxTtl.toInt + clockSkewLeeway.toInt := by
  have hspan := Int64.le_iff_toInt_le.mp h.2
  have hcap := toInt_add_cases maxTtl clockSkewLeeway
  have hone : (1 : Int64).toInt = 1 := by decide
  rw [Int64.le_iff_toInt_le, Int64.toInt_zero] at hleeway
  rw [Int64.le_iff_toInt_le, hone] at hmaxTtl
  omega

/-- Measured rightly, the cap bounds what is left. -/
theorem ClockPasses.capped (h : ClockPasses claims maxTtl clockSkewLeeway now)
    (hleeway : 0 ≤ clockSkewLeeway) (hmaxTtl : 1 ≤ maxTtl) (hnow : 0 ≤ now)
    (hiat : MeasuredRightly clockSkewLeeway now claims.iat) :
    claims.exp.toInt - now.toInt ≤ maxTtl.toInt + clockSkewLeeway.toInt := by
  have hwindow := h.window hleeway hnow
  have hspan := h.span hleeway hmaxTtl
  rw [Int64.le_iff_toInt_le, Int64.toInt_zero] at hleeway hnow
  have hbounds : -clockSkewLeeway.toInt ≤ (claims.iat.getD now).toInt ∧
      (claims.iat.getD now).toInt ≤ now.toInt := by
    cases hcase : claims.iat with
    | some issued =>
        obtain ⟨hlow, hhigh⟩ := hiat issued hcase
        exact ⟨hlow, Int64.le_iff_toInt_le.mp hhigh⟩
    | none =>
        show -clockSkewLeeway.toInt ≤ now.toInt ∧ now.toInt ≤ now.toInt
        omega
  have hexact := toInt_sub_cases claims.exp (claims.iat.getD now)
  omega

/-- From any other moment an expiry passes that the cap should have refused: the largest
one that passes the window when the subtraction wraps around, and the first one beyond
the cap when `iat` lies in the future. -/
theorem exists_clockPasses_beyond {issued : Int64} (hleeway : 0 ≤ clockSkewLeeway)
    (hmaxTtl : 1 ≤ maxTtl) (hnow : 0 ≤ now)
    (hcap : ¬ CapBeyondClock maxTtl clockSkewLeeway now)
    (hissued : ¬ MeasuredRightly clockSkewLeeway now (some issued)) :
    ∃ exp : Int64, ClockPasses (Sample.timedClaims exp (some issued)) maxTtl clockSkewLeeway now ∧
      maxTtl.toInt + clockSkewLeeway.toInt < exp.toInt - now.toInt := by
  have hone : (1 : Int64).toInt = 1 := by decide
  have hleewayRange := toInt_range clockSkewLeeway
  have hnowRange := toInt_range now
  have hissuedRange := toInt_range issued
  have hcapSum := toInt_add_cases maxTtl clockSkewLeeway
  rw [Int64.le_iff_toInt_le, Int64.toInt_zero] at hleeway hnow
  rw [Int64.le_iff_toInt_le, hone] at hmaxTtl
  simp only [CapBeyondClock, not_le] at hcap
  simp only [MeasuredRightly, Option.some.injEq, forall_eq', not_and_or, not_le,
    Int64.le_iff_toInt_le] at hissued
  -- an expiry as an integer, and what the two checks make of it
  have hpass : ∀ n : Int, 0 ≤ n → n < 2 ^ 63 →
      now.toInt ≤ n + clockSkewLeeway.toInt → n + clockSkewLeeway.toInt < 2 ^ 63 →
      (n - issued.toInt ≤ maxTtl.toInt + clockSkewLeeway.toInt ∨ 2 ^ 63 ≤ n - issued.toInt) →
      ClockPasses (Sample.timedClaims (Int64.ofInt n) (some issued)) maxTtl clockSkewLeeway now ∧
        (Int64.ofInt n).toInt = n := by
    intro n hlow hhigh hwindow hroom hspan
    have hn : (Int64.ofInt n).toInt = n := Int64.toInt_ofInt_of_le (by omega) hhigh
    have hsum := toInt_add_cases (Int64.ofInt n) clockSkewLeeway
    have hdiff := toInt_sub_cases (Int64.ofInt n) issued
    refine ⟨⟨Int64.le_iff_toInt_le.mpr ?_, Int64.le_iff_toInt_le.mpr ?_⟩, hn⟩
    · show now.toInt ≤ (Int64.ofInt n + clockSkewLeeway).toInt
      omega
    · show (Int64.ofInt n - issued).toInt ≤ (maxTtl + clockSkewLeeway).toInt
      omega
  rcases hissued with hpast | hfuture
  · obtain ⟨hpasses, hn⟩ := hpass (2 ^ 63 - 1 - clockSkewLeeway.toInt) (by omega) (by omega)
      (by omega) (by omega) (by omega)
    exact ⟨_, hpasses, by omega⟩
  · obtain ⟨hpasses, hn⟩ := hpass (now.toInt + maxTtl.toInt + clockSkewLeeway.toInt + 1) (by omega)
      (by omega) (by omega) (by omega) (by omega)
    exact ⟨_, hpasses, by omega⟩

/-- **When the cap bounds what is left of an accepted assertion.** Exactly when the
assertion carries no `iat`, or one that is not after the clock and not so far before it
that the subtraction wraps around, or the cap exceeds every expiry. -/
theorem assertionCapped_iff (hleeway : 0 ≤ clockSkewLeeway) (hmaxTtl : 1 ≤ maxTtl)
    (hnow : 0 ≤ now) (iat : Option Int64) :
    AssertionCapped maxTtl clockSkewLeeway now iat ↔
      MeasuredRightly clockSkewLeeway now iat ∨ CapBeyondClock maxTtl clockSkewLeeway now := by
  constructor
  · intro hcapped
    by_contra hother
    rw [not_or] at hother
    obtain ⟨hmeasured, hcap⟩ := hother
    cases iat with
    | none => exact hmeasured fun _ h => nomatch h
    | some issued =>
        obtain ⟨exp, hpasses, hbeyond⟩ :=
          exists_clockPasses_beyond hleeway hmaxTtl hnow hcap hmeasured
        have hbound := hcapped (Sample.timedCrates exp (some issued)) _ _ _ _ _ rfl rfl rfl
          (Sample.accepted_timed hpasses)
        exact absurd hbound (not_le.mpr hbeyond)
  · rintro hcase _ token jwks allowedAlgs options claims rfl rfl rfl haccepted
    have hpasses := clockPasses_of_accepted haccepted
    rcases hcase with hmeasured | hcap
    · exact hpasses.capped hleeway hmaxTtl hnow hmeasured
    · have hwindow := hpasses.window hleeway hnow
      rw [CapBeyondClock] at hcap
      omega

end Arithmetic

namespace Sample

/-- At 100, assertions issued at 40 are capped, and assertions issued at 101 are not. -/
theorem capped_at_100 :
    AssertionCapped 300 30 100 (some 40) ∧ ¬ AssertionCapped 300 30 100 (some 101) := by
  have hiff : ∀ iat, AssertionCapped 300 30 100 iat ↔
      MeasuredRightly 30 100 iat ∨ CapBeyondClock 300 30 100 :=
    assertionCapped_iff (by decide) (by decide) (by decide)
  constructor
  · refine (hiff (some 40)).mpr (Or.inl fun issued h => ?_)
    cases h
    decide
  · intro h
    rcases (hiff (some 101)).mp h with hmeasured | hcap
    · exact absurd (hmeasured 101 rfl).2 (by decide)
    · exact absurd hcap (by unfold CapBeyondClock; decide)

/-- An actor whose clock is ten seconds ahead: the assertion was issued at 40 for 160
seconds. Where that is the maximum, it is accepted at 30 with 170 seconds left. -/
theorem issued_ahead_beyond_cap :
    @AcceptedAt (timedCrates 200 (some 40)) actor1.token ⟨[jwk "agent-1"]⟩ ["RS256"]
      (timedOptions 160 0) 30 (assertionClaims "agent" 200 "a1") ∧
      ¬ (assertionClaims "agent" 200 "a1").exp.toInt - (30 : Int64).toInt ≤
        (timedOptions 160 0).maxTtl.toInt + (timedOptions 160 0).clockSkewLeeway.toInt :=
  ⟨accepted_timed (by constructor <;> decide), by decide⟩

end Sample

end StsDelegate
