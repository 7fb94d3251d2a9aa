import StsDelegate.Http.Error
import StsDelegate.Jose
import StsDelegate.Lib.Prog

/-!
# The calls a request makes

A request handler is pure except for these calls: it reads the clock, uses the
replay store, draws a token id, signs, and uses the revocation set. Handlers are
`Prog`s over this signature, so that one definition serves a single run, a
sequence of requests and any interleaving of requests.

Each call is atomic: the stores are behind a mutex in the source, and what a
handler does between two calls touches nothing shared.
-/

namespace StsDelegate

open Effectful

/-- A call out of a request handler. -/
inductive Call
  /-- `unix_now` of the HTTP layer, `now_unix` of the verifier. -/
  | unixNow
  /-- `ReplayPolicy::check_and_record`. -/
  | checkAndRecord (jti : String) (exp now : Int64)
  /-- `new_jti`. -/
  | newJti
  /-- `JoseSigner::sign_claims`. -/
  | signClaims (claims : MintedClaims)
  /-- `RevocationState::revoke`. -/
  | revoke (token : String) (exp now : Int64) (maxSeen : Nat)
  /-- `RevocationState::is_revoked_or_unavailable`. -/
  | isRevokedOrUnavailable (token : String) (now : Int64)

/-- What a call answers. -/
abbrev Call.Answer : Call → Type
  | .unixNow => Int64
  | .checkAndRecord _ _ _ => Except ReplayError Unit
  | .newJti => String
  | .signClaims _ => Except JoseError String
  | .revoke _ _ _ _ => Except HttpError Unit
  | .isRevokedOrUnavailable _ _ => Bool

/-- The effect signature of request handling. -/
abbrev sts : Signature where
  Call := Call
  Answer := Call.Answer

/-- A request handler, or a part of one. -/
abbrev Handler (ε α : Type) : Type := Prog sts ε α

/-- A completed call of a request handler. -/
abbrev Ev : Type := Event sts

variable {ε : Type}

def unixNow : Handler ε Int64 := Prog.perform (σ := sts) .unixNow

def newJti : Handler ε String := Prog.perform (σ := sts) .newJti

/-- Record a replay key, or fail with the translated refusal. -/
def checkAndRecord (jti : String) (exp now : Int64) (mapErr : ReplayError → ε) : Handler ε Unit :=
  Prog.perform (σ := sts) (.checkAndRecord jti exp now) >>= fun (answer : Except _ _) =>
    Prog.ofExcept (answer.mapError mapErr)

/-- Sign, or fail with the translated error. -/
def signClaims (claims : MintedClaims) (mapErr : JoseError → ε) : Handler ε String :=
  Prog.perform (σ := sts) (.signClaims claims) >>= fun (answer : Except _ _) =>
    Prog.ofExcept (answer.mapError mapErr)

/-- Put a token into the revocation set, or fail with the refusal. -/
def revokeToken (token : String) (exp now : Int64) (maxSeen : Nat) : Handler HttpError Unit :=
  Prog.perform (σ := sts) (.revoke token exp now maxSeen) >>= fun (answer : Except _ _) =>
    Prog.ofExcept answer

def isRevokedOrUnavailable (token : String) (now : Int64) : Handler ε Bool :=
  Prog.perform (σ := sts) (.isRevokedOrUnavailable token now)

/-! ### Completed calls -/

/-- A clock reading. -/
abbrev nowIs (now : Int64) : Ev := ⟨.unixNow, now⟩

/-- A use of the replay store and its answer. -/
abbrev recordIs (jti : String) (exp now : Int64) (answer : Except ReplayError Unit) : Ev :=
  ⟨.checkAndRecord jti exp now, answer⟩

/-- A signature request and its answer. -/
abbrev signIs (claims : MintedClaims) (answer : Except JoseError String) : Ev :=
  ⟨.signClaims claims, answer⟩

open Prog

variable {t : List Ev} {jti : String} {exp now : Int64} {mapErr : ReplayError → ε}
  {claims : MintedClaims} {signErr : JoseError → ε}

/-- The clock is read first. -/
theorem returns_unixNow_bind {α : Type} {f : Int64 → Handler ε α} {b : α} :
    Returns (unixNow >>= f) t b ↔ ∃ now t', t = nowIs now :: t' ∧ Returns (f now) t' b :=
  returns_perform_then

theorem fails_unixNow_bind {α : Type} {f : Int64 → Handler ε α} {e : ε} :
    Fails (unixNow >>= f) t e ↔ ∃ now t', t = nowIs now :: t' ∧ Fails (f now) t' e :=
  fails_perform_then

theorem calls_unixNow_bind {α : Type} {f : Int64 → Handler ε α} {c : Call} :
    Calls (unixNow >>= f) t c ↔
      (t = [] ∧ c = .unixNow) ∨ ∃ now t', t = nowIs now :: t' ∧ Calls (f now) t' c :=
  calls_perform_then

theorem returns_newJti {a : String} :
    Returns (newJti : Handler ε _) t a ↔ t = [⟨.newJti, a⟩] :=
  returns_perform

theorem returns_checkAndRecord {u : Unit} :
    Returns (checkAndRecord jti exp now mapErr) t u ↔ t = [recordIs jti exp now (.ok ())] := by
  rw [checkAndRecord, returns_perform_bind]
  constructor
  · rintro ⟨answer, rfl, h⟩
    cases answer with
    | error err => cases h
    | ok a => rfl
  · rintro rfl
    exact ⟨_, rfl, rfl⟩

theorem fails_checkAndRecord {e : ε} :
    Fails (checkAndRecord jti exp now mapErr) t e ↔
      ∃ err, t = [recordIs jti exp now (.error err)] ∧ e = mapErr err := by
  rw [checkAndRecord, fails_perform_bind]
  constructor
  · rintro ⟨answer, rfl, h⟩
    cases answer with
    | error err => exact ⟨err, rfl, (Except.error.inj h).symm⟩
    | ok a => cases h
  · rintro ⟨err, rfl, rfl⟩
    exact ⟨_, rfl, rfl⟩

theorem calls_checkAndRecord {c : Call} :
    Calls (checkAndRecord jti exp now mapErr) t c ↔ t = [] ∧ c = .checkAndRecord jti exp now :=
  calls_perform_bind

theorem returns_signClaims {token : String} :
    Returns (signClaims claims signErr) t token ↔ t = [signIs claims (.ok token)] := by
  rw [signClaims, returns_perform_bind]
  constructor
  · rintro ⟨answer, rfl, h⟩
    cases answer with
    | error err => cases h
    | ok a => cases h; rfl
  · rintro rfl
    exact ⟨_, rfl, rfl⟩

theorem fails_signClaims {e : ε} :
    Fails (signClaims claims signErr) t e ↔
      ∃ err, t = [signIs claims (.error err)] ∧ e = signErr err := by
  rw [signClaims, fails_perform_bind]
  constructor
  · rintro ⟨answer, rfl, h⟩
    cases answer with
    | error err => exact ⟨err, rfl, (Except.error.inj h).symm⟩
    | ok a => cases h
  · rintro ⟨err, rfl, rfl⟩
    exact ⟨_, rfl, rfl⟩

theorem calls_signClaims {c : Call} :
    Calls (signClaims claims signErr) t c ↔ t = [] ∧ c = .signClaims claims :=
  calls_perform_bind

end StsDelegate
