import StsDelegate.Core
import StsDelegate.Replay

/-!
# OAuth-shaped errors

`HttpError` of `sts-http`, its constructors, and the translation of the lower
layers' errors.
-/

namespace StsDelegate

/-- OAuth-shaped HTTP error rendered at the transport boundary. -/
structure HttpError where
  status : Nat
  error : Option String
  description : String
  retryAfter : Option String
  wwwAuthenticate : Option String
  deriving DecidableEq

namespace HttpError

def oauth (status : Nat) (error description : String) : HttpError :=
  ⟨status, some error, description, none, none⟩

def invalidRequest (description : String) : HttpError := oauth 400 "invalid_request" description

def invalidClient (description : String) : HttpError := oauth 401 "invalid_client" description

def unsupportedAuthorizationClientAuth (description challenge : String) : HttpError :=
  ⟨401, some "invalid_client", description, none, some challenge⟩

def invalidTarget (description : String) : HttpError := oauth 400 "invalid_target" description

def invalidScope (description : String) : HttpError := oauth 400 "invalid_scope" description

def invalidGrant (description : String) : HttpError := oauth 400 "invalid_grant" description

def unsupportedGrantType (description : String) : HttpError :=
  oauth 400 "unsupported_grant_type" description

def invalidDpopProof (description : String) : HttpError :=
  oauth 400 "invalid_dpop_proof" description

def serviceUnavailable (description : String) : HttpError := ⟨503, none, description, some "2", none⟩

def serverError (description : String) : HttpError := oauth 500 "server_error" description

end HttpError

def mapCoreError (err : CoreError) : HttpError :=
  match err.kind with
  | .invalidRequest => .invalidRequest err.message
  | .invalidClient => .invalidClient err.message
  | .invalidTarget => .invalidTarget err.message
  | .invalidScope => .invalidScope err.message

def mapReplayError (err : ReplayError) : HttpError :=
  match err.kind with
  | .invalidRequest => .invalidRequest err.message
  | .replayDetected => .invalidRequest err.message
  | .storeFull => .serviceUnavailable err.message

def mapClientAssertionReplayError (err : ReplayError) : HttpError :=
  match err.kind with
  | .invalidRequest => .invalidClient err.message
  | .replayDetected => .invalidClient "client_assertion replay detected"
  | .storeFull => .serviceUnavailable err.message

def mapDpopReplayError (err : ReplayError) : HttpError :=
  match err.kind with
  | .invalidRequest => .invalidDpopProof "DPoP proof replay detected"
  | .replayDetected => .invalidDpopProof "DPoP proof replay detected"
  | .storeFull => .serviceUnavailable err.message

end StsDelegate
