import StsDelegate.KeyBinding
import StsDelegate.Http.ReplayKeys
import StsDelegate.FileReplayRuns
import StsDelegate.FileReplaySpec
import StsDelegate.FileReplayCapacity
import StsDelegate.RotateSpec
import StsDelegate.RotateTokens
import StsDelegate.RotateRuns
import StsDelegate.PqcRotateRuns
import StsDelegate.Http.Soundness
import StsDelegate.Http.SingleUse
import StsDelegate.Http.Atomicity
import StsDelegate.Http.Issued
import StsDelegate.Http.TokenSize
import StsDelegate.AssertionLifetime
import StsDelegate.Discovery
import StsDelegate.NoConfusion
import StsDelegate.Http.Disclosure
import StsDelegate.InboundAlgs
import StsDelegate.TrustAnchors
import StsDelegate.SigningPolicy
import StsDelegate.Http.Lifetime
import StsDelegate.Http.Revocation
import StsDelegate.TimeArithmetic
import StsDelegate.DpopSoundness
import StsDelegate.Http.Scopes
import StsDelegate.Http.FormOrder
import StsDelegate.Http.ActChain
import StsDelegate.Cli.KeySizes
import StsDelegate.Cli.Redaction
import StsDelegate.RsaDer
import StsDelegate.DpopHolder
import StsDelegate.RotateDiskRuns
import StsDelegate.Http.Hops
import StsDelegate.Http.Failures
import StsDelegate.Http.Activity
import StsDelegate.Cli.ExchangeForm
import StsDelegate.EndToEnd
import StsDelegate.Http.Metrics
import StsDelegate.Http.Counters
import StsDelegate.Http.Scrapes
