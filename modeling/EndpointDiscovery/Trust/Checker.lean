import EndpointDiscovery.Trust.CaSet
import EndpointDiscovery.Trust.Decision
import EndpointDiscovery.Trust.RevocationCache

/-!
# Checking certificates

A checker holds the trusted authorities and a source of revocation answers.  Its
state is the cache and the questions that were asked.
-/

namespace EndpointDiscovery

/-- An answer, which is missing if the question failed, and the
milliseconds it takes. -/
structure RevocationReply where
  revoked? : Option Bool
  delay : Nat := 0
deriving DecidableEq, Repr

/-- Where it is asked whether a certificate is revoked.  An answer may depend on the
certificates that were asked about before. -/
inductive RevocationSource where
  | unchecked
  | asks (reply : List Certificate → Certificate → RevocationReply)

structure Checker where
  caSet : CaSet
  source : RevocationSource

structure CheckerState where
  cache : RevocationCache := {}
  asked : List Certificate := []

namespace RevocationSource

def ask (source : RevocationSource) (certificate : Certificate)
    (state : CheckerState) :
    CheckerState × RevocationReply :=
  match source with
  | .unchecked => (state, ⟨some false, 0⟩)
  | .asks reply =>
      ({ state with asked := state.asked ++ [certificate] },
        reply state.asked certificate)

end RevocationSource

namespace Checker

/-! ## Checks that do not overlap -/

/-- The revocation status of a certificate while no other check is in progress.
Then there is no check to wait for, so that the last case does not occur. -/
def revocationStatus (checker : Checker) (certificate : Certificate)
    (state : CheckerState) :
    CheckerState × Except TrustFault RevocationStatus :=
  let serial := certificate.serialText
  let check := state.cache.started
  let (cache, progress) := state.cache.start serial
  let state := { state with cache }
  match progress with
  | .done status => (state, .ok status)
  | .asks =>
      let (state, reply) := checker.source.ask certificate state
      let (cache, result) := state.cache.answer check serial reply.revoked?
      ({ state with cache }, result)
  | .waits =>
      ({ state with cache := cache.drop check },
        .error (.foreign (.revocationCheckUnavailable serial)))

def resultOfStatus (status : RevocationStatus) : CheckResult :=
  if status.isRevoked then .revoked else .valid

/-- Revocation is looked at only if everything else is in order. -/
def check (checker : Checker) (certificate : Certificate) (instant : Instant)
    (state : CheckerState) : CheckerState × Except TrustFault CheckResult :=
  match certificate.checkIssuance checker.caSet.certificates instant with
  | .ok .valid =>
      let (state, status) := checker.revocationStatus certificate state
      (state, status.map resultOfStatus)
  | result => (state, result)

def isTrusted (checker : Checker) (certificate : Certificate) (now : Instant)
    (state : CheckerState) : CheckerState × Except TrustFault Bool :=
  let (state, result) := checker.check certificate now state
  (state, result.map CheckResult.isValid)

def clear (state : CheckerState) : CheckerState :=
  { state with cache := state.cache.clear }

end Checker

end EndpointDiscovery
