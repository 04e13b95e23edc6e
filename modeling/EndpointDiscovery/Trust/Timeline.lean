import EndpointDiscovery.Trust.Checker

/-!
# Overlapping checks

Parts of a program of checks that start at given times, take as long as the answers
to their questions, and may be dropped after a while.  Time passes only between the
events of the parts; at one time the parts act in their order, again and again until
nothing changes.
-/

namespace EndpointDiscovery

/-! ## Parts -/

inductive CheckAction where
  | check (certificate : Certificate) (instant : Instant)
  | isTrusted (certificate : Certificate)
  | revocation (certificate : Certificate)
  | clear

inductive ActionResult where
  | checked (result : CheckResult)
  | trusted (isTrusted : Bool)
  | status (status : RevocationStatus)
  | cleared
  | cancelled
  | failed (fault : TrustFault)

structure TimedAction where
  action : CheckAction
  start : Nat := 0
  cancelAfter? : Option Nat := none

/-- What a part does once its revocation check has ended. -/
structure PendingCheck where
  certificate : Certificate
  number : Nat
  finish : Except TrustFault RevocationStatus → ActionResult

inductive PartState where
  | notStarted
  | asking (pending : PendingCheck) (due : Nat) (revoked? : Option Bool)
  | waiting (pending : PendingCheck)
  | finished (result : ActionResult)

namespace ActionResult

def ofExcept {α : Type} (wrap : α → ActionResult) : Except TrustFault α →
    ActionResult
  | .ok value => wrap value
  | .error fault => .failed fault

end ActionResult

namespace Checker

/-! ## One part -/

def sendQuestion (checker : Checker) (now : Nat) (pending : PendingCheck)
    (state : CheckerState) :
    CheckerState × PartState :=
  let (state, reply) := checker.source.ask pending.certificate state
  if reply.delay = 0 then
    let (cache, result) :=
      state.cache.answer pending.number pending.certificate.serialText
        reply.revoked?
    ({ state with cache }, .finished (pending.finish result))
  else
    (state, .asking pending (now + reply.delay) reply.revoked?)

def advance (checker : Checker) (now : Nat) (pending : PendingCheck)
    (state : CheckerState) (progress : CheckProgress) : CheckerState × PartState :=
  match progress with
  | .done status => (state, .finished (pending.finish (.ok status)))
  | .asks => checker.sendQuestion now pending state
  | .waits => (state, .waiting pending)

def startRevocation (checker : Checker) (now : Nat) (certificate : Certificate)
    (finish : Except TrustFault RevocationStatus → ActionResult)
    (state : CheckerState) :
    CheckerState × PartState :=
  let number := state.cache.started
  let (cache, progress) := state.cache.start certificate.serialText
  checker.advance now ⟨certificate, number, finish⟩ { state with cache } progress

def startCheck (checker : Checker) (now : Nat) (certificate : Certificate)
    (instant : Instant) (wrap : CheckResult → ActionResult) (state : CheckerState) :
    CheckerState × PartState :=
  match certificate.checkIssuance checker.caSet.certificates instant with
  | .ok .valid =>
      checker.startRevocation now certificate
        (fun status => .ofExcept wrap (status.map resultOfStatus)) state
  | result => (state, .finished (.ofExcept wrap result))

/-- Starts a part; `present` is the instant at which trust is asked for. -/
def startAction (checker : Checker) (present : Instant) (now : Nat)
    (action : CheckAction) (state : CheckerState) : CheckerState × PartState :=
  match action with
  | .check certificate instant =>
      checker.startCheck now certificate instant .checked state
  | .isTrusted certificate =>
      checker.startCheck now certificate present (.trusted ·.isValid) state
  | .revocation certificate =>
      checker.startRevocation now certificate (.ofExcept .status) state
  | .clear => (clear state, .finished .cleared)

def act (checker : Checker) (present : Instant) (now : Nat) (part : TimedAction)
    (state : CheckerState) (partState : PartState) : CheckerState × PartState :=
  match partState with
  | .notStarted =>
      if part.start ≤ now then checker.startAction present now part.action state
      else (state, .notStarted)
  | .asking pending due revoked? =>
      if due ≤ now then
        let (cache, result) :=
          state.cache.answer pending.number pending.certificate.serialText revoked?
        ({ state with cache }, .finished (pending.finish result))
      else (state, partState)
  | .waiting pending =>
      let (cache, progress) := state.cache.resume pending.number
      checker.advance now pending { state with cache } progress
  | .finished _ => (state, partState)

def dropLate (now : Nat) (part : TimedAction) (state : CheckerState)
    (partState : PartState) :
    CheckerState × PartState :=
  let isLate := part.cancelAfter?.any (part.start + · ≤ now)
  match partState with
  | .asking pending _ _ | .waiting pending =>
      if isLate then
        ({ state with cache := state.cache.drop pending.number },
          .finished .cancelled)
      else (state, partState)
  | _ => (state, partState)

/-! ## All parts -/

def pass (checker : Checker) (present : Instant) (now : Nat) :
    List (TimedAction × PartState) → CheckerState →
      CheckerState × List (TimedAction × PartState)
  | [], state => (state, [])
  | (part, partState) :: parts, state =>
      let (state, partState) := checker.act present now part state partState
      let (state, partState) := dropLate now part state partState
      let (state, parts) := checker.pass present now parts state
      (state, (part, partState) :: parts)

/-- A part changes its state at most three times, so that this many passes leave
nothing to do. -/
def passes (checker : Checker) (present : Instant) (now : Nat) :
    Nat → List (TimedAction × PartState) → CheckerState →
      CheckerState × List (TimedAction × PartState)
  | 0, parts, state => (state, parts)
  | count + 1, parts, state =>
      let (state, parts) := checker.pass present now parts state
      checker.passes present now count parts state

def nextTime? : TimedAction × PartState → Option Nat
  | (part, .notStarted) => some part.start
  | (part, .asking _ due _) =>
      some (part.cancelAfter?.elim due fun after => min due (part.start + after))
  | (part, .waiting _) => part.cancelAfter?.map (part.start + ·)
  | (_, .finished _) => none

def runFrom (checker : Checker) (present : Instant) :
    Nat → List (TimedAction × PartState) → CheckerState →
      CheckerState × List (TimedAction × PartState)
  | 0, parts, state => (state, parts)
  | fuel + 1, parts, state =>
      match (parts.filterMap nextTime?).min? with
      | none => (state, parts)
      | some now =>
          let (state, parts) :=
            checker.passes present now (3 * parts.length + 1) parts state
          checker.runFrom present fuel parts state

def run (checker : Checker) (present : Instant) (parts : List TimedAction)
    (state : CheckerState) : CheckerState × List ActionResult :=
  let (state, parts) :=
    checker.runFrom present (4 * parts.length + 1)
      (parts.map (·, .notStarted)) state
  (state, parts.map fun
    | (_, .finished result) => result
    | _ => .cancelled)

end Checker

end EndpointDiscovery
