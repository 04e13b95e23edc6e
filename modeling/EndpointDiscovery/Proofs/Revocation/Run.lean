import EndpointDiscovery.Trust.Decision
import EndpointDiscovery.Trust.RevocationCache

/-!
# Runs of a revocation cache

Any number of checks share a cache.  They start, hear back, look again and are given
up in any order, and the cache is cleared in between.  A run keeps the cache
together with what has become of every check and of its question.
-/

namespace EndpointDiscovery

theorem getElem?_concat_eq_some {α : Type} {items : List α} {last item : α}
    {place : Nat} :
    (items ++ [last])[place]? = some item ↔
      items[place]? = some item ∨ place = items.length ∧ item = last := by
  grind

/-- What happens to a cache; checks go by their numbers.  A check cannot be
interrupted within an event. -/
inductive CacheEvent where
  | start (certificate : Certificate)
  | answer (check : Nat) (reply : Option Bool)
  | resume (check : Nat)
  | drop (check : Nat)
  | clear

/-- A certificate of which only the serial number is known. -/
def Certificate.numbered (serialNumber : Int) : Certificate where
  serialNumber
  signedAlgorithm := ⟨[], none⟩
  issuer := ⟨[]⟩
  notBefore := ⟨false, []⟩
  notAfter := ⟨false, []⟩
  subject := ⟨[]⟩
  key := ⟨⟨[], none⟩, ⟨0, []⟩⟩
  extensions := []
  signed := []
  algorithm := ⟨[], none⟩
  signature := ⟨0, []⟩
  algorithmEncoding := []

/-! ## Checks -/

inductive QueryState where
  | inFlight
  | answered (revoked : Bool)
  | failed
  | dropped
deriving DecidableEq, Repr

namespace QueryState

@[simp] def ofReply : Option Bool → QueryState
  | some revoked => .answered revoked
  | none => .failed

@[simp] def ofProgress? : CheckProgress → Option QueryState
  | .asks => some .inFlight
  | .done _ | .waits => none

theorem ofProgress?_ne_answered (progress : CheckProgress) (revoked : Bool) :
    ofProgress? progress ≠ some (.answered revoked) := by
  cases progress <;> simp

theorem ofProgress?_eq (progress : CheckProgress) :
    ofProgress? progress = none ∨ ofProgress? progress = some .inFlight := by
  cases progress <;> simp

end QueryState

inductive CheckPhase where
  | asking
  | waiting
  | returned (result : Except TrustFault RevocationStatus)
  | dropped

namespace CheckPhase

@[simp] def ofProgress : CheckProgress → CheckPhase
  | .asks => .asking
  | .waits => .waiting
  | .done status => .returned (.ok status)

def isAsking : CheckPhase → Bool
  | .asking => true
  | _ => false

def isWaiting : CheckPhase → Bool
  | .waiting => true
  | _ => false

def isLive (phase : CheckPhase) : Bool := phase.isAsking || phase.isWaiting

@[simp] theorem isAsking_iff (phase : CheckPhase) : phase.isAsking = true ↔
    phase = .asking := by
  cases phase <;> simp [isAsking]

@[simp] theorem isWaiting_iff (phase : CheckPhase) :
    phase.isWaiting = true ↔ phase = .waiting := by
  cases phase <;> simp [isWaiting]

theorem isLive_iff (phase : CheckPhase) :
    phase.isLive = true ↔ phase = .asking ∨ phase = .waiting := by
  simp [isLive]

end CheckPhase

structure CheckRecord where
  certificate : Certificate
  epoch : Nat
  cell : Nat
  phase : CheckPhase
  query? : Option QueryState

namespace CheckRecord

def serial (record : CheckRecord) : String := record.certificate.serialText

def answer? (record : CheckRecord) : Option Bool :=
  match record.query? with
  | some (.answered revoked) => some revoked
  | _ => none

theorem answer?_eq_some_iff (record : CheckRecord) (revoked : Bool) :
    record.answer? = some revoked ↔ record.query? = some (.answered revoked) := by
  unfold answer?
  split
  · rename_i asked hasked
    simp [hasked]
  · rename_i hother
    simpa using hother revoked

end CheckRecord

/-! ## Runs -/

structure CacheRun where
  cache : RevocationCache := {}
  clears : Nat := 0
  checks : List CheckRecord := []

namespace CacheRun

def start (run : CacheRun) (certificate : Certificate) : CacheRun :=
  let (cache, progress) := run.cache.start certificate.serialText
  let record : CheckRecord := {
    certificate
    epoch := run.clears
    cell := (run.cache.takeCell certificate.serialText).2
    phase := .ofProgress progress
    query? := QueryState.ofProgress? progress }
  { run with cache, checks := run.checks ++ [record] }

def answered (run : CacheRun) (check : Nat) (reply : Option Bool)
    (record : CheckRecord) :
    RevocationCache × CheckRecord :=
  let (cache, result) := run.cache.answer check record.serial reply
  (cache,
    { record with phase := .returned result, query? := some (.ofReply reply) })

def resumed (run : CacheRun) (check : Nat) (record : CheckRecord) :
    RevocationCache × CheckRecord :=
  let (cache, progress) := run.cache.resume check
  (cache,
    { record with
      phase := .ofProgress progress
      query? := QueryState.ofProgress? progress })

def dropped (run : CacheRun) (check : Nat) (record : CheckRecord) :
    RevocationCache × CheckRecord :=
  (run.cache.drop check,
    { record with
      phase := .dropped
      query? := record.query?.map fun _ => .dropped })

/-- Lets a check go on that has come to a certain phase. -/
def advance? (run : CacheRun) (check : Nat) (isReady : CheckPhase → Bool)
    (change : CheckRecord → RevocationCache × CheckRecord) : Option CacheRun :=
  match run.checks[check]? with
  | none => none
  | some record =>
      if isReady record.phase then
        let (cache, record) := change record
        some { run with cache, checks := run.checks.set check record }
      else
        none

def step? (run : CacheRun) : CacheEvent → Option CacheRun
  | .start certificate => some (run.start certificate)
  | .answer check reply =>
      run.advance? check CheckPhase.isAsking (run.answered check reply)
  | .resume check => run.advance? check CheckPhase.isWaiting (run.resumed check)
  | .drop check => run.advance? check CheckPhase.isLive (run.dropped check)
  | .clear => some { run with cache := run.cache.clear, clears := run.clears + 1 }

def continue? (run : CacheRun) : List CacheEvent → Option CacheRun
  | [] => some run
  | event :: events => (run.step? event).bind (·.continue? events)

def ofEvents? (events : List CacheEvent) : Option CacheRun :=
  continue? {} events

/-! ## Steps -/

theorem advance?_eq_some {run later : CacheRun} {check : Nat}
    {isReady : CheckPhase → Bool}
    {change : CheckRecord → RevocationCache × CheckRecord}
    (h : run.advance? check isReady change = some later) :
    ∃ record, run.checks[check]? = some record ∧ isReady record.phase = true ∧
      later = { run with
        cache := (change record).1, checks :=
          run.checks.set check (change record).2 } := by
  unfold advance? at h
  split at h
  · contradiction
  · rename_i record hrecord
    split at h
    · rename_i hready
      exact ⟨record, hrecord, hready, (Option.some.inj h).symm⟩
    · contradiction

theorem step?_grows {run next : CacheRun} {event : CacheEvent}
    (h : run.step? event = some next) :
    run.clears ≤ next.clears ∧ run.checks.length ≤ next.checks.length := by
  have hadvance : ∀ {check : Nat} {isReady : CheckPhase → Bool}
      {change : CheckRecord → RevocationCache × CheckRecord},
      run.advance? check isReady change = some next →
      run.clears ≤ next.clears ∧ run.checks.length ≤ next.checks.length := by
    intro check isReady change hnext
    obtain ⟨record, -, -, rfl⟩ := advance?_eq_some hnext
    simp
  unfold step? at h
  cases event with
  | start certificate =>
      cases h
      simp [start]
  | answer check reply => exact hadvance h
  | resume check => exact hadvance h
  | drop check => exact hadvance h
  | clear =>
      cases h
      simp

theorem continue?_append (run : CacheRun) (first second : List CacheEvent) :
    run.continue? (first ++ second) =
      (run.continue? first).bind (·.continue? second) := by
  induction first generalizing run with
  | nil => rfl
  | cons event first ih =>
      simp only [List.cons_append, continue?, Option.bind_assoc]
      exact Option.bind_congr fun next _ => ih next

theorem continue?_induction {motive : CacheRun → Prop} {run later : CacheRun}
    {events : List CacheEvent} (h : run.continue? events = some later)
    (base : motive run) (step : ∀ {current next : CacheRun} {event : CacheEvent},
      motive current → current.step? event = some next → motive next) :
    motive later := by
  induction events generalizing run with
  | nil =>
      cases h
      exact base
  | cons event events ih =>
      obtain ⟨next, hnext, hrest⟩ := Option.bind_eq_some_iff.mp h
      exact ih hrest (step base hnext)

end CacheRun

end EndpointDiscovery
