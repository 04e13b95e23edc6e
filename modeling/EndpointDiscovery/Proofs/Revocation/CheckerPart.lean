import EndpointDiscovery.Proofs.Revocation.CacheTrace
import EndpointDiscovery.Trust.Timeline

/-!
# Parts of a checker

A part of a program acts on the cache of its checker by the events of a run, as a
check about its own certificate.
-/

namespace EndpointDiscovery

/-! ## Parts -/

def CheckAction.certificate? : CheckAction → Option Certificate
  | .check certificate _ | .isTrusted certificate | .revocation certificate =>
      some certificate
  | .clear => none

def ActionResult.flag? : ActionResult → Option Bool
  | .status found => some found.isRevoked
  | .checked .valid | .trusted true => some false
  | .checked .revoked => some true
  | _ => none

def PartState.held? : PartState → Option Nat
  | .asking pending _ _ | .waiting pending => some pending.number
  | .notStarted | .finished _ => none

structure PendingCheck.BelongsTo (pending : PendingCheck) (part : TimedAction) :
    Prop where
  certificate : part.action.certificate? = some pending.certificate
  finish : ∀ {result flag}, (pending.finish result).flag? = some flag →
    ∃ status, result = .ok status ∧ status.isRevoked = flag

/-- What a source replies about certificates, whatever was asked before. -/
def RevocationSource.Answers (source : RevocationSource)
    (replies : Certificate → Option Bool → Prop) : Prop :=
  ∀ certificate state, replies certificate (source.ask certificate state).2.revoked?

def Checker.perform (checker : Checker) (present : Instant) (action : CheckAction)
    (state : CheckerState) : CheckerState × PartState :=
  match action with
  | .check certificate instant =>
      let (state, result) := checker.check certificate instant state
      (state, .finished (.ofExcept .checked result))
  | .isTrusted certificate =>
      let (state, result) := checker.isTrusted certificate present state
      (state, .finished (.ofExcept .trusted result))
  | .revocation certificate =>
      let (state, result) := checker.revocationStatus certificate state
      (state, .finished (.ofExcept .status result))
  | .clear => (clear state, .finished .cleared)

/-! ## Outcomes -/

/-- How far a part has got, as the trace of the cache tells. -/
def CacheRun.Stands (trace : CacheRun) (replies : Certificate → Option Bool → Prop)
    (part : TimedAction) : PartState → Prop
  | .notStarted => True
  | .asking pending _ revoked? =>
      pending.BelongsTo part ∧ replies pending.certificate revoked? ∧
        trace.Has pending.number pending.certificate .asking
  | .waiting pending =>
      pending.BelongsTo part ∧ trace.Has pending.number pending.certificate .waiting
  | .finished result =>
      ∀ flag, result.flag? = some flag →
        ∃ certificate number status, part.action.certificate? = some certificate ∧
          trace.Has number certificate (.returned (.ok status)) ∧
          status.isRevoked = flag

/-- A part gets to an outcome, and the trace of the cache to a later one. -/
structure Moves (known : Certificate → Prop)
    (replies : Certificate → Option Bool → Prop) (trace later : CacheRun)
    (held? : Option Nat) (part : TimedAction) (outcome : CheckerState × PartState) :
    Prop where
  traces : Traces known replies outcome.1.cache later
  keeps : trace.Keeps later held?
  stands : later.Stands replies part outcome.2
  held : ∀ {number}, outcome.2.held? = some number →
    held? = some number ∨ trace.checks.length ≤ number

section

variable {known : Certificate → Prop} {replies : Certificate → Option Bool → Prop}
  {checker : Checker} {state : CheckerState}
  {trace middle later : CacheRun} {part : TimedAction} {partState : PartState}
  {pending : PendingCheck} {outcome : CheckerState × PartState}

theorem CacheRun.stands_of_flag_none {result : ActionResult}
    (h : result.flag? = none) :
    trace.Stands replies part (.finished result) := by
  intro flag hflag
  rw [h] at hflag
  contradiction

theorem PendingCheck.BelongsTo.stands (hpending : pending.BelongsTo part)
    {result : Except TrustFault RevocationStatus}
    (hhas : trace.Has pending.number pending.certificate (.returned result)) :
    trace.Stands replies part (.finished (pending.finish result)) := by
  intro flag hflag
  obtain ⟨status, rfl, hrevoked⟩ := hpending.finish hflag
  exact ⟨pending.certificate, pending.number, status, hpending.certificate, hhas,
    hrevoked⟩

theorem CacheRun.Stands.live (h : trace.Stands replies part partState)
    {number : Nat} (hheld : partState.held? = some number) :
    ∃ record, trace.checks[number]? = some record ∧ record.phase.isLive = true := by
  cases partState with
  | notStarted => contradiction
  | finished result => contradiction
  | asking pending due revoked? =>
      cases hheld
      obtain ⟨-, -, record, hrecord, -, hphase⟩ := h
      exact ⟨record, hrecord, by rw [hphase]; rfl⟩
  | waiting pending =>
      cases hheld
      obtain ⟨-, record, hrecord, -, hphase⟩ := h
      exact ⟨record, hrecord, by rw [hphase]; rfl⟩

theorem CacheRun.Has.keep {number : Nat} {certificate : Certificate}
    {phase : CheckPhase} {held? : Option Nat}
    (h : trace.Has number certificate phase) (hkeeps : trace.Keeps later held?)
    (hcond : held? ≠ some number ∨ phase.isLive = false) :
    later.Has number certificate phase := by
  obtain ⟨record, hrecord, hcertificate, hphase⟩ := h
  exact ⟨record, hkeeps.record hrecord (hphase ▸ hcond), hcertificate, hphase⟩

theorem CacheRun.Stands.keep {held? : Option Nat}
    (h : trace.Stands replies part partState) (hkeeps : trace.Keeps later held?)
    (hheld : ∀ number, partState.held? = some number → held? ≠ some number) :
    later.Stands replies part partState := by
  cases partState with
  | notStarted => trivial
  | asking pending due revoked? =>
      obtain ⟨hpending, hreply, hhas⟩ := h
      exact ⟨hpending, hreply, hhas.keep hkeeps (.inl (hheld _ rfl))⟩
  | waiting pending =>
      obtain ⟨hpending, hhas⟩ := h
      exact ⟨hpending, hhas.keep hkeeps (.inl (hheld _ rfl))⟩
  | finished result =>
      intro flag hflag
      obtain ⟨certificate, number, status, hcertificate, hhas, hrevoked⟩ :=
        h flag hflag
      exact ⟨certificate, number, status, hcertificate, hhas.keep hkeeps (.inr rfl),
        hrevoked⟩

theorem Moves.stay (h : Traces known replies state.cache trace) (held? : Option Nat)
    (hstands : trace.Stands replies part partState)
    (hheld : ∀ {number}, partState.held? = some number → held? = some number) :
    Moves known replies trace trace held? part (state, partState) :=
  ⟨h, .refl trace held?, hstands, fun hnumber => .inl (hheld hnumber)⟩

theorem Moves.finish {held? : Option Nat} {result : ActionResult}
    (h : Traces known replies state.cache later) (hkeeps : trace.Keeps later held?)
    (hstands : later.Stands replies part (.finished result)) :
    Moves known replies trace later held? part (state, .finished result) :=
  ⟨h, hkeeps, hstands, fun hnumber => by contradiction⟩

theorem Moves.trans {held? next? : Option Nat} (hkeeps : trace.Keeps middle held?)
    (hnext : ∀ {number}, next? = some number →
      held? = some number ∨ trace.checks.length ≤ number)
    (h : Moves known replies middle later next? part outcome) :
    Moves known replies trace later held? part outcome where
  traces := h.traces
  keeps := hkeeps.trans h.keeps hnext
  stands := h.stands
  held := fun {number} hnumber => by
    rcases h.held hnumber with hheld | hlength
    · exact hnext hheld
    · exact .inr (Nat.le_trans hkeeps.length_le hlength)

/-! ## One part -/

theorem RevocationSource.cache_ask (source : RevocationSource)
    (certificate : Certificate) (state : CheckerState) :
    (source.ask certificate state).1.cache = state.cache := by
  cases source <;> rfl

namespace Checker

theorem sendQuestion_moves (hsource : checker.source.Answers replies)
    (h : Traces known replies state.cache trace) (hpending : pending.BelongsTo part)
    (hhas : trace.Has pending.number pending.certificate .asking) (now : Nat) :
    ∃ later, Moves known replies trace later (some pending.number) part
      (checker.sendQuestion now pending state) := by
  have hcache := checker.source.cache_ask pending.certificate state
  have hreply := hsource pending.certificate state
  rw [← hcache] at h
  unfold sendQuestion
  split
  rename_i asked reply hask
  rw [hask] at h hreply
  split
  · obtain ⟨later, htraces, hkeeps, hreturned⟩ := h.answer hhas hreply
    exact ⟨later, .finish htraces hkeeps (hpending.stands hreturned)⟩
  · exact ⟨trace, .stay h _ ⟨hpending, hreply, hhas⟩ id⟩

theorem advance_moves (hsource : checker.source.Answers replies)
    (h : Traces known replies state.cache trace) (hpending : pending.BelongsTo part)
    {progress : CheckProgress}
    (hhas : trace.Has pending.number pending.certificate (.ofProgress progress))
    (now : Nat) :
    ∃ later, Moves known replies trace later (some pending.number) part
      (checker.advance now pending state progress) := by
  cases progress with
  | done status => exact ⟨trace, .finish h (.refl trace _) (hpending.stands hhas)⟩
  | asks => exact sendQuestion_moves hsource h hpending hhas now
  | waits => exact ⟨trace, .stay h _ ⟨hpending, hhas⟩ id⟩

theorem startRevocation_moves (hsource : checker.source.Answers replies)
    (h : Traces known replies state.cache trace) {certificate : Certificate}
    {finish : Except TrustFault RevocationStatus → ActionResult}
    (hknown : known certificate)
    (hcertificate : part.action.certificate? = some certificate)
    (hfinish : ∀ {result flag}, (finish result).flag? = some flag →
      ∃ status, result = .ok status ∧ status.isRevoked = flag) (now : Nat) :
    ∃ later, Moves known replies trace later none part
      (checker.startRevocation now certificate finish state) := by
  obtain ⟨middle, htraces, hkeeps, hhas⟩ := h.start hknown
  have hpending :
      PendingCheck.BelongsTo ⟨certificate, state.cache.started, finish⟩ part :=
    ⟨hcertificate, hfinish⟩
  let started : CheckerState :=
    { state with cache := (state.cache.start certificate.serialText).1 }
  have hstarted : Traces known replies started.cache middle := htraces
  obtain ⟨later, hmoves⟩ := advance_moves hsource hstarted hpending hhas now
  exact ⟨later, .trans hkeeps h.new hmoves⟩

theorem checkIssuance_ne_revoked (certificate : Certificate)
    (authorities : List Certificate) (instant : Instant) :
    certificate.checkIssuance authorities instant ≠ .ok .revoked := by
  have hvalidity : certificate.checkValidity instant ≠ .ok .revoked := by
    intro h
    unfold Certificate.checkValidity at h
    repeat' split at h
    all_goals cases h
  unfold Certificate.checkIssuance
  cases certificate.hasTrustedIssuer authorities with
  | error fault => exact fun h => by cases h
  | ok isTrusted =>
      cases isTrusted with
      | false => exact fun h => by cases h
      | true => exact hvalidity

def TellsRevocation (wrap : CheckResult → ActionResult) : Prop :=
  ∀ {result flag}, (wrap result).flag? = some flag →
    result = .valid ∧ flag = false ∨ result = .revoked ∧ flag = true

theorem tellsRevocation_checked : TellsRevocation .checked := by
  intro result flag hflag
  cases result <;> simp_all [ActionResult.flag?]

theorem tellsRevocation_trusted : TellsRevocation (.trusted ·.isValid) := by
  intro result flag hflag
  cases result <;> simp_all [ActionResult.flag?, CheckResult.isValid]

theorem status_of_flag? {wrap : CheckResult → ActionResult}
    (hwrap : TellsRevocation wrap) {result : Except TrustFault RevocationStatus}
    {flag : Bool}
    (hflag : (ActionResult.ofExcept wrap (result.map resultOfStatus)).flag? =
      some flag) :
    ∃ status, result = .ok status ∧ status.isRevoked = flag := by
  cases result with
  | error fault => contradiction
  | ok status =>
      refine ⟨status, rfl, ?_⟩
      rcases hwrap hflag with ⟨hresult, rfl⟩ | ⟨hresult, rfl⟩ <;>
        simpa [resultOfStatus] using hresult

theorem flag?_of_ne_valid {wrap : CheckResult → ActionResult}
    (hwrap : TellsRevocation wrap) {result : Except TrustFault CheckResult}
    (hvalid : result ≠ .ok .valid) (hrevoked : result ≠ .ok .revoked) :
    (ActionResult.ofExcept wrap result).flag? = none := by
  cases result with
  | error fault => rfl
  | ok found =>
      cases hflag : (ActionResult.ofExcept wrap (.ok found)).flag? with
      | none => rfl
      | some flag =>
          rcases hwrap hflag with ⟨rfl, -⟩ | ⟨rfl, -⟩ <;> contradiction

theorem startCheck_moves (hsource : checker.source.Answers replies)
    (h : Traces known replies state.cache trace) {certificate : Certificate}
    {wrap : CheckResult → ActionResult} (hwrap : TellsRevocation wrap)
    (hknown : known certificate)
    (hcertificate : part.action.certificate? = some certificate) (now : Nat)
    (instant : Instant) :
    ∃ later, Moves known replies trace later none part
      (checker.startCheck now certificate instant wrap state) := by
  unfold startCheck
  split
  · exact startRevocation_moves hsource h hknown hcertificate
      (status_of_flag? hwrap) now
  · rename_i hvalid
    have hflag := flag?_of_ne_valid hwrap (fun hresult => hvalid hresult)
      (checkIssuance_ne_revoked certificate checker.caSet.certificates instant)
    exact ⟨trace, .finish h (.refl trace _) (CacheRun.stands_of_flag_none hflag)⟩

theorem status_of_ofExcept {result : Except TrustFault RevocationStatus}
    {flag : Bool}
    (hflag : (ActionResult.ofExcept .status result).flag? = some flag) :
    ∃ status, result = .ok status ∧ status.isRevoked = flag := by
  cases result with
  | error fault => contradiction
  | ok status => exact ⟨status, rfl, Option.some.inj hflag⟩

theorem startAction_moves (hsource : checker.source.Answers replies)
    (h : Traces known replies state.cache trace) (part : TimedAction)
    (hknown : ∀ {certificate}, part.action.certificate? = some certificate →
      known certificate) (present : Instant) (now : Nat) :
    ∃ later, Moves known replies trace later none part
      (checker.startAction present now part.action state) := by
  unfold startAction
  split
  case h_1 certificate instant haction =>
    have hcertificate : part.action.certificate? = some certificate := by
      rw [haction]; rfl
    exact startCheck_moves hsource h tellsRevocation_checked
      (hknown hcertificate) hcertificate now instant
  case h_2 certificate haction =>
    have hcertificate : part.action.certificate? = some certificate := by
      rw [haction]; rfl
    exact startCheck_moves hsource h tellsRevocation_trusted
      (hknown hcertificate) hcertificate now present
  case h_3 certificate haction =>
    have hcertificate : part.action.certificate? = some certificate := by
      rw [haction]; rfl
    exact startRevocation_moves hsource h
      (hknown hcertificate) hcertificate status_of_ofExcept now
  case h_4 haction =>
    obtain ⟨later, htraces, hkeeps⟩ := h.clear
    exact ⟨later, .finish htraces hkeeps (CacheRun.stands_of_flag_none rfl)⟩

theorem act_moves (hsource : checker.source.Answers replies)
    (h : Traces known replies state.cache trace)
    (hstands : trace.Stands replies part partState)
    (hknown : ∀ {certificate}, part.action.certificate? = some certificate →
      known certificate) (present : Instant) (now : Nat) :
    ∃ later, Moves known replies trace later partState.held? part
      (checker.act present now part state partState) := by
  cases partState with
  | notStarted =>
      simp only [act]
      split
      · exact startAction_moves hsource h part hknown present now
      · exact ⟨trace, .stay h _ hstands id⟩
  | asking pending due revoked? =>
      simp only [act]
      split
      · obtain ⟨hpending, hreply, hhas⟩ := hstands
        obtain ⟨later, htraces, hkeeps, hreturned⟩ := h.answer hhas hreply
        exact ⟨later, .finish htraces hkeeps (hpending.stands hreturned)⟩
      · exact ⟨trace, .stay h _ hstands id⟩
  | waiting pending =>
      simp only [act]
      obtain ⟨hpending, hhas⟩ := hstands
      obtain ⟨middle, htraces, hkeeps, hprogress⟩ := h.resume hhas
      let resumed : CheckerState :=
        { state with cache := (state.cache.resume pending.number).1 }
      have hresumed : Traces known replies resumed.cache middle := htraces
      obtain ⟨later, hmoves⟩ :=
        advance_moves hsource hresumed hpending hprogress now
      exact ⟨later, .trans hkeeps .inl hmoves⟩
  | finished result => exact ⟨trace, .stay h _ hstands id⟩

theorem dropLate_moves (h : Traces known replies state.cache trace)
    (hstands : trace.Stands replies part partState) (now : Nat) :
    ∃ later, Moves known replies trace later partState.held? part
      (dropLate now part state partState) := by
  have hdropped : ∀ {pending : PendingCheck} {phase : CheckPhase},
      trace.Has pending.number pending.certificate phase → phase.isLive = true →
      ∃ later, Moves known replies trace later (some pending.number) part
        ({ state with cache := state.cache.drop pending.number },
          .finished .cancelled) := by
    intro pending phase hhas hlive
    obtain ⟨later, htraces, hkeeps, -⟩ := h.drop hhas hlive
    exact ⟨later, .finish htraces hkeeps (CacheRun.stands_of_flag_none rfl)⟩
  cases partState with
  | notStarted => exact ⟨trace, .stay h _ hstands id⟩
  | finished result => exact ⟨trace, .stay h _ hstands id⟩
  | asking pending due revoked? =>
      simp only [dropLate]
      split
      · exact hdropped hstands.2.2 rfl
      · exact ⟨trace, .stay h _ hstands id⟩
  | waiting pending =>
      simp only [dropLate]
      split
      · exact hdropped hstands.2 rfl
      · exact ⟨trace, .stay h _ hstands id⟩

theorem revocationStatus_traces (hsource : checker.source.Answers replies)
    (h : Traces known replies state.cache trace) {certificate : Certificate}
    (hknown : known certificate) :
    ∃ later,
      Traces known replies
        (checker.revocationStatus certificate state).1.cache later ∧
      trace.Keeps later none ∧
      ∀ status, (checker.revocationStatus certificate state).2 = .ok status →
        ∃ number, later.Has number certificate (.returned (.ok status)) := by
  obtain ⟨middle, htraces, hkeeps, hhas⟩ := h.start hknown
  unfold revocationStatus
  dsimp only
  cases hstart : state.cache.start certificate.serialText with
  | mk cache progress =>
      rw [hstart] at htraces hhas
      cases progress with
      | done status =>
          refine ⟨middle, htraces, hkeeps,
            fun found hfound => ⟨state.cache.started, ?_⟩⟩
          cases hfound
          exact hhas
      | asks =>
          let started : CheckerState := { state with cache }
          have hreply := hsource certificate started
          have hcache := checker.source.cache_ask certificate started
          have hasked :
              Traces known replies (checker.source.ask certificate started).1.cache
              middle := hcache ▸ htraces
          obtain ⟨later, hlater, hlaterKeeps, hreturned⟩ :=
            hasked.answer hhas hreply
          refine ⟨later, hlater, hkeeps.trans hlaterKeeps h.new, fun found hfound =>
            ⟨state.cache.started, ?_⟩⟩
          rw [← hfound]
          exact hreturned
      | waits =>
          obtain ⟨later, hlater, hlaterKeeps, -⟩ := htraces.drop hhas rfl
          refine ⟨later, hlater, hkeeps.trans hlaterKeeps h.new,
            fun found hfound => ?_⟩
          contradiction

theorem check_moves (hsource : checker.source.Answers replies)
    (h : Traces known replies state.cache trace) {certificate : Certificate}
    {wrap : CheckResult → ActionResult} (hwrap : TellsRevocation wrap)
    (hknown : known certificate)
    (hcertificate : part.action.certificate? = some certificate)
    (instant : Instant) :
    ∃ later, Moves known replies trace later none part
      ((checker.check certificate instant state).1,
        .finished
          (.ofExcept wrap (checker.check certificate instant state).2)) := by
  unfold check
  split
  · obtain ⟨later, htraces, hkeeps, hstatus⟩ :=
      revocationStatus_traces hsource h hknown
    refine ⟨later, .finish htraces hkeeps ?_⟩
    intro flag hflag
    obtain ⟨status, hok, hrevoked⟩ := status_of_flag? hwrap hflag
    obtain ⟨number, hhas⟩ := hstatus status hok
    exact ⟨certificate, number, status, hcertificate, hhas, hrevoked⟩
  · rename_i hvalid
    have hflag := flag?_of_ne_valid hwrap (fun hresult => hvalid hresult)
      (checkIssuance_ne_revoked certificate checker.caSet.certificates instant)
    exact ⟨trace, .finish h (.refl trace _) (CacheRun.stands_of_flag_none hflag)⟩

theorem perform_moves (hsource : checker.source.Answers replies)
    (h : Traces known replies state.cache trace) (part : TimedAction)
    (hknown : ∀ {certificate}, part.action.certificate? = some certificate →
      known certificate) (present : Instant) :
    ∃ later, Moves known replies trace later none part
      (checker.perform present part.action state) := by
  unfold perform
  split
  case h_1 certificate instant haction =>
    have hcertificate : part.action.certificate? = some certificate := by
      rw [haction]; rfl
    exact check_moves hsource h tellsRevocation_checked
      (hknown hcertificate) hcertificate instant
  case h_2 certificate haction =>
    have hcertificate : part.action.certificate? = some certificate := by
      rw [haction]; rfl
    obtain ⟨later, hmoves⟩ :=
      check_moves hsource h tellsRevocation_trusted (hknown hcertificate)
        hcertificate present
    refine ⟨later, ?_⟩
    unfold isTrusted
    cases hresult : (checker.check certificate present state).2 <;>
      simpa [hresult, ActionResult.ofExcept, Except.map] using hmoves
  case h_3 certificate haction =>
    have hcertificate : part.action.certificate? = some certificate := by
      rw [haction]; rfl
    obtain ⟨later, htraces, hkeeps, hstatus⟩ :=
      revocationStatus_traces hsource h (hknown hcertificate)
    refine ⟨later, .finish htraces hkeeps ?_⟩
    intro flag hflag
    obtain ⟨status, hok, hrevoked⟩ := status_of_ofExcept hflag
    obtain ⟨number, hhas⟩ := hstatus status hok
    exact ⟨certificate, number, status, hcertificate, hhas, hrevoked⟩
  case h_4 haction =>
    obtain ⟨later, htraces, hkeeps⟩ := h.clear
    exact ⟨later, .finish htraces hkeeps (CacheRun.stands_of_flag_none rfl)⟩

end Checker

end

end EndpointDiscovery
