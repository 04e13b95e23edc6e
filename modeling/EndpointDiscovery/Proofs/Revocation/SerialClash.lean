import EndpointDiscovery.Proofs.Certificate.SerialText
import EndpointDiscovery.Proofs.Revocation.CheckerRun
import EndpointDiscovery.Proofs.Revocation.WriteOnce

/-!
# Clashes of serial numbers

The answer about one certificate serves for every other one with its serial number,
also if another authority has issued it.  So a checker is as good as its source
exactly where certificates with one serial number are revoked together.
-/

namespace EndpointDiscovery

/-- Every part that succeeded acted on the answer about its own certificate. -/
def CheckerRun.Faithful (run : CheckerRun)
    (answer : Certificate → Option Bool) : Prop :=
  ∀ {part : TimedAction} {result : ActionResult} {certificate : Certificate}
    {flag : Bool}, (part, .finished result) ∈ run.parts →
      part.action.certificate? = some certificate →
    result.flag? = some flag → answer certificate = some flag

section

variable {known : Certificate → Prop} {replies : Certificate → Option Bool → Prop}
  {checker : Checker} {answer : Certificate → Option Bool} {run : CheckerRun}
  {trace : CacheRun}

/-! ## Without clashes -/

theorem Traces.exists_reply {cache : RevocationCache}
    (h : Traces known replies cache trace) {number : Nat}
    {certificate : Certificate} {status : RevocationStatus}
    (hhas : trace.Has number certificate (.returned (.ok status))) :
    ∃ asked, known asked ∧ asked.serialNumber = certificate.serialNumber ∧
      replies asked (some status.isRevoked) := by
  obtain ⟨record, hrecord, hcertificate, hphase⟩ := hhas
  obtain ⟨events, hevents⟩ := h.reached
  obtain ⟨keys, hconsistent⟩ := CacheRun.exists_consistent hevents
  obtain ⟨asker, revoked, ⟨found, hfound, hserial, -, hquery⟩, hstatus⟩ :=
    hconsistent.exists_asker ⟨record, hrecord, rfl, rfl, hphase⟩
  have hrevoked : status.isRevoked = revoked := by
    rw [hstatus]
    cases revoked <;> split <;> rfl
  refine ⟨found.certificate, h.known hfound, ?_, ?_⟩
  · rw [← Certificate.serialText_eq_iff, ← hcertificate]
    exact hserial
  · rw [hrevoked]
    exact h.replied hfound hquery

theorem CheckerRun.Follows.faithful
    (h : run.Follows known
      (fun certificate reply => reply = answer certificate) trace)
    (hknown : run.Knows known)
    (hagree : ∀ first second, known first → known second →
      first.serialNumber = second.serialNumber → answer first = answer second) :
    run.Faithful answer := by
  intro part result certificate flag hmem hcertificate hflag
  obtain ⟨index, hpart⟩ := List.mem_iff_getElem?.mp hmem
  obtain ⟨found, number, status, hfound, hhas, hrevoked⟩ :=
    h.stands hpart flag hflag
  rw [hcertificate] at hfound
  cases hfound
  obtain ⟨asked, hasked, hserial, hreply⟩ := h.traces.exists_reply hhas
  calc answer certificate = answer asked :=
        hagree certificate asked (hknown hmem hcertificate) hasked hserial.symm
    _ = some flag := by rw [← hreply, hrevoked]

/-! ## With a clash -/

theorem Checker.revocationStatus_fresh {certificate : Certificate} {revoked : Bool}
    (hreply : ∀ state, (checker.source.ask certificate state).2.revoked? =
      some revoked) :
    ∃ asked, checker.revocationStatus certificate {} =
      (⟨⟨[⟨some revoked, none, []⟩], [(certificate.serialText, 0)], 1⟩, asked⟩,
        .ok (.fresh revoked)) := by
  have hcache := checker.source.cache_ask certificate
    ⟨⟨[⟨none, some 0, []⟩], [(certificate.serialText, 0)], 1⟩, []⟩
  refine ⟨(checker.source.ask certificate
    ⟨⟨[⟨none, some 0, []⟩], [(certificate.serialText, 0)], 1⟩, []⟩).1.asked, ?_⟩
  simp [revocationStatus, RevocationCache.start, RevocationCache.takeCell,
    RevocationCache.modifyCell, RevocationCache.answer, RevocationCache.cellOf?,
    RevocationCell.isHeldBy, hreply, hcache]

theorem Checker.revocationStatus_cached (checker : Checker)
    {certificate : Certificate} {state : CheckerState} {number : Nat}
    {cell : RevocationCell} {revoked : Bool}
    (hlookup : state.cache.entries.lookup certificate.serialText = some number)
    (hcell : state.cache.cells[number]? = some cell)
    (hrevoked : cell.revoked? = some revoked) :
    (checker.revocationStatus certificate state).2 = .ok (.cached revoked) := by
  simp [revocationStatus, RevocationCache.start, RevocationCache.takeCell,
    hlookup, hcell, hrevoked]

theorem Checker.revocationStatus_of_clash {first second : Certificate}
    {revoked : Bool}
    (hreply : ∀ state, (checker.source.ask first state).2.revoked? = some revoked)
    (hserial : first.serialNumber = second.serialNumber) :
    (checker.revocationStatus second (checker.revocationStatus first {}).1).2 =
      .ok (.cached revoked) := by
  obtain ⟨asked, hfirst⟩ := revocationStatus_fresh hreply
  have htext := (Certificate.serialText_eq_iff first second).mpr hserial
  have hlookup : [(first.serialText, 0)].lookup second.serialText = some 0 := by
    simp [htext]
  rw [hfirst]
  exact checker.revocationStatus_cached hlookup rfl rfl

theorem Checker.check_of_clash {first second : Certificate}
    {instant later : Instant}
    (hreply : ∀ state, (checker.source.ask first state).2.revoked? = some false)
    (hserial : first.serialNumber = second.serialNumber)
    (hfirst : first.checkIssuance checker.caSet.certificates instant = .ok .valid)
    (hsecond : second.checkIssuance checker.caSet.certificates later = .ok .valid) :
    (checker.check second later (checker.check first instant {}).1).2 =
      .ok .valid := by
  have hstatus := revocationStatus_of_clash hreply hserial
  simp only [check, hfirst, hsecond, hstatus]
  rfl

theorem Checker.answer_eq_of_faithful
    (hsource : checker.source.Answers fun certificate reply =>
      reply = answer certificate)
    (hfaithful : ∀ run, checker.Reaches {} run → run.Knows known →
      run.Faithful answer)
    {first second : Certificate} (hfirst : known first) (hsecond : known second)
    (hserial : first.serialNumber = second.serialNumber) {revoked : Bool}
    (hanswer : answer first = some revoked) : answer second = some revoked := by
  let present : Instant := ⟨0, 0⟩
  let asked : CheckerRun :=
    CheckerRun.add {} ⟨.revocation first, 0, none⟩
      (checker.perform present (.revocation first) {})
  let clashed : CheckerRun := asked.add ⟨.revocation second, 0, none⟩
    (checker.perform present (.revocation second) asked.state)
  have hreached : checker.Reaches {} clashed :=
    (Relation.ReflTransGen.single (.whole present (.revocation first))).tail
      (.whole present (.revocation second))
  have hknown : clashed.Knows known := by
    intro part partState certificate hmem hcertificate
    simp only [clashed, asked, CheckerRun.add, List.nil_append,
      List.singleton_append, List.mem_cons, List.not_mem_nil, or_false,
      Prod.mk.injEq] at hmem
    rcases hmem with ⟨rfl, -⟩ | ⟨rfl, -⟩ <;> cases hcertificate
    · exact hfirst
    · exact hsecond
  have hstatus : (checker.revocationStatus second asked.state).2 =
      .ok (.cached revoked) :=
    revocationStatus_of_clash
      (fun state => (hsource first state).trans hanswer) hserial
  have hmem : ((⟨.revocation second, 0, none⟩ : TimedAction),
      PartState.finished (.status (.cached revoked))) ∈ clashed.parts := by
    refine List.mem_append_right _ (List.mem_singleton.mpr ?_)
    simp [perform, hstatus, ActionResult.ofExcept]
  refine hfaithful clashed hreached hknown hmem rfl ?_
  cases revoked <;> rfl

end

/-- A checker acts on the answers of its source about the very certificates it
checks, in all runs over some certificates, if and only if the source does not tell
any two of them with one serial number apart. -/
theorem Checker.faithful_iff_no_clash {checker : Checker}
    {answer : Certificate → Option Bool}
    (hsource : checker.source.Answers fun certificate reply =>
      reply = answer certificate) (known : Certificate → Prop) :
    (∀ run, checker.Reaches {} run → run.Knows known → run.Faithful answer) ↔
      ∀ first second, known first → known second →
        first.serialNumber = second.serialNumber →
          answer first = answer second := by
  constructor
  · intro hfaithful first second hfirst hsecond hserial
    cases hanswer : answer first with
    | some revoked =>
        exact (answer_eq_of_faithful hsource hfaithful hfirst hsecond hserial
          hanswer).symm
    | none =>
        cases hother : answer second with
        | none => rfl
        | some revoked =>
            have hsome :=
              answer_eq_of_faithful hsource hfaithful hsecond hfirst
                hserial.symm hother
            rw [hanswer] at hsome
            contradiction
  · intro hagree run hreached hknown
    obtain ⟨trace, hfollows⟩ := exists_follows hsource hreached hknown
    exact hfollows.faithful hknown hagree

def Certificate.numberedElsewhere : Certificate :=
  { Certificate.numbered 7 with issuer := ⟨[[]]⟩ }

def RevocationSource.oneIssuer : RevocationSource :=
  .asks fun _ certificate =>
    ⟨some (certificate.issuer = Certificate.numberedElsewhere.issuer), 5⟩

theorem Checker.not_faithful_oneIssuer :
    ¬∀ run, Checker.Reaches ⟨⟨"", [.numbered 1], by simp⟩, .oneIssuer⟩ {} run →
      run.Knows (· ∈ [Certificate.numbered 7, .numberedElsewhere]) →
      run.Faithful fun certificate =>
        some
          (decide (certificate.issuer = Certificate.numberedElsewhere.issuer)) := by
  intro hfaithful
  have hagree := (Checker.faithful_iff_no_clash (fun _ _ => rfl) _).mp hfaithful
    (.numbered 7) .numberedElsewhere (by simp) (by simp) rfl
  exact absurd hagree (by decide)

end EndpointDiscovery
