import EndpointDiscovery.Proofs.Revocation.CheckerPart
import Mathlib.Logic.Relation

/-!
# Runs of a checker

The parts of a program may act in any order and at any time.  Whatever they do, the
cache of the checker goes through a run of its own.
-/

namespace EndpointDiscovery

/-! ## Steps -/

structure CheckerRun where
  state : CheckerState := {}
  parts : List (TimedAction × PartState) := []

namespace CheckerRun

def add (run : CheckerRun) (part : TimedAction)
    (outcome : CheckerState × PartState) :
    CheckerRun :=
  ⟨outcome.1, run.parts ++ [(part, outcome.2)]⟩

def update (run : CheckerRun) (index : Nat) (part : TimedAction)
    (outcome : CheckerState × PartState) : CheckerRun :=
  ⟨outcome.1, run.parts.set index (part, outcome.2)⟩

def Knows (run : CheckerRun) (known : Certificate → Prop) : Prop :=
  ∀ {part : TimedAction} {partState : PartState} {certificate : Certificate},
    (part, partState) ∈ run.parts → part.action.certificate? = some certificate →
    known certificate

end CheckerRun

/-- What can happen to a checker and its parts. -/
inductive Checker.Step (checker : Checker) (run : CheckerRun) : CheckerRun →
    Prop where
  | call (part : TimedAction) :
      Step checker run (run.add part (run.state, .notStarted))
  | whole (present : Instant) (action : CheckAction) :
      Step checker run
        (run.add ⟨action, 0, none⟩ (checker.perform present action run.state))
  | act (present : Instant) (now index : Nat) (part : TimedAction)
      (partState : PartState) (h : run.parts[index]? = some (part, partState)) :
      Step checker run
        (run.update index part (checker.act present now part run.state partState))
  | dropLate (now index : Nat) (part : TimedAction) (partState : PartState)
      (h : run.parts[index]? = some (part, partState)) :
      Step checker run
        (run.update index part (dropLate now part run.state partState))

def Checker.Reaches (checker : Checker) : CheckerRun → CheckerRun → Prop :=
  Relation.ReflTransGen checker.Step

/-! ## Runs of the cache -/

/-- The trace of the cache accounts for all parts, which hold checks
of their own. -/
structure CheckerRun.Follows (run : CheckerRun) (known : Certificate → Prop)
    (replies : Certificate → Option Bool → Prop) (trace : CacheRun) : Prop where
  traces : Traces known replies run.state.cache trace
  stands : ∀ {index : Nat} {part : TimedAction} {partState : PartState},
    run.parts[index]? = some (part, partState) → trace.Stands replies part partState
  distinct : ∀ {first second number : Nat} {part other : TimedAction}
    {partState otherState : PartState}, run.parts[first]? = some (part, partState) →
    run.parts[second]? = some (other, otherState) → partState.held? = some number →
    otherState.held? = some number → first = second

namespace CheckerRun.Follows

variable {known : Certificate → Prop} {replies : Certificate → Option Bool → Prop}
  {run next : CheckerRun} {checker : Checker}
  {trace later : CacheRun} {part : TimedAction} {outcome : CheckerState × PartState}

theorem initial : CheckerRun.Follows {} known replies {} where
  traces := .initial
  stands := by simp
  distinct := by simp

theorem held_lt (h : run.Follows known replies trace) {index number : Nat}
    {partState : PartState} (hpart : run.parts[index]? = some (part, partState))
    (hheld : partState.held? = some number) :
    number < trace.checks.length := by
  obtain ⟨record, hrecord, -⟩ := (h.stands hpart).live hheld
  exact (List.getElem?_eq_some_iff.mp hrecord).1

theorem add (h : run.Follows known replies trace)
    (hmoves : Moves known replies trace later none part outcome) :
    (run.add part outcome).Follows known replies later := by
  -- What the new part holds is new, so that no other part holds it.
  have hnew : ∀ {index number : Nat} {other : TimedAction} {otherState : PartState},
      run.parts[index]? = some (other, otherState) →
        otherState.held? = some number →
      outcome.2.held? ≠ some number := by
    intro index number other otherState hother hheld houtcome
    have hlt := h.held_lt hother hheld
    rcases hmoves.held houtcome with hnone | hlength
    · contradiction
    · omega
  constructor
  · exact hmoves.traces
  · intro index found foundState hfound
    rcases getElem?_concat_eq_some.mp hfound with hfound | ⟨-, heq⟩
    · exact (h.stands hfound).keep hmoves.keeps fun number _ => by simp
    · cases heq
      exact hmoves.stands
  · intro first second number found other foundState otherState hfirst hsecond hheld
      hotherHeld
    rcases getElem?_concat_eq_some.mp hfirst with hfirst | ⟨hfirstIndex, hfirst⟩ <;>
      rcases getElem?_concat_eq_some.mp hsecond with
        hsecond | ⟨hsecondIndex, hsecond⟩
    · exact h.distinct hfirst hsecond hheld hotherHeld
    · cases hsecond
      exact absurd hotherHeld (hnew hfirst hheld)
    · cases hfirst
      exact absurd hheld (hnew hsecond hotherHeld)
    · rw [hfirstIndex, hsecondIndex]

theorem update (h : run.Follows known replies trace) {index : Nat}
    {partState : PartState} (hpart : run.parts[index]? = some (part, partState))
    (hmoves : Moves known replies trace later partState.held? part outcome) :
    (run.update index part outcome).Follows known replies later := by
  have hparts : ∀ {place : Nat} {found : TimedAction × PartState},
      (run.update index part outcome).parts[place]? = some found →
      place = index ∧ found = (part, outcome.2) ∨
        place ≠ index ∧ run.parts[place]? = some found := by
    intro place found hfound
    simp only [CheckerRun.update, List.getElem?_set] at hfound
    split at hfound
    · rename_i heq
      split at hfound
      · exact .inl ⟨heq.symm, (Option.some.inj hfound).symm⟩
      · contradiction
    · rename_i hne
      exact .inr ⟨Ne.symm hne, hfound⟩
  -- What another part holds the moving one held neither before nor after.
  have hother : ∀ {place number : Nat} {other : TimedAction}
      {otherState : PartState}, place ≠ index →
        run.parts[place]? = some (other, otherState) →
      otherState.held? = some number →
      partState.held? ≠ some number ∧ outcome.2.held? ≠ some number := by
    intro place number other otherState hne hfound hheld
    have hbefore : partState.held? ≠ some number := fun hsame =>
      hne (h.distinct hfound hpart hheld hsame)
    refine ⟨hbefore, fun houtcome => ?_⟩
    have hlt := h.held_lt hfound hheld
    rcases hmoves.held houtcome with hsame | hlength
    · exact hbefore hsame
    · omega
  constructor
  · exact hmoves.traces
  · intro place found foundState hfound
    rcases hparts hfound with ⟨-, heq⟩ | ⟨hne, hfound⟩
    · cases heq
      exact hmoves.stands
    · exact (h.stands hfound).keep hmoves.keeps fun number hheld =>
        (hother hne hfound hheld).1
  · intro first second number found other foundState otherState hfirst hsecond hheld
      hotherHeld
    rcases hparts hfirst with ⟨hfirstIndex, hfirst⟩ | ⟨hfirstNe, hfirst⟩ <;>
      rcases hparts hsecond with ⟨hsecondIndex, hsecond⟩ | ⟨hsecondNe, hsecond⟩
    · rw [hfirstIndex, hsecondIndex]
    · cases hfirst
      exact absurd hheld (hother hsecondNe hsecond hotherHeld).2
    · cases hsecond
      exact absurd hotherHeld (hother hfirstNe hfirst hheld).2
    · exact h.distinct hfirst hsecond hheld hotherHeld

theorem step (h : run.Follows known replies trace)
    (hsource : checker.source.Answers replies) (hknown : next.Knows known)
    (hstep : checker.Step run next) :
    ∃ later, next.Follows known replies later := by
  cases hstep with
  | call part =>
      exact ⟨trace,
        h.add (.stay h.traces none trivial fun hnumber => by contradiction)⟩
  | whole present action =>
      have hmem := List.mem_append_right run.parts (List.mem_singleton_self
        ((⟨action, 0, none⟩ : TimedAction),
          (checker.perform present action run.state).2))
      obtain ⟨later, hmoves⟩ :=
        Checker.perform_moves hsource h.traces ⟨action, 0, none⟩
          (fun hcertificate => hknown hmem hcertificate) present
      exact ⟨later, h.add hmoves⟩
  | act present now index part partState hpart =>
      have hmem := List.mem_set (List.getElem?_eq_some_iff.mp hpart).1
        (part, (checker.act present now part run.state partState).2)
      obtain ⟨later, hmoves⟩ := Checker.act_moves hsource h.traces (h.stands hpart)
        (fun hcertificate => hknown hmem hcertificate) present now
      exact ⟨later, h.update hpart hmoves⟩
  | dropLate now index part partState hpart =>
      obtain ⟨later, hmoves⟩ := Checker.dropLate_moves h.traces (h.stands hpart) now
      exact ⟨later, h.update hpart hmoves⟩

end CheckerRun.Follows

theorem CheckerRun.Knows.of_step {checker : Checker} {known : Certificate → Prop}
    {run next : CheckerRun} (h : next.Knows known) (hstep : checker.Step run next) :
    run.Knows known := by
  intro part partState certificate hmem hcertificate
  have hadd : ∀ {other : TimedAction} {outcome : CheckerState × PartState},
      (run.add other outcome).Knows known → known certificate := fun hnext =>
    hnext (List.mem_append_left _ hmem) hcertificate
  have hupdate : ∀ {index : Nat} {other : TimedAction} {otherState : PartState}
      {outcome : CheckerState × PartState},
      run.parts[index]? = some (other, otherState) →
      (run.update index other outcome).Knows known → known certificate := by
    intro index other otherState outcome hother hnext
    obtain ⟨place, hplace⟩ := List.mem_iff_getElem?.mp hmem
    by_cases heq : index = place
    · subst heq
      rw [hplace] at hother
      cases hother
      exact hnext (List.mem_set (List.getElem?_eq_some_iff.mp hplace).1 _)
        hcertificate
    · have hkept : (run.update index other outcome).parts[place]? =
          some (part, partState) :=
        (List.getElem?_set_ne heq).trans hplace
      exact hnext (List.mem_iff_getElem?.mpr ⟨place, hkept⟩) hcertificate
  cases hstep with
  | call other => exact hadd h
  | whole present action => exact hadd h
  | act present now index other otherState hother => exact hupdate hother h
  | dropLate now index other otherState hother => exact hupdate hother h

/-- Whatever the parts of a checker do, its cache goes through a run. -/
theorem Checker.exists_follows {checker : Checker} {known : Certificate → Prop}
    {replies : Certificate → Option Bool → Prop}
    (hsource : checker.source.Answers replies) {run : CheckerRun}
    (h : checker.Reaches {} run) (hknown : run.Knows known) :
    ∃ trace, run.Follows known replies trace := by
  induction h with
  | refl => exact ⟨{}, .initial⟩
  | tail _ hstep ih =>
      obtain ⟨trace, hfollows⟩ := ih (hknown.of_step hstep)
      exact hfollows.step hsource hknown hstep

/-! ## Programs -/

namespace Checker

variable (checker : Checker) (present : Instant)

theorem reaches_calls (parts : List TimedAction) (run : CheckerRun) :
    checker.Reaches run ⟨run.state, run.parts ++ parts.map (·, .notStarted)⟩ := by
  induction parts generalizing run with
  | nil =>
      rw [List.map_nil, List.append_nil]
      exact .refl
  | cons part parts ih =>
      have hrest := ih (run.add part (run.state, .notStarted))
      simp only [CheckerRun.add, List.append_assoc, List.singleton_append] at hrest
      exact .head (.call part) hrest

theorem update_middle (front parts : List (TimedAction × PartState))
    (state : CheckerState) (part : TimedAction) (before : PartState)
    (outcome : CheckerState × PartState) :
    CheckerRun.update ⟨state, front ++ (part, before) :: parts⟩ front.length part
      outcome = ⟨outcome.1, front ++ (part, outcome.2) :: parts⟩ := by
  simp [CheckerRun.update]

theorem reaches_pass (now : Nat) (front parts : List (TimedAction × PartState))
    (state : CheckerState) :
    checker.Reaches ⟨state, front ++ parts⟩
      ⟨(checker.pass present now parts state).1,
        front ++ (checker.pass present now parts state).2⟩ := by
  induction parts generalizing front state with
  | nil => exact .refl
  | cons entry parts ih =>
      obtain ⟨part, partState⟩ := entry
      let acted := checker.act present now part state partState
      let dropped := dropLate now part acted.1 acted.2
      have hact : checker.Step ⟨state, front ++ (part, partState) :: parts⟩
          ⟨acted.1, front ++ (part, acted.2) :: parts⟩ := by
        rw [← update_middle front parts state part partState acted]
        exact .act present now front.length part partState (by simp)
      have hdrop : checker.Step ⟨acted.1, front ++ (part, acted.2) :: parts⟩
          ⟨dropped.1, front ++ (part, dropped.2) :: parts⟩ := by
        rw [← update_middle front parts acted.1 part acted.2 dropped]
        exact .dropLate now front.length part acted.2 (by simp)
      have hrest := ih (front ++ [(part, dropped.2)]) dropped.1
      simp only [List.append_assoc, List.singleton_append] at hrest
      exact .head hact (.head hdrop hrest)

theorem reaches_passes (now count : Nat)
    (front parts : List (TimedAction × PartState)) (state : CheckerState) :
    checker.Reaches ⟨state, front ++ parts⟩
      ⟨(checker.passes present now count parts state).1,
        front ++ (checker.passes present now count parts state).2⟩ := by
  induction count generalizing parts state with
  | zero => exact .refl
  | succ count ih =>
      exact (reaches_pass checker present now front parts state).trans (ih _ _)

theorem reaches_runFrom (fuel : Nat) (front parts : List (TimedAction × PartState))
    (state : CheckerState) :
    checker.Reaches ⟨state, front ++ parts⟩
      ⟨(checker.runFrom present fuel parts state).1,
        front ++ (checker.runFrom present fuel parts state).2⟩ := by
  induction fuel generalizing parts state with
  | zero => exact .refl
  | succ fuel ih =>
      simp only [runFrom]
      split
      · exact .refl
      · exact (reaches_passes checker present _ _ front parts state).trans (ih _ _)

theorem reaches_run (parts : List TimedAction) (run : CheckerRun) :
    ∃ later : List (TimedAction × PartState),
      checker.Reaches run ⟨(checker.run present parts run.state).1,
        run.parts ++ later⟩ ∧
      (checker.run present parts run.state).2 = later.map fun
        | (_, .finished result) => result
        | _ => .cancelled := by
  have hcalls := reaches_calls checker parts run
  have hrun := reaches_runFrom checker present (4 * parts.length + 1) run.parts
    (parts.map (·, .notStarted)) run.state
  exact ⟨_, hcalls.trans hrun, rfl⟩

end Checker

end EndpointDiscovery
