import EndpointDiscovery.Smp.Session

/-!
# Discoveries that agree

Two discoveries agree if from the same session they ask the same and come to related
results.  Agreement goes through a discovery part by part.
-/

namespace EndpointDiscovery

/-- Two results fail in the same way or have related values. -/
inductive Agree {α : Type} (related : α → α → Prop) :
    Except DiscoveryFault α → Except DiscoveryFault α → Prop where
  | error (fault : DiscoveryFault) : Agree related (.error fault) (.error fault)
  | ok {first second : α} (h : related first second) :
      Agree related (.ok first) (.ok second)

theorem Agree.refl {α : Type} (result : Except DiscoveryFault α) :
    Agree Eq result result := by
  cases result with
  | error fault => exact .error fault
  | ok value => exact .ok rfl

theorem Agree.eq {α : Type} {first second : Except DiscoveryFault α}
    (h : Agree Eq first second) :
    first = second := by
  cases h with
  | error fault => rfl
  | ok hvalue => rw [hvalue]

def Discovery.Agrees {α : Type} (related : α → α → Prop)
    (first second : Discovery α) : Prop :=
  ∀ session, (first.run session).1 = (second.run session).1 ∧
    Agree related (first.run session).2 (second.run session).2

namespace Discovery.Agrees

variable {α β : Type} {related : α → α → Prop} {relatedNext : β → β → Prop}

theorem refl (discovery : Discovery α) : discovery.Agrees Eq discovery :=
  fun _ => ⟨rfl, .refl _⟩

theorem bind {first second : Discovery α} {next otherNext : α → Discovery β}
    (h : first.Agrees related second)
    (hnext : ∀ left right, related left right →
      (next left).Agrees relatedNext (otherNext right)) :
    (first >>= next).Agrees relatedNext (second >>= otherNext) := by
  intro session
  obtain ⟨hsession, hresult⟩ := h session
  rw [Discovery.run_bind, Discovery.run_bind]
  cases hfirst : first.run session with
  | mk later result =>
      cases hsecond : second.run session with
      | mk otherLater other =>
          rw [hfirst, hsecond] at hsession hresult
          cases hsession
          cases hresult with
          | error fault => exact ⟨rfl, .error fault⟩
          | ok hrelated => exact hnext _ _ hrelated later

theorem lift {first second : Except DiscoveryFault α}
    (h : Agree related first second) :
    Agrees related (liftM first : Discovery α) (liftM second) :=
  fun _ => ⟨rfl, h⟩

theorem eq {first second : Discovery α} (h : first.Agrees Eq second) :
    first = second := by
  obtain ⟨run⟩ := first
  obtain ⟨otherRun⟩ := second
  congr 1
  funext session
  obtain ⟨hsession, hresult⟩ := h session
  exact Prod.ext hsession hresult.eq

end Discovery.Agrees

end EndpointDiscovery
