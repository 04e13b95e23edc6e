import EndpointDiscovery.Smp.Error
import EndpointDiscovery.Trust.Checker

/-!
# Sessions

A session remembers what has been asked so far.  A discovery goes through a
session and either yields a value or fails; what was asked before a failure
stays in the session.
-/

namespace EndpointDiscovery

structure Session where
  requests : List String := []
  queried : List String := []
  checks : CheckerState := {}

structure Discovery (α : Type) where
  run : Session → Session × Except DiscoveryFault α

namespace Discovery

variable {α β : Type}

def ofResult (result : Except DiscoveryFault α) : Discovery α :=
  ⟨fun session => (session, result)⟩

def andThen (first : Discovery α) (next : α → Discovery β) : Discovery β where
  run session :=
    match first.run session with
    | (session, .ok value) => (next value).run session
    | (session, .error fault) => (session, .error fault)

instance : Monad Discovery where
  pure value := ofResult (.ok value)
  bind := andThen

instance : MonadLift (Except DiscoveryFault) Discovery := ⟨ofResult⟩

@[simp]
theorem run_pure (value : α) (session : Session) :
    (pure value : Discovery α).run session = (session, .ok value) := rfl

@[simp]
theorem run_ofResult (result : Except DiscoveryFault α) (session : Session) :
    (ofResult result).run session = (session, result) := rfl

@[simp]
theorem run_lift (result : Except DiscoveryFault α) (session : Session) :
    (liftM result : Discovery α).run session = (session, result) := rfl

theorem run_bind (first : Discovery α) (next : α → Discovery β)
    (session : Session) :
    (first >>= next).run session =
      match first.run session with
      | (session, .ok value) => (next value).run session
      | (session, .error fault) => (session, .error fault) := rfl

end Discovery

end EndpointDiscovery
