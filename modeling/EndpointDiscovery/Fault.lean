/-!
# Faults

A fault is a cause, the remarks that the layers above added to it, and
what it arose from.
-/

namespace EndpointDiscovery

/-- An error of something outside this library, of which only its
presence is known. -/
inductive Foreign where
  | foreign
deriving DecidableEq, Repr

structure Fault (ε σ : Type) where
  cause : ε
  context : List String := []
  source : Option σ := none
deriving Repr

namespace Fault

variable {ε σ : Type}

def root (cause : ε) : Fault ε σ := { cause }

/-- A fault that arises from something outside. -/
def foreign (cause : ε) : Fault ε Foreign := { cause, source := some .foreign }

def addContext (fault : Fault ε σ) (remark : String) : Fault ε σ :=
  { fault with context := fault.context ++ [remark] }

end Fault

def withContext {ε σ α : Type} (remark : String) :
    Except (Fault ε σ) α → Except (Fault ε σ) α
  | .ok value => .ok value
  | .error fault => .error (fault.addContext remark)

end EndpointDiscovery
