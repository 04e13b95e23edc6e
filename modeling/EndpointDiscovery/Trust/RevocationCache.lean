import EndpointDiscovery.Trust.Error

/-!
# Revocation cache

Checks of one serial number share a cell.  The first of them asks, the others wait
in a queue; if the question is not answered, the first in the queue asks again.  A
clear makes later checks take new cells, while checks in progress keep theirs.

A cache changes by the operations `start`, `answer`, `resume`, `drop` and `clear`,
each of which happens as a whole.
-/

namespace EndpointDiscovery

inductive RevocationStatus where
  | fresh (revoked : Bool)
  | cachedRevoked
  | cachedValid
deriving DecidableEq, Repr

namespace RevocationStatus

def isRevoked : RevocationStatus → Bool
  | .fresh revoked => revoked
  | .cachedRevoked => true
  | .cachedValid => false

def cached (revoked : Bool) : RevocationStatus :=
  if revoked then .cachedRevoked else .cachedValid

def display : RevocationStatus → String
  | .fresh revoked => if revoked then "fresh (revoked: true)"
        else "fresh (revoked: false)"
  | .cachedRevoked => "cached revoked"
  | .cachedValid => "cached valid"

end RevocationStatus

/-- The answer for a serial number, or the checks that are after it. -/
structure RevocationCell where
  revoked? : Option Bool := none
  asking? : Option Nat := none
  waiting : List Nat := []
deriving DecidableEq, Repr

namespace RevocationCell

def isHeldBy (cell : RevocationCell) (check : Nat) : Bool :=
  cell.asking? == some check || cell.waiting.contains check

def isUnused (cell : RevocationCell) : Bool :=
  cell.revoked?.isNone && cell.asking?.isNone && cell.waiting.isEmpty

end RevocationCell

/-- All cells in the order in which they were made, and the cell that new checks of
a serial number take.  Checks are numbered in the order in which they start. -/
structure RevocationCache where
  cells : List RevocationCell := []
  entries : List (String × Nat) := []
  started : Nat := 0
deriving DecidableEq, Repr

inductive CheckProgress where
  | done (status : RevocationStatus)
  | asks
  | waits
deriving DecidableEq, Repr

namespace RevocationCache

def modifyCell (cache : RevocationCache) (number : Nat)
    (change : RevocationCell → RevocationCell) : RevocationCache :=
  { cache with cells := cache.cells.modify number change }

def takeCell (cache : RevocationCache) (serial : String) : RevocationCache × Nat :=
  match cache.entries.lookup serial with
  | some number => (cache, number)
  | none =>
      let number := cache.cells.length
      ({ cache with
          cells := cache.cells ++ [{}]
          entries := (serial, number) :: cache.entries },
        number)

/-- Starts a check, which gets the next number. -/
def start (cache : RevocationCache) (serial : String) :
    RevocationCache × CheckProgress :=
  let check := cache.started
  let (cache, number) := takeCell { cache with started := check + 1 } serial
  match cache.cells[number]? with
  | none => (cache, .waits)
  | some cell =>
      match cell.revoked? with
      | some revoked => (cache, .done (.cached revoked))
      | none =>
          if cell.asking?.isNone && cell.waiting.isEmpty then
            (cache.modifyCell number ({ · with asking? := some check }), .asks)
          else
            (cache.modifyCell number
              ({ · with waiting := cell.waiting ++ [check] }), .waits)

def cellOf? (cache : RevocationCache) (check : Nat) : Option Nat :=
  cache.cells.findIdx? (·.isHeldBy check)

/-- Forgets the entry of a serial number if its cell is the given one
and not in use. -/
def discardUnused (cache : RevocationCache) (serial : String)
    (number : Nat) : RevocationCache :=
  if cache.entries.lookup serial = some number ∧
      (cache.cells[number]?).any RevocationCell.isUnused then
    { cache with entries := cache.entries.filter (·.1 ≠ serial) }
  else
    cache

/-- Ends the check that asked with the answer to its question, or with `none` if
there is none. -/
def answer (cache : RevocationCache) (check : Nat) (serial : String)
    (reply : Option Bool) :
    RevocationCache × Except TrustFault RevocationStatus :=
  let released (revoked? : Option Bool) : RevocationCache :=
    match cache.cellOf? check with
    | some number => cache.modifyCell number ({ · with revoked?, asking? := none })
    | none => cache
  match reply with
  | some revoked => (released (some revoked), .ok (.fresh revoked))
  | none =>
      let cache := match cache.cellOf? check with
        | some number => (released none).discardUnused serial number
        | none => cache
      (cache, .error (.foreign (.revocationCheckUnavailable serial)))

def resume (cache : RevocationCache) (check : Nat) :
    RevocationCache × CheckProgress :=
  match cache.cellOf? check with
  | none => (cache, .waits)
  | some number =>
      match cache.cells[number]? with
      | none => (cache, .waits)
      | some cell =>
          let others := cell.waiting.filter (· ≠ check)
          match cell.revoked? with
          | some revoked =>
              (cache.modifyCell number ({ · with waiting := others }),
                .done (.cached revoked))
          | none =>
              if cell.asking?.isNone && cell.waiting.head? = some check then
                (cache.modifyCell number
                  ({ · with asking? := some check, waiting := others }), .asks)
              else
                (cache, .waits)

def drop (cache : RevocationCache) (check : Nat) : RevocationCache :=
  match cache.cellOf? check with
  | none => cache
  | some number =>
      cache.modifyCell number fun cell =>
        { cell with
          asking? := if cell.asking? = some check then none else cell.asking?
          waiting := cell.waiting.filter (· ≠ check) }

def clear (cache : RevocationCache) : RevocationCache :=
  { cache with entries := [] }

def count (cache : RevocationCache) : Nat :=
  (cache.entries.filter fun (_, number) =>
    (cache.cells[number]?).any (·.revoked?.isSome)).length

end RevocationCache

end EndpointDiscovery
