/-!
# Cutting a text at a separator

`cutFirst` and `cutLast` return the texts on both sides of the first and of the
last occurrence.
-/

namespace EndpointDiscovery.Text

def dropStart? {α : Type} [DecidableEq α] : List α → List α → Option (List α)
  | [], items => some items
  | _ :: _, [] => none
  | expected :: start, item :: items =>
      if expected = item then dropStart? start items else none

def cutFirst {α : Type} [DecidableEq α] (separator : List α) :
    List α → Option (List α × List α)
  | [] => (dropStart? separator []).map fun rest => ([], rest)
  | item :: items =>
      match dropStart? separator (item :: items) with
      | some rest => some ([], rest)
      | none => (cutFirst separator items).map fun (before, after) =>
          (item :: before, after)

def cutLast {α : Type} [DecidableEq α] (separator items : List α) :
    Option (List α × List α) :=
  (cutFirst separator.reverse items.reverse).map fun (after, before) =>
    (before.reverse, after.reverse)

/-- All parts between the occurrences of one separating item; there is always one
part more than there are occurrences. -/
def splitOn {α : Type} [DecidableEq α] (separator : α) : List α → List (List α)
  | [] => [[]]
  | item :: items =>
      let parts := splitOn separator items
      if item = separator then
        [] :: parts
      else
        match parts with
        | part :: others => (item :: part) :: others
        | [] => [[item]]

def occurs {α : Type} [DecidableEq α] (separator items : List α) : Bool :=
  (cutFirst separator items).isSome

end EndpointDiscovery.Text
