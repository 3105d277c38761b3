/-!
# Lists without repetition

Assets, tickers and ids are asked for once each, in the order in which they first occur, and what
is found is handed back to everything that asked for it.
-/

namespace PriceBoard

variable {α β : Type}

/-- The members of the list in the order of their first occurrences, each once. -/
def distinct [DecidableEq α] : List α → List α
  | [] => []
  | item :: others => item :: (distinct others).filter (· ≠ item)

/-- The members of the list under their labels: the labels in the order of their first
occurrences, each with its members in the order of the list. -/
def groupByLabel [DecidableEq β] (label : α → β) (items : List α) : List (β × List α) :=
  (distinct (items.map label)).map fun name => (name, items.filter fun item => label item = name)

end PriceBoard
