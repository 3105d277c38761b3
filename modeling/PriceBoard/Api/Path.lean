import PriceBoard.Text.Blank
import PriceBoard.Text.Split

/-!
# Paths

A call names what it asks for by a path.  Steps of a path may go up and down again, which
`straighten` undoes.  `Place.ofPath?` finds the place of a path, and `Place.behindSlashes?` the
place of a path with slashes at its end.
-/

namespace PriceBoard.Api

/-! ## Places -/

/-- What a call can ask for. -/
inductive Place where
  | records
  | metrics
  /-- The document about the calls. -/
  | outline
  /-- One of the pages about the calls. -/
  | manual
  deriving DecidableEq

/-- The paths of the places. -/
def placePaths : List (String × Place) :=
  [("/v1/currencies", .records),
    ("/v1/metrics/updater", .metrics),
    ("/openapi.json", .outline),
    ("/docs", .manual),
    ("/docs/oauth2-redirect", .manual),
    ("/redoc", .manual)]

/-! ## Steps -/

/-- Whether the letter separates the steps of a path. -/
def isSlash (letter : Char) : Bool :=
  letter = '/'

/-- Takes a step after the ones taken so far, the last one first: a point stays, two points go back,
and anything else leads on.  Nothing goes back behind the start. -/
def takeStep (taken : List (List Char)) (step : List Char) : List (List Char) :=
  if step = ['.'] then taken
  else if step = ['.', '.'] then if taken = [[]] then taken else taken.drop 1
  else step :: taken

/-- The word without steps that stay or go back. -/
def straighten (word : List Char) : List Char :=
  ['/'].intercalate ((Text.splitWord '/' word).foldl takeStep []).reverse

/-! ## Finding places -/

/-- The place with exactly this path; a line may end behind it. -/
def Place.ofPath? (path : List Char) : Option Place :=
  (placePaths.find? fun (known, _) => path = known.toList || path = known.toList ++ ['\n']).map
    Prod.snd

/-- The place that the path leads to without the slashes at its end, and the path without them. -/
def Place.behindSlashes? (path : List Char) : Option (Place × List Char) :=
  if path.getLast? = some '/' then
    let path := Text.dropTrailing isSlash path
    (Place.ofPath? path).map fun place => (place, path)
  else none

end PriceBoard.Api
