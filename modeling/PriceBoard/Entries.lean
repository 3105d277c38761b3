/-!
# Entries

A table is a list of entries, each a value under a key.  A key occurs once; a new value takes the
place of the old one, and a new key is added at the end.
-/

namespace PriceBoard

variable {κ ν : Type}

/-- Sets the value of a key. -/
def setEntry [DecidableEq κ] (key : κ) (value : ν) : List (κ × ν) → List (κ × ν)
  | [] => [(key, value)]
  | entry :: others =>
    if entry.1 = key then (key, value) :: others else entry :: setEntry key value others

/-- The value of a key, if the table has it. -/
def valueAt? [DecidableEq κ] (key : κ) : List (κ × ν) → Option ν
  | [] => none
  | entry :: others => if entry.1 = key then some entry.2 else valueAt? key others

end PriceBoard
