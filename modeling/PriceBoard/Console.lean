import PriceBoard.Fault

/-!
# Consoles

Lines are printed on a console.  A line may quote what a provider sent, and so hold halves of pairs
that stand alone.  A console prints every text; what it makes of such halves is its own affair: it
may show something else in their place, or refuse the whole line.
-/

namespace PriceBoard

/-- What lines are printed on. -/
structure Console where
  /-- The line as it is shown, or why it is refused. -/
  print : Spelling → Except Fault String
  print_ofText : ∀ text, print (.ofText text) = .ok text

namespace Console

/-- What a console shows that sends its lines on: no half of a pair can be sent. -/
def send (line : Spelling) : Except Fault String :=
  match Fault.encoding? line with
  | none => .ok line.text
  | some fault => .error fault

/-- A console that sends its lines on. -/
def strict : Console where
  print := send
  print_ofText := by
    intro text
    rw [send, Fault.encoding?, Spelling.halves?_ofText, Spelling.text_ofText]
    rfl

end Console

end PriceBoard
