import PriceBoard.Console

/-!
# Outcomes

An operation that talks to a provider leaves more behind than its result: the requests it made and
the lines it logged stay, even if it fails.  An `Outcome` keeps all three.  Operations run one after
the other, up to the first that fails; `attempt` turns a failure into a result that the next
operation can look at.
-/

namespace PriceBoard

/-- The result of an operation, or why it failed, with the requests it made and the lines it
logged, in their order. -/
structure Outcome (ε α : Type) where
  result : Except Fault α
  requests : List ε
  log : List String

namespace Outcome

variable {ε α β : Type}

/-- A result, without any trace. -/
def done (value : α) : Outcome ε α :=
  ⟨.ok value, [], []⟩

/-- A failure, without any trace. -/
def fail (fault : Fault) : Outcome ε α :=
  ⟨.error fault, [], []⟩

/-- What is known already, without any trace. -/
def ofExcept (result : Except Fault α) : Outcome ε α :=
  ⟨result, [], []⟩

/-- Logs a line of text. -/
def note (line : String) : Outcome ε Unit :=
  ⟨.ok (), [], [line]⟩

/-- Logs lines of text. -/
def notes (lines : List String) : Outcome ε Unit :=
  ⟨.ok (), [], lines⟩

/-- Logs a line that may hold halves of pairs, as the console shows it; the operation fails if the
console refuses the line. -/
def print (console : Console) (line : Spelling) : Outcome ε Unit :=
  match console.print line with
  | .ok shown => note shown
  | .error fault => fail fault

/-- Makes a request that is answered as given. -/
def ask (request : ε) (answer : Except Fault α) : Outcome ε α :=
  ⟨answer, [request], []⟩

/-- Goes on with the result, if there is one. -/
def andThen (first : Outcome ε α) (next : α → Outcome ε β) : Outcome ε β :=
  match first.result with
  | .error fault => ⟨.error fault, first.requests, first.log⟩
  | .ok value =>
    let second := next value
    ⟨second.result, first.requests ++ second.requests, first.log ++ second.log⟩

/-- Runs the operation and hands on its result or its failure. -/
def attempt (operation : Outcome ε α) : Outcome ε (Except Fault α) :=
  ⟨.ok operation.result, operation.requests, operation.log⟩

instance : Monad (Outcome ε) where
  pure := done
  bind := andThen

/-- Runs the operation on every item, in order, and joins the lists it results in. -/
def collect (operation : α → Outcome ε (List β)) : List α → Outcome ε (List β)
  | [] => done []
  | item :: others => do
    let first ← operation item
    let rest ← collect operation others
    return first ++ rest

end Outcome

end PriceBoard
