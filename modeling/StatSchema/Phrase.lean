/-
Reading phrases of any depth: the grammar of each depth is made of the one below it, and a source is
read with more depth than it has tokens.
-/
import StatSchema.Phrase.Statement

namespace StatSchema.Phrase

open Token

/-- The readers of constructs that nest no deeper than `depth`. -/
def grammar (size : Nat) : (depth : Nat) → Grammar
  | 0 =>
    { size
      type := fun _ => unmet []
      bound := fun _ _ => unmet []
      operand := fun _ => unmet []
      operations := fun _ _ _ => unmet []
      early := unmet []
      pattern := unmet []
      statements := unmet [] }
  | depth + 1 =>
    { size
      type := fun sums {_} progress => (grammar size depth).typeBody sums progress
      bound := fun captures constants {_} progress =>
        (grammar size depth).boundBody captures constants progress
      operand := fun structures {_} progress => (grammar size depth).operandBody structures progress
      operations := fun structures least form {_} progress =>
        (grammar size depth).operationsBody structures least size form progress
      early := fun {_} progress => (grammar size depth).earlyBody progress
      pattern := fun {_} progress => (grammar size depth).patternBody progress
      statements := fun {_} progress => (grammar size depth).statementsBody progress }

/-- The grammar for a source of so many tokens. Every fourth level takes a token at least. -/
def grammarFor (size : Nat) : Grammar := grammar size (4 * size + 4)

/-- How far a phrase at the head of the tokens reaches. -/
def run {α : Type} (phrase : Grammar → Phrase α) (tokens : List Placed) :
    Except SyntaxError (Progress tokens) :=
  match phrase (grammarFor tokens.length) (Progress.start tokens) with
  | .ok (_, progress) => .ok progress
  | .error error => .error error

/-- Whether tokens without a place are all of a phrase. -/
def covers {α : Type} (phrase : Grammar → Phrase α) (tokens : List Token) : Bool :=
  match run phrase (tokens.map (⟨·, .whole⟩)) with
  | .ok progress => progress.rest.isEmpty && progress.leftover.isNone
  | .error _ => false

end StatSchema.Phrase
