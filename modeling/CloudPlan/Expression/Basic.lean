import CloudPlan.Expression.Evaluation

/-!
# Expressions with their source

A parsed expression together with the text it was read from, which every message
about it quotes.
-/

namespace CloudPlan

/-- An expression and its source text. -/
structure Expression where
  /-- The text that was read. -/
  source : String
  /-- What the text means. -/
  tree : Expression.Tree

namespace Expression

/-- What is wrong with an expression. -/
structure Error where
  /-- The text of the expression. -/
  source : String
  /-- What is wrong with it. -/
  cause : Cause

/-- The message of an error. -/
def Error.message (error : Error) : String :=
  "Invalid expression '" ++ error.source ++ "': " ++ error.cause.message

/-- How many bytes characters take. -/
def byteCount (chars : List Char) : Nat :=
  chars.foldl (fun count c => count + c.utf8Size) 0

/-- The expression that a text spells. -/
def parse (source : String) : Except Error Expression :=
  match Reader.tree source.toList with
  | .ok tree => .ok ⟨source, tree⟩
  | .error failure =>
    .error ⟨source, .unreadable failure.fault
      (byteCount source.toList - byteCount failure.rest)⟩

/-- A result that blames the expression for its errors. -/
def blame {α : Type} (expression : Expression) (result : Except Cause α) : Except Error α :=
  result.mapError (⟨expression.source, ·⟩)

/-- The value of an expression. -/
def evaluate (expression : Expression) (metadata : Json.Members) : Except Error Value :=
  expression.blame (expression.tree.evaluate metadata)

/-- The truth of an expression. -/
def evaluateBool (expression : Expression) (metadata : Json.Members) : Except Error Bool :=
  (expression.evaluate metadata).map Value.isTrue

/-- The count that an expression gives. -/
def evaluateQuantity (expression : Expression) (metadata : Json.Members) :
    Except Error Nat := do
  let value ← expression.evaluate metadata
  expression.blame <|
    match value.number? with
    | none => .error (.noNumber value)
    | some x => quantityOf x

end Expression

end CloudPlan
