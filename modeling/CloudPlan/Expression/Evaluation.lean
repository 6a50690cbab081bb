import CloudPlan.Expression.Reader
import CloudPlan.Expression.Value

/-!
# Evaluating expressions

The value of an expression over the metadata of a resource, and the errors that
reading and evaluating an expression may end in.
-/

namespace CloudPlan.Expression

/-- No quantity may be greater than this. -/
def mostQuantity : Nat := 256

/-- Why an expression cannot be read or has no value of the wanted kind. -/
inductive Cause where
  | unreadable (fault : Fault) (offset : Nat)
  | divisionByZero
  | notNegatable (operand : Value)
  | notApplicable (op : BinaryOp) (left right : Value)
  | notOrderable (left right : Value)
  | noNumber (value : Value)
  | noQuantity (value : Float)
  | overLimit (value : Float)

/-- The words for a fault. -/
def Fault.message : Fault → String
  | operand => "invalid operand"
  | identifier => "invalid identifier"
  | stringLiteral => "invalid string literal"
  | closingParenthesis => "invalid operand\nexpected `)`"
  | trailingInput => "unexpected input"

/-- The words for a cause. -/
def Cause.message : Cause → String
  | unreadable fault offset => fault.message ++ s!" at offset {offset}"
  | divisionByZero => "division by zero"
  | notNegatable operand => "cannot negate " ++ operand.kind
  | notApplicable op left right =>
    "cannot apply '" ++ op.symbol ++ "' to " ++ left.kind ++ " and " ++ right.kind
  | notOrderable left right => "cannot order " ++ left.kind ++ " and " ++ right.kind
  | noNumber value => "expected a number, got " ++ value.display
  | noQuantity value =>
    "quantity must be a non-negative integer, got " ++ numberLayout.write value
  | overLimit value =>
    "quantity " ++ numberLayout.write value ++ s!" exceeds the limit of {mostQuantity}"

/-- The value that members below an object lead to. -/
def descend (value : Json.Value) : List (List Char) → Value
  | [] => Value.ofJson value
  | name :: rest =>
    match value.member? (String.ofList name) with
    | some inner => descend inner rest
    | none => .null

/-- The value that a path starting with a name leads to. -/
def follow (metadata : Json.Members) (first : List Char) (rest : List (List Char)) : Value :=
  match metadata.lookup (String.ofList first) with
  | some value => descend value rest
  | none => .null

/-- The value of a field: the word `metadata` in front of further names is passed over. -/
def lookup (metadata : Json.Members) (first : List Char) : List (List Char) → Value
  | next :: rest =>
    if first = ['m', 'e', 't', 'a', 'd', 'a', 't', 'a'] then
      follow metadata next rest
    else
      follow metadata first (next :: rest)
  | [] => follow metadata first []

namespace Value

/-- The value of a literal. -/
def ofLiteral : Literal → Value
  | .null => null
  | .bool value => bool value
  | .number digits => number ((Number.float? digits).getD 0.0)
  | .text content => text (String.ofList content)

/-- Two texts of which one denotes no number. -/
def asTexts? : Value → Value → Option (String × String)
  | text left, text right =>
    if (textNumber? left).isSome && (textNumber? right).isSome then
      none
    else
      some (left, right)
  | _, _ => none

/-- Two values as numbers. -/
def asNumbers? (left right : Value) : Option (Float × Float) := do
  return (← left.number?, ← right.number?)

/-- The order of two doubles, if they have one. -/
def orderFloats (left right : Float) : Option Ordering :=
  if left < right then some .lt
  else if left == right then some .eq
  else if right < left then some .gt
  else none

/-- The order of two values: null has none, and text counts as text unless both denote numbers. -/
def order (left right : Value) : Except Cause (Option Ordering) :=
  match left, right with
  | null, _ => .ok none
  | _, null => .ok none
  | _, _ =>
    match asTexts? left right with
    | some (l, r) => .ok (some (compare l r))
    | none =>
      match asNumbers? left right with
      | some (l, r) => .ok (orderFloats l r)
      | none => .error (.notOrderable left right)

/-- The result of a comparison: false without an order. -/
def compared (accepts : Ordering → Bool) (left right : Value) : Except Cause Value :=
  (order left right).map fun found => bool ((found.map accepts).getD false)

/-- The result of an operation on numbers. -/
def arithmetic (op : BinaryOp) (operation : Float → Float → Except Cause Float)
    (left right : Value) : Except Cause Value :=
  match asNumbers? left right with
  | some (l, r) => (operation l r).map number
  | none => .error (.notApplicable op left right)

/-- The result of an operator whose operands are both evaluated. -/
def apply (op : BinaryOp) (left right : Value) : Except Cause Value :=
  match op with
  | .equal => .ok (bool (looselyEqual left right))
  | .notEqual => .ok (bool !(looselyEqual left right))
  | .less => compared (· == .lt) left right
  | .lessEqual => compared (· != .gt) left right
  | .greater => compared (· == .gt) left right
  | .greaterEqual => compared (· != .lt) left right
  | .add =>
    match asTexts? left right with
    | some (l, r) => .ok (text (l ++ r))
    | none => arithmetic op (fun l r => .ok (l + r)) left right
  | .subtract => arithmetic op (fun l r => .ok (l - r)) left right
  | .multiply => arithmetic op (fun l r => .ok (l * r)) left right
  | .divide =>
    arithmetic op (fun l r => if r == 0.0 then .error .divisionByZero else .ok (l / r))
      left right
  | .remainder =>
    arithmetic op
      (fun l r =>
        if r == 0.0 then .error .divisionByZero else .ok (Number.remainder l r))
      left right
  | .coalesce => .ok (match left with | null => right | _ => left)
  | .or => .ok (bool (left.isTrue || right.isTrue))
  | .and => .ok (bool (left.isTrue && right.isTrue))

end Value

/-- The left operand alone decides the result of an operator. -/
def BinaryOp.decided? : BinaryOp → Value → Option Value
  | coalesce, .null => none
  | coalesce, value => some value
  | or, value => if value.isTrue then some (.bool true) else none
  | and, value => if value.isTrue then none else some (.bool false)
  | _, _ => none

/-- The value of an expression.  A right operand is evaluated only where it is needed. -/
def Tree.evaluate (metadata : Json.Members) : Tree → Except Cause Value
  | literal value => .ok (Value.ofLiteral value)
  | field first rest => .ok (lookup metadata first rest)
  | unary .not operand => do
    let value ← operand.evaluate metadata
    return .bool !value.isTrue
  | unary .negate operand => do
    let value ← operand.evaluate metadata
    match value.number? with
    | some x => return .number (-x)
    | none => throw (.notNegatable value)
  | binary op left right => do
    let l ← left.evaluate metadata
    match op.decided? l with
    | some value => return value
    | none =>
      let r ← right.evaluate metadata
      Value.apply op l r

/-- The count that a double stands for. -/
def quantityOf (x : Float) : Except Cause Nat :=
  match Number.Binary.ofFloat? x with
  | none => .error (.noQuantity x)
  | some b =>
    match b.whole? with
    | none => .error (.noQuantity x)
    | some count =>
      if b.negative ∧ count ≠ 0 then .error (.noQuantity x)
      else if mostQuantity < count then .error (.overLimit x)
      else .ok count

end CloudPlan.Expression
