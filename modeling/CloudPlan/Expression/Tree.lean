/-!
# Expressions

The trees of the small language in which rules state conditions and quantities:
literals, fields of metadata, two prefix operators and fourteen infix operators.
-/

namespace CloudPlan.Expression

/-- An operator in front of its operand. -/
inductive UnaryOp where
  | not
  | negate
deriving DecidableEq

/-- An operator between its operands. -/
inductive BinaryOp where
  | coalesce
  | or
  | and
  | equal
  | notEqual
  | less
  | lessEqual
  | greater
  | greaterEqual
  | add
  | subtract
  | multiply
  | divide
  | remainder
deriving DecidableEq

/-- How a prefix operator is written. -/
def UnaryOp.symbol : UnaryOp → Char
  | not => '!'
  | negate => '-'

/-- How an infix operator is written. -/
def BinaryOp.symbol : BinaryOp → String
  | coalesce => "??"
  | or => "||"
  | and => "&&"
  | equal => "=="
  | notEqual => "!="
  | less => "<"
  | lessEqual => "<="
  | greater => ">"
  | greaterEqual => ">="
  | add => "+"
  | subtract => "-"
  | multiply => "*"
  | divide => "/"
  | remainder => "%"

/-- A literal.  A number keeps the digits that write it. -/
inductive Literal where
  | null
  | bool (value : Bool)
  | number (digits : List Char)
  | text (content : List Char)
deriving DecidableEq

/-- An expression. -/
inductive Tree where
  | literal (value : Literal)
  | field (first : List Char) (rest : List (List Char))
  | unary (op : UnaryOp) (operand : Tree)
  | binary (op : BinaryOp) (left right : Tree)
deriving DecidableEq

/-- The levels of infix operators, from the loosest to the tightest. -/
inductive Level where
  | coalesce
  | or
  | and
  | comparison
  | sum
  | term
deriving DecidableEq

namespace Level

/-- The operators of a level; one that another starts with stands after it. -/
def operators : Level → List BinaryOp
  | coalesce => [.coalesce]
  | or => [.or]
  | and => [.and]
  | comparison => [.equal, .notEqual, .lessEqual, .greaterEqual, .less, .greater]
  | sum => [.add, .subtract]
  | term => [.multiply, .divide, .remainder]

/-- Operators of the level may follow each other; comparisons may not. -/
def chains : Level → Bool
  | comparison => false
  | _ => true

/-- The next tighter level, if there is one. -/
def tighter? : Level → Option Level
  | coalesce => some or
  | or => some and
  | and => some comparison
  | comparison => some sum
  | sum => some term
  | term => none

/-- How many levels are as tight or tighter. -/
def rank : Level → Nat
  | coalesce => 6
  | or => 5
  | and => 4
  | comparison => 3
  | sum => 2
  | term => 1

theorem rank_tighter
    {level next : Level}
    (isTighter : level.tighter? = some next) :
    next.rank < level.rank := by
  cases level <;> cases isTighter <;> decide

theorem rank_pos (level : Level) : 0 < level.rank := by
  cases level <;> decide

end Level

end CloudPlan.Expression
