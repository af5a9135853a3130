import EntityQuery.Derive.Reader
import EntityQuery.Derive.TypeExpr

/-!
The phrases that can stand inside of one another. A grammar reads phrases down to some depth; each
module that follows builds the readers for one more level from those of the level below.
-/

namespace EntityQuery.Derive

/-- What a type looks like where this decides how to read on. A plain path is a single name, perhaps
with arguments in angles. Bounds may be several. -/
inductive TypeForm where
  | path (plain : Bool)
  | qualifiedPath
  | bounds (several : Bool)
  | inParentheses
  | other
  deriving DecidableEq, Repr

/-- What an expression looks like where this decides how to read on. A block is anything that ends
with one, a loop or a choice too, and a braced call is a call of a name with `!` and braces. -/
inductive ExpressionForm where
  | text (value : String)
  | range
  | comparison
  | block
  | bracedCall
  | other
  deriving DecidableEq, Repr

inductive BoundForm where
  | named
  | lifetime
  | capture
  deriving DecidableEq, Repr

inductive Precedence where
  | any | assignment | range | or | and | binding | comparison | bitOr | bitXor | bitAnd | shift
  | addition | product | cast
  deriving DecidableEq, Repr

/-- The readers of phrases. With `plus` a type may be several bounds; with `structs` an expression
may end with braces after a name; `capture` and `constant` allow special bounds. -/
structure Grammar where
  attributes : Reader Unit
  /-- Attributes of what they stand in. -/
  innerAttributes : Reader Unit
  type (plus : Bool) : Reader (TypeExpr × TypeForm)
  bound (capture constant : Bool) : Reader BoundForm
  pattern : Reader Unit
  expression (structs : Bool) : Reader ExpressionForm
  /-- An expression without operators between two operands. -/
  operand (structs : Bool) : Reader ExpressionForm
  /-- What operators that bind at least as tightly as `base` make of a first operand. -/
  operation (structs : Bool) (base : Precedence) (left : ExpressionForm) : Reader ExpressionForm
  /-- An expression where a statement may stand, which a block ends. -/
  statementExpression : Reader ExpressionForm
  /-- The statements up to the end of a block. -/
  statements : Reader Unit
  declaration : Reader Unit

def Grammar.empty : Grammar where
  attributes := pure ()
  innerAttributes := pure ()
  type _ := Reader.complain "unexpected token"
  bound _ _ := Reader.complain "unexpected token"
  pattern := Reader.complain "unexpected token"
  expression _ := Reader.complain "unexpected token"
  operand _ := Reader.complain "unexpected token"
  operation _ _ _ := Reader.complain "unexpected token"
  statementExpression := Reader.complain "unexpected token"
  statements := Reader.complain "unexpected token"
  declaration := Reader.complain "unexpected token"

def Grammar.block (g : Grammar) : Reader Unit :=
  Reader.group '\x7b' g.statements

def Grammar.attributedBlock (g : Grammar) : Reader Unit :=
  Reader.group '\x7b' (do
    g.innerAttributes
    g.statements)

end EntityQuery.Derive
