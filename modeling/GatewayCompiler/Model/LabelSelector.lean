import GatewayCompiler.Model.Identity

/-!
# Label selectors

A selector accepts a set of labels when every label it names has its value and every expression
holds.  The empty selector accepts every set.
-/

namespace GatewayCompiler

inductive SelectorOperator where
  | isIn
  | notIn
  | exists
  | doesNotExist
  deriving DecidableEq, Repr

structure SelectorExpression where
  key : String
  operator : SelectorOperator
  values : List String
  deriving DecidableEq, Repr

structure LabelSelector where
  matchLabels : Labels
  matchExpressions : List SelectorExpression
  deriving DecidableEq, Repr

/-- An absent label satisfies `notIn`, never `isIn`. -/
def SelectorExpression.holds (expression : SelectorExpression) (labels : Labels) : Bool :=
  let current := labels.get? expression.key
  match expression.operator with
  | .isIn => current.any expression.values.contains
  | .notIn => !current.any expression.values.contains
  | .exists => current.isSome
  | .doesNotExist => current.isNone

def LabelSelector.accepts (selector : LabelSelector) (labels : Labels) : Bool :=
  (selector.matchLabels.entries.all fun (key, value) => labels.get? key == some value) &&
    selector.matchExpressions.all (·.holds labels)

end GatewayCompiler
