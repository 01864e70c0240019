import GatewayCompiler.Model.LabelSelector
import GatewayCompiler.Schema.Reader
import GatewayCompiler.Schema.Writer

/-!
# The JSON form of label selectors
-/

namespace GatewayCompiler

open Schema

def SelectorOperator.words : List (String × SelectorOperator) :=
  [("In", .isIn), ("NotIn", .notIn), ("Exists", .exists), ("DoesNotExist", .doesNotExist)]

namespace SelectorExpression

def reader : Reader SelectorExpression :=
  Record.reader "LabelSelectorRequirement" <| SelectorExpression.mk
    <$> .required "key" Reader.string
    <*> .required "operator" (Reader.enumeration SelectorOperator.words)
    <*> .list "values" Reader.string

def toJson (expression : SelectorExpression) : Json :=
  .ofFields [
    ("key", .string expression.key),
    ("operator", Writer.enumeration SelectorOperator.words expression.operator),
    ("values", Writer.list .string expression.values)]

end SelectorExpression

namespace LabelSelector

def reader : Reader LabelSelector :=
  Record.reader "LabelSelector" <| LabelSelector.mk
    <$> .withDefault "matchLabels" Reader.stringTable ∅
    <*> .list "matchExpressions" SelectorExpression.reader

def toJson (selector : LabelSelector) : Json :=
  .ofFields [
    ("matchLabels", Writer.stringTable selector.matchLabels),
    ("matchExpressions", Writer.list SelectorExpression.toJson selector.matchExpressions)]

end LabelSelector

end GatewayCompiler
