import GatewayCompiler.Json.Value
import GatewayCompiler.Text.Utf8
import GatewayCompiler.Yaml.Node

/-!
# The value of a scalar

A plain scalar is null, a boolean, a number or a string, by its text; a quoted one is a string.  A tag
of the core schema asks for one kind.  Digits after a leading zero are a string.
-/

namespace GatewayCompiler.Yaml

open Decimal (Binary64)

/-- A value that is not a collection. -/
inductive Scalar where
  | null
  | bool (value : Bool)
  | int (value : Int)
  | float (value : Binary64)
  | infinity
  | nan
  | string (text : String)
  deriving DecidableEq, Repr

namespace Scalar

/-- An infinity and a value that is no number have no JSON form but null. -/
def toJson : Scalar → Json
  | .null => .null
  | .bool value => .bool value
  | .int value => .int value
  | .float value => .float value
  | .infinity => .null
  | .nan => .null
  | .string text => .string text

/-- The name of a field that has this value as its key. -/
def fieldName? : Scalar → Option String
  | .bool true => some "true"
  | .bool false => some "false"
  | .int value => some (toString value)
  | .float value => some value.text
  | .string text => some text
  | .null | .infinity | .nan => none

/-- Whether two keys are the same.  The sign of a zero does not count. -/
def sameKey : Scalar → Scalar → Bool
  | .float a, .float b => a == b || (a.mantissa == 0 && b.mantissa == 0)
  | a, b => a == b

def isNullWord (text : String) : Bool :=
  ["null", "Null", "NULL", "~"].contains text

def bool? (text : String) : Option Bool :=
  if ["true", "True", "TRUE"].contains text then some true
  else if ["false", "False", "FALSE"].contains text then some false
  else none

/-- The value of a digit in some base. -/
def digitValue? (base : Nat) (c : Char) : Option Nat :=
  let n := c.toNat
  let value :=
    if c.isDigit then n - 48
    else if 'a' ≤ c && c ≤ 'f' then n - 87
    else if 'A' ≤ c && c ≤ 'F' then n - 55
    else base
  if value < base then some value else none

/-- The number that a run of digits writes. -/
def digits? (base : Nat) (cs : List Char) : Option Nat := do
  let values ← cs.mapM (digitValue? base)
  if values = [] then none else some (values.foldl (fun n d => n * base + d) 0)

/-- The number after a letter that gives its base. -/
def basedNumber? : List Char → Option Nat
  | '0' :: 'x' :: rest => digits? 16 rest
  | '0' :: 'o' :: rest => digits? 8 rest
  | '0' :: 'b' :: rest => digits? 2 rest
  | _ => none

def hasLeadingZero (cs : List Char) : Bool :=
  match cs with
  | '0' :: rest => !rest.isEmpty && rest.all Char.isDigit
  | _ => false

/-- The number that the text writes after its sign. -/
def magnitude? (cs : List Char) : Option Nat :=
  match basedNumber? cs with
  | some n => some n
  | none => if hasLeadingZero cs then none else digits? 10 cs

def integer? (text : String) : Option Int :=
  match text.toList with
  | '-' :: rest => (magnitude? rest).map fun n => -(n : Int)
  | '+' :: rest => (magnitude? rest).map Int.ofNat
  | cs => (magnitude? cs).map Int.ofNat

/-- Whether an integer is too large for 64 bits but not for 128 bits; such an integer is refused. -/
def isRefused (n : Int) : Bool :=
  !Json.isExact n && -(Nat.pow 2 127 : Int) ≤ n && n < Nat.pow 2 128

/-- The digits of a decimal before and after its point, and what follows. -/
def splitDecimal (cs : List Char) : List Char × List Char × List Char :=
  let whole := cs.takeWhile Char.isDigit
  match cs.dropWhile Char.isDigit with
  | '.' :: rest => (whole, rest.takeWhile Char.isDigit, rest.dropWhile Char.isDigit)
  | rest => (whole, [], rest)

/-- The exponent that ends a decimal. -/
def exponent? (cs : List Char) : Option Int :=
  match cs with
  | [] => some 0
  | e :: rest =>
    if e = 'e' || e = 'E' then
      match rest with
      | '-' :: digits => (digits? 10 digits).map fun n => -(n : Int)
      | '+' :: digits => (digits? 10 digits).map Int.ofNat
      | digits => (digits? 10 digits).map Int.ofNat
    else none

/-- A decimal without a sign, unless it is out of range. -/
def decimal? (negative : Bool) (cs : List Char) : Option Binary64 := do
  let (whole, fraction, rest) := splitDecimal cs
  let digits ← digits? 10 (whole ++ fraction)
  let exponent ← exponent? rest
  Binary64.ofDecimal? negative digits (exponent - fraction.length)

def isInfinityWord (cs : List Char) : Bool :=
  ["inf", "Inf", "INF"].contains (String.ofList cs)

def isNanWord (text : String) : Bool :=
  [".nan", ".NaN", ".NAN"].contains text

def float? (text : String) : Option Scalar :=
  if isNanWord text then some .nan
  else match text.toList with
  | '.' :: rest | '+' :: '.' :: rest | '-' :: '.' :: rest =>
    if isInfinityWord rest then some .infinity
    else finite? text.toList
  | cs => finite? cs
where
  finite? : List Char → Option Scalar
    | '-' :: rest => (decimal? true rest).map .float
    | '+' :: rest => (decimal? false rest).map .float
    | cs => (decimal? false cs).map .float

/-- The value of a plain scalar, unless it is an integer that is refused. -/
def ofPlain? (text : String) : Option Scalar :=
  if text.isEmpty || isNullWord text then some .null
  else match bool? text with
  | some value => some (.bool value)
  | none =>
    match integer? text with
    | some n =>
      if Json.isExact n then some (.int n)
      else if isRefused n then none
      else some ((float? text).getD (.string text))
    | none =>
      let unsigned := text.toList.dropWhile fun c => c == '+' || c == '-'
      if hasLeadingZero unsigned then some (.string text)
      else some ((float? text).getD (.string text))

/-- The value of a scalar with a tag of the core schema, which it has to fit. -/
def ofCoreTag? (kind : String) (text : String) : Option Scalar :=
  match kind with
  | "bool" => (bool? text).map .bool
  | "int" => (integer? text).bind fun n => if Json.isExact n then some (.int n) else none
  | "float" => float? text
  | "null" => if isNullWord text then some .null else none
  | _ => some (.string text)

end Scalar

/-- What a tag asks for: a kind of the core schema, or a name of its own. -/
inductive TagMeaning where
  | core (kind : String)
  | named (name : String)
  deriving DecidableEq, Repr

/-- The start of the tags of the core schema. -/
def coreStart : List UInt8 := Text.utf8 "tag:yaml.org,2002:"

namespace TagMeaning

/-- A tag that starts with `!` has a name of its own, which follows that mark; a tag of neither sort
asks for nothing. -/
def ofBytes (tag : TagBytes) : TagMeaning :=
  match tag with
  | 0x21 :: name => ((Text.ofUtf8? name).map named).getD (core "")
  | _ =>
    if coreStart.isPrefixOf tag then core ((Text.ofUtf8? (tag.drop coreStart.length)).getD "")
    else core ""

end TagMeaning

end GatewayCompiler.Yaml
