import ApiMock.Json.Numeral
import ApiMock.Template.Syntax
import ApiMock.Text.Case
import ApiMock.Text.Utf8
import ApiMock.Value.Text

/-!
# Helpers

The functions that a template can call for a value: comparisons, look-ups and conversions of texts.
An argument that leads nowhere counts as null. Helpers for blocks belong here only as far as they
are called without a block, when they check their arguments and give nothing; a comparison gives its
truth value then.
-/

set_option autoImplicit false

namespace ApiMock.Template

mutual

def shown : Value → String
  | .null => ""
  | .bool true => "true"
  | .bool false => "false"
  | .number n => n.text
  | .string s => s
  | .array items => "[" ++ ", ".intercalate (shownItems items) ++ "]"
  | .object _ => "[object]"

def shownItems : List Value → List String
  | [] => []
  | item :: rest => shown item :: shownItems rest

end

def isTruthy (includeZero : Bool) : Value → Bool
  | .null => false
  | .bool b => b
  -- Numbers too small for full precision count as zero.
  | .number n => includeZero || (n.toDouble?.map Double.isNormal).getD false
  | .string s => s ≠ ""
  | .array items => !items.isEmpty
  | .object members => !members.isEmpty

def numberIn? (text : String) : Option Number :=
  let (negative, digits) := match text.toList with
    | '-' :: rest => (true, rest)
    | characters => (false, characters)
  match Json.readNumber negative digits with
  | .ok (number, []) => some number
  | _ => none

def compareNumbers (a b : Number) : Ordering := compareOfLessAndEq a.units b.units

/-- The order of two values, if they have one: numbers by value, also when one of them is written in
a text, texts by code points, and false before true. -/
def order? : Value → Value → Option Ordering
  | .number a, .number b => some (compareNumbers a b)
  | .string a, .string b => some (compareOfLessAndEq a b)
  | .bool a, .bool b => some (compareOfLessAndEq a.toNat b.toNat)
  | .number a, .string b => (numberIn? b).map (compareNumbers a)
  | .string a, .number b => (numberIn? a).map (compareNumbers · b)
  | _, _ => none

def lengthOf : Value → Nat
  | .array items => items.length
  | .object members => members.length
  | .string s => (Utf8.encode s).length
  | _ => 0

def lookUp (collection index : Value) : Option Value :=
  match collection with
  | .array items => index.nat?.bind fun position => items[position]?
  | .object members => index.string?.bind fun name => members.lookup name
  | _ => none

def logLevels : List String := ["error", "warn", "info", "debug", "trace"]

def helperNames : List String :=
  ["query", "json", "default", "upper", "lower", "if", "unless", "each", "with", "lookup", "raw",
   "log", "eq", "ne", "gt", "gte", "lt", "lte", "and", "or", "not", "len"]

/-- The names of the helpers that give a truth value. As the head of a block they decide between the
block and its alternative. -/
def testNames : List String := ["eq", "ne", "gt", "gte", "lt", "lte", "and", "or", "not"]

/-- The names of the helpers whose results are written as they are, without any indent. -/
def unindentedNames : List String := ["query", "json", "default", "upper", "lower"] ++ testNames

def argument (helper : String) (args : List Value) (position : Nat) : Except RenderError Value :=
  match args[position]? with
  | some value => .ok value
  | none => .error (.missingArgument helper position)

def textArgument (args : List Value) (position : Nat) : String :=
  (args[position]?.bind Value.string?).getD ""

/-- A value, or a text in place of one that is missing, null or an empty text. -/
def orDefault (args : List Value) : String :=
  match args.head? with
  | none | some .null | some (.string "") => textArgument args 1
  | some (.string s) => s
  | some other => other.text

def callHelper (data : Value) (name : String) (args : List Value) (named : List (String × Value)) :
    Except RenderError (Option Value) :=
  let needs (count : Nat) (result : Option Value) : Except RenderError (Option Value) :=
    if args.length < count then .error (.missingArgument name args.length) else .ok result
  let ordered (test : Ordering → Bool) : Except RenderError (Option Value) := do
    let left ← argument name args 0
    let right ← argument name args 1
    return some (.bool ((order? left right).any test))
  match name with
  | "query" =>
    let parameter := (data.member? "request").bind (Value.member? "query") |>.bind
      (Value.member? (textArgument args 0))
    .ok (some (.string ((parameter.bind Value.string?).getD "")))
  | "json" => .ok (some (.string (args.head?.getD .null).text))
  | "default" => .ok (some (.string (orDefault args)))
  | "upper" => .ok (some (.string (Case.toUpper (textArgument args 0))))
  | "lower" => .ok (some (.string (Case.toLower (textArgument args 0))))
  | "if" | "unless" | "each" | "with" => needs 1 (some (.string ""))
  | "raw" => .ok (some (.string ""))
  | "log" =>
    let level := ((named.lookup "level").bind Value.string?).getD "info"
    if logLevels.contains (Case.toAsciiLower level) then .ok (some (.string ""))
    else .error (.unsuitableArgument name)
  | "lookup" => do
    let collection ← argument name args 0
    let index ← argument name args 1
    return lookUp collection index
  | "eq" => do
    let left ← argument name args 0
    let right ← argument name args 1
    return some (.bool (left.same right))
  | "ne" => do
    let left ← argument name args 0
    let right ← argument name args 1
    return some (.bool (!left.same right))
  | "gt" => ordered (· == .gt)
  | "gte" => ordered (· != .lt)
  | "lt" => ordered (· == .lt)
  | "lte" => ordered (· != .gt)
  | "and" => .ok (some (.bool (args.all (isTruthy false))))
  | "or" => .ok (some (.bool (args.any (isTruthy false))))
  | "not" => do
    let value ← argument name args 0
    return some (.bool (!isTruthy false value))
  | "len" => do
    let value ← argument name args 0
    return some (.number (Number.ofNat (lengthOf value)))
  | _ => .error (.unknownHelper name)

end ApiMock.Template
