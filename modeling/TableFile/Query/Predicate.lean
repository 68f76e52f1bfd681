import TableFile.Decimal.Integer
import TableFile.Query.Literal
import TableFile.Text.Identifier

namespace TableFile

inductive Operator where
  | equal
  | greater
  | less
deriving DecidableEq

def Operator.symbol : Operator → String
  | equal => "="
  | greater => ">"
  | less => "<"

structure Predicate where
  column : String
  operator : Operator
  value : String
deriving DecidableEq

namespace Predicate

open Text

def isOperatorSign (c : Char) : Bool :=
  c = '=' || c = '>' || c = '<' || c = '!'

/-- The operator that begins with `sign`, by the character behind it. Where that would make it a
longer one, the two are refused; an equals sign always stands alone. -/
def operatorAt (sign : Char) (next : Option Char) : Except Error Operator :=
  match sign, next with
  | '=', _ => .ok .equal
  | '>', some c => if c = '=' then refuse else .ok .greater
  | '<', some c => if c = '=' ∨ c = '>' then refuse else .ok .less
  | _, _ => refuse
where
  refuse := .error (.undecidable (.ofList (sign :: next.toList)))

def ofText (text : List Char) : Except Error Predicate :=
  let clause := trim text
  match clause.dropWhile (!isOperatorSign ·) with
  | [] => .error (.badQuery (.noOperator (.ofList clause)))
  | sign :: rest => do
    let operator ← operatorAt sign rest.head?
    let column := unquote (trim (clause.takeWhile (!isOperatorSign ·)))
    if column = [] then throw (.badQuery (.noColumn (.ofList clause)))
    return { column := .ofList column, operator, value := ← Query.Literal.parse (trim rest) }

def parse (clause : String) : Except Error Predicate :=
  ofText clause.toList

/-- Whether a value satisfies the predicate. Integers are compared as numbers if the literal is
one, all else by the text it shows; null satisfies nothing, and only equality can be decided. -/
def holds (predicate : Predicate) (value : Value) : Except Error Bool :=
  if predicate.operator = .equal then
    .ok (match value.integer?, Decimal.integer? predicate.value.toList with
      | some actual, some expected => actual == expected
      | _, _ => !value.isNull && value.display == predicate.value)
  else .error (.undecidable predicate.operator.symbol)

end Predicate

end TableFile
