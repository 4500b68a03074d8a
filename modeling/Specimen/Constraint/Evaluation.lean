import Specimen.Calendar.Reader
import Specimen.Constraint.Expr
import Specimen.Decimal.Reader
import Specimen.Text.Case

/-!
# Checking constraints

The value of an expression over bound fields.  Fields hold texts; a text counts as a number when it
reads as one, and as a truth value when it is `true`, `false`, `1` or `0`.  Comparisons are numeric
when both sides are numbers, between truth values when one side is one and the other can be read as
one, and between texts otherwise.

A constraint that refers to a field without a value is undecided (`Outcome.unbound`), except where a
connective is settled by its left side.
-/

namespace Specimen

/-- The values of fields. -/
abbrev Bindings := Dict String

/-- The value of an expression. -/
inductive Value where
  | number (value : Float)
  | text (value : String)
  | bool (value : Bool)

/-- Why an expression has no value. -/
inductive EvalError where
  | unbound (field : String)
  | notNeedsBool
  | negNeedsNumber
  | connectiveNeedsBool
  | sumNeedsNumbers
  | absNeedsNumber
  | missingArgument (function : Builtin)
  | notADate (text : String)
  deriving DecidableEq, Repr

namespace EvalError

def message : EvalError → String
  | .unbound field => field
  | .notNeedsBool => "'!' needs a boolean"
  | .negNeedsNumber => "'-' needs a number"
  | .connectiveNeedsBool => "logical operand is not a boolean"
  | .sumNeedsNumbers => "arithmetic needs numbers"
  | .absNeedsNumber => "abs() needs a number"
  | .missingArgument function => function.name ++ "() is missing an argument"
  | .notADate text => "'" ++ text ++ "' is not a date"

end EvalError

/-- The text of a number: whole numbers below `10 ^ 15` have no point. -/
def numberText (x : Float) : String :=
  if x.floor == x && x.abs < 1e15 then toString x.toInt64.toInt else Decimal.plain.write x

namespace Value

def number? : Value → Option Float
  | .number x => some x
  | .text s => Decimal.readFloat? (Text.trim s)
  | .bool _ => none

def bool? : Value → Option Bool
  | .bool b => some b
  | .text s =>
    let s := Text.trim s
    if s = "true" ∨ s = "1" then some true
    else if s = "false" ∨ s = "0" then some false
    else none
  | .number _ => none

def asText : Value → String
  | .number x => numberText x
  | .text s => s
  | .bool b => if b then "true" else "false"

def isBool : Value → Bool
  | .bool _ => true
  | _ => false

/-- The order of two numbers; numbers that cannot be compared count as equal. -/
def compareNumbers (a b : Float) : Ordering :=
  if a < b then .lt else if b < a then .gt else .eq

/-- The order of two texts, character by character. -/
def compareTexts (a b : String) : Ordering :=
  if a < b then .lt else if a = b then .eq else .gt

def compareBools : Bool → Bool → Ordering
  | false, true => .lt
  | true, false => .gt
  | _, _ => .eq

def compare (a b : Value) : Ordering :=
  match a.number?, b.number? with
  | some x, some y => compareNumbers x y
  | _, _ =>
    if a.isBool || b.isBool then
      match a.bool?, b.bool? with
      | some p, some q => compareBools p q
      | _, _ => compareTexts a.asText b.asText
    else compareTexts a.asText b.asText

end Value

/-- Characters that fill a number of bytes exactly. -/
def takeBytes? (bytes : Nat) : List Char → Option (List Char)
  | [] => if bytes = 0 then some [] else none
  | c :: rest =>
    if bytes = 0 then some []
    else if c.utf8Size ≤ bytes then (takeBytes? (bytes - c.utf8Size) rest).map (c :: ·)
    else none

/-- The first ten bytes of a text, when a character ends there. -/
def firstTenBytes? (cs : List Char) : Option String := (takeBytes? 10 cs).map String.ofList

/-- The date of a text: a date, a moment, or a longer form that begins with a date. -/
def dateOf (text : String) : Except EvalError Date :=
  let trimmed := Text.trim text
  match Date.read? trimmed with
  | some d => .ok d
  | none =>
    match Moment.read? trimmed with
    | some m => .ok m.date
    | none =>
      match (firstTenBytes? trimmed.toList).bind Date.read? with
      | some d => .ok d
      | none => .error (.notADate text)

def isWithin (needle text : List Char) : Bool :=
  needle.isPrefixOf text ||
    match text with
    | [] => false
    | _ :: rest => isWithin needle rest

namespace Builtin

def argument (function : Builtin) (args : List Value) (index : Nat) : Except EvalError Value :=
  match args[index]? with
  | some v => .ok v
  | none => .error (.missingArgument function)

def apply (function : Builtin) (args : List Value) : Except EvalError Value := do
  let first ← function.argument args 0
  match function with
  | .length => return .number (Float.ofNat first.asText.length)
  | .lower => return .text (Text.lower first.asText)
  | .upper => return .text (Text.upper first.asText)
  | .abs =>
    match first.number? with
    | some x => return .number x.abs
    | none => throw .absNeedsNumber
  | .dateDiff =>
    let start ← dateOf first.asText
    let finish ← dateOf (← function.argument args 1).asText
    return .number (Float.ofInt (finish.dayNumber - start.dayNumber))
  | .contains =>
    let second ← function.argument args 1
    return .bool (isWithin second.asText.toList first.asText.toList)
  | .startsWith =>
    let second ← function.argument args 1
    return .bool (second.asText.toList.isPrefixOf first.asText.toList)
  | .endsWith =>
    let second ← function.argument args 1
    return .bool (second.asText.toList.isSuffixOf first.asText.toList)

end Builtin

namespace UnaryOp

/-- The value of an operator with one operand. -/
def apply (op : UnaryOp) (v : Value) : Except EvalError Value :=
  match op with
  | .not =>
    match v.bool? with
    | some b => .ok (.bool !b)
    | none => .error .notNeedsBool
  | .neg =>
    match v.number? with
    | some x => .ok (.number (-x))
    | none => .error .negNeedsNumber

end UnaryOp

namespace BinaryOp

/-- The value of an operator whose two operands are both needed. -/
def apply (op : BinaryOp) (a b : Value) : Except EvalError Value :=
  match op with
  | .eq => .ok (.bool (a.compare b == .eq))
  | .ne => .ok (.bool (a.compare b != .eq))
  | .lt => .ok (.bool (a.compare b == .lt))
  | .le => .ok (.bool (a.compare b != .gt))
  | .gt => .ok (.bool (a.compare b == .gt))
  | .ge => .ok (.bool (a.compare b != .lt))
  | .add | .sub =>
    match a.number?, b.number? with
    | some x, some y => .ok (.number (if op == .add then x + y else x - y))
    | _, _ => .error .sumNeedsNumbers
  | .and | .or => .error .connectiveNeedsBool

end BinaryOp

/-- The truth value of an operand of a connective. -/
def truthOperand (v : Value) : Except EvalError Bool :=
  match v.bool? with
  | some b => .ok b
  | none => .error .connectiveNeedsBool

namespace Expr

mutual

def eval (bindings : Bindings) : Expr → Except EvalError Value
  | .number x => .ok (.number x)
  | .text s => .ok (.text s)
  | .bool b => .ok (.bool b)
  | .field name =>
    match bindings.get? name with
    | some s => .ok (.text s)
    | none => .error (.unbound name)
  | .unary op e => do op.apply (← eval bindings e)
  | .binary .and l r => do
    let a ← truthOperand (← eval bindings l)
    if a then return .bool (← truthOperand (← eval bindings r)) else return .bool false
  | .binary .or l r => do
    let a ← truthOperand (← eval bindings l)
    if a then return .bool true else return .bool (← truthOperand (← eval bindings r))
  | .binary op l r => do
    let a ← eval bindings l
    let b ← eval bindings r
    op.apply a b
  | .call function args => do function.apply (← evalArgs bindings args)

def evalArgs (bindings : Bindings) : List Expr → Except EvalError (List Value)
  | [] => .ok []
  | e :: rest => do
    let v ← eval bindings e
    let vs ← evalArgs bindings rest
    return v :: vs

end

end Expr

/-- A constraint: its text, its expression and the fields it refers to. -/
structure Constraint where
  source : String
  expr : Expr
  /-- The fields referred to, in increasing order, each once. -/
  fields : List String

/-- What checking a constraint gives. -/
inductive Outcome where
  | satisfied
  | violated
  /-- A field that is needed has no value. -/
  | unbound (field : String)
  /-- The expression has no truth value over these values. -/
  | invalid (message : String)
  deriving DecidableEq, Repr

namespace Outcome

def isViolated : Outcome → Bool
  | .violated => true
  | _ => false

end Outcome

namespace Constraint

/-- Checks a constraint over the values of fields. -/
def check (c : Constraint) (bindings : Bindings) : Outcome :=
  match c.expr.eval bindings with
  | .ok v =>
    match v.bool? with
    | some true => .satisfied
    | some false => .violated
    | none => .invalid ("constraint '" ++ c.source ++ "' does not evaluate to a boolean")
  | .error (.unbound field) => .unbound field
  | .error e => .invalid e.message

/-- Whether no constraint is violated. -/
def allBoundHold (cs : List Constraint) (bindings : Bindings) : Bool :=
  cs.all fun c => !(c.check bindings).isViolated

def violated (cs : List Constraint) (bindings : Bindings) : List Constraint :=
  cs.filter fun c => (c.check bindings).isViolated

end Constraint
end Specimen
