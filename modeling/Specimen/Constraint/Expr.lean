import Specimen.Dict

/-!
# Constraint expressions

A constraint is a boolean expression over the fields of a relationship: comparisons, arithmetic,
connectives and a few functions.  Fields are referred to by name; `Expr.fields` lists the references
and `Expr.rename?` replaces them.
-/

namespace Specimen

/-- Operators with two operands. -/
inductive BinaryOp where
  | eq
  | ne
  | lt
  | le
  | gt
  | ge
  | and
  | or
  | add
  | sub
  deriving DecidableEq, Repr

/-- Operators with one operand. -/
inductive UnaryOp where
  | not
  | neg
  deriving DecidableEq, Repr

/-- Functions that constraints can call. -/
inductive Builtin where
  /-- The whole days from the first date to the second. -/
  | dateDiff
  | length
  | lower
  | upper
  | abs
  | contains
  | startsWith
  | endsWith
  deriving DecidableEq, Repr

namespace Builtin

def name : Builtin → String
  | .dateDiff => "date_diff"
  | .length => "len"
  | .lower => "lower"
  | .upper => "upper"
  | .abs => "abs"
  | .contains => "contains"
  | .startsWith => "starts_with"
  | .endsWith => "ends_with"

/-- The function with a name in lower case. -/
def ofName? (name : String) : Option Builtin :=
  match name with
  | "date_diff" => some .dateDiff
  | "len" => some .length
  | "length" => some .length
  | "lower" => some .lower
  | "upper" => some .upper
  | "abs" => some .abs
  | "contains" => some .contains
  | "starts_with" => some .startsWith
  | "ends_with" => some .endsWith
  | _ => none

def arity : Builtin → Nat
  | .length | .lower | .upper | .abs => 1
  | .dateDiff | .contains | .startsWith | .endsWith => 2

end Builtin

/-- An expression. -/
inductive Expr where
  | number (value : Float)
  | text (value : String)
  | bool (value : Bool)
  | field (name : String)
  | unary (op : UnaryOp) (operand : Expr)
  | binary (op : BinaryOp) (left right : Expr)
  | call (function : Builtin) (args : List Expr)
  deriving Inhabited

namespace Expr

mutual

/-- The names of the fields that an expression refers to, from left to right. -/
def fields : Expr → List String
  | .number _ => []
  | .text _ => []
  | .bool _ => []
  | .field name => [name]
  | .unary _ e => fields e
  | .binary _ l r => fields l ++ fields r
  | .call _ args => fieldsOfArgs args

/-- The names of the fields that arguments refer to. -/
def fieldsOfArgs : List Expr → List String
  | [] => []
  | e :: rest => fields e ++ fieldsOfArgs rest

end

mutual

/-- Replaces every field name, up to the first that cannot be replaced. -/
def rename? {ε : Type} (f : String → Except ε String) : Expr → Except ε Expr
  | .number x => .ok (.number x)
  | .text s => .ok (.text s)
  | .bool b => .ok (.bool b)
  | .field name => do return .field (← f name)
  | .unary op e => do return .unary op (← rename? f e)
  | .binary op l r => do
    let l ← rename? f l
    let r ← rename? f r
    return .binary op l r
  | .call function args => do return .call function (← renameArgs? f args)

def renameArgs? {ε : Type} (f : String → Except ε String) : List Expr → Except ε (List Expr)
  | [] => .ok []
  | e :: rest => do
    let e ← rename? f e
    let rest ← renameArgs? f rest
    return e :: rest

end

end Expr
end Specimen
