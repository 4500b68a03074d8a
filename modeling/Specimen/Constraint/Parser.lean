import Specimen.Constraint.Token
import Specimen.Text.Case

/-!
# Parsing constraints

The grammar, from the weakest binding to the strongest: `or`, `and`, `not`, one comparison, sums, the
minus sign, and primaries, which are literals, fields, calls and bracketed expressions.  Words of the
language are recognised in any case.

Every rule takes the tokens that are left and gives those that it did not use.  The rules call one
another at most eight deep between two tokens, which bounds the fuel of `Expr.parse`.
-/

namespace Specimen

namespace Parse

/-- The tokens that are left. -/
abbrev Tokens := List Located

/-- The byte at which the next token begins, or at which the text ends. -/
def position (finish : Nat) : Tokens → Nat
  | [] => finish
  | t :: _ => t.position

/-- Whether a token is a word of the language, in any case. -/
def isWord (word : String) : Token → Bool
  | .name s => Text.lowerAscii s == word
  | _ => false

/-- What follows the word or operator of a connective, if the tokens begin with it. -/
def afterConnective? (word : String) (symbol : Symbol) : Tokens → Option Tokens
  | ⟨.symbol s, _⟩ :: rest => if s = symbol then some rest else none
  | t :: rest => if isWord word t.token then some rest else none
  | [] => none

/-- The comparison that the tokens begin with, and what follows it. -/
def comparison? : Tokens → Option (BinaryOp × Tokens)
  | ⟨.symbol s, _⟩ :: rest =>
    match s with
    | .eqEq | .eq => some (.eq, rest)
    | .bangEq | .ltGt => some (.ne, rest)
    | .lt => some (.lt, rest)
    | .ltEq => some (.le, rest)
    | .gt => some (.gt, rest)
    | .gtEq => some (.ge, rest)
    | _ => none
  | _ => none

/-- The sign that the tokens begin with, and what follows it. -/
def sign? : Tokens → Option (BinaryOp × Tokens)
  | ⟨.symbol .plus, _⟩ :: rest => some (.add, rest)
  | ⟨.symbol .minus, _⟩ :: rest => some (.sub, rest)
  | _ => none

mutual

def orExpr (finish fuel : Nat) (ts : Tokens) : Except SyntaxError (Expr × Tokens) :=
  match fuel with
  | 0 => .error ⟨.unexpectedEnd, finish⟩
  | fuel + 1 => do
    let (left, ts) ← andExpr finish fuel ts
    orTail finish fuel left ts

def orTail (finish fuel : Nat) (left : Expr) (ts : Tokens) : Except SyntaxError (Expr × Tokens) :=
  match fuel with
  | 0 => .error ⟨.unexpectedEnd, finish⟩
  | fuel + 1 =>
    match afterConnective? "or" .orOr ts with
    | none => .ok (left, ts)
    | some ts => do
      let (right, ts) ← andExpr finish fuel ts
      orTail finish fuel (.binary .or left right) ts

def andExpr (finish fuel : Nat) (ts : Tokens) : Except SyntaxError (Expr × Tokens) :=
  match fuel with
  | 0 => .error ⟨.unexpectedEnd, finish⟩
  | fuel + 1 => do
    let (left, ts) ← notExpr finish fuel ts
    andTail finish fuel left ts

def andTail (finish fuel : Nat) (left : Expr) (ts : Tokens) : Except SyntaxError (Expr × Tokens) :=
  match fuel with
  | 0 => .error ⟨.unexpectedEnd, finish⟩
  | fuel + 1 =>
    match afterConnective? "and" .andAnd ts with
    | none => .ok (left, ts)
    | some ts => do
      let (right, ts) ← notExpr finish fuel ts
      andTail finish fuel (.binary .and left right) ts

def notExpr (finish fuel : Nat) (ts : Tokens) : Except SyntaxError (Expr × Tokens) :=
  match fuel with
  | 0 => .error ⟨.unexpectedEnd, finish⟩
  | fuel + 1 =>
    match afterConnective? "not" .bang ts with
    | some ts => do
      let (operand, ts) ← notExpr finish fuel ts
      return (.unary .not operand, ts)
    | none => compareExpr finish fuel ts

def compareExpr (finish fuel : Nat) (ts : Tokens) : Except SyntaxError (Expr × Tokens) :=
  match fuel with
  | 0 => .error ⟨.unexpectedEnd, finish⟩
  | fuel + 1 => do
    let (left, ts) ← addExpr finish fuel ts
    match comparison? ts with
    | none => return (left, ts)
    | some (op, ts) =>
      let (right, ts) ← addExpr finish fuel ts
      return (.binary op left right, ts)

def addExpr (finish fuel : Nat) (ts : Tokens) : Except SyntaxError (Expr × Tokens) :=
  match fuel with
  | 0 => .error ⟨.unexpectedEnd, finish⟩
  | fuel + 1 => do
    let (left, ts) ← negExpr finish fuel ts
    addTail finish fuel left ts

def addTail (finish fuel : Nat) (left : Expr) (ts : Tokens) : Except SyntaxError (Expr × Tokens) :=
  match fuel with
  | 0 => .error ⟨.unexpectedEnd, finish⟩
  | fuel + 1 =>
    match sign? ts with
    | none => .ok (left, ts)
    | some (op, ts) => do
      let (right, ts) ← negExpr finish fuel ts
      addTail finish fuel (.binary op left right) ts

def negExpr (finish fuel : Nat) (ts : Tokens) : Except SyntaxError (Expr × Tokens) :=
  match fuel with
  | 0 => .error ⟨.unexpectedEnd, finish⟩
  | fuel + 1 =>
    match ts with
    | ⟨.symbol .minus, _⟩ :: ts => do
      let (operand, ts) ← negExpr finish fuel ts
      return (.unary .neg operand, ts)
    | ts => primary finish fuel ts

/-- Literals, fields, calls and bracketed expressions. -/
def primary (finish fuel : Nat) (ts : Tokens) : Except SyntaxError (Expr × Tokens) :=
  match fuel with
  | 0 => .error ⟨.unexpectedEnd, finish⟩
  | fuel + 1 =>
    match ts with
    | [] => .error ⟨.unexpectedEnd, finish⟩
    | ⟨.number x, _⟩ :: ts => .ok (.number x, ts)
    | ⟨.text s, _⟩ :: ts => .ok (.text s, ts)
    | ⟨.openParen, _⟩ :: ts => do
      let (inner, ts) ← orExpr finish fuel ts
      match ts with
      | ⟨.closeParen, _⟩ :: ts => return (inner, ts)
      | _ => throw ⟨.expectedClose, position finish (ts.drop 1)⟩
    | ⟨.name s, here⟩ :: ts =>
      if Text.lowerAscii s = "true" then .ok (.bool true, ts)
      else if Text.lowerAscii s = "false" then .ok (.bool false, ts)
      else
        match ts with
        | ⟨.openParen, _⟩ :: ts =>
          match Builtin.ofName? (Text.lowerAscii s) with
          | none => .error ⟨.unknownFunction s, here⟩
          | some function => do
            let (args, ts) ← arguments finish fuel ts
            if args.length = function.arity then return (.call function args, ts)
            else throw ⟨.wrongArity function args.length, here⟩
        | ts => .ok (.field s, ts)
    | t :: _ => .error ⟨.unexpectedToken t.token, t.position⟩

/-- The arguments of a call after its opening bracket. -/
def arguments (finish fuel : Nat) (ts : Tokens) : Except SyntaxError (List Expr × Tokens) :=
  match fuel with
  | 0 => .error ⟨.unexpectedEnd, finish⟩
  | fuel + 1 =>
    match ts with
    | ⟨.closeParen, _⟩ :: ts => .ok ([], ts)
    | ts => argumentList finish fuel ts

/-- One or more arguments and the closing bracket. -/
def argumentList (finish fuel : Nat) (ts : Tokens) : Except SyntaxError (List Expr × Tokens) :=
  match fuel with
  | 0 => .error ⟨.unexpectedEnd, finish⟩
  | fuel + 1 => do
    let (arg, ts) ← orExpr finish fuel ts
    match ts with
    | ⟨.comma, _⟩ :: ts =>
      let (args, ts) ← argumentList finish fuel ts
      return (arg :: args, ts)
    | ⟨.closeParen, _⟩ :: ts => return ([arg], ts)
    | _ => throw ⟨.expectedSeparator, position finish (ts.drop 1)⟩

end

end Parse

namespace Expr

/-- The expression that tokens form; all of them have to be used. -/
def ofTokens (finish : Nat) (ts : List Located) : Except SyntaxError Expr := do
  let (e, rest) ← Parse.orExpr finish (10 * ts.length + 10) ts
  match rest with
  | [] => return e
  | t :: _ => throw ⟨.unexpectedToken t.token, t.position⟩

def parse (source : String) : Except SyntaxError Expr := do
  let ts ← Token.scan source
  ofTokens source.utf8ByteSize ts

end Expr
end Specimen
