import Specimen.Pattern.Category
import Specimen.Pattern.Syntax
import Specimen.Text.Hexadecimal

/-!
# Parsing patterns

The dialect of patterns: alternatives, repetitions with and without bounds, groups, classes with set
operations, escapes, character properties, places and inline flags.  There is no look-around and no
reference back to a group.  A text that is not a pattern is refused without a reason.
-/

namespace Specimen
namespace Pattern

/-- The flags that can be set inside a pattern. -/
structure Flags where
  ignoreCase : Bool := false
  multiLine : Bool := false
  dotAll : Bool := false
  swapGreed : Bool := false
  unicode : Bool := true
  ignoreSpace : Bool := false
  crlf : Bool := false
  deriving DecidableEq, Repr

/-- What is left of a pattern, with the flags in force and the groups seen so far. -/
structure Cursor where
  rest : List Char
  flags : Flags
  captures : Nat
  names : List String

/-- A step of the parser: refuses, or gives a value and the cursor behind it. -/
abbrev Step := StateT Cursor Option

def refuse {α : Type} : Step α := fun _ => none

def remaining : Step (List Char) := do return (← get).rest

def continueAt (rest : List Char) : Step Unit := modify fun c => { c with rest }

/-- Drops white space and comments when the flags say so; `fuel` bounds the characters dropped. -/
def skipSpaceFrom (fuel : Nat) (cs : List Char) : List Char :=
  match fuel, cs with
  | fuel + 1, c :: rest =>
    if Text.isBlank c then skipSpaceFrom fuel rest
    else if c = '#' then skipSpaceFrom fuel (rest.dropWhile (· ≠ '\n'))
    else c :: rest
  | _, cs => cs

/-- Drops white space and comments when the flags say so. -/
def skipSpace : Step Unit :=
  modify fun c => if c.flags.ignoreSpace then { c with rest := skipSpaceFrom c.rest.length c.rest } else c

/-- Reads the rest of an escape by number. -/
def hexEscape (digits : Nat) : Step Char := do
  match ← remaining with
  | '{' :: rest =>
    let ds := rest.takeWhile (· ≠ '}')
    match rest.dropWhile (· ≠ '}'), Text.hexChar? ds with
    | _ :: rest, some c => continueAt rest; return c
    | _, _ => refuse
  | rest =>
    match Text.hexChar? (rest.take digits) with
    | some c => if rest.length < digits then refuse else continueAt (rest.drop digits); return c
    | none => refuse

def complIf (negated : Bool) (s : CodeSet) : CodeSet := if negated then s.compl else s

/-- A class as the flags read it: in any case when case is ignored, then negated.  Without Unicode a
class has to stay within ASCII. -/
def finishSet (negated : Bool) (s : CodeSet) : Step CodeSet := do
  let flags := (← get).flags
  let s := complIf negated (if flags.ignoreCase then foldCase s else s)
  if flags.unicode then return s
  else if s.ranges.all fun r => r.2 < 128 then return s
  else refuse

def propertyEscape (negated : Bool) : Step CodeSet := do
  if !(← get).flags.unicode then refuse
  match ← remaining with
  | '{' :: rest =>
    let body := rest.takeWhile (· ≠ '}')
    match rest.dropWhile (· ≠ '}') with
    | [] => refuse
    | _ :: rest =>
      let (negated, body) := match body with
        | '^' :: body => (!negated, body)
        | body => (negated, body)
      let isMark (c : Char) : Bool := c == '=' || c == ':'
      let before := body.takeWhile fun c => !isMark c
      let (negated, kind, name) := match body.dropWhile fun c => !isMark c with
        | [] => (negated, "", body)
        | _ :: value =>
          match before.reverse with
          | '!' :: kind => (!negated, String.ofList kind.reverse, value)
          | _ => (negated, String.ofList before, value)
      if kind ≠ "" ∧ ¬ normalName kind ∈
          ["gc", "generalcategory", "sc", "script", "scx", "scriptextensions"] then refuse
      match namedSet? (normalName (String.ofList name)) with
      | some s => continueAt rest; finishSet negated s
      | none => refuse
  | c :: rest =>
    match namedSet? (normalName (String.singleton c)) with
    | some s => continueAt rest; finishSet negated s
    | none => refuse
  | [] => refuse

/-- The class of an escape by one letter, in lower case. -/
def letterSet? (unicode : Bool) (c : Char) : Option CodeSet :=
  match c with
  | 'd' => some (if unicode then decimalNumberSet else ⟨[(48, 57)]⟩)
  | 's' => some (if unicode then Text.whiteSpaceSet else ⟨[(9, 13), (32, 32)]⟩)
  | 'w' => some (if unicode then wordSet else asciiWordSet)
  | _ => none

/-- What an escape stands for. -/
inductive Escape where
  | char (c : Char)
  | set (s : CodeSet)
  | place (p : Place)

/-- Characters that keep their meaning only behind a backslash. -/
def isMeta (c : Char) : Bool := "\\.+*?()|[]\x7b\x7d^$#&-~".toList.contains c

/-- Whether a character may be escaped without need. -/
def isEscapable (c : Char) : Bool :=
  isMeta c || (c.toNat < 128 && !c.isAlphanum && c != '<' && c != '>')

/-- The place behind `\b`, which may be spelled out in braces. -/
def boundaryEscape : Step Place := do
  let unicode := (← get).flags.unicode
  let rest ← remaining
  let named (word : String) (p : Place) : Option (List Char × Place) :=
    if word.toList.isPrefixOf rest then some (rest.drop word.length, p) else none
  match rest with
  | '{' :: c :: _ =>
    match (named "\x7bstart\x7d" (.wordStart unicode)).or <|
        (named "\x7bend\x7d" (.wordEnd unicode)).or <|
        (named "\x7bstart-half\x7d" (.wordStartHalf unicode)).or <|
        named "\x7bend-half\x7d" (.wordEndHalf unicode) with
    | some (rest, p) => continueAt rest; return p
    | none => if c.isAlpha || c = '-' then refuse else return .wordBoundary unicode
  | _ => return .wordBoundary unicode

def escape : Step Escape := do
  match ← remaining with
  | [] => refuse
  | c :: rest =>
    continueAt rest
    let unicode := (← get).flags.unicode
    match letterSet? unicode c.toLower with
    | some s => return .set (← finishSet (c.isUpper) s)
    | none =>
      match c with
      | 'x' => return .char (← hexEscape 2)
      | 'u' => return .char (← hexEscape 4)
      | 'U' => return .char (← hexEscape 8)
      | 'p' => return .set (← propertyEscape false)
      | 'P' => return .set (← propertyEscape true)
      | 'a' => return .char (Char.ofNat 7)
      | 'f' => return .char (Char.ofNat 12)
      | 't' => return .char '\t'
      | 'n' => return .char '\n'
      | 'r' => return .char '\r'
      | 'v' => return .char (Char.ofNat 11)
      | 'A' => return .place .textStart
      | 'z' => return .place .textEnd
      | 'b' => return .place (← boundaryEscape)
      | 'B' => return .place (.noWordBoundary unicode)
      | '<' => return .place (.wordStart unicode)
      | '>' => return .place (.wordEnd unicode)
      | c => if isEscapable c then return .char c else refuse

def asciiClass? (name : String) : Option CodeSet :=
  match name with
  | "alnum" => some ⟨[(48, 57), (65, 90), (97, 122)]⟩
  | "alpha" => some ⟨[(65, 90), (97, 122)]⟩
  | "ascii" => some ⟨[(0, 127)]⟩
  | "blank" => some ⟨[(9, 9), (32, 32)]⟩
  | "cntrl" => some ⟨[(0, 31), (127, 127)]⟩
  | "digit" => some ⟨[(48, 57)]⟩
  | "graph" => some ⟨[(33, 126)]⟩
  | "lower" => some ⟨[(97, 122)]⟩
  | "print" => some ⟨[(32, 126)]⟩
  | "punct" => some ⟨[(33, 47), (58, 64), (91, 96), (123, 126)]⟩
  | "space" => some ⟨[(9, 13), (32, 32)]⟩
  | "upper" => some ⟨[(65, 90)]⟩
  | "word" => some asciiWordSet
  | "xdigit" => some ⟨[(48, 57), (65, 70), (97, 102)]⟩
  | _ => none

/-- A named class in the middle of a class, and what follows it. -/
def asciiClassIn? (cs : List Char) : Option (CodeSet × Bool × List Char) :=
  match cs with
  | '[' :: ':' :: rest =>
    let (negated, rest) := match rest with
      | '^' :: rest => (true, rest)
      | rest => (false, rest)
    let name := rest.takeWhile (· ≠ ':')
    match rest.dropWhile (· ≠ ':') with
    | ':' :: ']' :: after => (asciiClass? (String.ofList name)).map fun s => (s, negated, after)
    | _ => none
  | _ => none

/-- Operations between the parts of a class. -/
inductive SetOp where
  | inter
  | diff
  | symmDiff

def SetOp.apply : SetOp → CodeSet → CodeSet → CodeSet
  | .inter => CodeSet.inter
  | .diff => CodeSet.diff
  | .symmDiff => CodeSet.symmDiff

def setOp? : List Char → Option (SetOp × List Char)
  | '&' :: '&' :: rest => some (.inter, rest)
  | '-' :: '-' :: rest => some (.diff, rest)
  | '~' :: '~' :: rest => some (.symmDiff, rest)
  | _ => none

/-- Reads one member of a class: a character or the set of an escape. -/
def classMember : Step Escape := do
  match ← remaining with
  | [] => refuse
  | '\\' :: rest =>
    continueAt rest
    match ← escape with
    | .place _ => refuse
    | e => return e
  | c :: rest => continueAt rest; return .char c

def leadingHyphens (fuel : Nat) (found : CodeSet) : Step CodeSet :=
  match fuel with
  | 0 => return found
  | fuel + 1 => do
    match ← remaining with
    | '-' :: rest =>
      continueAt rest
      skipSpace
      leadingHyphens fuel (CodeSet.singleton '-'.toNat)
    | _ => return found

/-- A set in any case, when case is ignored. -/
def foldIf (s : CodeSet) : Step CodeSet := do
  return if (← get).flags.ignoreCase then foldCase s else s

/-- Applies the operation that waits for its right side. -/
def applyPending (pending : Option (SetOp × CodeSet)) (s : CodeSet) : Step CodeSet := do
  match pending with
  | none => return s
  | some (op, left) => return op.apply (← foldIf left) (← foldIf s)

mutual

def classBody (fuel : Nat) : Step CodeSet :=
  match fuel with
  | 0 => refuse
  | fuel + 1 => do
    skipSpace
    let negated ← match ← remaining with
      | '^' :: rest => do continueAt rest; skipSpace; pure true
      | _ => pure false
    let start ← leadingHyphens fuel CodeSet.empty
    let start ← match ← remaining with
      | ']' :: rest =>
        if start.ranges.isEmpty then do
          continueAt rest
          pure (CodeSet.singleton ']'.toNat)
        else pure start
      | _ => pure start
    let s ← classItems fuel none start
    finishSet negated s

/-- Reads the members of a class up to its closing bracket; `pending` is an operation that waits for its
right side, and `found` the members read since. -/
def classItems (fuel : Nat) (pending : Option (SetOp × CodeSet)) (found : CodeSet) : Step CodeSet :=
  match fuel with
  | 0 => refuse
  | fuel + 1 => do
    skipSpace
    match ← remaining with
    | [] => refuse
    | ']' :: rest =>
      continueAt rest
      applyPending pending found
    | '[' :: rest =>
      match asciiClassIn? ('[' :: rest) with
      | some (s, negated, rest) =>
        continueAt rest
        classItems fuel pending (found.union (← finishSet negated s))
      | none =>
        continueAt rest
        classItems fuel pending (found.union (← classBody fuel))
    | cs =>
      match setOp? cs with
      | some (op, rest) =>
        continueAt rest
        classItems fuel (some (op, ← applyPending pending found)) CodeSet.empty
      | none =>
        let first ← classMember
        skipSpace
        match ← remaining with
        | [] => refuse
        | '-' :: after =>
          let flags := (← get).flags
          let following := if flags.ignoreSpace then skipSpaceFrom after.length after else after
          match following with
          | ']' :: _ => addMember fuel pending found first
          | '-' :: _ => addMember fuel pending found first
          | following =>
            continueAt following
            let last ← classMember
            match first, last with
            | .char a, .char b =>
              if a.toNat ≤ b.toNat then
                classItems fuel pending (found.union ⟨[(a.toNat, b.toNat)]⟩)
              else refuse
            | _, _ => refuse
        | _ => addMember fuel pending found first

/-- Adds a member to a class and goes on. -/
def addMember (fuel : Nat) (pending : Option (SetOp × CodeSet)) (found : CodeSet) (member : Escape) :
    Step CodeSet :=
  match fuel with
  | 0 => refuse
  | fuel + 1 =>
    match member with
    | .char c => classItems fuel pending (found.union (CodeSet.singleton c.toNat))
    | .set s => classItems fuel pending (found.union s)
    | .place _ => refuse

end

/-- Reads a number inside the braces of a repetition, with blanks around it. -/
def boundNumber (cs : List Char) : Option (Option Nat × List Char) :=
  let cs := cs.dropWhile Text.isBlank
  let ds := cs.takeWhile Char.isDigit
  let rest := (cs.dropWhile Char.isDigit).dropWhile Text.isBlank
  if ds.isEmpty then some (none, rest)
  else
    let n := ds.foldl (fun n c => n * 10 + (c.toNat - '0'.toNat)) 0
    if n < Nat.pow 2 32 then some (some n, rest) else none

/-- Reads the bounds of a repetition after the opening brace. -/
def bounds : Step (Nat × Option Nat) := do
  skipSpace
  match boundNumber (← remaining) with
  | none => refuse
  | some (low, ',' :: rest) =>
    continueAt rest
    skipSpace
    match ← remaining, low with
    | '}' :: rest, some low => continueAt rest; return (low, none)
    | rest, some low =>
      match boundNumber rest with
      | some (some high, '}' :: rest) =>
        continueAt rest
        if low ≤ high then return (low, some high) else refuse
      | _ => refuse
    | _, none => refuse
  | some (some n, '}' :: rest) => continueAt rest; return (n, some n)
  | some _ => refuse

/-- Reads the mark that makes a repetition reluctant. -/
def greediness : Step Bool := do
  skipSpace
  let swap := (← get).flags.swapGreed
  match ← remaining with
  | '?' :: rest => continueAt rest; return swap
  | _ => return !swap

def Flags.set? (flags : Flags) (c : Char) (on : Bool) : Option Flags :=
  match c with
  | 'i' => some { flags with ignoreCase := on }
  | 'm' => some { flags with multiLine := on }
  | 's' => some { flags with dotAll := on }
  | 'U' => some { flags with swapGreed := on }
  | 'u' => some { flags with unicode := on }
  | 'x' => some { flags with ignoreSpace := on }
  | 'R' => some { flags with crlf := on }
  | _ => none

/-- Reads flags up to a colon or a closing bracket; gives the flags, whether there were any, the mark
that ended them and what follows. -/
def flagItems (flags : Flags) (seen : List Char) (on : Bool) :
    List Char → Option (Flags × Bool × Char × List Char)
  | [] => none
  | c :: rest =>
    if c = ':' ∨ c = ')' then
      if seen.head? = some '-' then none else some (flags, !seen.isEmpty, c, rest)
    else if c ∈ seen then none
    else if c = '-' then flagItems flags ('-' :: seen) false rest
    else
      match flags.set? c on with
      | some flags => flagItems flags (c :: seen) on rest
      | none => none

/-- Whether a text can be the name of a group. -/
def isGroupName : List Char → Bool
  | [] => false
  | c :: rest =>
    (c = '_' || Text.isAlphabetic c) &&
      rest.all fun c => c = '_' || c = '.' || c = '[' || c = ']' || Text.isAlphanumeric c

def dotSet (flags : Flags) : CodeSet :=
  if flags.dotAll then CodeSet.all
  else if flags.crlf then (⟨[(10, 10), (13, 13)]⟩ : CodeSet).compl
  else (CodeSet.singleton 10).compl

def charPattern (c : Char) : Step Pattern := do
  if (← get).flags.ignoreCase then return ofSet (foldCase (CodeSet.singleton c.toNat))
  else return .literal [c]

/-- What a group begins with: a capture, flags for the rest, or flags for the group. -/
inductive GroupHead where
  | capture
  | flags (flags : Flags)
  | grouped (flags : Flags)

/-- Reads the beginning of a group after its opening bracket. -/
def groupHead : Step GroupHead := do
  skipSpace
  let named (rest : List Char) : Step GroupHead := do
    let name := rest.takeWhile (· ≠ '>')
    let cursor ← get
    match rest.dropWhile (· ≠ '>') with
    | [] => refuse
    | _ :: rest =>
      let text := String.ofList name
      if isGroupName name && !cursor.names.contains text then
        set { cursor with rest, names := text :: cursor.names }
        return .capture
      else refuse
  match ← remaining with
  | '?' :: '=' :: _ => refuse
  | '?' :: '!' :: _ => refuse
  | '?' :: '<' :: '=' :: _ => refuse
  | '?' :: '<' :: '!' :: _ => refuse
  | '?' :: 'P' :: '<' :: rest => named rest
  | '?' :: '<' :: rest => named rest
  | '?' :: rest =>
    match flagItems (← get).flags [] true rest with
    | some (flags, any, ')', rest) => if any then continueAt rest; return .flags flags else refuse
    | some (flags, _, _, rest) => continueAt rest; return .grouped flags
    | none => refuse
  | _ => return .capture

mutual

/-- Reads alternatives up to a closing bracket or the end.  `branches` and `items` hold what was read,
last first; `open` says whether the last item can be repeated. -/
def alternatives (fuel : Nat) (branches items : List Pattern) (repeatable : Bool) : Step Pattern :=
  match fuel with
  | 0 => refuse
  | fuel + 1 => do
    skipSpace
    let finish : Step Pattern := do
      let last := ofSequence items.reverse
      return if branches.isEmpty then last else ofChoice 64 (last :: branches).reverse
    match ← remaining with
    | [] => finish
    | ')' :: _ => finish
    | '|' :: rest =>
      continueAt rest
      alternatives fuel (ofSequence items.reverse :: branches) [] false
    | '?' :: rest => do continueAt rest; repetition fuel branches items repeatable 0 (some 1)
    | '*' :: rest => do continueAt rest; repetition fuel branches items repeatable 0 none
    | '+' :: rest => do continueAt rest; repetition fuel branches items repeatable 1 none
    | '{' :: rest => do
      continueAt rest
      let (low, high) ← bounds
      repetition fuel branches items repeatable low high
    | '(' :: rest =>
      continueAt rest
      match ← groupHead with
      | .flags flags =>
        modify fun c => { c with flags }
        alternatives fuel branches (.empty :: items) false
      | .grouped flags =>
        let outer := (← get).flags
        modify fun c => { c with flags }
        let inner ← group fuel outer
        alternatives fuel branches (inner :: items) true
      | .capture =>
        let cursor ← get
        set { cursor with captures := cursor.captures + 1 }
        let inner ← group fuel cursor.flags
        alternatives fuel branches (.capture (cursor.captures + 1) inner :: items) true
    | '[' :: rest =>
      continueAt rest
      let s ← classBody fuel
      alternatives fuel branches (ofSet s :: items) true
    | '.' :: rest =>
      continueAt rest
      let flags := (← get).flags
      if flags.unicode then alternatives fuel branches (ofSet (dotSet flags) :: items) true else refuse
    | '^' :: rest =>
      continueAt rest
      let flags := (← get).flags
      let p := if flags.multiLine then Place.lineStart flags.crlf else .textStart
      alternatives fuel branches (.place p :: items) true
    | '$' :: rest =>
      continueAt rest
      let flags := (← get).flags
      let p := if flags.multiLine then Place.lineEnd flags.crlf else .textEnd
      alternatives fuel branches (.place p :: items) true
    | '\\' :: rest =>
      continueAt rest
      match ← escape with
      | .char c => alternatives fuel branches ((← charPattern c) :: items) true
      | .set s => alternatives fuel branches (ofSet s :: items) true
      | .place p => alternatives fuel branches (.place p :: items) true
    | c :: rest =>
      continueAt rest
      alternatives fuel branches ((← charPattern c) :: items) true

def repetition (fuel : Nat) (branches items : List Pattern) (repeatable : Bool) (low : Nat)
    (high : Option Nat) : Step Pattern :=
  match fuel with
  | 0 => refuse
  | fuel + 1 => do
    let greedy ← greediness
    match items with
    | p :: rest =>
      if repeatable then alternatives fuel branches (ofRepeat low high greedy p :: rest) true else refuse
    | [] => refuse

/-- Reads a group up to its closing bracket and puts the flags back. -/
def group (fuel : Nat) (outer : Flags) : Step Pattern :=
  match fuel with
  | 0 => refuse
  | fuel + 1 => do
    let p ← alternatives fuel [] [] false
    match ← remaining with
    | ')' :: rest =>
      modify fun c => { c with rest, flags := outer }
      return p
    | _ => refuse

end

def parse? (text : String) : Option Pattern :=
  let cs := text.toList
  match alternatives (4 * cs.length + 8) [] [] false ⟨cs, {}, 0, []⟩ with
  | some (p, cursor) => if cursor.rest.isEmpty then some p else none
  | none => none

end Pattern
end Specimen
