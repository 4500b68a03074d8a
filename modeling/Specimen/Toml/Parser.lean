import Specimen.Toml.Scalar
import Specimen.Toml.Table

/-!
# Reading TOML

A reader for TOML texts that gives the document or refuses the text.  Keys have at most 79 parts, and
values are nested at most 79 deep.
-/

namespace Specimen
namespace Toml

def skipBlanks (cs : List Char) : List Char := cs.dropWhile fun c => c = ' ' || c = '\t'

def afterNewline? : List Char → Option (List Char)
  | '\n' :: rest => some rest
  | '\r' :: '\n' :: rest => some rest
  | _ => none

/-- Whether a character may stand in a comment or, with exceptions, in a text. -/
def isPlain (c : Char) : Bool := c = '\t' || (32 ≤ c.toNat && c.toNat ≠ 127)

/-- Drops a comment, if there is one. -/
def skipComment : List Char → List Char
  | '#' :: rest => rest.dropWhile isPlain
  | rest => rest

/-- What follows a line after its last token: blanks and a comment may stand there. -/
def afterLine? (cs : List Char) : Option (List Char) :=
  match skipComment (skipBlanks cs) with
  | [] => some []
  | rest => afterNewline? rest

/-- Drops blanks, ends of lines and comments. -/
def skipLines (fuel : Nat) (cs : List Char) : List Char :=
  match fuel with
  | 0 => cs
  | fuel + 1 =>
    match skipBlanks cs with
    | '#' :: rest =>
      match afterNewline? (rest.dropWhile isPlain) with
      | some rest => skipLines fuel rest
      | none => '#' :: rest
    | rest =>
      match afterNewline? rest with
      | some rest => skipLines fuel rest
      | none => rest

/-- A character given by a number of digits, and what follows them. -/
def numbered? (digits : Nat) (cs : List Char) : Option (Char × List Char) :=
  if cs.length < digits then none
  else (Text.hexChar? (cs.take digits)).map fun c => (c, cs.drop digits)

/-- The character of an escape and what follows it, from the letter of the escape on. -/
def escape? : List Char → Option (Char × List Char)
  | 'b' :: rest => some (Char.ofNat 8, rest)
  | 't' :: rest => some ('\t', rest)
  | 'n' :: rest => some ('\n', rest)
  | 'f' :: rest => some (Char.ofNat 12, rest)
  | 'r' :: rest => some ('\r', rest)
  | '"' :: rest => some ('"', rest)
  | '\\' :: rest => some ('\\', rest)
  | 'u' :: rest => numbered? 4 rest
  | 'U' :: rest => numbered? 8 rest
  | _ => none

/-- Puts a character before the text that is read. -/
def consRead (c : Char) (read : List Char × List Char) : List Char × List Char := (c :: read.1, read.2)

/-- Reads a text with escapes on one line, after its opening quote. -/
def basic? (fuel : Nat) (cs : List Char) : Option (List Char × List Char) :=
  match fuel with
  | 0 => none
  | fuel + 1 =>
    match cs with
    | [] => none
    | '"' :: rest => some ([], rest)
    | '\\' :: rest => do
      let (c, rest) ← escape? rest
      return consRead c (← basic? fuel rest)
    | c :: rest => if isPlain c then (basic? fuel rest).map (consRead c) else none

/-- Reads a text without escapes on one line, after its opening quote. -/
def literal? : List Char → Option (List Char × List Char)
  | [] => none
  | '\'' :: rest => some ([], rest)
  | c :: rest => if isPlain c then (literal? rest).map (consRead c) else none

/-- Drops everything up to the next character that is neither blank nor the end of a line. -/
def skipSpace (fuel : Nat) (cs : List Char) : List Char :=
  match fuel with
  | 0 => cs
  | fuel + 1 =>
    match afterNewline? (skipBlanks cs) with
    | some rest => skipSpace fuel rest
    | none => skipBlanks cs

/-- The end of a text over several lines: three quotes, before which up to two belong to the text. -/
def closing? (quote : Char) (cs : List Char) : Option (List Char × List Char) :=
  let count := (cs.takeWhile (· = quote)).length
  if count < 3 then none
  else
    let inside := min (count - 3) 2
    some (List.replicate inside quote, cs.drop (inside + 3))

/-- Reads a text over several lines with escapes, after its opening quotes. -/
def longBasic? (fuel : Nat) (cs : List Char) : Option (List Char × List Char) :=
  match fuel with
  | 0 => none
  | fuel + 1 =>
    match closing? '"' cs with
    | some found => some found
    | none =>
      match afterNewline? cs with
      | some rest => (longBasic? fuel rest).map (consRead '\n')
      | none =>
        match cs with
        | [] => none
        | '\\' :: rest =>
          match afterNewline? (skipBlanks rest) with
          | some more => longBasic? fuel (skipSpace (more.length + 1) more)
          | none => do
            let (c, rest) ← escape? rest
            return consRead c (← longBasic? fuel rest)
        | c :: rest => if isPlain c then (longBasic? fuel rest).map (consRead c) else none

/-- Reads a text over several lines without escapes, after its opening quotes. -/
def longLiteral? (fuel : Nat) (cs : List Char) : Option (List Char × List Char) :=
  match fuel with
  | 0 => none
  | fuel + 1 =>
    match closing? '\'' cs with
    | some found => some found
    | none =>
      match afterNewline? cs with
      | some rest => (longLiteral? fuel rest).map (consRead '\n')
      | none =>
        match cs with
        | [] => none
        | c :: rest => if isPlain c then (longLiteral? fuel rest).map (consRead c) else none

/-- Drops the end of a line, if one comes first. -/
def dropNewline (cs : List Char) : List Char := (afterNewline? cs).getD cs

def text? (cs : List Char) : Option (String × List Char) :=
  let read : Option (List Char × List Char) :=
    match cs with
    | '"' :: '"' :: '"' :: rest => longBasic? (rest.length + 1) (dropNewline rest)
    | '"' :: rest => basic? (rest.length + 1) rest
    | '\'' :: '\'' :: '\'' :: rest => longLiteral? (rest.length + 1) (dropNewline rest)
    | '\'' :: rest => literal? rest
    | _ => none
  read.map fun (ds, rest) => (String.ofList ds, rest)

/-- Whether a character can stand in a key without quotes. -/
def isKeyChar (c : Char) : Bool := c.isAlphanum || c == '_' || c == '-'

def keyPart? (cs : List Char) : Option (String × List Char) :=
  match cs with
  | '"' :: rest => (basic? (rest.length + 1) rest).map fun (ds, rest) => (String.ofList ds, rest)
  | '\'' :: rest => (literal? rest).map fun (ds, rest) => (String.ofList ds, rest)
  | cs =>
    let part := cs.takeWhile isKeyChar
    if part.isEmpty then none else some (String.ofList part, cs.dropWhile isKeyChar)

/-- How many parts a key and how many levels a value may not reach. -/
def nestingLimit : Nat := 80

/-- Reads the parts of a key, separated by points, with blanks around each. -/
def keyParts? (fuel : Nat) (cs : List Char) : Option (List String × List Char) :=
  match fuel with
  | 0 => none
  | fuel + 1 => do
    let (part, rest) ← keyPart? (skipBlanks cs)
    match skipBlanks rest with
    | '.' :: rest =>
      let (parts, rest) ← keyParts? fuel rest
      return (part :: parts, rest)
    | rest => return ([part], rest)

/-- Reads a key: the path before its last part, the last part, and what follows. -/
def key? (cs : List Char) : Option (List String × String × List Char) := do
  let (parts, rest) ← keyParts? nestingLimit cs
  if parts.length < nestingLimit then
    return (parts.dropLast, ← parts.getLast?, rest)
  else none

mutual

/-- Reads a value; arrays and tables in it are nested at most `depth` deep. -/
def value? (fuel depth : Nat) (cs : List Char) : Option (Json × List Char) :=
  match fuel with
  | 0 => none
  | fuel + 1 =>
    match cs with
    | '"' :: _ => (text? cs).map fun (s, rest) => (.string s, rest)
    | '\'' :: _ => (text? cs).map fun (s, rest) => (.string s, rest)
    | '[' :: rest =>
      match depth with
      | 0 => none
      | depth + 1 => (items? fuel depth rest).map fun (items, rest) => (.array items, rest)
    | '{' :: rest =>
      match depth with
      | 0 => none
      | depth + 1 =>
        match skipBlanks rest with
        | '}' :: rest => some (.object [], rest)
        | rest => (pairs? fuel depth [] rest).map fun (ms, rest) => (.object (membersJson ms), rest)
    | cs => scalar? cs

/-- Reads the items of an array up to its closing bracket. -/
def items? (fuel depth : Nat) (cs : List Char) : Option (List Json × List Char) :=
  match fuel with
  | 0 => none
  | fuel + 1 =>
    match skipLines (cs.length + 1) cs with
    | ']' :: rest => some ([], rest)
    | rest => do
      let (item, rest) ← value? fuel depth rest
      match skipLines (rest.length + 1) rest with
      | ']' :: rest => return ([item], rest)
      | ',' :: rest =>
        let (items, rest) ← items? fuel depth rest
        return (item :: items, rest)
      | _ => none

/-- Reads the pairs of a table on one line up to its closing brace. -/
def pairs? (fuel depth : Nat) (members : Members) (cs : List Char) : Option (Members × List Char) :=
  match fuel with
  | 0 => none
  | fuel + 1 => do
    let (path, key, rest) ← key? cs
    let (j, rest) ← value? fuel depth (skipBlanks (← after? '=' rest))
    let members ← addValue? path key j .headed members
    match skipBlanks rest with
    | '}' :: rest => return (members, rest)
    | ',' :: rest => pairs? fuel depth members rest
    | _ => none

end

/-- What was read so far: the whole tree and the path of the last header. -/
structure Document where
  root : Members := []
  header : List String := []

def line? (d : Document) (cs : List Char) : Option (Document × List Char) :=
  match skipBlanks cs with
  | '[' :: '[' :: rest => do
    let (path, key, rest) ← key? rest
    let rest ← afterLine? (← after? ']' (← after? ']' rest))
    return ({ root := ← openListed? path key d.root, header := path ++ [key] }, rest)
  | '[' :: rest => do
    let (path, key, rest) ← key? rest
    let rest ← afterLine? (← after? ']' rest)
    return ({ root := ← openTable? path key d.root, header := path ++ [key] }, rest)
  | cs =>
    match afterLine? cs with
    | some rest => some (d, rest)
    | none => do
      let (path, key, rest) ← key? cs
      let rest := skipBlanks (← after? '=' rest)
      let (j, rest) ← value? (2 * rest.length + 2) (nestingLimit - 1) rest
      return ({ d with root := ← addUnder? d.header path key j d.root }, ← afterLine? rest)

def lines? (fuel : Nat) (d : Document) (cs : List Char) : Option Document :=
  match fuel, cs with
  | _, [] => some d
  | 0, _ => none
  | fuel + 1, cs => do
    let (d, rest) ← line? d cs
    lines? fuel d rest

/-- Reads a text; a byte order mark may come first. -/
def parse? (text : String) : Option Json :=
  let cs := match text.toList with
    | '\uFEFF' :: rest => rest
    | cs => cs
  (lines? (cs.length + 1) {} cs).map fun d => .object (membersJson d.root)

end Toml
end Specimen
