import Specimen.Decimal.Reader
import Specimen.Dict

/-!
# Commands

What the program can be asked to do, and how it is asked.

Arguments are read from left to right, and the first thing that is wrong or that asks for help or the
version ends the reading.  An option is given once, with its value behind it or behind an equals sign;
a value behind it must not look like an option itself.
-/

namespace Specimen

/-- What a generation is asked for. -/
structure GenerateRequest where
  schema : String
  config : Option String := none
  root : Option String := none
  seed : Option UInt64 := none
  mode : Option String := none
  /-- Where else the document is written. -/
  out : Option String := none
  /-- The directory in which runs have theirs. -/
  runs : String := "runs"
  allowPartial : Bool := false
  timeoutMs : Option UInt64 := none
  deriving DecidableEq, Repr

/-- The documents whose contract can be shown. -/
inductive ContractTarget where
  | schema
  | config
  deriving DecidableEq, Repr

/-- A command. -/
inductive Command where
  | generate (request : GenerateRequest)
  | validateConfig (config : String) (schema : Option String)
  | inspectSchema (schema : String)
  | emitContract (target : ContractTarget)
  deriving DecidableEq, Repr

/-- Why there is no command to run. -/
inductive NoCommand where
  /-- The arguments do not make up a command. -/
  | misuse
  | help
  | version
  deriving DecidableEq, Repr

namespace Command

/-- What the value of an option can be. -/
inductive Operand where
  | path
  | text
  | number
  deriving DecidableEq, Repr

def readNumber? (s : String) : Option UInt64 :=
  (Decimal.readIntWithin? 0 (Nat.pow 2 64 - 1) s).map fun n => UInt64.ofNat n.toNat

/-- Whether a text can be the value of an option. -/
def Operand.admits : Operand → String → Bool
  | .path, s => !s.isEmpty
  | .text, _ => true
  | .number, s => (readNumber? s).isSome

/-- The arguments that a command takes. -/
structure Signature where
  options : List (String × Operand) := []
  flags : List String := []
  /-- What can stand without a name, once. -/
  choices : List String := []

/-- The arguments that were given. -/
structure Given where
  values : Dict String := {}
  flags : List String := []
  choice : Option String := none

namespace Given

/-- Adds the value of an option, if it can have it and has none. -/
def addValue (g : Given) (name : String) (operand : Operand) (value : String) :
    Except NoCommand Given :=
  if operand.admits value && !g.values.contains name then
    .ok { g with values := g.values.insert name value }
  else .error .misuse

/-- Adds a flag, unless it was given. -/
def addFlag (g : Given) (name : String) : Except NoCommand Given :=
  if g.flags.contains name then .error .misuse else .ok { g with flags := name :: g.flags }

/-- Adds an argument without a name, if it is one of the choices and the only one. -/
def addChoice (g : Given) (s : Signature) (value : String) : Except NoCommand Given :=
  if s.choices.contains value && g.choice.isNone then .ok { g with choice := some value }
  else .error .misuse

/-- The value of an option that has to be given. -/
def require (g : Given) (name : String) : Except NoCommand String :=
  match g.values.get? name with
  | some v => .ok v
  | none => .error .misuse

def number? (g : Given) (name : String) : Option UInt64 := (g.values.get? name).bind readNumber?

end Given

/-- An argument as it is understood by itself. -/
inductive Token where
  /-- Two hyphens: nothing behind them is an option. -/
  | stop
  /-- An option by its name, with its value if it stands in the same argument. -/
  | long (name : String) (value : Option String)
  /-- Letters behind one hyphen. -/
  | short (letters : List Char)
  | plain (text : String)
  deriving DecidableEq, Repr

def Token.ofArgument (argument : String) : Token :=
  match argument.toList with
  | ['-', '-'] => .stop
  | '-' :: '-' :: rest =>
    let name := rest.takeWhile (· ≠ '=')
    .long (String.ofList name)
      (if name.length = rest.length then none
        else some (String.ofList (rest.drop (name.length + 1))))
  | ['-'] => .plain argument
  | '-' :: letters => .short letters
  | _ => .plain argument

def readChoices (s : Signature) (g : Given) : List String → Except NoCommand Given
  | [] => .ok g
  | a :: rest => do readChoices s (← g.addChoice s a) rest

def readArguments (s : Signature) (g : Given) : List String → Except NoCommand Given
  | [] => .ok g
  | a :: rest =>
    match Token.ofArgument a with
    | .stop => readChoices s g rest
    | .plain text => do readArguments s (← g.addChoice s text) rest
    | .short letters => .error (if letters.head? = some 'h' then .help else .misuse)
    | .long name value =>
      match s.options.find? fun o => o.1 == name, value with
      | some (_, operand), some v => do readArguments s (← g.addValue name operand v) rest
      | some (_, operand), none =>
        match rest with
        | [] => .error .misuse
        | v :: rest =>
          match Token.ofArgument v with
          | .plain v => do readArguments s (← g.addValue name operand v) rest
          | _ => .error .misuse
      | none, some _ => .error .misuse
      | none, none =>
        if name = "help" then .error .help
        else if s.flags.contains name then do readArguments s (← g.addFlag name) rest
        else .error .misuse

def generateSignature : Signature where
  options := [("schema", .path), ("config", .path), ("root", .text), ("seed", .number),
    ("mode", .text), ("out", .path), ("run-dir", .path), ("timeout-ms", .number)]
  flags := ["allow-partial"]

def readGenerate (arguments : List String) : Except NoCommand Command := do
  let g ← readArguments generateSignature {} arguments
  return .generate {
    schema := ← g.require "schema"
    config := g.values.get? "config"
    root := g.values.get? "root"
    seed := g.number? "seed"
    mode := g.values.get? "mode"
    out := g.values.get? "out"
    runs := (g.values.get? "run-dir").getD "runs"
    allowPartial := g.flags.contains "allow-partial"
    timeoutMs := g.number? "timeout-ms" }

def readValidateConfig (arguments : List String) : Except NoCommand Command := do
  let g ← readArguments { options := [("config", .path), ("schema", .path)] } {} arguments
  return .validateConfig (← g.require "config") (g.values.get? "schema")

def readInspectSchema (arguments : List String) : Except NoCommand Command := do
  let g ← readArguments { options := [("schema", .path)] } {} arguments
  return .inspectSchema (← g.require "schema")

def readEmitContract (arguments : List String) : Except NoCommand Command := do
  let g ← readArguments { choices := ["schema", "config"] } {} arguments
  match g.choice with
  | some "schema" => return .emitContract .schema
  | some "config" => return .emitContract .config
  | _ => throw .misuse

/-- The names of the commands, each with the reader of its arguments. -/
def readers : List (String × (List String → Except NoCommand Command)) := [
  ("generate", readGenerate), ("validate-config", readValidateConfig),
  ("inspect-schema", readInspectSchema), ("emit-json-schema", readEmitContract)]

/-- What a request for help comes to: help about a command that exists, or about all. -/
def helpAbout : List String → NoCommand
  | [] => .help
  | [name] => if name = "help" ∨ readers.any (·.1 == name) then .help else .misuse
  | _ => .misuse

def read : List String → Except NoCommand Command
  | [] => .error .misuse
  | a :: rest =>
    match Token.ofArgument a with
    | .long "help" none => .error .help
    | .long "version" none => .error .version
    | .short ('h' :: _) => .error .help
    | .short ('V' :: _) => .error .version
    | .plain "help" => .error (helpAbout rest)
    | .plain name =>
      match readers.find? fun r => r.1 == name with
      | some (_, reader) => reader rest
      | none => .error .misuse
    | _ => .error .misuse

end Command
end Specimen
