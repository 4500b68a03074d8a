import Specimen.Document.Node
import Specimen.Leaf.Resolution
import Specimen.Walk.Choice

/-!
# Building the tree

The walk follows the declarations from a global element down and builds an element for every
occurrence.  Each occurrence is a step; when the steps run out, the walk fails or, if an unfinished
document is wanted, stops and keeps what is there.

A named type that is nested too deeply is not entered again: an optional element is left out, and a
required one becomes an empty element that is marked.  This bounds how often named types are entered on
one path, and with it the recursion of the walk.
-/

namespace Specimen

/-- What is said about a field of a relationship that stands for no leaf. -/
def RunError.unmatchedDetail (field : String) : String :=
  "relationship field '" ++ field ++ "' matches no leaf element"

/-- The wording of an error; a run is not timed, so no time has passed. -/
def RunError.message : RunError → String
  | .schema e => "schema error: " ++ e.message
  | .contexts e => "configuration error: " ++ e.message
  | .unmatchedField field => "configuration error: " ++ unmatchedDetail field
  | .timeout steps => "generation timed out after " ++ toString steps ++ " steps (0 ms)"
  | .broken breakdown => breakdown.message

namespace Walk

def isHalted : Run Bool := do return (← get).halted

/-- Takes a step.  When there are none left and an unfinished document is wanted, the walk is stopped
and the answer is no. -/
def step (setup : Setup) (path : String) : Run Bool :=
  tryCatch (do Run.tick setup.options; return true) fun e => do
    if !setup.options.allowPartial then throw e
    Run.record (.truncate {
      code := "timeout"
      message := "walk stopped: " ++ e.message
      path := some path })
    modify RunState.halt
    return false

/-- The value of an attribute that is present. -/
def attributeValue (setup : Setup) (a : AttributeDecl) (path : String) (scope : Nat) :
    Run String := do
  let facets ← Run.ofSchema (setup.schema.resolveAttribute a)
  Leaf.resolve setup {
    name := "@" ++ a.name, path, facets, fixed := a.fixed, scope := some scope }

/-- Builds the attributes of an element in order; an optional one may be left out. -/
def buildAttributes (setup : Setup) (owner : String) (scope : Nat) :
    List AttributeDecl → Run (List Attribute)
  | [] => return []
  | a :: rest => do
    let path := owner ++ "/@" ++ a.name
    if !a.required && !optionalPresent setup ("@" ++ a.name) path then
      Run.record .countOmitted
      buildAttributes setup owner scope rest
    else
      let value ← attributeValue setup a path scope
      Run.record .countAttribute
      return { name := a.name, uri := a.uri, value } :: (← buildAttributes setup owner scope rest)

def leafText (setup : Setup) (e : Element) (path : String) (facets : Facets) (scope : Nat) :
    Run String :=
  Leaf.resolve setup { name := e.name, path, facets, fixed := e.decl.fixed, scope := some scope }

/-- Takes a step inside a named type, which is left again even when the step fails. -/
def within {α : Type} (type : Option String) (inside : Run α) : Run α := do
  match type with
  | none => inside
  | some identity =>
    modify fun s => s.pushType identity
    Run.andFinally inside RunState.popType

/-- Whether an element becomes nil; a warning says so if it should but cannot. -/
def becomesNil (e : Element) (path : String) (rule : Option ElementRule) : Run Bool := do
  if !(rule.any (·.nil)) then return false
  if e.decl.nillable then return true
  Run.warn {
    code := "nil_not_nillable"
    message := "'" ++ e.name ++ "' is not nillable; generating content"
    path := some path }
  return false

/-- What a step inside an element builds: its children, from the scope of its own children on. -/
abbrev Inside := (scope : Nat) → Run (List NodeChild)

/-- Builds what is in an element that is not nil: its text, or its children inside its type. -/
def buildContent (setup : Setup) (e : Element) (type : ResolvedType) (path : String) (head : NodeHead)
    (parentScope : Nat) (inside : Run (List NodeChild)) : Run Node :=
  match type.content with
  | .builtin p => do
    let text ← leafText setup e path (Facets.ofBase p) parentScope
    return .mk { head with text := some text } []
  | .simple f => do
    let text ← leafText setup e path f parentScope
    return .mk { head with text := some text } []
  | .complex _ => do
    let children ← within type.identity inside
    return .mk head children
  | .empty => return .mk head []

/-- Builds one occurrence of an element, unless the walk is stopped.  `parentScope` is the scope of its
siblings, and `inside` builds the members of its content. -/
def buildOccurrence (setup : Setup) (e : Element) (type : ResolvedType) (path : String)
    (rule : Option ElementRule) (uri : Option String) (parentScope : Nat) (inside : Inside) :
    Run (Option Node) := do
  if !(← step setup path) then return none
  let scope ← Run.openScope
  Run.record .countElement
  let attributes ← buildAttributes setup path scope type.attributes
  let head : NodeHead := { name := e.name, uri, attributes }
  if ← becomesNil e path rule then return some (.mk { head with nil := true } [])
  let node ← buildContent setup e type path head parentScope (inside scope)
  return some (if ← isHalted then node.truncate else node)

/-- The comment before an occurrence of an element that can be repeated. -/
def occurrenceComment (setup : Setup) (e : Element) (number count : Nat) : List NodeChild :=
  if setup.plan.settings.includeComments && e.maxOccurs.isRepeatable then
    [.comment (e.name ++ ": occurrence " ++ toString number ++ " of " ++ toString count ++
      " (minOccurs=" ++ toString e.minOccurs ++ ", maxOccurs=" ++ e.maxOccurs.text ++ ")")]
  else []

/-- Builds occurrences, of which `left` are missing, until the walk is stopped. -/
def buildEach (setup : Setup) (e : Element) (count : Nat) (occurrence : Run (Option Node)) :
    (left : Nat) → Run (List NodeChild)
  | 0 => return []
  | left + 1 => do
    let comment := occurrenceComment setup e (count - left) count
    let built ← occurrence
    let own := comment ++ (built.map NodeChild.element).toList
    if ← isHalted then return own
    return own ++ (← buildEach setup e count occurrence left)

def cutNotice (e : Element) (path identity : String) (depth : Nat) : Notice where
  level := .info
  code := "depth_limit"
  message := e.name ++ ": " ++ (if e.minOccurs = 0 then "omitted" else "truncated") ++ " at depth " ++
    toString depth ++ " of recursive type " ++ identity
  path := some path

/-- Cuts off recursion: a required element becomes empty elements that are marked. -/
def cutOff (setup : Setup) (e : Element) (path identity : String) : Run (List NodeChild) := do
  let depth := (← get).occurrences identity
  let notice := cutNotice e path identity depth
  Run.follow (.cut path identity depth (e.minOccurs ≠ 0))
  Run.record (.truncate notice)
  let comment : List NodeChild :=
    if setup.plan.settings.includeComments then [.comment notice.message] else []
  let stub : Node := .mk { name := e.name, uri := e.decl.uri, truncated := true } []
  return comment ++ List.replicate e.minOccurs (.element stub)

/-- Builds the occurrences of an element below a path; `inside` builds the members of its content. -/
def buildElement (setup : Setup) (e : Element) (parentPath : String) (scope : Nat) (force : Bool)
    (inside : ResolvedType → String → Option ElementRule → Inside) : Run (List NodeChild) := do
  let path := joinPath parentPath e.name
  let type ← Run.ofSchema (setup.schema.resolveType e)
  let rule := setup.plan.rule? e.name path
  match refused? setup (← get) type with
  | some identity => cutOff setup e path identity
  | none =>
    let count := occurrenceCount setup e path rule force
    if count = 0 then
      if e.minOccurs = 0 then Run.record .countOmitted
      return []
    let occurrence := buildOccurrence setup e type path rule e.decl.uri scope (inside type path rule)
    buildEach setup e count occurrence count

/-- Repeats a step until the walk is stopped. -/
def repeatStep (body : Run (List NodeChild)) : Nat → Run (List NodeChild)
  | 0 => return []
  | count + 1 => do
    let own ← body
    if ← isHalted then return own
    return own ++ (← repeatStep body count)

/-- Builds the members of the content of a named type: from the path, the scope and the rule of the
element that has the type. -/
abbrev Enter := String → Nat → Option ElementRule → Group → Run (List NodeChild)

/-- The members of an element without an anonymous type: those of its named type. -/
def insideNamed (enter : Enter) (type : ResolvedType) (path : String) (rule : Option ElementRule) :
    Inside := fun scope =>
  match type.content with
  | .complex g => enter path scope rule g
  | _ => return []

mutual

def walkElement (setup : Setup) (enter : Enter) (path : String) (scope : Nat) (force : Bool) :
    Element → Run (List NodeChild)
  | .mk decl none => buildElement setup (.mk decl none) path scope force (insideNamed enter)
  | .mk decl (some g) =>
    buildElement setup (.mk decl (some g)) path scope force fun _ path rule scope =>
      walkGroup setup enter path scope rule false g

def walkGroup (setup : Setup) (enter : Enter) (path : String) (scope : Nat)
    (rule : Option ElementRule) (force : Bool) : Group → Run (List NodeChild)
  | .mk decl members =>
    let body : Run (List NodeChild) :=
      match decl.kind with
      | .choice => do
        match ← chooseBranch setup path rule members with
        | some position => walkNth setup enter path scope rule position members
        | none => return []
      | _ => walkAll setup enter path scope rule members
    repeatStep body (groupCount setup (.mk decl members) path force)

def walkParticle (setup : Setup) (enter : Enter) (path : String) (scope : Nat)
    (rule : Option ElementRule) (force : Bool) : Particle → Run (List NodeChild)
  | .element e => walkElement setup enter path scope force e
  | .group g => walkGroup setup enter path scope rule force g

/-- Builds all members of a group in order, until the walk is stopped. -/
def walkAll (setup : Setup) (enter : Enter) (path : String) (scope : Nat)
    (rule : Option ElementRule) : List Particle → Run (List NodeChild)
  | [] => return []
  | p :: rest => do
    let own ← walkParticle setup enter path scope rule false p
    if ← isHalted then return own
    return own ++ (← walkAll setup enter path scope rule rest)

/-- Builds the member at a position, at least once. -/
def walkNth (setup : Setup) (enter : Enter) (path : String) (scope : Nat)
    (rule : Option ElementRule) (position : Nat) : List Particle → Run (List NodeChild)
  | [] => return []
  | p :: rest =>
    match position with
    | 0 => walkParticle setup enter path scope rule true p
    | position + 1 => walkNth setup enter path scope rule position rest

end

/-- Builds the members of the content of a named type when at most `budget` named types are entered on
one path.  The recursion guard keeps the walk below the budget of `enter`. -/
def enterWithin (setup : Setup) : (budget : Nat) → Enter
  | 0 => fun _ _ _ _ => return []
  | budget + 1 => fun path scope rule g =>
    walkGroup setup (enterWithin setup budget) path scope rule false g

/-- Builds the members of the content of a named type: no named type is open more often than the
greatest depth allows. -/
def enter (setup : Setup) : Enter :=
  enterWithin setup (setup.schema.types.length * setup.plan.settings.maxDepth.toNat + 1)

/-- The members of the content of an element. -/
def insideOf (setup : Setup) (e : Element) (type : ResolvedType) (path : String)
    (rule : Option ElementRule) : Inside :=
  match e.content with
  | none => insideNamed (enter setup) type path rule
  | some g => fun scope => walkGroup setup (enter setup) path scope rule false g

/-- Builds one occurrence of an element in a namespace, unless recursion is cut off. -/
def buildIn (setup : Setup) (e : Element) (parentPath : String) (uri : Option String) (scope : Nat) :
    Run (Option Node) := do
  let path := joinPath parentPath e.name
  let type ← Run.ofSchema (setup.schema.resolveType e)
  match refused? setup (← get) type with
  | some identity =>
    Run.follow (.passedOver path identity)
    return none
  | none =>
    let rule := setup.plan.rule? e.name path
    buildOccurrence setup e type path rule uri scope (insideOf setup e type path rule)

/-- Builds one occurrence of an element below a path. -/
def build (setup : Setup) (e : Element) (parentPath : String) : Run (Option Node) := do
  let scope ← Run.openScope
  buildIn setup e parentPath e.decl.uri scope

/-- Builds a document; one that is cut off before its root is an empty root that is marked. -/
def buildDocument (setup : Setup) (root : Element) : Run Node := do
  let uri := root.decl.uri <|> setup.schema.targetNamespace
  let scope ← Run.openScope
  match ← buildIn setup root "" uri scope with
  | some node => return node
  | none => return .mk { name := root.name, uri, truncated := true } []

end Walk
end Specimen
