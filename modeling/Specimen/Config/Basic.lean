import Specimen.Dict
import Specimen.Json.Basic

/-!
# Configurations

A configuration says which optional parts a document gets, which values its leaves are drawn from, and
which relationships hold between leaves.  This is the configuration as it is written: names of modes
and strategies are plain texts here, and nothing has been checked.
-/

namespace Specimen

/-- What a configuration says about itself. -/
structure Metadata where
  name : Option String := none
  schemaName : Option String := none
  /-- The global element that is the root of the document. -/
  rootElement : Option String := none
  description : Option String := none
  deriving DecidableEq, Repr, Inhabited

/-- The settings of a whole document. -/
structure GenerationSettings where
  mode : String := "complete"
  repeatCount : UInt32 := 2
  maxDepth : UInt32 := 5
  includeComments : Bool := false
  seed : Option UInt64 := none
  uniqueCombinations : Bool := false
  /-- How often something without an upper bound occurs at most. -/
  unboundedCount : UInt32 := 10
  deriving DecidableEq, Repr, Inhabited

/-- A named collection of values, laid over the contexts it inherits from. -/
structure DataContext where
  inherits : List String := []
  values : Dict Json := {}
  deriving Inhabited

/-- A relationship between leaves. -/
structure RelationshipDef where
  fields : List String
  strategy : String
  /-- Fields, or other relationships, that are settled first. -/
  dependsOn : List String := []
  constraints : List String := []
  ensureUnique : Option Bool := none
  /-- Where the records or values come from. -/
  source : Option String := none
  selectionStrategy : Option String := none
  /-- Of two relationships with a common field, the one with the lower number owns it. -/
  priority : Int32 := 0
  /-- The record keys of fields that have another name in the records. -/
  fieldMap : Dict String := {}
  maxAttempts : Option UInt32 := none
  deriving Inhabited

/-- What is said about an element or attribute. -/
structure ElementConfig where
  /-- Values to choose from. -/
  customValues : List Json := []
  /-- Where in the data contexts the values are. -/
  dataContext : Option String := none
  selectionStrategy : Option String := none
  /-- The relationship that the value comes from. -/
  relationship : Option String := none
  repeatCount : Option UInt32 := none
  /-- Where the records are whose column is read. -/
  templateSource : Option String := none
  templateField : Option String := none
  /-- The branch that a choice takes. -/
  choice : Option String := none
  nil : Option Bool := none
  deriving Inhabited

/-- Switches for the whole document. -/
structure Overrides where
  /-- Whether names of elements are taken as a hint at what their values look like. -/
  realisticData : Bool := true
  /-- Namespaces by prefix. -/
  prefixes : Dict String := {}
  /-- Whether violated constraints lead to another attempt. -/
  enforceConstraints : Bool := true
  deriving Inhabited

/-- A configuration as it is written. -/
structure Config where
  metadata : Metadata := {}
  settings : GenerationSettings := {}
  dataContexts : Dict DataContext := {}
  relationships : Dict RelationshipDef := {}
  elements : Dict ElementConfig := {}
  overrides : Overrides := {}
  deriving Inhabited

end Specimen
