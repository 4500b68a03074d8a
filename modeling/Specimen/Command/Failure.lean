import Specimen.Command.Host
import Specimen.Run.Generate

/-!
# Failures of commands

Why a command ends without having done what it was asked for, and how that is shown: one line that names
the part that failed and, inside it, the cause.
-/

namespace Specimen

/-- Why a command fails. -/
inductive CommandFailure where
  /-- A schema cannot be read from its file. -/
  | schemaFile (fault : FileFault)
  /-- A schema file does not hold a schema. -/
  | schemaText (reason : String)
  | schema (e : SchemaError)
  | configFile (fault : FileFault)
  | configFormat (extension : String)
  /-- A configuration file is not written in its format. -/
  | configText (format : String)
  /-- A configuration is unusable. -/
  | config (summary : String)
  /-- A file of a run cannot be written. -/
  | record (fault : FileFault)
  /-- A document cannot be written. -/
  | document (fault : FileFault)
  | generation (e : GenerationError)

namespace CommandFailure

def inside (part content : String) : String := part ++ "(" ++ content ++ ")"

/-- The kind and the detail of a defect of a schema. -/
def shownDefect (isUnsupported : Bool) (detail : String) : String :=
  inside (if isUnsupported then "Unsupported" else "InvalidSchema") (Text.showQuoted detail)

def shownSchema (e : SchemaError) : String := shownDefect e.isUnsupported e.detail

def shownRun : RunError → String
  | .schema e => inside "Schema" (shownSchema e)
  | .timeout steps => "Timeout \x7b steps: " ++ toString steps ++ ", elapsed_ms: 0 \x7d"
  | e => inside "Configuration" (Text.showQuoted e.message)

def shownGeneration : GenerationError → String
  | .schema e => inside "Schema" (shownSchema e)
  | .root e => inside "Schema" (shownDefect false e.detail)
  | .rejected report => inside "Configuration" (Text.showQuoted report.summary)
  | .stopped e => shownRun e
  | .failed report =>
    inside "Failed" (Text.showQuoted (", ".intercalate (report.warnings.toList.map (·.message))))

def shown : CommandFailure → String
  | .schemaFile fault => inside "Io" fault.shown
  | .schemaText reason => inside "Json" (inside "Error" (Text.showQuoted reason))
  | .schema e => inside "Core" (shownSchema e)
  | .configFile fault => inside "Config" (inside "Io" fault.shown)
  | .configFormat extension =>
    inside "Config" (inside "UnsupportedFormat" (Text.showQuoted extension))
  | .configText format => inside "Config" format
  | .config summary => inside "InvalidConfig" (Text.showQuoted summary)
  | .record fault => inside "Registry" (inside "Io" fault.shown)
  | .document fault => inside "Registry" (inside "Generation" (inside "Io" fault.shown))
  | .generation e => inside "Generation" (shownGeneration e)

end CommandFailure

/-- What a generation says about a configuration that it cannot use, with the issues behind it. -/
def GenerationError.aboutConfig? : GenerationError → Option (String × List Issue)
  | .rejected report => some (report.summary, report.errors)
  | .stopped (.contexts e) => some (e.message, [])
  | .stopped (.unmatchedField field) => some (RunError.unmatchedDetail field, [])
  | _ => none

end Specimen
