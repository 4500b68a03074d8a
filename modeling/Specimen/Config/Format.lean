import Specimen.Json.Parser
import Specimen.Text.Case
import Specimen.Text.Split
import Specimen.Toml.Parser

/-!
# Formats of configuration files

A configuration file is written in JSON or TOML, which its name tells.  Both give the same documents.
-/

namespace Specimen

/-- A format of configuration files. -/
inductive ConfigFormat where
  | json
  | toml
  deriving DecidableEq, Repr

namespace ConfigFormat

def name : ConfigFormat → String
  | .json => "json"
  | .toml => "toml"

/-- The last segment of a path that names a file; empty segments and single points do not count, and
two points name none. -/
def fileName? (path : String) : Option (List Char) :=
  let named := (Text.splitAt '/' path.toList).filter fun s => !s.isEmpty && s != ['.']
  match named.getLast? with
  | none => none
  | some s => if s = ['.', '.'] then none else some s

/-- What follows the last point of a file name, unless the point comes first. -/
def extension? (path : String) : Option String :=
  (fileName? path).bind fun file =>
    let after := (file.reverse.takeWhile (· ≠ '.')).reverse
    let before := file.length - after.length
    if before ≤ 1 then none else some (String.ofList after)

/-- The format of a file, or the extension that has none. -/
def ofPath (path : String) : Except String ConfigFormat :=
  match (extension? path).map Text.lowerAscii with
  | some "json" => .ok .json
  | some "toml" => .ok .toml
  | some other => .error other
  | none => .error "<none>"

def parse? : ConfigFormat → String → Option Json
  | .json => Json.parse?
  | .toml => Toml.parse?

end ConfigFormat
end Specimen
