import Specimen.Generator.Basic
import Specimen.Generator.Primitive
import Specimen.Pattern.Matcher
import Specimen.Text.Case

/-!
# Choosing a generator

Free text whose leaf has a telling name gets a realistic value: a city for `DepartureCity`, an address
for `contactEmail`.  The first rule one of whose keywords occurs in the name decides.

Which generator makes up the value of a leaf: by its simple type, or by its name when any text is
allowed.
-/

namespace Specimen

/-! ## Realistic texts -/

namespace Generate

open Specimen.Random

def pick (words : List String) : Draw String := do
  let index ← Draw.index words.length
  return words.getD index ""

def digits : Nat → Draw String
  | 0 => return ""
  | n + 1 => do
    let d ← Draw.range .w32 0 9
    return toString d ++ (← digits n)

def firstNames : List String := [
  "Ada", "Bela", "Carla", "Dario", "Elena", "Farid", "Greta", "Hugo", "Ines", "Jonas", "Karin",
  "Lena", "Marta", "Nils", "Olga", "Pavel", "Quinn", "Rosa", "Samir", "Tilda", "Uwe", "Vera",
  "Wanda", "Yusuf", "Zoe"]

def lastNames : List String := [
  "Abel", "Berger", "Conti", "Duarte", "Ekberg", "Fischer", "Garcia", "Hansen", "Ito", "Jansen",
  "Kovacs", "Larsen", "Moreau", "Novak", "Okafor", "Petrov", "Quist", "Rossi", "Silva", "Tanaka",
  "Ueda", "Vogel", "Weber", "Yilmaz", "Zeman"]

def cities : List String := [
  "Aarhus", "Bergen", "Cork", "Dresden", "Evora", "Florence", "Ghent", "Haarlem", "Izmir", "Krakow",
  "Leeds", "Malmo", "Nantes", "Oporto", "Prague", "Riga", "Seville", "Turin", "Utrecht", "Vienna"]

def countries : List String := [
  "Austria", "Belgium", "Canada", "Denmark", "Estonia", "Finland", "Greece", "Hungary", "Iceland",
  "Japan", "Kenya", "Latvia", "Mexico", "Norway", "Peru", "Spain", "Uruguay", "Vietnam"]

def states : List String := [
  "Alberta", "Bavaria", "Catalonia", "Flanders", "Galicia", "Hesse", "Lombardy", "Ontario", "Saxony",
  "Tuscany", "Utah", "Vermont"]

def streets : List String := [
  "Bridge Street", "Church Lane", "Garden Row", "Harbour Road", "High Street", "Mill Lane",
  "Orchard Way", "Park Avenue", "Station Road", "Willow Close"]

def companies : List String := [
  "Alder Works", "Bright Harbour", "Cedar Group", "Delta Looms", "Evergreen Foods", "Field and Sons",
  "Granite Partners", "Northern Lines", "Quarry Tools", "Silver Mills"]

def jobTitles : List String := [
  "Account Manager", "Analyst", "Architect", "Buyer", "Clerk", "Designer", "Engineer", "Planner",
  "Supervisor", "Technician"]

def domains : List String := ["com", "net", "org", "info", "biz"]

def words : List String := [
  "amber", "basket", "candle", "door", "ember", "forest", "garden", "harbour", "island", "journey",
  "kettle", "ladder", "meadow", "north", "orchard", "pepper", "quiet", "river", "stone", "timber",
  "under", "valley", "winter", "yellow", "zephyr"]

/-- A text with its first letter in upper case. -/
def capitalized (s : String) : String :=
  match s.toList with
  | [] => ""
  | c :: rest => String.ofList (c.toUpper :: rest)

def wordList : Nat → Draw (List String)
  | 0 => return []
  | n + 1 => do
    let w ← pick words
    return w :: (← wordList n)

def sentence : Draw String := do
  let count ← Draw.range .w32 3 7
  return capitalized (" ".intercalate (← wordList count.toNat)) ++ "."

def username : Draw String := do
  let w ← pick words
  return w ++ (← digits 3)

end Generate

namespace SemanticGenerator

open Generate Specimen.Random in
def run : SemanticGenerator → Draw String
  | .firstName => pick firstNames
  | .lastName => pick lastNames
  | .fullName => do
    let first ← pick firstNames
    return first ++ " " ++ (← pick lastNames)
  | .email => do
    let user ← Generate.username
    return user ++ "@example." ++ (← pick ["com", "net", "org"])
  | .phone => do
    let area ← digits 3
    return "1-" ++ area ++ "-555-" ++ (← digits 4)
  | .city => pick cities
  | .country => pick countries
  | .state => pick states
  | .street => do
    let number ← digits 2
    return number ++ " " ++ (← pick streets)
  | .zip => digits 5
  | .company => pick companies
  | .username => Generate.username
  | .jobTitle => pick jobTitles
  | .url => do
    let word ← pick words
    return "https://www." ++ word ++ "." ++ (← pick domains)
  | .sentence => Generate.sentence

/-- Keywords of names and the generators they call for, in the order in which they are tried. -/
def rules : List (List String × SemanticGenerator) := [
  (["email", "mail"], .email),
  (["firstname", "givenname", "forename"], .firstName),
  (["lastname", "surname", "familyname"], .lastName),
  (["fullname", "personname", "customername", "passengername"], .fullName),
  (["phone", "mobile", "telephone", "fax"], .phone),
  (["city", "town"], .city),
  (["country"], .country),
  (["state", "province", "region"], .state),
  (["street", "address"], .street),
  (["zip", "postcode", "postalcode"], .zip),
  (["company", "organization", "organisation", "employer"], .company),
  (["username", "login"], .username),
  (["jobtitle", "position", "occupation"], .jobTitle),
  (["url", "website", "homepage"], .url),
  (["description", "comment", "note", "remark", "summary"], .sentence),
  (["name"], .fullName)]

def occursIn (keyword name : List Char) : Bool :=
  keyword.isPrefixOf name ||
    match name with
    | [] => false
    | _ :: rest => occursIn keyword rest

/-- The generator that the name of an element or attribute calls for. -/
def ofName? (name : String) : Option SemanticGenerator :=
  let cs := ((name.toList.dropWhile (· = '@')).filter Char.isAlphanum).map Char.toLower
  if cs.isEmpty then none
  else (rules.find? fun r => r.1.any fun keyword => occursIn keyword.toList cs).map (·.2)

end SemanticGenerator

/-- The libraries of this project: its own patterns, and values from its own lists of words. -/
def Libraries.standard : Libraries where
  isMatch := Pattern.accepts
  sample? pattern := (Pattern.sampler? pattern).map fun s => return String.ofList (← s.draw)
  realistic := SemanticGenerator.run

/-! ## The generator of a leaf -/

namespace Generator

/-- The generator that the name of a leaf calls for, when the leaf is free text. -/
def forName? (name : String) (f : Facets) : Option SemanticGenerator :=
  if !f.base.isTextual || !f.enumeration.isEmpty || f.pattern.isSome then none
  else SemanticGenerator.ofName? name

def run (g : Generator) (leaf : Leaf) (libraries : Libraries := .standard) : Attempt String :=
  match g with
  | .primitive g => g.run libraries leaf
  | .semantic g => ExceptT.lift (libraries.realistic g)

end Generator
end Specimen
