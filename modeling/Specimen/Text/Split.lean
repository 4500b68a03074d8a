/-!
# Splitting texts

A text split at a mark: one part more than there are marks, and no part holds one.
-/

namespace Specimen
namespace Text

def splitAt (mark : Char) : List Char → List (List Char)
  | [] => [[]]
  | c :: rest =>
    match splitAt mark rest with
    | [] => [[]]
    | part :: parts => if c = mark then [] :: part :: parts else (c :: part) :: parts

/-- The parts of a text between marks, those that are empty left out. -/
def partsBetween (mark : Char) (text : String) : List String :=
  ((splitAt mark text.toList).filter fun part => !part.isEmpty).map String.ofList

end Text
end Specimen
