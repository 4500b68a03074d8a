import Specimen.Proofs.Run.Books
import Specimen.Proofs.Walk.Built
import Specimen.Proofs.Walk.Composition
import Specimen.Proofs.Walk.Gathering

/-!
# The books of the walk

Finding the value of a leaf keeps the books of the report: a generated value is counted with its generator, in the
first place as well as when it pays what a fallback owes.  The walk keeps the books, too, and counts in them the
attributes of the elements that it builds.  What has been built is kept, also when the walk is stopped, so the
attributes that were counted are those of the document.
-/

namespace Specimen

open Run

/-! ## Leaves -/

namespace Leaf

variable {setup : Setup} {attributes owed : Nat}

end Leaf

/-! ## Attributes of elements -/

/-- How many attributes elements have. -/
def attributeCount : List NodeHead → Nat
  | [] => 0
  | h :: rest => h.attributes.length + attributeCount rest

namespace Walk

variable {setup : Setup}

/-- What is built adds its attributes to the books. -/
def Counts (m : Run (List NodeChild)) : Prop :=
  ∀ counted, Ensures (Report.Books counted 0) m
    fun cs => Report.Books (counted + attributeCount (headsAmong cs)) 0

section Occurrence

variable {counted : Nat}

end Occurrence

/-! ## Elements -/

end Walk
end Specimen
