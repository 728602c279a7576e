import TouchTracking.Stage.BlobTracker
import TouchTracking.Stage.Source

/-! The kinds of stage that come with the library. -/
namespace TouchTracking

abbrev Builtin := Source SquareSource ⊕ BlobTracker.Body

namespace Builtin

variable {ω : Type}

def squares (fabric : Fabric ω) : Stage Builtin × Fabric ω :=
  let (stage, fabric) := Source.make (SquareSource.ofSettings SquareSettings.standard) fabric
  (stage.mapBody .inl, fabric)

def tracker (fabric : Fabric ω) : Stage Builtin × Fabric ω :=
  let (stage, fabric) := BlobTracker.make fabric
  (stage.mapBody .inr, fabric)

/-- The constructors by name. -/
def constructors : List (String × (Fabric ω → Stage Builtin × Fabric ω)) :=
  [(SquareSource.name, squares), (BlobTracker.name, tracker)]

end Builtin
end TouchTracking
