import TouchTracking.Stage.Report

/-! Making stages by name. -/
namespace TouchTracking

/-- Constructors under their names. -/
structure Factory (ω σ : Type) where
  constructors : List (String × (Fabric ω → Stage σ × Fabric ω))

namespace Factory

variable {ω σ : Type}

def unknown (name : String) : Failure := ⟨.configuration, s!"unknown module '{name}'"⟩

def empty : Factory ω σ := ⟨[]⟩

/-- Adds a constructor, in place of an earlier one of the same name. -/
def register (factory : Factory ω σ) (name : String) (make : Fabric ω → Stage σ × Fabric ω) :
    Factory ω σ :=
  ⟨(name, make) :: factory.constructors.filter (·.1 ≠ name)⟩

/-- The constructors of some kinds of stage within a wider kind. -/
def ofConstructors {τ : Type} (inject : τ → σ)
    (constructors : List (String × (Fabric ω → Stage τ × Fabric ω))) : Factory ω σ :=
  constructors.foldl (fun factory entry => factory.register entry.1 fun fabric =>
    let (stage, fabric) := entry.2 fabric
    (stage.mapBody inject, fabric)) empty

def contains (factory : Factory ω σ) (name : String) : Bool :=
  (factory.constructors.lookup name).isSome

def create (factory : Factory ω σ) (name : String) (fabric : Fabric ω) :
    Except Failure (Stage σ × Fabric ω) :=
  match factory.constructors.lookup name with
  | none => .error (unknown name)
  | some make => .ok (make fabric)

/-- The registered names in order. -/
def names (factory : Factory ω σ) : List String :=
  (factory.constructors.map (·.1)).mergeSort (· ≤ ·)

/-- Describes a kind of stage by a fresh one. -/
def describe (factory : Factory ω σ) (name : String) (fabric : Fabric ω) :
    Except Failure (StageDescription × Fabric ω) :=
  (factory.create name fabric).map fun (stage, fabric) => (stage.describe, fabric)

end Factory
end TouchTracking
