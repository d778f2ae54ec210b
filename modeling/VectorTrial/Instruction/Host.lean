import VectorTrial.Instruction.Catalog

/-!
# The processor that runs the instructions

A processor implements some features, known by name. An instruction can run on it when none of the
features that it needs is missing.

## Main definitions

* `VectorTrial.Host` — the features of a processor.
* `VectorTrial.Host.missing` — the features of a list that a processor lacks.
-/

namespace VectorTrial

/-- A processor, by the names of the features that it implements. -/
structure Host where
  implemented : List String
  deriving DecidableEq, Repr

namespace Host

/-- A processor with 256-bit integer vectors and without 512-bit ones. -/
def avx2 : Host := ⟨["sse2", "ssse3", "sse4.1", "avx", "avx2"]⟩

/-- Whether a processor implements a feature. A name that is no feature is never implemented. -/
def implements (host : Host) (feature : String) : Bool := host.implemented.contains feature

/-- The features of a list that a processor lacks, in the order of the list. -/
def missing (host : Host) (features : List String) : List String :=
  features.filter fun feature => !host.implements feature

/-- Whether a processor implements every feature that an instruction needs. -/
def supports (host : Host) (i : Intrinsic) : Bool := i.featureNames.all host.implements

theorem missing_eq_nil_iff (host : Host) (features : List String) :
    host.missing features = [] ↔ ∀ f ∈ features, host.implements f = true := by
  simp [missing]

theorem supports_iff_missing (host : Host) (i : Intrinsic) :
    host.supports i = true ↔ host.missing i.featureNames = [] := by
  simp [supports, missing_eq_nil_iff]

end Host

end VectorTrial
