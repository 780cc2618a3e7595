import Reshape.Pipeline.Run

/-!
# The manifest of a run

A record of what ran, on what and with which result, for audit.
-/

namespace Reshape

def engineVersion : String := "0.1.0"

structure Manifest where
  pipelineHash : Digest
  inputDigest : Digest
  outputDigest : Digest
  steps : List StepStats

namespace Manifest

def ofRun (p : Pipeline) (input : Value) (r : Run) (output : Collection) : Manifest where
  pipelineHash := p.fingerprint
  inputDigest := Digest.hashValue input
  outputDigest := Digest.hashValue output.toValue
  steps := r.steps

def digestValue (d : Digest) : Value :=
  .array (d.bytes.map fun b => .int b.toNat)

def statsValue (s : StepStats) : Value :=
  .object [("index", .int s.index), ("op", .string s.operator.name),
    ("records_in", .int s.recordsIn), ("records_out", .int s.recordsOut)]

def toValue (m : Manifest) : Value :=
  .object [("pipeline_hash", digestValue m.pipelineHash),
    ("engine_version", .string engineVersion),
    ("input_digest", digestValue m.inputDigest),
    ("output_digest", digestValue m.outputDigest),
    ("steps", .array (m.steps.map statsValue))]

end Manifest

end Reshape
