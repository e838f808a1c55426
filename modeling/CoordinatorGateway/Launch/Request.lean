import CoordinatorGateway.Failure
import CoordinatorGateway.Json.Record

namespace CoordinatorGateway

def refuseBody (body : Bytes) (f : Json.Fault) : Failure :=
  .invalidArgument ("Invalid request body: " ++ f.message body)

structure LaunchRequest where
  blockId : String
  capacity : Option Json
  inputPath : String
  programPath : Option String

def LaunchRequest.schema : Json.Schema :=
  ⟨"LaunchRequest", [("block_id", .text), ("compute_capacity", .optionalValue),
    ("input_path", .text), ("elf_path", .optionalText)]⟩

def LaunchRequest.read (body : Bytes) : Except Failure LaunchRequest :=
  match schema.read body with
  | .error f => .error (refuseBody body f)
  | .ok r => .ok ⟨r.text "block_id", r.optionalValue "compute_capacity", r.text "input_path",
      r.optionalText "elf_path"⟩

structure WorkerRequest where
  programPath : String
  inputPath : String
  capacity : Option Json
  workerId : Option String

def WorkerRequest.schema : Json.Schema :=
  ⟨"WorkerStartBody", [("elf_path", .text), ("input_path", .text),
    ("compute_capacity", .optionalValue), ("worker_id", .optionalText)]⟩

def WorkerRequest.read (body : Bytes) : Except Failure WorkerRequest :=
  match schema.read body with
  | .error f => .error (refuseBody body f)
  | .ok r => .ok ⟨r.text "elf_path", r.text "input_path", r.optionalValue "compute_capacity",
      r.optionalText "worker_id"⟩

end CoordinatorGateway
