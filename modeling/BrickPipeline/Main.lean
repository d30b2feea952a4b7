import BrickPipeline.Command.Outcome

/-!
The command line program: it reads the files that are asked for, and prints what comes of them.
-/
namespace BrickPipeline.Command

/-- The depth of nesting that the program runs pipelines to. -/
def programDepth : Nat := 20000

/-- What a failure to read a file says about its path. -/
def faultOf : IO.Error → FileFault
  | .noFileOrDirectory .. => .missing
  | .inappropriateType _ 21 _ => .directory
  | .inappropriateType .. => .notDirectory
  | .invalidArgument .. => .nameTooLong
  | fault => .other (toString fault)

def readFile (path : String) : IO FileContent := do
  try
    return .present (← IO.FS.readBinFile path)
  catch fault => return .absent (faultOf fault)

/-- The contents of some files, by path. -/
def readFiles (paths : List String) : IO Files := do
  let contents ← paths.mapM fun path => return (path, ← readFile path)
  return fun path => (contents.lookup path).getD .missing

def freshId : IO Uuid := do
  let digits ← (List.range 32).mapM fun _ => do
    let number ← IO.rand 0 15
    return (⟨number % 16, Nat.mod_lt _ (Nat.succ_pos 15)⟩ : Fin 16)
  return if h : digits.length = 32 then ⟨digits, h⟩ else .nil

def report (outcome : Outcome) : IO Unit := do
  for text in outcome.output do
    IO.println text
  for text in outcome.errorOutput do
    IO.eprintln text

end BrickPipeline.Command

open BrickPipeline Command in
def main (args : List String) : IO UInt32 := do
  match Invocation.parse? args with
  | none =>
    IO.eprintln usageText
    return Outcome.misuse.status.toUInt32
  | some invocation =>
    let files ← readFiles invocation.paths
    let outcome := perform files programDepth (← freshId) invocation
    report outcome
    return outcome.status.toUInt32
