import TableFile.Console.Report

namespace TableFile.Console

def numberedFault (code : UInt32) (reason : String) : FileFault :=
  let n := if code < 0x80000000 then code else -code
  if n = 2 then .notFound
  else if n = 20 then .notDirectory
  else if n = 21 then .isDirectory
  else ⟨n.toNat, reason⟩

def fileFault : IO.Error → FileFault
  | .noFileOrDirectory _ code reason | .inappropriateType _ code reason
  | .permissionDenied _ code reason | .resourceExhausted _ code reason
  | .invalidArgument _ code reason | .noSuchThing _ code reason
  | .otherError code reason => numberedFault code reason
  | e => ⟨0, e.toString⟩

def readFile (path : String) : IO (Except FileFault Bytes) := do
  try return .ok (← IO.FS.readBinFile path).toList
  catch e => return .error (fileFault e)

def serve (args : List String) : IO UInt32 := do
  let file ← match args with
    | path :: _ :: _ => readFile path
    | _ => pure (.error .notFound)
  let report := start (fun _ ↦ file) args
  IO.print report.stdout
  IO.eprint report.stderr
  return report.code

end TableFile.Console

def main (args : List String) : IO UInt32 :=
  TableFile.Console.serve args
