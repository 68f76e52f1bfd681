import TableFile.Console.Command

namespace TableFile.Console

structure Report where
  code : UInt32
  stdout : String
  stderr : String
deriving DecidableEq

def hang (margin : String) (text : String) : String :=
  .ofList (text.toList.flatMap fun c ↦ if c = '\n' then c :: margin.toList else [c])

def label (n : Nat) : String :=
  let digits := n.repr
  "".pushn ' ' (5 - digits.length) ++ digits ++ ": "

def causes : List String → String
  | [] => ""
  | [cause] => "\n\nCaused by:\n    " ++ hang "    " cause
  | several =>
    "\n\nCaused by:" ++
      String.join (several.mapIdx fun i cause ↦ "\n" ++ label i ++ hang "       " cause)

def complaint (failure : Failure) : String :=
  "Error: " ++ failure.chain.headD "" ++ causes (failure.chain.drop 1) ++ "\n"

def report (outcome : Outcome) : Report :=
  match outcome.failure with
  | none => ⟨0, outcome.output, ""⟩
  | some failure => ⟨1, outcome.output, complaint failure⟩

/-- Arguments behind the first two are ignored. `read` gives the content of a file. -/
def start (read : String → Except FileFault Bytes) : List String → Report
  | [] => report ⟨"", some .noArguments⟩
  | [_] => report ⟨"", some .noCommand⟩
  | path :: command :: _ => report (run path (read path) command)

end TableFile.Console
