/-
The program: the command line on the files of the system.
-/
import StatSchema.CommandLine

namespace StatSchema

/-- The problem with a number and a reason of the system. Some numbers come with their sign
changed. -/
def numberedProblem (code : UInt32) (reason : String) : AccessProblem :=
  let number := if code < 0x80000000 then code else 0 - code
  if number = 2 then .missing
  else if number = 20 then .notDirectory
  else if number = 21 then .isDirectory
  else .other (reason ++ " (os error " ++ toString number ++ ")")

/-- The problem that an error of the system stands for. -/
def systemProblem : IO.Error → AccessProblem
  | .alreadyExists _ code reason => numberedProblem code reason
  | .otherError code reason => numberedProblem code reason
  | .resourceBusy code reason => numberedProblem code reason
  | .resourceVanished code reason => numberedProblem code reason
  | .unsupportedOperation code reason => numberedProblem code reason
  | .hardwareFault code reason => numberedProblem code reason
  | .unsatisfiedConstraints code reason => numberedProblem code reason
  | .illegalOperation code reason => numberedProblem code reason
  | .protocolError code reason => numberedProblem code reason
  | .timeExpired code reason => numberedProblem code reason
  | .interrupted _ code reason => numberedProblem code reason
  | .noFileOrDirectory _ code reason => numberedProblem code reason
  | .invalidArgument _ code reason => numberedProblem code reason
  | .permissionDenied _ code reason => numberedProblem code reason
  | .resourceExhausted _ code reason => numberedProblem code reason
  | .inappropriateType _ code reason => numberedProblem code reason
  | .noSuchThing _ code reason => numberedProblem code reason
  | .unexpectedEof => .other "unexpected end of file"
  | .userError reason => .other reason

/-- Access to the files of the system. -/
def systemFiles : FileAccess IO where
  read path := do
    match ← (IO.FS.readBinFile path).toBaseIO with
    | .error error => return .error (systemProblem error)
    | .ok bytes =>
      match String.fromUTF8? bytes with
      | some text => return .ok text
      | none => return .error .notText
  write path text := do
    match ← (IO.FS.writeBinFile path text.toUTF8).toBaseIO with
    | .error error => return .error (systemProblem error)
    | .ok () => return .ok ()

end StatSchema

/-- Runs the program. -/
def main (arguments : List String) : IO UInt32 := do
  let outcome ← StatSchema.CommandLine.run StatSchema.systemFiles arguments
  (← IO.getStdout).putStr outcome.output
  (← IO.getStderr).putStr outcome.errors
  return outcome.code
