import TapeCalc.Command.Job

/-!
The program itself: it reads the files that the request names, then drives the job, asking
standard input for a line only when the next step needs one.
-/

namespace TapeCalc.Command

/-- The number of a system error; some calls report it negated. -/
def errorNumber (code : UInt32) : UInt32 :=
  if code < 0 - code then code else 0 - code

def faultOf (e : IO.Error) : FileFault :=
  match e with
  | .noFileOrDirectory .. => .notFound
  | .permissionDenied .. => .other "Permission denied (os error 13)".toList
  | .userError _ => .other "stream did not contain valid UTF-8".toList
  | .inappropriateType _ code _ | .invalidArgument _ code _ =>
    match errorNumber code with
    | 20 => .notDirectory
    | 21 => .isDirectory
    | 36 => .nameTooLong
    | _ => .other (toString e).toList
  | e => .other (toString e).toList

def readPath (path : Text) : IO (Except FileFault Text) := do
  try
    return .ok (← IO.FS.readFile (String.ofList path)).toList
  catch e =>
    return .error (faultOf e)

/-- The next line of standard input with its end, and nothing at the end of the input. -/
def readStdin : IO (Except FileFault Text) := do
  try
    return .ok (← (← IO.getStdin).getLine).toList
  catch e =>
    return .error (faultOf e)

partial def drive (job : Job) (atEnd : Bool) : IO UInt32 := do
  let ((shown, errors), job) := job.drain
  unless shown.isEmpty do
    let out ← IO.getStdout
    out.putStr (String.ofList shown)
    out.flush
  unless errors.isEmpty do
    (← IO.getStderr).putStr (String.ofList errors)
  match job with
  | .finished report => return report.code.toUInt32
  | _ =>
    if job.wantsLine && !atEnd then
      match ← readStdin with
      | .error fault => drive (job.breakInput fault.reason) false
      | .ok [] => drive job true
      | .ok line => drive (job.addLine line) false
    else drive job.tick atEnd

end TapeCalc.Command

open TapeCalc.Command in
def main (args : List String) : IO UInt32 := do
  match Request.ofArgs? (args.map String.toList) with
  | none => drive (.finished usageReport) true
  | some request => drive (← Job.start .process readPath request) false
