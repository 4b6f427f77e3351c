import CallLibrary.Command.Run

/-!
# The command line

Connects the command to the files, the arguments and the streams of its process.
-/

namespace CallLibrary.Command

def readFile (path : String) : IO (Except Workspace.Failure String) := do
  try
    let bytes ← IO.FS.readBinFile path
    match String.fromUTF8? bytes with
    | some text => return .ok text
    | none => return .error .notText
  catch _ => return .error .notFound

def fail (error : CommandError) : IO UInt32 := do
  IO.eprintln error.message
  return failureStatus.toUInt32

def carryOut : Reply → IO UInt32
  | .print text => do
    IO.print text
    return 0
  | .save directory file text => do
    let path := Workspace.Path.join directory file
    try
      IO.FS.createDirAll directory
      IO.FS.writeFile path text
      IO.print (savedText directory file)
      return 0
    catch _ => fail (.unwritable path)

def perform (request : Request) : IO UInt32 := do
  let content ← match request.manifest? with
    | some path => readFile path
    | none => pure (.error .notFound)
  match request.reply .firstLines fun _ => content with
  | .ok reply => carryOut reply
  | .error error => fail error

end CallLibrary.Command

/-- Runs the command on the arguments of the process. -/
def main (arguments : List String) : IO UInt32 :=
  match CallLibrary.Command.Request.ofArguments arguments with
  | .ok request => CallLibrary.Command.perform request
  | .error error => do
    IO.eprintln error.message
    return CallLibrary.Command.usageStatus.toUInt32
