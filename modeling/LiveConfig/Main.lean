import LiveConfig.Command.Run

set_option autoImplicit false

namespace LiveConfig.Command

/-- What stands under a path of the file system. -/
def contentOf (path : String) : IO Content := do
  match (← (IO.FS.readFile path).toBaseIO) with
  | .ok text => return .text text
  | .error (.noFileOrDirectory ..) => return .missing
  | .error e => return .unreadable (toString e)

/-- The files that the arguments name, read beforehand. -/
def readFiles (args : List String) : IO (Fields Content) := do
  match Request.ofArguments args with
  | .perform invocation =>
    invocation.paths.mapM fun path => do return (path, ← contentOf path)
  | _ => return []

/-- Prints how a run ended and gives its exit code. -/
def conclude : Ending → IO UInt32
  | .finished output report => do
    IO.eprint report
    IO.print output
    return 0
  | .troubled trouble report => do
    IO.eprint report
    IO.eprintln ("Error: " ++ ": ".intercalate (trouble.message :: trouble.causes))
    return 1
  | .misuse => do
    IO.eprint programHelp
    return 2

end LiveConfig.Command

def main (args : List String) : IO UInt32 := do
  let contents ← LiveConfig.Command.readFiles args
  let files : LiveConfig.Command.Files := fun path =>
    (LiveConfig.Fields.find? path contents).getD .missing
  LiveConfig.Command.conclude (LiveConfig.Command.run files args)
