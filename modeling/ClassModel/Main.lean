import ClassModel.Command

/-!
# ClassModel.Main

The executable. It reads the file with options, if one is asked for, and
prints what the command answers.
-/

open ClassModel in
/-- Runs the command with the arguments of the process. -/
def main (arguments : List String) : IO UInt32 := do
  let path? := match Command.read arguments with
    | .ok (.compile arguments) => arguments.config?
    | _ => none
  let content? ← match path? with
    | some path => try some <$> IO.FS.readFile path catch _ => pure none
    | none => pure none
  let result := Command.run (fun _ => content?) arguments
  IO.print result.output
  IO.eprint result.problems
  return UInt32.ofNat result.exitCode
