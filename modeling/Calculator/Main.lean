/-
  Calculator.Main
  ───────────────
  **THE COMMAND LINE PROGRAM.**

  Reads the file and the input that a command line asks for, does the work and
  passes the outcome on.  Sources are typed in with backspaces that take back what
  was typed.
-/
import Calculator.CommandLine
import Calculator.Text.Draft

namespace Calculator

/-- All bytes that a stream still has. -/
partial def readAll (stream : IO.FS.Stream) (before : ByteArray) : IO ByteArray := do
  let more ← stream.read 65536
  if more.isEmpty then return before else readAll stream (before ++ more)

/-- The contents of a file, if it can be read. -/
def readFile? (path : String) : IO (Option (List UInt8)) := do
  try return some (← IO.FS.readBinFile path).toList
  catch _ => return none

/-- Passes an outcome on to the output streams. -/
def finish (outcome : Outcome) : IO UInt32 := do
  let stdout ← IO.getStdout
  stdout.write outcome.output.toByteArray
  stdout.flush
  for line in outcome.notices.flatMap Notice.lines do
    IO.eprintln line
  return outcome.status.code.toUInt32

end Calculator

open Calculator in
/-- Runs the command; files and the input are not touched unless something is to be
read from them. -/
def main (args : List String) : IO UInt32 := do
  let contents ←
    match fileToRead? args with
    | some path => readFile? path
    | none => pure none
  let input ←
    if readsInput (fun _ => contents) args then readAll (← IO.getStdin) .empty else pure .empty
  finish (runCommand Text.corrected? (fun _ => contents) input.toList args)
