import DynamicObjects.CommandLine
import DynamicObjects.Host.Stock

/-! # The program

    Prints what the command line gives and exits with its status. -/

open DynamicObjects

def main (args : List String) : IO UInt32 := do
  let ending := CommandLine.start Stock.host (("ail" :: args).map String.toUTF8)
  (← IO.getStdout).putStr ending.stdout
  match ending with
  | .exits output => (← IO.getStderr).putStr output.stderr
  | .panics argument => (← IO.getStderr).putStrLn s!"no text: {argument}"
  return ending.status.toUInt32
