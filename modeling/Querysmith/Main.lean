import Querysmith.CommandLine.Program
import Querysmith.Database.Transaction

open Querysmith

def usageText : String :=
  "usage: querysmith [--db PATH] [--log-queries] [--in-list inline|parameterized] " ++
    "[--init SCRIPT] " ++
    "select REQUEST | insert TABLE RECORD | update TABLE CHANGES [--where FILTER] | " ++
    "delete TABLE [--where FILTER] | sql REQUEST"

def eventLine : Event → String
  | .compiled operation sql => "INFO compiled statement " ++ operation.name ++ ": " ++ sql
  | .rejected operation e =>
      "ERROR rejected before execution " ++ operation.name ++ ": " ++ e.message

def prepared (init : Option String) : IO (Except Error Database) := do
  match init with
  | none => return .ok .fresh
  | some _ =>
      let input ← IO.getStdin
      let script ← input.lines
      let (result, d) := Database.fresh.script ("\n".intercalate script.toList)
      return result.map fun _ => d

def main (argv : List String) : IO UInt32 := do
  match CommandLine.Arguments.read argv with
  | .error refusal =>
      IO.eprintln usageText
      return UInt32.ofNat refusal.exitCode
  | .ok arguments =>
      match ← prepared arguments.init with
      | .error e =>
          IO.eprintln ("Error: " ++ e.details)
          return 1
      | .ok d =>
          let answer := CommandLine.run Database.executor d arguments
          for event in answer.events do
            IO.eprintln (eventLine event)
          match answer.result with
          | .ok j =>
              IO.print (CommandLine.printed j)
              return 0
          | .error .malformed =>
              IO.eprintln "Error: an argument is no JSON document"
              return 1
          | .error (.rejected e) =>
              IO.eprintln ("Error: " ++ e.details)
              return 1
          | .error (.undecodable message) =>
              IO.eprintln ("Error: " ++ message)
              return 1
