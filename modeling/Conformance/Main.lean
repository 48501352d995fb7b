import Conformance.Config.Json
import Conformance.Config.Load
import Conformance.Segment.Compile

/-!
The command line.

* `match [-i] <pattern> <value>...` compiles one segment and tests the values;
* `check <config>` loads a projection-set configuration and summarises it;
* `project <config> [items-file]` projects the items of a file, or of standard input, one
  per line, with `--strategy` and `--side` to override the configured strategy and pick the
  side (left by default);
* `help` shows the usage.

Configurations are JSON files. Errors are printed after `error: ` on standard error, and
the exit code is 1.
-/

set_option autoImplicit false

namespace Conformance.Cli

open Conformance.Config

/-- The usage text. -/
def usage : String :=
  "Usage: conformance <command> [options]

Commands:
  match [-i] <pattern> <value>...          Compile one segment and test values
  check <config>                           Validate a projection-set config
  project <config> [items-file]            Project items (stdin when no file)
      --strategy simple|first_letter|prefix_trie
      --side left|right                    (default: left)
  help                                     Show this help"

/-- The lines `match` prints for a compiled segment and its values. -/
def matchReport (m : Matcher) (values : List String) : List String :=
  ["kind:   " ++ m.kind.name, "prefix: " ++ Text.quote m.fixedPrefix,
   "suffix: " ++ Text.quote m.fixedSuffix, "groups: " ++ toString m.groupCount] ++
  values.map fun v =>
    let r := m.test v []
    if r.success then
      v ++ "\tmatch\t[" ++ ", ".intercalate (r.groups.map Text.quote) ++ "]"
    else v ++ "\tno match"

/-- Reads the options of `match`; gives the segment options and the other arguments. -/
def parseMatchArgs :
    List String → Segment.Options → Except String (Segment.Options × List String)
  | a :: rest, o =>
    if a == "--ignore-case" || a == "-i" then parseMatchArgs rest { o with ignoreCase := true }
    else if a.startsWith "--" then .error ("unexpected argument \"" ++ a ++ "\"")
    else .ok (o, a :: rest)
  | [], o => .ok (o, [])

/-- The lines `match` prints, or its error. -/
def runMatch (args : List String) : Except String (List String) := do
  let (o, rest) ← parseMatchArgs args {}
  match rest with
  | [] => throw "match requires a pattern"
  | pattern :: values =>
    match Segment.compile pattern o with
    | .error e => throw e.message
    | .ok m => pure (matchReport m values)

/-- The options of `project`. -/
structure ProjectArgs where
  config : String
  strategy : Option ProjectorStrategy := none
  side : Side := .left
  items : Option String := none

/-- Reads the options of `project`. -/
def parseProjectArgs (args : List String) : Except String ProjectArgs := do
  let rec go : List String → List String × Option ProjectorStrategy × Side →
      Except String (List String × Option ProjectorStrategy × Side)
    | [], acc => .ok acc
    | "--strategy" :: rest, (pos, _, side) =>
      match rest with
      | v :: more => do
        let s ← (ProjectorStrategy.parse v).mapError Error.message
        go more (pos, some s, side)
      | [] => .error "--strategy requires a value"
    | "--side" :: rest, (pos, strategy, _) =>
      match rest with
      | v :: more => do
        let s ← (Side.parse v).mapError Error.message
        go more (pos, strategy, s)
      | [] => .error "--side requires a value"
    | a :: rest, (pos, strategy, side) =>
      if a.startsWith "--" then .error ("unexpected argument \"" ++ a ++ "\"")
      else go rest (pos ++ [a], strategy, side)
  let (pos, strategy, side) ← go args ([], none, .left)
  match pos with
  | [] => throw "project requires a config file path"
  | [config] => pure { config, strategy, side }
  | [config, items] => pure { config, strategy, side, items := some items }
  | _ :: _ :: extra :: _ => throw ("unexpected argument \"" ++ extra ++ "\"")

/-- Reads a configuration from the text of a file. -/
def configOfText (path text : String) : Except String ProjectionSetConfig :=
  if (path.toList.reverse.take 5).reverse.map Char.toLower == ".json".toList then
    match parseJson text with
    | .error e => .error ("JSON parse error: " ++ e)
    | .ok v => (decodeProjectionSet v).mapError ("JSON parse error: " ++ ·)
  else .error "YAML parse error: only JSON configurations are read"

/-- Loads a configuration into a fresh registry. -/
def loadSet (c : ProjectionSetConfig) : Except Error ProjectionSet :=
  match (loadProjectionSet c).run {} with
  | .ok s _ => .ok s
  | .error e _ => .error e

/-- The line `check` prints for a loaded set. -/
def checkReport (s : ProjectionSet) : String :=
  "Config valid: " ++ toString s.len ++ " projections from " ++ s.sourceType.display ++ " to " ++
    s.targetType.display ++ " (" ++ s.strategy.name ++ ")"

/-- Projects the non-blank lines of a text, giving the output lines. -/
def projectLines (s : ProjectionSet) (side : Side) (lines : List String) : List String :=
  (lines.foldl (fun (acc : List String × ProjectionSet) line =>
    let text := Text.trimWhite line
    if text.isEmpty then acc
    else
      let (r, set) := acc.2.project (acc.2.parseItem text) side
      let out := match r with
        | some target => text ++ "\t" ++ target.display
        | none => text ++ "\t(no projection)"
      (out :: acc.1, set)) ([], s)).1.reverse

end Conformance.Cli

open Conformance Conformance.Cli

/-- Reads a file, or gives the error message. -/
def readText (path : String) : IO (Except String String) := do
  try
    pure (.ok (← IO.FS.readFile path))
  catch e =>
    pure (.error ("failed to read \"" ++ path ++ "\": " ++ toString e))

/-- Reads every line of standard input. -/
partial def readStdinLines (stream : IO.FS.Stream) (acc : Array String) : IO (Array String) := do
  let line ← stream.getLine
  if line.isEmpty then pure acc else readStdinLines stream (acc.push line)

/-- Prints an error and gives the failing exit code. -/
def failWith (msg : String) : IO UInt32 := do
  IO.eprintln ("error: " ++ msg)
  pure 1

/-- Loads the configuration at a path. -/
def loadConfig (path : String) : IO (Except String Config.ProjectionSetConfig) := do
  match ← readText path with
  | .error e => pure (.error e)
  | .ok text => pure (configOfText path text)

def main (args : List String) : IO UInt32 := do
  match args with
  | [] =>
    IO.eprintln usage
    pure 1
  | "match" :: rest =>
    match runMatch rest with
    | .error e => failWith e
    | .ok lines =>
      lines.forM IO.println
      pure 0
  | "check" :: rest =>
    match rest with
    | [path] =>
      match ← loadConfig path with
      | .error e => failWith e
      | .ok c =>
        match loadSet c with
        | .error e => failWith ("config invalid: " ++ e.message)
        | .ok s =>
          IO.println (checkReport s)
          pure 0
    | _ => failWith "check requires exactly one config file path"
  | "project" :: rest =>
    match parseProjectArgs rest with
    | .error e => failWith e
    | .ok opts =>
      match ← loadConfig opts.config with
      | .error e => failWith e
      | .ok c =>
        let c := match opts.strategy with
          | some s => { c with strategy := s }
          | none => c
        match loadSet c with
        | .error e => failWith ("config load failed: " ++ e.message)
        | .ok s =>
          let lines : Except String (List String) ← match opts.items with
            | some path =>
              try
                pure (.ok ((← IO.FS.readFile path).splitOn "\n"))
              catch e =>
                pure (.error ("failed to open \"" ++ path ++ "\": " ++ toString e))
            | none => pure (.ok (← readStdinLines (← IO.getStdin) #[]).toList)
          match lines with
          | .error e => failWith e
          | .ok ls =>
            (projectLines s opts.side ls).forM IO.println
            pure 0
  | cmd :: _ =>
    if cmd == "--help" || cmd == "-h" || cmd == "help" then
      IO.eprintln usage
      pure 0
    else
      IO.eprintln ("error: unknown command \"" ++ cmd ++ "\"")
      IO.eprintln usage
      pure 1
