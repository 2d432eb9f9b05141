import GuardedQuery.Settings.Basic

/-!
# Command line

`-c FILE` or `--config FILE` names a file of settings in JSON; environment variables go on top. The
settings are checked, and `--print-config` prints them as JSON.
-/

namespace GuardedQuery

/-- What is asked for on the command line. -/
structure Options where
  file : Option String
  printsSettings : Bool
  deriving DecidableEq, Repr

namespace Options

/-- Reads the arguments, or says which one is wrong. -/
def ofArguments : List String → Options → Except String Options
  | [], o => .ok o
  | "--print-config" :: rest, o => ofArguments rest { o with printsSettings := true }
  | "-c" :: file :: rest, o => ofArguments rest { o with file := some file }
  | "--config" :: file :: rest, o => ofArguments rest { o with file := some file }
  | argument :: _, _ => .error argument

end Options

/-- The variables in the text of an environment: each is a name, `=` and a value, and ends in NUL. -/
def Variable.listOfText (s : String) : List (String × String) :=
  (s.splitOn "\x00").filterMap fun entry =>
    match entry.splitOn "=" with
    | name :: first :: rest => some (name, String.intercalate "=" (first :: rest))
    | _ => none

/-- The variables of the environment, where the system shows them as a file. -/
def environment : IO (List (String × String)) := do
  try return Variable.listOfText (← IO.FS.readFile "/proc/self/environ")
  catch _ => return []

/-- The settings of a file and the environment, or a message. -/
def settings (file : Option String) : IO (Except String Settings) := do
  let document ← match file with
    | none => pure none
    | some path =>
      try pure (some (Document.ofText (← IO.FS.readFile path)).document)
      catch _ => return .error (SettingsError.missingFile path).message
  return (Settings.load document (← environment)).mapError SettingsError.message

/-- Checks settings and prints them on request; the exit code. -/
def run (arguments : List String) : IO UInt32 := do
  match Options.ofArguments arguments ⟨none, false⟩ with
  | .error argument =>
    IO.eprintln ("unexpected argument " ++ argument)
    return 2
  | .ok options =>
    match ← settings options.file with
    | .error message =>
      IO.eprintln ("Error: " ++ message)
      return 1
    | .ok s =>
      if options.printsSettings then IO.println s.toJson.text
      return 0

end GuardedQuery

def main (arguments : List String) : IO UInt32 := GuardedQuery.run arguments
