import TypedSearch.CommandLine.Run

/-!
The program: it reads the variables and the files that a command line names, carries it out and prints
what it leaves behind.
-/

open TypedSearch CommandLine

namespace TypedSearch.Program

/-- What the system says of a file that is not there. -/
def missingFile : String := "No such file or directory (os error 2)"

def reason : IO.Error → String
  | .noFileOrDirectory _ _ _ => missingFile
  | .permissionDenied _ _ _ => "Permission denied (os error 13)"
  | .inappropriateType _ _ details =>
    if details.toLower = "is a directory" then "Is a directory (os error 21)"
    else "Not a directory (os error 20)"
  | other => toString other

/-- The text of a file, or why it cannot be read. -/
def readText (path : String) : BaseIO (Except String String) := do
  match ← (IO.FS.readBinFile path).toBaseIO with
  | .error failure => return .error (reason failure)
  | .ok bytes =>
    return match String.fromUTF8? bytes with
      | some text => .ok text
      | none => .error "stream did not contain valid UTF-8"

/-- Pairs the names that a command line may look up with what an action finds for them. -/
def gather {α : Type} (find : String → BaseIO α) (names : List String) :
    BaseIO (List (String × α)) :=
  names.mapM fun name => do return (name, ← find name)

def surroundings (paths : List String) : BaseIO Surroundings := do
  let environment ← gather (fun name => IO.getEnv name)
    [EngineConfig.urlVariable, EngineConfig.indexVariable, EngineConfig.logVariable]
  let files ← gather readText paths
  return ⟨fun name => (environment.lookup name).join,
    fun path => (files.lookup path).getD (.error missingFile)⟩

end TypedSearch.Program

/-- Carries out the command line that the program was started with. -/
def main (words : List String) : IO UInt32 := do
  let paths :=
    match Invocation.ofWords words with
    | .ok invocation => invocation.paths
    | .error _ => []
  let outcome := run .merge (← Program.surroundings paths) words
  IO.print outcome.output
  IO.eprint outcome.complaint
  return outcome.status
