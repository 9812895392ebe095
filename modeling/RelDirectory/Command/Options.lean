import RelDirectory.Command.Line

/-!
# Commands and their options

The commands there are, and how a command line names one of them.
-/
set_option autoImplicit false
namespace RelDirectory

inductive Command where
  | healthCheck
  | reflect
  | attrType (name : String)
  | coerce (name : String) (values : List String)
  | search (base filter scope : String) (many : Bool)
  | dnExists (dn : String)
  | importFiles (paths : List String) (force : Bool)
  | execute (statement fetch : String)
deriving DecidableEq

structure Options where
  config : String
  outputJson : Bool
  logFormat : String
  verbosity : String
  diagnosticLog : Option String
  command : Command
deriving DecidableEq

namespace Options

open CommandLine

def help : OptionRule := ⟨"help", some 'h', false, false⟩

def flag (name : String) : OptionRule := ⟨name, none, false, false⟩

def valued (name : String) : OptionRule := ⟨name, none, true, false⟩

def grammar : Grammar :=
  { options := [⟨"config", some 'c', true, true⟩, flag "output-json", valued "log-format",
      valued "verbosity", ⟨"diagnostic-log", none, true, true⟩, help,
      ⟨"version", some 'V', false, false⟩]
    most := some 0
    least := 0
    emptyWords := true
    required := []
    hasCommands := true }

/-- The grammar of a command with between `least` and `most` positional words. -/
def plain (least : Nat) (most : Option Nat) (options : List OptionRule) : Grammar :=
  { options := options ++ [help]
    most := most
    least := least
    emptyWords := true
    required := []
    hasCommands := false }

def searchGrammar : Grammar :=
  { plain 0 (some 0) [valued "base", valued "filter", valued "scope", flag "all"] with
    required := ["filter"] }

def importGrammar : Grammar :=
  { plain 1 none [flag "force-reflect"] with emptyWords := false }

def commandNames : List String :=
  ["health-check", "reflect", "attr-type", "coerce", "search", "dn-exists", "import", "exec",
    "help"]

def word (w : Words) (n : Nat) : String := (w.positional[n]?).getD ""

def commandOf (name : String) (args : List String) : Except Halt Command :=
  match name with
  | "health-check" => do
    let _ ← read (plain 0 (some 0) []) args
    pure .healthCheck
  | "reflect" => do
    let _ ← read (plain 0 (some 0) []) args
    pure .reflect
  | "attr-type" => do
    let w ← read (plain 1 (some 1) []) args
    pure (.attrType (word w 0))
  | "coerce" => do
    let w ← read (plain 2 none []) args
    pure (.coerce (word w 0) (w.positional.drop 1))
  | "search" => do
    let w ← read searchGrammar args
    pure (.search ((w.value? "base").getD "o=jans") ((w.value? "filter").getD "")
      ((w.value? "scope").getD "sub") (w.has "all"))
  | "dn-exists" => do
    let w ← read (plain 1 (some 1) []) args
    pure (.dnExists (word w 0))
  | "import" => do
    let w ← read importGrammar args
    pure (.importFiles w.positional (w.has "force-reflect"))
  | "exec" => do
    let w ← read (plain 1 (some 1) [valued "fetch"]) args
    pure (.execute (word w 0) ((w.value? "fetch").getD "none"))
  | "help" => .error (if args.length ≤ 1 ∧ args.all commandNames.contains then .help else .usage)
  | _ => .error .usage

def read (args : List String) : Except Halt Options := do
  let w ← CommandLine.read grammar args
  match w.command with
  | none => .error .usage
  | some (name, rest) =>
    let command ← commandOf name rest
    pure
      { config := (w.value? "config").getD "config.yaml"
        outputJson := w.has "output-json"
        logFormat := (w.value? "log-format").getD "text"
        verbosity := (w.value? "verbosity").getD "info"
        diagnosticLog := w.value? "diagnostic-log"
        command := command }

end Options

end RelDirectory
