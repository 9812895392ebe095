import RelDirectory.Text.Split

/-!
# Command lines

Reading the words of a command line by a grammar of options and positional words.  An option's
value follows it as the next word, behind `=`, or right behind a short name; a word that begins
with `-` is no value.  After `--` every word is positional.  An option comes at most once.
-/
set_option autoImplicit false
namespace RelDirectory.CommandLine

structure OptionRule where
  name : String
  short : Option Char
  takesValue : Bool
  /-- Whether an empty value is refused. -/
  nonEmpty : Bool

structure Grammar where
  options : List OptionRule
  /-- The greatest number of positional words, if there is one. -/
  most : Option Nat
  least : Nat
  /-- Whether positional words may be empty. -/
  emptyWords : Bool
  /-- Options that have to be given. -/
  required : List String
  /-- Whether the first positional word names a command of its own, with the words after it. -/
  hasCommands : Bool

/-- Why no command is run. -/
inductive Halt where
  | usage
  | help
  | version
deriving DecidableEq

structure Words where
  /-- The options given, with their values; the value of a flag is empty. -/
  options : List (String × String)
  positional : List String
  /-- The word that names a command, and the words after it. -/
  command : Option (String × List String)

def Words.empty : Words := ⟨[], [], none⟩

def Words.value? (w : Words) (name : String) : Option String :=
  (w.options.find? (·.1 == name)).map (·.2)

def Words.has (w : Words) (name : String) : Bool := (w.value? name).isSome

def setOption (rule : OptionRule) (value : String) (w : Words) : Except Halt Words :=
  if w.has rule.name ∨ (rule.nonEmpty ∧ value = "") then .error .usage
  else .ok { w with options := w.options ++ [(rule.name, value)] }

/-- Whether a word cannot be the value of the option before it. -/
def isDashed (word : String) : Bool := word.startsWith "-" && word != "-"

/-- What a word with dashes does: it sets an option, or announces one whose value is to come. -/
structure Effect where
  words : Words
  pending : Option OptionRule

def long (g : Grammar) (cs : List Char) (w : Words) : Except Halt Effect :=
  let (name, value?) : List Char × Option (List Char) :=
    match Text.cutAt '=' cs with
    | some (name, value) => (name, some value)
    | none => (cs, none)
  match g.options.find? fun o => o.name == String.ofList name with
  | none => .error .usage
  | some rule =>
    match value? with
    | some value =>
      if rule.takesValue then (setOption rule (String.ofList value) w).map (⟨·, none⟩)
      else .error .usage
    | none =>
      if rule.name = "help" then .error .help
      else if rule.name = "version" then .error .version
      else if rule.takesValue then .ok ⟨w, some rule⟩
      else (setOption rule "" w).map (⟨·, none⟩)

def short (g : Grammar) (w : Words) : List Char → Except Halt Effect
  | [] => .ok ⟨w, none⟩
  | c :: cs =>
    match g.options.find? fun o => o.short == some c with
    | none => .error .usage
    | some rule =>
      if rule.name = "help" then .error .help
      else if rule.name = "version" then .error .version
      else if rule.takesValue then
        match cs with
        | [] => .ok ⟨w, some rule⟩
        | '=' :: value => (setOption rule (String.ofList value) w).map (⟨·, none⟩)
        | value => (setOption rule (String.ofList value) w).map (⟨·, none⟩)
      else do
        let w ← setOption rule "" w
        short g w cs

def addWord (g : Grammar) (word : String) (w : Words) : Except Halt Words :=
  let full := (g.most.map fun n => decide (n ≤ w.positional.length)).getD false
  if full ∨ (word = "" ∧ ¬ g.emptyWords) then .error .usage
  else .ok { w with positional := w.positional ++ [word] }

/-- Reads words, `pending` being an option that waits for its value. -/
def scan (g : Grammar) (trailing : Bool) (pending : Option OptionRule) (w : Words) :
    List String → Except Halt Words
  | [] => if pending.isSome then .error .usage else .ok w
  | word :: rest =>
    match pending with
    | some rule =>
      if isDashed word then .error .usage
      else
        match setOption rule word w with
        | .error h => .error h
        | .ok w => scan g trailing none w rest
    | none =>
      if trailing then
        match addWord g word w with
        | .error h => .error h
        | .ok w => scan g true none w rest
      else if word = "--" then scan g true none w rest
      else
        match word.toList with
        | '-' :: '-' :: cs =>
          match long g cs w with
          | .error h => .error h
          | .ok e => scan g false e.pending e.words rest
        | '-' :: c :: cs =>
          match short g w (c :: cs) with
          | .error h => .error h
          | .ok e => scan g false e.pending e.words rest
        | _ =>
          if g.hasCommands then .ok { w with command := some (word, rest) }
          else
            match addWord g word w with
            | .error h => .error h
            | .ok w => scan g false none w rest

def read (g : Grammar) (args : List String) : Except Halt Words := do
  let w ← scan g false none .empty args
  if w.positional.length < g.least ∨ g.required.any (fun name => !w.has name) then .error .usage
  else pure w

end RelDirectory.CommandLine
