/-!
# Command lines

A command line names a task and the file it works on.  Options may stand before the task, before the file
or after it; one that is given both before and after the task counts as given after it.  A lone `--` ends
the options.
-/
namespace Workflow

inductive Task where
  /-- Prints every issue. -/
  | validate
  /-- Lays the workflow out and writes it as a document. -/
  | layout
  /-- Writes the workflow as a document. -/
  | upgrade
  /-- Prints the sequential steps. -/
  | linearize
  /-- Prints counts. -/
  | info
deriving DecidableEq, Repr

def Task.named : List (String × Task) :=
  [("validate", .validate), ("layout", .layout), ("upgrade", .upgrade), ("linearize", .linearize),
    ("info", .info)]

/-- A task, the file it works on, and the files named by options. -/
structure Command where
  task : Task
  file : String
  /-- A palette to use in place of the standard one. -/
  palette : Option String
  /-- Settings to use in place of the standard ones. -/
  settings : Option String
  /-- Where to write a document, in place of standard output. -/
  output : Option String
deriving DecidableEq, Repr

namespace Command

inductive UsageError where
  | noTask
  | unknownTask (name : String)
  | noFile
  | extraWord (word : String)
  | unknownOption (spelling : String)
  | repeatedOption (spelling : String)
  | noValue (spelling : String)
deriving DecidableEq, Repr

def UsageError.message : UsageError → String
  | .noTask => "no task is named"
  | .unknownTask name => "there is no task '" ++ name ++ "'"
  | .noFile => "no file is named"
  | .extraWord word => "unexpected '" ++ word ++ "'"
  | .unknownOption spelling => "there is no option '" ++ spelling ++ "' here"
  | .repeatedOption spelling => "the option '" ++ spelling ++ "' is given twice"
  | .noValue spelling => "the option '" ++ spelling ++ "' needs a value"

/-- The options there are; each takes a value. -/
inductive Flag where
  | palette
  | settings
  | output
deriving DecidableEq, Repr

/-- The options that every task takes, by their spellings. -/
def commonFlags : List (String × Flag) := [("--schema", .palette), ("--config", .settings)]

def flagsOf : Task → List (String × Flag)
  | .layout | .upgrade => commonFlags ++ [("--output", .output), ("-o", .output)]
  | _ => commonFlags

structure Options where
  palette : Option String := none
  settings : Option String := none
  output : Option String := none

namespace Options

def get? (o : Options) : Flag → Option String
  | .palette => o.palette
  | .settings => o.settings
  | .output => o.output

def set (o : Options) (f : Flag) (v : String) : Options :=
  match f with
  | .palette => { o with palette := some v }
  | .settings => { o with settings := some v }
  | .output => { o with output := some v }

/-- The options of two places of a command line, the later place winning. -/
def orElse (later earlier : Options) : Options :=
  ⟨later.palette <|> earlier.palette, later.settings <|> earlier.settings, later.output <|> earlier.output⟩

end Options

inductive Argument where
  | word (text : String)
  /-- An option, with its value if that is part of the argument. -/
  | option (spelling : String) (value : Option String)
  /-- The end of the options. -/
  | divider

/-- A long option is divided from a value by an equals sign; a value may follow a short one at once. -/
def argument (text : String) : Argument :=
  match text.toList with
  | ['-', '-'] => .divider
  | '-' :: '-' :: _ =>
    match text.toList.span (· != '=') with
    | (name, '=' :: value) => .option (.ofList name) (some (.ofList value))
    | _ => .option text none
  | '-' :: c :: '=' :: value => .option (.ofList ['-', c]) (some (.ofList value))
  | ['-', c] => .option (.ofList ['-', c]) none
  | '-' :: c :: value => .option (.ofList ['-', c]) (some (.ofList value))
  | _ => .word text

inductive Stop where
  | done
  | word (text : String) (rest : List String)
  /-- A divider: all the rest are words. -/
  | divider (words : List String)

/-- Sets the value of an option that has none yet. -/
def setOnce (flags : List (String × Flag)) (o : Options) (spelling value : String) :
    Except UsageError Options :=
  match flags.lookup spelling with
  | none => .error (.unknownOption spelling)
  | some f => if (o.get? f).isSome then .error (.repeatedOption spelling) else .ok (o.set f value)

def upToWord (flags : List (String × Flag)) : List String → Options → Except UsageError (Options × Stop)
  | [], o => .ok (o, .done)
  | arg :: rest, o =>
    match argument arg with
    | .word text => .ok (o, .word text rest)
    | .divider => .ok (o, .divider rest)
    | .option spelling (some value) => do upToWord flags rest (← setOnce flags o spelling value)
    | .option spelling none =>
      match rest with
      | [] => .error (.noValue spelling)
      | value :: rest =>
        match argument value with
        | .word value => do upToWord flags rest (← setOnce flags o spelling value)
        | _ => .error (.noValue spelling)

def Stop.nothing : Stop → Except UsageError Unit
  | .done | .divider [] => .ok ()
  | .word text _ | .divider (text :: _) => .error (.extraWord text)

/-- Reads what follows the task: a file among options. -/
def fileAndOptions (flags : List (String × Flag)) (args : List String) :
    Except UsageError (String × Options) := do
  match ← upToWord flags args {} with
  | (_, .done) | (_, .divider []) => .error .noFile
  | (o, .divider (file :: rest)) =>
    (Stop.divider rest).nothing
    return (file, o)
  | (o, .word file rest) =>
    let (o, stop) ← upToWord flags rest o
    stop.nothing
    return (file, o)

def ofArguments (args : List String) : Except UsageError Command := do
  match ← upToWord commonFlags args {} with
  | (_, .done) | (_, .divider _) => .error .noTask
  | (before, .word name rest) =>
    match Task.named.lookup name with
    | none => .error (.unknownTask name)
    | some task =>
      let (file, after) ← fileAndOptions (flagsOf task) rest
      let o := after.orElse before
      return ⟨task, file, o.palette, o.settings, o.output⟩

end Command

end Workflow
