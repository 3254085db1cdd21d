import Workflow.Command.Line
import Workflow.Exchange.Import
import Workflow.Exchange.Palette
import Workflow.Exchange.Settings
import Workflow.Layout
import Workflow.Palette.Browser
import Workflow.Validation
/-!
# Running commands

A command is a function from the files it names to a report: what goes to standard output, the notes beside
it, and whether all went well.  A command may end by writing one file (`Ending.write`); the report is
finished by what came of that.

Nothing is read but the files in `Command.paths`.  They are asked for in a fixed order, palette, settings,
workflow, and the first that cannot be had is the one the report complains of.
-/
namespace Workflow

namespace Command

structure Report where
  output : String := ""
  notes : List String := []
  success : Bool := true
deriving DecidableEq, Repr

namespace Report

def fail (r : Report) (message : String) : Report :=
  { r with notes := r.notes ++ ["Error: " ++ message], success := false }

def note (r : Report) (text : String) : Report := { r with notes := r.notes ++ [text] }

def line (r : Report) (text : String) : Report := { r with output := r.output ++ text ++ "\n" }

end Report

/-- How a command ends: with a report, or by writing a file first. -/
inductive Ending where
  | report (r : Report)
  | write (path text : String) (r : Report)

/-- The report of a command that ends by writing a file, given what writing it gave. -/
def Report.written (r : Report) (path : String) (result : Except String Unit) : Report :=
  match result with
  | .ok _ => r.note ("Wrote '" ++ path ++ "'")
  | .error reason => r.fail reason

def paths (c : Command) : List String := c.palette.toList ++ c.settings.toList ++ [c.file]

/-- How files read: their texts, or why there is none. -/
abbrev Files := String → Except String String

def loadPalette (c : Command) (files : Files) : Except String Palette :=
  match c.palette with
  | none => .ok .standard
  | some path => (Palette.ofFile path (files path)).mapError (·.message)

def loadSettings (c : Command) (files : Files) : Except String (Settings Float) :=
  match c.settings with
  | none => .ok .standard
  | some path => (Settings.ofFile path (files path)).mapError (·.message)

def load (c : Command) (files : Files) : Except String (Settings Float × Imported) := do
  let palette ← c.loadPalette files
  let settings ← c.loadSettings files
  let imported ← (Import.ofFile palette settings.placement c.file (files c.file)).mapError (·.message)
  return (settings, imported)

/-- A note for each record that was left out. -/
def skippedNotes (i : Imported) : List String := i.skipped.map fun s => "Skipped " ++ s.text

def writeDocument (c : Command) (g : Graph Float) (created : Option Timestamp) (r : Report) : Ending :=
  let text := (Document.ofGraph g .edit created).text
  match c.output with
  | some path => .write path text r
  | none => .report (r.line text)

def validation (i : Imported) : Report :=
  let v := i.graph.validate
  { output := v.text, notes := skippedNotes i, success := !v.hasErrors }

def layoutNote (r : Layout.Report Float) : String :=
  "Placed " ++ toString r.placed.length ++ " node(s) in " ++ toString r.columns ++ " level(s), "
    ++ toString r.untouched.length ++ " left in place"

/-- Says that there was nothing to upgrade, if so. -/
def upgradeNotes (c : Command) (i : Imported) : List String :=
  if i.source = .steps then []
  else ["Note: '" ++ c.file ++ "' is already a " ++ i.source.text ++ " document"]

def summary (i : Imported) : Report :=
  let start := match i.graph.startId with
    | some id => id.text
    | none => "(none)"
  let r := (({} : Report).line ("Format:      " ++ i.source.text)
    |>.line ("Nodes:       " ++ toString i.graph.nodeCount)
    |>.line ("Connections: " ++ toString i.graph.edgeCount)
    |>.line ("Start node:  " ++ start))
  if i.isLossless then r else r.line ("Skipped:     " ++ toString i.skipped.length)

/-- Runs a command on files, at some moment if one is told. -/
def run (c : Command) (files : Files) (now : Option Timestamp) : Ending :=
  match c.load files with
  | .error message => .report (({} : Report).fail message)
  | .ok (settings, i) =>
    match c.task with
    | .validate => .report (validation i)
    | .layout =>
      let (report, g) := Layout.arrange i.graph settings.placement
      c.writeDocument g now { notes := [layoutNote report] }
    | .upgrade => c.writeDocument i.graph now { notes := skippedNotes i ++ c.upgradeNotes i }
    | .linearize =>
      .report (({} : Report).line (Json.Value.array (i.graph.steps.map (·.toValue))).pretty)
    | .info => .report (summary i)

end Command

end Workflow
