import Std.Data.ExtTreeMap
import Workflow.Palette.Entry
import Workflow.Graph.Node
/-!
# Palettes

A palette knows kinds of nodes by their tags.  The graph never asks what a kind is; all it knows of kinds
beyond the start is what its palette says.  A kind that the palette does not know starts without data.
-/
namespace Workflow

open Json (Object)

/-- The kinds of nodes that are known, by tag. -/
structure Palette where
  entries : Std.ExtTreeMap String Palette.Entry

namespace Palette

/-- The category of an entry that names none. -/
def defaultCategory : String := "basic"

def empty : Palette := ⟨∅⟩

/-- Adds the entry of a tag, or replaces it. -/
def insert (p : Palette) (tag : String) (e : Entry) : Palette := ⟨p.entries.insert tag e⟩

/-- The palette of some entries, the last of a tag winning. -/
def ofList (entries : List (String × Entry)) : Palette :=
  entries.foldl (fun p e => p.insert e.1 e.2) empty

def get? (p : Palette) (k : Kind) : Option Entry := p.entries[k.tag]?

def contains (p : Palette) (k : Kind) : Bool := p.entries.contains k.tag

def defaultData (p : Palette) (k : Kind) : Object :=
  match p.get? k with
  | some e => e.defaultData
  | none => .empty

def category (p : Palette) (k : Kind) : String :=
  ((p.get? k).bind (·.category)).getD defaultCategory

/-- The title of a kind: its tag if nothing is known of it. -/
def title (p : Palette) (k : Kind) : String := ((p.get? k).map (·.title)).getD k.tag

/-- The tags that are known, in increasing order. -/
def tags (p : Palette) : List String := p.entries.keys

def size (p : Palette) : Nat := p.entries.size

def isEmpty (p : Palette) : Bool := p.entries.isEmpty

end Palette

end Workflow
