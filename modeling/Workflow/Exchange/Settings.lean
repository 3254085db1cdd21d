import Workflow.Json.Read
import Workflow.Settings
/-!
# Settings as JSON

Settings are read over the standard ones: what a text does not mention keeps its standard value.
-/
namespace Workflow

open Json

/-! ## Points and boxes -/

section

variable {σ : Type} [Readable σ]

def Point.fields : List (Field σ (Point Float)) :=
  [.needed "x" readFloat fun p x => { p with x }, .needed "y" readFloat fun p y => { p with y }]

def readPoint : Reader σ (Point Float) := readRecord "Point" Point.fields .origin

def Size.fields : List (Field σ (Size Float)) :=
  [.needed "width" readFloat fun s width => { s with width },
    .needed "height" readFloat fun s height => { s with height }]

def readSize : Reader σ (Size Float) := readRecord "Size" Size.fields ⟨0, 0⟩

end

def Point.toValue (p : Point Float) : Value := .object [("x", .ofFloat p.x), ("y", .ofFloat p.y)]

def Size.toValue (s : Size Float) : Value :=
  .object [("width", .ofFloat s.width), ("height", .ofFloat s.height)]

/-! ## Settings -/

section

variable {σ : Type} [Readable σ]

def ZoomSettings.fields : List (Field σ (ZoomSettings Float)) :=
  [.optional "min" readFloat fun s min => { s with min },
    .optional "max" readFloat fun s max => { s with max },
    .optional "wheelStep" readFloat fun s wheelStep => { s with wheelStep },
    .optional "buttonStep" readFloat fun s buttonStep => { s with buttonStep }]

def WireSettings.fields : List (Field σ (WireSettings Float)) :=
  [.optional "nodeSize" readSize fun s nodeSize => { s with nodeSize },
    .optional "successPortRatio" readFloat fun s successPortRatio => { s with successPortRatio },
    .optional "errorPortRatio" readFloat fun s errorPortRatio => { s with errorPortRatio },
    .optional "curvatureFactor" readFloat fun s curvatureFactor => { s with curvatureFactor },
    .optional "maxCurvature" readFloat fun s maxCurvature => { s with maxCurvature },
    .optional "labelLift" readFloat fun s labelLift => { s with labelLift }]

def PlacementSettings.fields : List (Field σ (PlacementSettings Float)) :=
  [.optional "startPosition" readPoint fun s startPosition => { s with startPosition },
    .optional "dropOffset" readPoint fun s dropOffset => { s with dropOffset },
    .optional "legacyColumnX" readFloat fun s stepColumnX => { s with stepColumnX },
    .optional "legacyFirstRowY" readFloat fun s firstStepY => { s with firstStepY },
    .optional "legacyRowPitch" readFloat fun s stepPitch => { s with stepPitch },
    .optional "layoutOrigin" readPoint fun s layoutOrigin => { s with layoutOrigin },
    .optional "layoutLevelWidth" readFloat fun s levelWidth => { s with levelWidth },
    .optional "layoutNodePitch" readFloat fun s nodePitch => { s with nodePitch }]

def Settings.fields : List (Field σ (Settings Float)) :=
  [.optional "zoom" (readRecord "ZoomConfig" ZoomSettings.fields .standard) fun s zoom => { s with zoom },
    .optional "routing" (readRecord "RoutingConfig" WireSettings.fields .standard)
      fun s wires => { s with wires },
    .optional "placement" (readRecord "PlacementConfig" PlacementSettings.fields .standard)
      fun s placement => { s with placement },
    .optional "edgeDeleteWindowMs" (readWord "u64") fun s deleteMillis => { s with deleteMillis }]

/-- Settings over the standard ones. -/
def readSettings : Reader σ (Settings Float) := readRecord "EditorConfig" Settings.fields .standard

end

inductive SettingsError where
  | unreadable (e : ReadError)
  | file (path reason : String)
  | invalid (f : Settings.Fault Float)

def SettingsError.message : SettingsError → String
  | .unreadable e => "Failed to parse editor config JSON: " ++ e.message
  | .file path reason => "Could not read config file '" ++ path ++ "': " ++ reason
  | .invalid f => "Invalid editor config: " ++ f.message

namespace Settings

def check (s : Settings Float) : Except SettingsError Unit :=
  match s.fault? with
  | none => .ok ()
  | some f => .error (.invalid f)

/-- The settings of a text, checked. -/
def ofText (text : String) : Except SettingsError (Settings Float) := do
  let s ← (readText readSettings text).mapError .unreadable
  s.check
  return s

def ofFile (path : String) (content : Except String String) : Except SettingsError (Settings Float) := do
  ofText (← content.mapError (.file path))

def toValue (s : Settings Float) : Value :=
  .object
    [("zoom", .object
        [("min", .ofFloat s.zoom.min), ("max", .ofFloat s.zoom.max),
          ("wheelStep", .ofFloat s.zoom.wheelStep), ("buttonStep", .ofFloat s.zoom.buttonStep)]),
      ("routing", .object
        [("nodeSize", s.wires.nodeSize.toValue), ("successPortRatio", .ofFloat s.wires.successPortRatio),
          ("errorPortRatio", .ofFloat s.wires.errorPortRatio),
          ("curvatureFactor", .ofFloat s.wires.curvatureFactor),
          ("maxCurvature", .ofFloat s.wires.maxCurvature), ("labelLift", .ofFloat s.wires.labelLift)]),
      ("placement", .object
        [("startPosition", s.placement.startPosition.toValue),
          ("dropOffset", s.placement.dropOffset.toValue),
          ("legacyColumnX", .ofFloat s.placement.stepColumnX),
          ("legacyFirstRowY", .ofFloat s.placement.firstStepY),
          ("legacyRowPitch", .ofFloat s.placement.stepPitch),
          ("layoutOrigin", s.placement.layoutOrigin.toValue),
          ("layoutLevelWidth", .ofFloat s.placement.levelWidth),
          ("layoutNodePitch", .ofFloat s.placement.nodePitch)]),
      ("edgeDeleteWindowMs", .ofWord s.deleteMillis)]

end Settings

end Workflow
