import ClusterMap.Command.Options
import ClusterMap.Decimal.Nearest
import ClusterMap.Layout.Geometry

/-!
# What the program is asked to do

The first word of the command line names a command, and options follow it.
-/

namespace ClusterMap

namespace Command

/-- Settings that are given with a command. They go before those of the environment. -/
structure Overrides where
  snapshot : Option String
  cluster : Option String
deriving DecidableEq, Repr

/-- What to lay out, and how. -/
structure RenderOptions where
  overrides : Overrides
  viewport : Viewport Float32
  /-- Nodes to expand, before others are collapsed. -/
  expand : List String
  collapse : List String
  pretty : Bool

/-- Whose menu to print. -/
structure MenuOptions where
  overrides : Overrides
  nodeId : String
  pretty : Bool

end Command

/-- A command. -/
inductive Command where
  | render (options : Command.RenderOptions)
  | menu (options : Command.MenuOptions)
  | serve (address : String)
  | view (overrides : Command.Overrides)

namespace Command

/-- The options that override settings. -/
def overrideRules : List OptionRule := [⟨"snapshot", .once, fun _ => true⟩,
  ⟨"cluster", .once, fun _ => true⟩]

/-- The overrides among the given options. -/
def Given.overrides (g : Given) : Overrides := ⟨g.value? "snapshot", g.value? "cluster"⟩

/-- Whether a text is a number. -/
def isNumber (s : String) : Bool := (Decimal.readSingle? s).isSome

/-- Reads the options of `render`. -/
def parseRender (words : List String) : Except Stop Command := do
  let g ← readOptions (overrideRules ++ [⟨"width", .once, isNumber⟩, ⟨"height", .once, isNumber⟩,
    ⟨"expand", .repeated, fun _ => true⟩, ⟨"collapse", .repeated, fun _ => true⟩,
    ⟨"pretty", .switch, fun _ => true⟩]) [] words
  let side (name : String) (usual : Float32) : Float32 :=
    ((g.value? name).bind Decimal.readSingle?).getD usual
  let usual : Viewport Float32 := .standard
  .ok (.render { overrides := g.overrides
                 viewport := ⟨side "width" usual.width, side "height" usual.height⟩
                 expand := g.values "expand"
                 collapse := g.values "collapse"
                 pretty := g.has "pretty" })

/-- Reads the options of `menu`. -/
def parseMenu (words : List String) : Except Stop Command := do
  let g ← readOptions (overrideRules ++ [⟨"node", .once, fun _ => true⟩,
    ⟨"pretty", .switch, fun _ => true⟩]) [] words
  match g.value? "node" with
  | some nodeId => .ok (.menu ⟨g.overrides, nodeId, g.has "pretty"⟩)
  | none => .error .misuse

/-- Reads the options of `serve`. -/
def parseServe (words : List String) : Except Stop Command := do
  let g ← readOptions [⟨"bind", .once, fun _ => true⟩] [] words
  .ok (.serve ((g.value? "bind").getD "127.0.0.1:3000"))

/-- Reads the options of `view`. -/
def parseView (words : List String) : Except Stop Command := do
  let g ← readOptions overrideRules [] words
  .ok (.view g.overrides)

/-- Reads a request for help: no more than the name of one command may follow. -/
def parseHelp : List String → Stop
  | [] => .help
  | [word] =>
    if ["render", "menu", "serve", "view", "help"].contains word then .help else .misuse
  | _ => .misuse

/-- Reads a command line. -/
def parse : List String → Except Stop Command
  | "render" :: words => parseRender words
  | "menu" :: words => parseMenu words
  | "serve" :: words => parseServe words
  | "view" :: words => parseView words
  | "help" :: words => .error (parseHelp words)
  | word :: _ =>
    .error (if word.startsWith "-h" ∨ word = "--help" then .help else .misuse)
  | [] => .error .misuse

end Command

end ClusterMap
