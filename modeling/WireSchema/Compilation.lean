import WireSchema.Binding
import WireSchema.Json.Document
import WireSchema.Schema
import WireSchema.Workspace

-- From a directory and patterns to a schema.
namespace WireSchema

structure Options where
  rootDirectory : String
  patterns : List String
  keepDeprecated : Bool
deriving DecidableEq

namespace Options
open Json

def default : Options := ⟨".", [], false⟩

def defaultPattern : String := "**/*.mprot"

def sanitized (o : Options) : Options :=
  { o with
    rootDirectory := if o.rootDirectory.isEmpty then "." else o.rootDirectory
    patterns := if o.patterns.isEmpty then [defaultPattern] else o.patterns }

def text? : Document → Option String
  | .string text => text
  | _ => none

def texts? : Document → Option (List String)
  | .array items => items.mapM text?
  | _ => none

def flag? : Document → Option Bool
  | .bool value => some value
  | _ => none

-- Settings given by name. An unknown name is passed over, a known one may come once.
def ofMembers? (o : Options) (seen : List String) :
    List (Option String × Document) → Option Options
  | [] => some o
  | (none, _) :: _ => none
  | (some key, value) :: rest => do
    if seen.contains key then none
    else if key = "root_directory" then
      ofMembers? { o with rootDirectory := ← text? value } (key :: seen) rest
    else if key = "glob_patterns" then
      ofMembers? { o with patterns := ← texts? value } (key :: seen) rest
    else if key = "keep_deprecated" then
      ofMembers? { o with keepDeprecated := ← flag? value } (key :: seen) rest
    else ofMembers? o seen rest

-- Settings from JSON text: an object, or the settings in order, of which the last may be left out.
def ofJson? (text : String) : Option Options := do
  match ← Document.ofText? text.toList with
  | .object members => ofMembers? default [] members
  | .array items =>
    match items with
    | [] => pure default
    | [root] => pure { default with rootDirectory := ← text? root }
    | [root, patterns] =>
      pure { default with rootDirectory := ← text? root, patterns := ← texts? patterns }
    | [root, patterns, keep] => pure ⟨← text? root, ← texts? patterns, ← flag? keep⟩
    | _ => none
  | _ => none

end Options

namespace Workspace
variable [Regex]

def understandFile (w : Workspace) (path : String) : Except Failure (SourceFile × Problems) := do
  pure (SourceFile.understand path (← w.read path))

def understandFiles (w : Workspace) (root : String) (patterns : List String) :
    Except Failure (Schema × Problems) := do
  let location ← w.locate root
  let found ← w.search location patterns
  let files ← found.mapM (fun l => w.understandFile l.path)
  let schema : Schema := ⟨location.path, files.map (·.1)⟩
  pure (schema, Findings.sort (files.flatMap (·.2) ++ schema.missingTypes))

def compile (w : Workspace) (options : Options) : Except Failure Schema := do
  let options := options.sanitized
  let (schema, problems) ← w.understandFiles options.rootDirectory options.patterns
  if !problems.isEmpty then throw (.schema problems)
  pure (if options.keepDeprecated then schema
    else { schema with files := schema.files.map (·.withoutDeprecated) })

end Workspace
end WireSchema
