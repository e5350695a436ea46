import WireSchema.Compilation
import WireSchema.Expression.Matching
import WireSchema.Json.Layout
import WireSchema.Rendering
import WireSchema.Text.Encoding

-- The two commands: one checks schema files, the other writes the schema as JSON.
namespace WireSchema

inductive Command where
  | check (options : Options)
  | dump (options : Options) (output : Option String)
deriving DecidableEq

namespace Command

structure Arguments where
  root : Option String
  output : Option String
  deprecated : Bool
  patterns : List String

inductive Setting where
  | root | output

namespace Arguments

-- Gives an option its value. Paths are not empty, and an option comes once.
def set? (setting : Setting) (value : String) (found : Arguments) : Option Arguments :=
  match setting with
  | .root => if value.isEmpty || found.root.isSome then none else some { found with root := some value }
  | .output =>
    if value.isEmpty || found.output.isSome then none else some { found with output := some value }

def options (found : Arguments) : Options :=
  Options.sanitized ⟨found.root.getD ".", found.patterns, found.deprecated⟩

end Arguments

def setting? (hasOutput : Bool) (name : String) : Option Setting :=
  if name = "--root" ∨ name = "-r" then some .root
  else if hasOutput ∧ (name = "--output" ∨ name = "-o") then some .output
  else none

def isOption (argument : String) : Bool :=
  match argument.toList with
  | '-' :: _ :: _ => true
  | _ => false

-- An option with the value attached to it: behind an equals sign, or straight behind a short name.
def attached? (argument : String) : Option (String × String) :=
  match argument.toList with
  | '-' :: '-' :: _ =>
    (Text.cut? '=' argument.toList).map fun (name, value) => (.ofList name, .ofList value)
  | '-' :: letter :: '=' :: value => some (.ofList ['-', letter], .ofList value)
  | '-' :: letter :: c :: value => some (.ofList ['-', letter], .ofList (c :: value))
  | _ => none

-- Reads arguments; nothing comes of a wrong one. After two dashes everything is a pattern. A value
-- that stands on its own does not look like an option.
def arguments? (hasOutput : Bool) (found : Arguments) : List String → Option Arguments
  | [] => some found
  | argument :: rest =>
    if argument = "--" then some { found with patterns := found.patterns ++ rest }
    else if !isOption argument then
      arguments? hasOutput { found with patterns := found.patterns ++ [argument] } rest
    else if argument = "--deprecated" then
      if found.deprecated then none else arguments? hasOutput { found with deprecated := true } rest
    else
      match setting? hasOutput argument with
      | some setting =>
        match rest with
        | [] => none
        | value :: more =>
          if isOption value then none
          else (found.set? setting value).bind (arguments? hasOutput · more)
      | none => do
        let (name, value) ← attached? argument
        let setting ← setting? hasOutput name
        (found.set? setting value).bind (arguments? hasOutput · rest)

def ofArguments? : List String → Option Command
  | "check" :: rest => (arguments? false ⟨none, none, false, []⟩ rest).map (fun found => .check found.options)
  | "dump" :: rest =>
    (arguments? true ⟨none, none, false, []⟩ rest).map (fun found => .dump found.options found.output)
  | _ => none

end Command

structure Outcome where
  code : Nat
  stdout : String
  stderr : String
  written : Option (String × List UInt8)
  tree : FileTree

namespace Workspace
open Text
variable [Regex]

def finish (w : Workspace) (code : Nat) (stdout stderr : String) : Outcome :=
  ⟨code, stdout, stderr, none, w.tree⟩

def reportProblems (w : Workspace) (problems : Problems) : Outcome :=
  w.finish 1 "" (.join (problems.map (fun p => p.text Problem.message ++ "\n")))

def reportError (w : Workspace) (message : String) : Outcome :=
  w.finish 1 "" ("error: " ++ message ++ "\n")

def reportFailure (w : Workspace) : Failure → Outcome
  | .schema problems => w.reportProblems problems
  | failure => w.reportError failure.message

def check (w : Workspace) (options : Options) : Outcome :=
  match w.understandFiles options.rootDirectory options.patterns with
  | .error failure => w.reportFailure failure
  | .ok (schema, problems) =>
    if problems.isEmpty then
      w.finish 0 (Decimal.text schema.files.length ++ " file(s) ok\n") ""
    else w.reportProblems problems

def dump (w : Workspace) (options : Options) (output : Option String) : Outcome :=
  match w.compile options with
  | .error failure => w.reportFailure failure
  | .ok schema =>
    match output with
    | none => w.finish 0 (schema.json.text ++ "\n") ""
    | some path =>
      let content := encode schema.json.text.toList
      match w.tree.write w.here path content with
      | .error error => w.reportError error.message
      | .ok tree => ⟨0, "Schema written to " ++ path ++ "\n", "", some (path, content), tree⟩

def run (w : Workspace) : Command → Outcome
  | .check options => w.check options
  | .dump options output => w.dump options output

end Workspace
end WireSchema
