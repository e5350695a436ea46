import WireSchema.Text.Writing
import WireSchema.Token.Kind

-- Everything that can be wrong inside a schema file. None of it stops the file from being read.
-- Types come as they are written.
namespace WireSchema
open Text

inductive Problem where
  | lexical (error : LexicalError)
  -- the order of tokens
  | unexpectedEnd (expected : TokenKind)
  | unexpectedNewline (expected : TokenKind)
  | unexpectedToken (found : String) (expected : TokenKind)
  | strayToken (found : String)
  | strayIdentifier (found : String)
  | notConstant (found : String)
  -- imports
  | importPath (path : String)
  | importRedefined (name : String)
  -- tag strings
  | missingTagString
  | invalidOrdinal (found : String)
  | tagFormat (literal : String)
  | openTagValue (key : String)
  -- types
  | arraySize (found : String)
  | nestedArray (type : String)
  | pointerTarget (type : String)
  | undefinedType (name : String)
  | typeRedeclared (name : String) (first : Position)
  -- rules between the members of a declaration
  | constantRedeclared (name : String) (first : Position)
  | duplicateEnumerator (name enumeration : String)
  | duplicateField (name struct : String)
  | duplicateFieldOrdinal (ordinal : Int) (name struct : String)
  | serviceField (name struct : String)
  | emptyUnion (union : String)
  | pointerBranch (type union : String)
  | rawBranch (union : String)
  | duplicateBranch (type union : String)
  | repeatedBranch (type union : String) (only : String)
  | unionBranch (type union : String)
  | serviceBranch (type union : String)
  | duplicateNumericBranch (type union : String)
  | duplicateBranchOrdinal (ordinal : Int) (type union : String)
  | duplicateMethod (name service : String)
  | duplicateMethodOrdinal (ordinal : Int) (name service : String)
  | serviceArgument (method service : String)
  | serviceResult (method service : String)
deriving DecidableEq

namespace Problem

def message : Problem → String
  | .lexical error => error.message
  | .unexpectedEnd expected => "unexpected end of file (" ++ expected.text ++ " expected)"
  | .unexpectedNewline expected => "unexpected newline (" ++ expected.text ++ " expected)"
  | .unexpectedToken found expected =>
    "unexpected token " ++ quote found ++ " (" ++ expected.text ++ " expected)"
  | .strayToken found => "unexpected token " ++ quote found
  | .strayIdentifier found => "unexpected identifier " ++ quote found
  | .notConstant found => "unexpected token " ++ quote found ++ " in constant declaration"
  | .importPath path => "invalid import path " ++ quote path
  | .importRedefined name => "import " ++ quote name ++ " already defined"
  | .missingTagString => "missing tag string"
  | .invalidOrdinal found => "invalid ordinal " ++ quote found
  | .tagFormat literal => "invalid tag format " ++ literal
  | .openTagValue key => "tag value string not closed for " ++ quote key
  | .arraySize found => "invalid array size " ++ found
  | .nestedArray type => "multidimensional array " ++ type ++ " not supported"
  | .pointerTarget type => "pointer type *" ++ type ++ " not supported"
  | .undefinedType name => "undefined type " ++ name
  | .typeRedeclared name first => "type " ++ name ++ " redeclared (see position " ++ first.text ++ ")"
  | .constantRedeclared name first =>
    "constant " ++ name ++ " redeclared (see position " ++ first.text ++ ")"
  | .duplicateEnumerator name enumeration =>
    "duplicate enumerator " ++ name ++ " in enum " ++ enumeration
  | .duplicateField name struct => "duplicate field " ++ name ++ " in struct " ++ struct
  | .duplicateFieldOrdinal ordinal name struct =>
    "duplicate ordinal " ++ Decimal.text ordinal ++ " for field " ++ name ++ " in struct " ++ struct
  | .serviceField name struct => "service field " ++ name ++ " in struct " ++ struct
  | .emptyUnion union => "union " ++ union ++ " does not contain a branch"
  | .pointerBranch type union => "pointer branch " ++ type ++ " in union " ++ union
  | .rawBranch union => "raw branch in union " ++ union
  | .duplicateBranch type union => "duplicate branch " ++ type ++ " in union " ++ union
  | .repeatedBranch type union only =>
    "duplicate branch " ++ type ++ " in union " ++ union ++ " (only one " ++ only ++ " branch is allowed)"
  | .unionBranch type union => "union branch " ++ type ++ " in union " ++ union
  | .serviceBranch type union => "service branch " ++ type ++ " in union " ++ union
  | .duplicateNumericBranch type union =>
    "duplicate numeric branch " ++ type ++ " in union " ++ union
  | .duplicateBranchOrdinal ordinal type union =>
    "duplicate ordinal " ++ Decimal.text ordinal ++ " for branch " ++ type ++ " in union " ++ union
  | .duplicateMethod name service => "duplicate method " ++ name ++ " in service " ++ service
  | .duplicateMethodOrdinal ordinal name service =>
    "duplicate ordinal " ++ Decimal.text ordinal ++ " for method " ++ name ++ " in service " ++ service
  | .serviceArgument method service =>
    "argument in method " ++ method ++ " of service " ++ service ++ " must not be a service"
  | .serviceResult method service =>
    "method " ++ method ++ " of service " ++ service ++ " must not return a service type"

end Problem

abbrev Problems := Findings Problem

end WireSchema
