import WireSchema.Grammar.Outline

-- The grammar of schema files, over the tokens of a source without its comments. It is said what a file is
-- and not how it is read; what a reader cannot see from one token at a time are conditions beside it.
namespace WireSchema.Grammar
open Text

abbrev Language := List Token → Prop

namespace Language

def token (kind : TokenKind) : Language := fun ws => ∃ w, ws = [w] ∧ w.kind = kind

def seq (first second : Language) : Language := fun ws => ∃ a b, ws = a ++ b ∧ first a ∧ second b

def optional (L : Language) : Language := fun ws => ws = [] ∨ L ws

inductive many (L : Language) : List Token → Prop where
  | none : many L []
  | more {first rest : List Token} (one : L first) (others : many L rest) : many L (first ++ rest)

end Language
open Grammar.Language

def typeNamed (name : String) : ValueType Unit := (ValueType.builtin? name).getD (.defined (.ofName name ()))

-- Types with what they mean. No array is an element of an array, and there is no pointer to what cannot
-- be pointed to.
inductive IsType : List Token → ValueType Unit → Prop where
  | word {name : Token} (isName : name.kind = .identifier) : IsType [name] (typeNamed name.text)
  | qualified {package point name : Token} (isPackage : package.kind = .identifier) (isPoint : point.kind = .period)
      (isName : name.kind = .identifier) : IsType [package, point, name] (typeNamed (package.text ++ "." ++ name.text))
  | slice {opening closing : Token} {ws : List Token} {element : ValueType Unit} (opens : opening.kind = .openBracket)
      (closes : closing.kind = .closeBracket) (inner : IsType ws element) (flat : element.isArray = false) :
      IsType (opening :: closing :: ws) (.array 0 element)
  | array {opening number closing : Token} {ws : List Token} {element : ValueType Unit} {n : Nat}
      (opens : opening.kind = .openBracket) (isNumber : number.kind = .integer)
      (decimal : Decimal.natural? number.text.toList = some n) (positive : 0 < n) (fits : n < 4294967296)
      (closes : closing.kind = .closeBracket) (inner : IsType ws element) (flat : element.isArray = false) :
      IsType (opening :: number :: closing :: ws) (.array (.ofNat n) element)
  | map {word opening closing : Token} {inKey inValue : List Token} {key value : ValueType Unit}
      (isMap : word.kind = .keyword .map) (opens : opening.kind = .openBracket) (ofKey : IsType inKey key)
      (closes : closing.kind = .closeBracket) (ofValue : IsType inValue value) :
      IsType (word :: opening :: (inKey ++ closing :: inValue)) (.map key value)
  | pointer {star : Token} {ws : List Token} {value : ValueType Unit} (points : star.kind = .asterisk)
      (inner : IsType ws value) (allowed : value.isPointerBarrier = false) : IsType (star :: ws) (.pointer value)

def someType : Language := fun ws => ∃ type, IsType ws type

def tagged (signed : Bool) : Language := fun ws =>
  ∃ w, ws = [w] ∧ w.kind = .string ∧ (TagString.read signed w.text).problems = []

def enumerators : Language :=
  many ((token .identifier).seq ((tagged true).seq (optional (token .semicolon))))

def fields : Language :=
  many ((token .identifier).seq (someType.seq ((tagged false).seq (optional (token .semicolon)))))

def branches : Language := many (someType.seq ((tagged false).seq (optional (token .semicolon))))

def argumentTypes : Language :=
  optional (someType.seq (seq (many ((token .comma).seq someType)) (optional (token .comma))))

def methods : Language :=
  many ((token .identifier).seq ((token .openParen).seq (argumentTypes.seq ((token .closeParen).seq
    ((optional someType).seq ((tagged false).seq (optional (token .semicolon))))))))

def literals : Language := fun ws => ∃ w, ws = [w] ∧ (w.kind = .integer ∨ w.kind = .float ∨ w.kind = .string)

def constants : Language :=
  (token (.keyword .const)).seq ((token .identifier).seq ((token .assign).seq (literals.seq (token .semicolon))))

def blocks (word : Keyword) (members : Language) : Language :=
  (token (.keyword word)).seq ((token .identifier).seq ((token .openBrace).seq (members.seq
    ((token .closeBrace).seq (token .semicolon)))))

def nameOf (ws : List Token) : String := ((ws.tail.head?).map (·.text)).getD ""

-- An item with the type name that it declares, if it is the declaration of a type.
inductive IsItem : List Token → Option String → Prop where
  | empty {ws : List Token} (alone : token .semicolon ws) : IsItem ws none
  | const {ws : List Token} (written : constants ws) : IsItem ws none
  | enumeration {ws : List Token} (written : blocks .enumeration enumerators ws) : IsItem ws (some (nameOf ws))
  | struct {ws : List Token} (written : blocks .struct fields ws) : IsItem ws (some (nameOf ws))
  | union {ws : List Token} (written : blocks .union branches ws) : IsItem ws (some (nameOf ws))
  | service {ws : List Token} (written : blocks .service methods ws) : IsItem ws (some (nameOf ws))

inductive IsItems : List Token → List String → Prop where
  | none : IsItems [] []
  | more {first rest : List Token} {name : Option String} {names : List String} (one : IsItem first name)
      (others : IsItems rest names) : IsItems (first ++ rest) (name.toList ++ names)

inductive IsImport : List Token → String → String → Prop where
  | plain {word path ending : Token} (isImport : word.kind = .keyword .importing) (isPath : path.kind = .string)
      (ends : ending.kind = .semicolon) : IsImport [word, path, ending] (.ofList (literalContent path.text))
        (importName (.ofList (literalContent path.text)))
  | named {word name path ending : Token} (isImport : word.kind = .keyword .importing)
      (isName : name.kind = .identifier) (isPath : path.kind = .string) (ends : ending.kind = .semicolon) :
      IsImport [word, name, path, ending] (.ofList (literalContent path.text)) name.text

inductive IsImports : List String → List Token → Prop where
  | none {earlier : List String} : IsImports earlier []
  | more {earlier : List String} {first rest : List Token} {path name : String} (one : IsImport first path name)
      (hasPath : path ≠ "") (hasName : name ≠ "") (fresh : name ∉ earlier) (others : IsImports (name :: earlier) rest) :
      IsImports earlier (first ++ rest)

inductive IsFile : List Token → Prop where
  | file {head imports items : List Token} {names : List String}
      (package : (token (.keyword .package)).seq ((token .identifier).seq (token .semicolon)) head)
      (imported : IsImports [] imports) (declared : IsItems items names) (distinct : names.Nodup) :
      IsFile (head ++ imports ++ items)

end WireSchema.Grammar
