import WireSchema.Position

-- Tokens of the schema language.
namespace WireSchema

inductive Keyword where
  | package | importing | const | enumeration | struct | union | service | map
deriving DecidableEq

namespace Keyword

def text : Keyword → String
  | .package => "package"
  | .importing => "import"
  | .const => "const"
  | .enumeration => "enum"
  | .struct => "struct"
  | .union => "union"
  | .service => "service"
  | .map => "map"

def all : List Keyword :=
  [.package, .importing, .const, .enumeration, .struct, .union, .service, .map]

def ofText? (text : String) : Option Keyword := all.find? (·.text = text)

end Keyword

inductive LexicalError where
  | octalNumber | hexadecimalNumber | floatNumber | number
  | openString | openComment | escape
  | nul | encoding | overflow | byteOrderMark
  | strayCharacter (shown : String)
deriving DecidableEq

namespace LexicalError

def message : LexicalError → String
  | .octalNumber => "invalid octal number"
  | .hexadecimalNumber => "invalid hexadecimal number"
  | .floatNumber => "invalid floating-point number"
  | .number => "invalid number"
  | .openString => "string not terminated"
  | .openComment => "comment not terminated"
  | .escape => "invalid escape sequence"
  | .nul => "invalid character nul"
  | .encoding => "invalid encoding"
  | .overflow => "buffer overflow"
  | .byteOrderMark => "invalid byte order mark"
  | .strayCharacter shown => "invalid token " ++ shown

end LexicalError

inductive TokenKind where
  | endOfFile
  | invalid (error : LexicalError)
  | semicolon | openParen | closeParen | openBracket | closeBracket | openBrace | closeBrace
  | comma | asterisk | assign | period
  | identifier | string | integer | float | comment
  | keyword (word : Keyword)
deriving DecidableEq

namespace TokenKind

def text : TokenKind → String
  | .endOfFile => "eof"
  | .invalid _ => "invalid"
  | .semicolon => ";"
  | .openParen => "("
  | .closeParen => ")"
  | .openBracket => "["
  | .closeBracket => "]"
  | .openBrace => "\x7b"
  | .closeBrace => "\x7d"
  | .comma => ","
  | .asterisk => "*"
  | .assign => "="
  | .period => "."
  | .identifier => "ident"
  | .string => "string"
  | .integer => "int"
  | .float => "float"
  | .comment => "comment"
  | .keyword word => word.text

end TokenKind

-- The text of a token is its source text; a terminator put in by the scanner has a newline.
structure Token where
  kind : TokenKind
  text : String
  position : Position
deriving DecidableEq

end WireSchema
