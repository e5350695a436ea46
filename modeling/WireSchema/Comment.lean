import WireSchema.Text.Writing
import WireSchema.Token.Kind

-- Comments in front of a token document it.
namespace WireSchema
open Text

namespace Comment

def isTrailing (c : Char) : Bool := c = ' ' || c = '\t' || c = '\r' || c = '\n'

-- A line comment is one line, without one blank at its start. A block comment is the lines between
-- its delimiters; a last line without any character is none.
def rawLines (comment : List Char) : List (List Char) :=
  match comment with
  | '/' :: '/' :: ' ' :: line => [line]
  | '/' :: '/' :: line => [line]
  | '/' :: '*' :: body =>
    if body.length < 2 then []
    else
      let lines := pieces '\n' (body.take (body.length - 2))
      if lines.getLast? = some [] then lines.dropLast else lines
  | _ => []

def lines (comment : String) : List String :=
  (rawLines comment.toList).map (fun line => .ofList (trimEnd isTrailing line))

-- The lines read so far with those of a comment. A line left out before the next token starts anew.
def extend (doc : List String) (comment : Token) (nextLine : Nat) : List String :=
  let added := lines comment.text
  if comment.position.line + added.length < nextLine then [] else doc ++ added

def trimmed (doc : List String) : List String :=
  ((doc.dropWhile (·.isEmpty)).reverse.dropWhile (·.isEmpty)).reverse

end Comment

structure Documented where
  token : Token
  doc : List String

namespace Documented

def kind (w : Documented) : TokenKind := w.token.kind

def text (w : Documented) : String := w.token.text

def position (w : Documented) : Position := w.token.position

def ofTokens (finish : Token) : List String → List Token → List Documented × Documented
  | doc, [] => ([], ⟨finish, Comment.trimmed doc⟩)
  | doc, token :: rest =>
    if token.kind = .comment then
      ofTokens finish (Comment.extend doc token (rest.headD finish).position.line) rest
    else
      let more := ofTokens finish [] rest
      (⟨token, Comment.trimmed doc⟩ :: more.1, more.2)

end Documented
end WireSchema
