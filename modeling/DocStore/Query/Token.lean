import DocStore.Query.Fault
import DocStore.Text.Blank
/-!
Tokens of queries.

A query is a run of tokens between blanks.  Words are runs of characters that
are neither blank nor special, so that field paths, numbers, keywords and word
operators are all words.  Positions count bytes.
-/

namespace DocStore.Query

inductive TokenKind where
  | openParen
  | closeParen
  | and
  | or
  | symbol (comparison : Comparison)
  | word (text : String)
  | string (value : String)
deriving DecidableEq, Repr

structure Token where
  kind : TokenKind
  position : Nat
  text : String
deriving DecidableEq, Repr

def byteLength (text : List Char) : Nat := text.foldl (fun length c => length + c.utf8Size) 0

namespace Token

def isOperatorChar (c : Char) : Bool :=
  c = '=' || c = '!' || c = '<' || c = '>' || c = '~' || c = '&' || c = '|'

def isWordChar (c : Char) : Bool :=
  !Text.isBlank c && !isOperatorChar c && c != '(' && c != ')' && c != '"'

/-- The value of a string literal after its opening quote, and what follows the closing quote.
A backslash escapes a quote or a backslash and stands for itself before all other characters. -/
def readString : List Char → Option (List Char × List Char)
  | [] => none
  | '"' :: rest => some ([], rest)
  | ['\\'] => none
  | '\\' :: c :: rest =>
      (readString rest).map fun (value, rest) =>
        (if c = '"' ∨ c = '\\' then (c :: value, rest) else ('\\' :: c :: value, rest))
  | c :: rest => (readString rest).map fun (value, rest) => (c :: value, rest)

/-- The operator that begins with a character and goes on with `rest`, and what follows it. -/
def readOperator : Char → List Char → Option (TokenKind × List Char)
  | '&', '&' :: rest => some (.and, rest)
  | '|', '|' :: rest => some (.or, rest)
  | '!', '=' :: rest => some (.symbol .notEqual, rest)
  | '>', '=' :: rest => some (.symbol .greaterEqual, rest)
  | '<', '=' :: rest => some (.symbol .lessEqual, rest)
  | '~', '=' :: rest => some (.symbol .pattern, rest)
  | '=', rest => some (.symbol .equal, rest)
  | '>', rest => some (.symbol .greater, rest)
  | '<', rest => some (.symbol .less, rest)
  | _, _ => none

/-- The token at the start of a text that begins with `c`, which is no blank, and the characters
after it. -/
def readKind (position : Nat) (c : Char) (rest : List Char) :
    Except Fault (TokenKind × List Char) :=
  if c = '(' then .ok (.openParen, rest)
  else if c = ')' then .ok (.closeParen, rest)
  else if c = '"' then
    match readString rest with
    | some (value, rest) => .ok (.string (String.ofList value), rest)
    | none => .error ⟨String.ofList (c :: rest), position, .unterminatedString⟩
  else if isOperatorChar c then
    match readOperator c rest with
    | some found => .ok found
    | none => .error ⟨String.ofList (c :: rest.take 1), position, .unknownOperator⟩
  else .ok (.word (String.ofList (c :: rest.takeWhile isWordChar)), rest.dropWhile isWordChar)

/-- The tokens of a text that begins at `position`.  `fuel` bounds the number of characters. -/
def scanFrom : Nat → Nat → List Char → Except Fault (List Token)
  | 0, _, _ => .ok []
  | _ + 1, _, [] => .ok []
  | fuel + 1, position, c :: rest =>
      if Text.isBlank c then scanFrom fuel (position + c.utf8Size) rest
      else do
        let (kind, after) ← readKind position c rest
        let text := (c :: rest).take (rest.length + 1 - after.length)
        let tokens ← scanFrom fuel (position + byteLength text) after
        .ok (⟨kind, position, String.ofList text⟩ :: tokens)

def scan (query : String) : Except Fault (List Token) :=
  scanFrom query.toList.length 0 query.toList

end Token

end DocStore.Query
