import DocStore.Query.Literal
import DocStore.Query.Token

namespace DocStore.Query

inductive Connective where
  | and
  | or
deriving DecidableEq, Repr

namespace Connective

def join : Connective → Expr → Expr → Expr
  | .and => .and
  | .or => .or

def ofKind? : TokenKind → Option Connective
  | .and => some .and
  | .or => some .or
  | _ => none

end Connective

namespace Expr

def faultAt (token : Token) (problem : Problem) : Fault := ⟨token.text, token.position, problem⟩

/-- What is left of a list of tokens, and the expression read. -/
abbrev Read := Expr × List Token

def readRule (atEnd : Problem → Fault) (field : Token) (name : String) :
    List Token → Except Fault Read
  | [] => .error (atEnd .missingComparison)
  | operator :: rest => do
      let comparison ← match operator.kind with
        | .symbol comparison => .ok comparison
        | .word word =>
            match Comparison.ofWord? word with
            | some comparison => .ok comparison
            | none => .error (faultAt operator .unknownComparison)
        | _ => .error (faultAt operator .missingComparison)
      match rest with
      | [] => .error (atEnd .missingValue)
      | value :: rest =>
          match value.kind with
          | .string text => .ok (.rule ⟨name, comparison, .string text, field.position⟩, rest)
          | .word word =>
              match literal? word with
              | some literal => .ok (.rule ⟨name, comparison, literal, field.position⟩, rest)
              | none => .error (faultAt value .invalidValue)
          | _ => .error (faultAt value .missingValue)

mutual

/-- An expression: an operand and the chain after it.  `fuel` bounds the calls. -/
def readExpr (atEnd : Problem → Fault) : Nat → List Token → Except Fault Read
  | 0, _ => .error (atEnd .missingOperand)
  | fuel + 1, tokens => do
      let (first, rest) ← readOperand atEnd fuel tokens
      readChain atEnd fuel none first rest

/-- The operands that follow `left`; `joined` is the connective of the chain so far. -/
def readChain (atEnd : Problem → Fault) :
    Nat → Option Connective → Expr → List Token → Except Fault Read
  | _, _, left, [] => .ok (left, [])
  | 0, _, left, tokens => .ok (left, tokens)
  | fuel + 1, joined, left, token :: rest =>
      match Connective.ofKind? token.kind with
      | none => .ok (left, token :: rest)
      | some connective =>
          if joined.isSome && joined != some connective then .error (faultAt token .mixedChain)
          else do
            let (right, rest) ← readOperand atEnd fuel rest
            readChain atEnd fuel (some connective) (connective.join left right) rest

/-- A rule or a query in parentheses. -/
def readOperand (atEnd : Problem → Fault) : Nat → List Token → Except Fault Read
  | _, [] => .error (atEnd .missingOperand)
  | 0, token :: _ => .error (faultAt token .missingField)
  | fuel + 1, token :: rest =>
      match token.kind with
      | .openParen => do
          let (inner, rest) ← readExpr atEnd fuel rest
          match rest with
          | [] => .error (faultAt token .unbalancedOpen)
          | close :: rest =>
              if close.kind = .closeParen then .ok (inner, rest)
              else .error (faultAt close .missingClose)
      | .word name => readRule atEnd token name rest
      | _ => .error (faultAt token .missingField)

end

/-- The fault of a query that ends too early: it blames the text from the last token on. -/
def endFault (query : String) (tokens : List Token) (problem : Problem) : Fault :=
  let length := byteLength query.toList
  let fragment := match tokens.getLast? with
    | none => query
    | some token =>
        -- the characters from the last token on are those before which its position lies
        String.ofList (dropBytes token.position query.toList)
  ⟨fragment, length, problem⟩
where
  /-- The characters after the first `count` bytes. -/
  dropBytes (count : Nat) : List Char → List Char
    | [] => []
    | c :: rest => if count = 0 then c :: rest else dropBytes (count - c.utf8Size) rest

/-- The expression of a list of tokens, all of them used.  Every second call uses a token, so the
fuel suffices. -/
def ofTokens (query : String) (tokens : List Token) : Except Fault Expr :=
  if tokens.isEmpty then .error ⟨query, 0, .emptyQuery⟩
  else do
    let (expr, rest) ← readExpr (endFault query tokens) (2 * tokens.length + 2) tokens
    match rest with
    | [] => .ok expr
    | token :: _ =>
        .error (faultAt token
          (if token.kind = .closeParen then .unbalancedClose else .trailingToken))

def parse (query : String) : Except Fault Expr := do
  let tokens ← Token.scan query
  ofTokens query tokens

end Expr

end DocStore.Query
