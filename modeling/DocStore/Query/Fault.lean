import DocStore.Query.Expr

namespace DocStore.Query

inductive Problem where
  | unterminatedString
  | unknownOperator
  | emptyQuery
  | unbalancedClose
  | trailingToken
  | mixedChain
  | missingOperand
  | missingClose
  | unbalancedOpen
  | missingField
  | missingComparison
  | unknownComparison
  | missingValue
  | invalidValue
  | patternNotText (comparison : Comparison) (typeName : String)
  | invalidPattern
  | orderAgainstNull (comparison : Comparison)
deriving DecidableEq, Repr

namespace Problem

def message : Problem → String
  | .unterminatedString => "unterminated string literal"
  | .unknownOperator => "unknown operator"
  | .emptyQuery => "empty query"
  | .unbalancedClose => "unbalanced ')'"
  | .trailingToken => "unexpected token after expression"
  | .mixedChain => "mixing && and || requires parentheses"
  | .missingOperand => "expected rule or '(' but reached end of query"
  | .missingClose => "expected ')'"
  | .unbalancedOpen => "unbalanced '('"
  | .missingField => "expected field name or '('"
  | .missingComparison => "expected comparison operator"
  | .unknownComparison => "unknown comparison operator"
  | .missingValue => "expected value"
  | .invalidValue => "invalid value"
  | .patternNotText comparison typeName =>
      "`" ++ comparison.symbol ++ "` needs a string pattern, got " ++ typeName
  | .invalidPattern => "invalid pattern"
  | .orderAgainstNull comparison =>
      "`" ++ comparison.symbol ++ "` cannot compare against null"

end Problem

/-- A problem with the part of the query it is found in and the offset of that part in bytes. -/
structure Fault where
  fragment : String
  position : Nat
  problem : Problem
deriving DecidableEq, Repr

namespace Fault

def message (fault : Fault) : String :=
  s!"query syntax error at {fault.position} near `{fault.fragment}`: {fault.problem.message}"

end Fault

end DocStore.Query
