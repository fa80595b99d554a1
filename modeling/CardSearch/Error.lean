/-!
# Errors

Why a query is refused or a search fails, and the messages that say so.
-/

namespace CardSearch

/-- What is wrong with a query that is not repaired. -/
inductive SyntaxFault where
  /-- A word, or a filter name with its operator, stands unfinished before a `)`. -/
  | unfinishedTerm (text : String)
  | bangBeforeClose
  | barBeforeClose
  | unmatchedClose
  | noLeftOperand
  | danglingEscape
  | unterminatedQuote
  | unclosedGroup
  | noRightOperand
  | noNegated
deriving DecidableEq, Repr

/-- The text of a fault. -/
def SyntaxFault.message : SyntaxFault → String
  | .unfinishedTerm text => "unfinished term '" ++ text ++ "' before ')'"
  | .bangBeforeClose     => "'!' before ')' has no operand"
  | .barBeforeClose      => "'|' before ')' has no right operand"
  | .unmatchedClose      => "unmatched ')'"
  | .noLeftOperand       => "'|' has no left operand"
  | .danglingEscape      => "dangling '\\' at end of query"
  | .unterminatedQuote   => "unterminated quote"
  | .unclosedGroup       => "unclosed '('"
  | .noRightOperand      => "'|' has no right operand"
  | .noNegated           => "'!' has no operand"

/-- A fault and the number of characters before it. -/
structure SyntaxError where
  position : Nat
  fault : SyntaxFault
deriving DecidableEq, Repr

/-- Why a search fails. -/
inductive SearchError where
  /-- No filter answers to the name. -/
  | unknownFilter (name : String)
  /-- The token is not one of the operators. -/
  | unsupportedOperator (token : String)
  /-- The query is refused. -/
  | badSyntax (e : SyntaxError)
deriving DecidableEq, Repr

/-- The text of an error. -/
def SearchError.message : SearchError → String
  | .unknownFilter name        => "unknown filter '" ++ name ++ "'"
  | .unsupportedOperator token => "operator '" ++ token ++ "' is not supported"
  | .badSyntax e               =>
    "syntax error at character " ++ toString e.position ++ ": " ++ e.fault.message

end CardSearch
