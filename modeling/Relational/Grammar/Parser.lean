import Relational.Schema
import Relational.Token

/-!
# Parsers over tokens

A parser looks at the front of a list of tokens and either returns what it
recognized with the tokens that follow, or refuses.  It refuses at a token: the
list that starts there is part of the refusal, so that the position of an error
is as exact as its wording.
-/

namespace Relational

namespace Grammar

/-- What the grammar asks for at a place. -/
inductive Wanted where
  | terminal (terminal : Terminal)
  | statement
  | primaryKey
  | columnType
  | expression
  | functionName
  | intervalUnit
  | predicate
deriving DecidableEq

namespace Wanted

/-- How a message names what was asked for. -/
def text : Wanted → String
  | .terminal symbol => symbol.description
  | .statement => "statement"
  | .primaryKey => "PRIMARY KEY"
  | .columnType => "column type"
  | .expression => "expression"
  | .functionName => "function name"
  | .intervalUnit => "interval unit"
  | .predicate => "IN, LIKE or BETWEEN"

end Wanted

/-- Why a list of tokens was refused: the token at the front of `rest` is not
what was wanted there, or a table's declaration contradicts itself. -/
inductive Refusal where
  | unexpected (wanted : Wanted) (rest : List Token)
  | badSchema (error : Error)

namespace Refusal

/-- The error that a refusal is reported as. -/
def toError : Refusal → Error
  | .unexpected wanted (token :: _) => .syntaxFault (.expected wanted.text token.near)
  | .unexpected wanted [] => .syntaxFault (.expected wanted.text "EOF")
  | .badSchema error => error

end Refusal

/-- A reader of the front of a list of tokens. -/
def Parser (α : Type) : Type :=
  List Token → Except Refusal (α × List Token)

namespace Parser

variable {α β : Type}

/-- Recognize nothing. -/
def pure (value : α) : Parser α :=
  fun tokens => .ok (value, tokens)

/-- Recognize one thing, then what its value asks for. -/
def bind (first : Parser α) (next : α → Parser β) : Parser β :=
  fun tokens =>
    match first tokens with
    | .error refusal => .error refusal
    | .ok (value, rest) => next value rest

instance : Monad Parser where
  pure := pure
  bind := bind

/-- Refuse the token at the front. -/
def refuse (wanted : Wanted) : Parser α :=
  fun tokens => .error (.unexpected wanted tokens)

end Parser

/-- The terminal at the front; after the last token the input has ended. -/
def front : List Token → Terminal
  | [] => .endOfInput
  | token :: _ => token.terminal

/-- Look at the first two terminals without consuming anything. -/
def look : Parser (Terminal × Terminal) :=
  fun tokens => .ok ((front tokens, front tokens.tail), tokens)

/-- Consume the token at the front and return what was written. -/
def advance : Parser String
  | [] => .ok ("", [])
  | token :: rest => .ok (token.lexeme, rest)

/-- Consume a terminal if it is at the front, and tell whether it was. -/
def accept (terminal : Terminal) : Parser Bool
  | [] => .ok (false, [])
  | token :: rest =>
    if token.terminal = terminal then .ok (true, rest) else .ok (false, token :: rest)

/-- Consume a terminal if it may stand here and is at the front. -/
def acceptIf (possible : Bool) (terminal : Terminal) : Parser Bool :=
  if possible then accept terminal else Parser.pure false

/-- Consume a terminal, which has to be at the front. -/
def expect (terminal : Terminal) : Parser Unit
  | [] => .error (.unexpected (.terminal terminal) [])
  | token :: rest =>
    if token.terminal = terminal then .ok ((), rest)
    else .error (.unexpected (.terminal terminal) (token :: rest))

/-- Consume a keyword, which has to be at the front. -/
def expectKeyword (keyword : Keyword) : Parser Unit :=
  expect (.keyword keyword)

/-- Consume a symbol, which has to be at the front. -/
def expectSymbol (symbol : Symbol) : Parser Unit :=
  expect (.symbol symbol)

/-- The name of a table, a column or a result.  Some keywords may be names too,
those of aggregate functions unless a parenthesis makes them calls. -/
def name : Parser String := do
  match ← look with
  | (.name s, _) => do
    let _ ← advance
    return s
  | (.keyword keyword, following) =>
    if keyword.mayBeName && !(keyword.isAggregate && following == .symbol .leftParen) then
      advance
    else
      Parser.refuse (.terminal (.name ""))
  | _ => Parser.refuse (.terminal (.name ""))

/-- A natural number, written as an integer literal. -/
def natural : Parser Nat := do
  match ← look with
  | (.integer n, _) =>
    if 0 ≤ n then do
      let _ ← advance
      return n.toInt.toNat
    else
      Parser.refuse (.terminal (.integer 0))
  | _ => Parser.refuse (.terminal (.integer 0))

/-- One or more items separated by commas, the parser of an item depending on
its position in the list.  No list has more items than there are steps. -/
def listFrom {α : Type} (item : Nat → Parser α) : Nat → Nat → Parser (List α)
  | 0, _ => Parser.refuse .expression
  | steps + 1, position => do
    let first ← item position
    if ← accept (.symbol .comma) then do
      let others ← listFrom item steps (position + 1)
      return first :: others
    else
      return [first]

/-- One or more items separated by commas. -/
def list {α : Type} (item : Parser α) : Parser (List α) :=
  fun tokens => listFrom (fun _ => item) (tokens.length + 1) 0 tokens

end Grammar

end Relational
