import Relational.Unicode.Property
import Relational.Error
import Relational.Token

/-!
# Lexical analysis

A text is cut into tokens from left to right.  White space, comments from `--`
to the end of the line and comments between `/*` and `*/` separate tokens and
are dropped.  Every scanner returns the characters it consumed together with
those that follow, so that nothing is lost between them.
-/

namespace Relational

namespace Token

/-- A terminal read from the front of a text. -/
structure Scanned where
  terminal : Terminal
  lexeme : List Char
  rest : List Char

/-- The remainder of a block comment, up to and including its end. -/
def blockComment? : List Char → Option (List Char × List Char)
  | [] => none
  | '*' :: '/' :: rest => some (['*', '/'], rest)
  | c :: rest => (blockComment? rest).map fun (body, after) => (c :: body, after)

/-- A quoted text after its opening quote: the text it denotes, its characters
up to and including the closing quote, and what follows.  A quote inside is
written twice; every other character stands for itself. -/
def quotedText? : List Char → Option (List Char × List Char × List Char)
  | [] => none
  | '\'' :: '\'' :: rest =>
    (quotedText? rest).map fun (value, body, after) => ('\'' :: value, '\'' :: '\'' :: body, after)
  | c :: rest =>
    if c = '\'' then some ([], ['\''], rest)
    else (quotedText? rest).map fun (value, body, after) => (c :: value, c :: body, after)

/-- A quoted name after its opening quote: the name and what follows the
closing quote.  An empty name is refused. -/
def quotedName? (text : List Char) : Option (List Char × List Char) :=
  match text.takeWhile (· ≠ '"'), text.dropWhile (· ≠ '"') with
  | [], _ => none
  | _ :: _, [] => none
  | name, _ :: rest => some (name, rest)

/-- The characters of an exponent at the front of a text, if there is one: the
mark `e`, an optional sign and at least one digit. -/
def exponentLength : List Char → Nat
  | mark :: sign :: digit :: rest =>
    if mark ≠ 'e' ∧ mark ≠ 'E' then 0
    else if sign = '+' ∨ sign = '-' then
      if digit.isDigit then 3 + (rest.takeWhile Char.isDigit).length else 0
    else if sign.isDigit then 2 + ((digit :: rest).takeWhile Char.isDigit).length
    else 0
  | [mark, digit] => if (mark = 'e' ∨ mark = 'E') ∧ digit.isDigit then 2 else 0
  | _ => 0

/-- The fraction at the front of a text: a point and any number of digits. -/
def fractionLength : List Char → Nat
  | '.' :: rest => 1 + (rest.takeWhile Char.isDigit).length
  | _ => 0

/-- A number: digits, then an optional fraction, then an optional exponent.
With a fraction or an exponent it is a float. -/
def scanNumber (text : List Char) (place : Place) : Except SyntaxFault Scanned :=
  let whole := (text.takeWhile Char.isDigit).length
  let fraction := fractionLength (text.drop whole)
  let exponent := exponentLength (text.drop (whole + fraction))
  let lexeme := text.take (whole + fraction + exponent)
  let rest := text.drop (whole + fraction + exponent)
  let numeral := String.ofList lexeme
  if fraction + exponent = 0 then
    match Decimal.readInt64? numeral with
    | some n => .ok ⟨.integer n, lexeme, rest⟩
    | none => .error (.integerOutOfRange numeral place.offset)
  else
    match Decimal.readFloat? numeral with
    | some x => .ok ⟨.float x, lexeme, rest⟩
    | none => .error (.invalidNumber numeral place.offset)

/-- The characters that may continue a name. -/
def continuesName (c : Char) : Bool :=
  Unicode.isAlphanumeric c || c = '_'

/-- The characters that may start a name. -/
def startsName (c : Char) : Bool :=
  Unicode.isAlphabetic c || c = '_'

/-- A word: a keyword if it spells one, and a name otherwise. -/
def scanWord (text : List Char) : Scanned :=
  let lexeme := text.takeWhile continuesName
  let terminal :=
    match Keyword.ofWord? lexeme with
    | some keyword => .keyword keyword
    | none => .name (String.ofList lexeme)
  ⟨terminal, lexeme, text.dropWhile continuesName⟩

/-- The longest symbol at the front of a text. -/
def scanSymbol? : List Char → Option Scanned
  | '=' :: rest => some ⟨.symbol .equal, ['='], rest⟩
  | '!' :: '=' :: rest => some ⟨.symbol .notEqual, ['!', '='], rest⟩
  | '<' :: '=' :: rest => some ⟨.symbol .lessEqual, ['<', '='], rest⟩
  | '<' :: '>' :: rest => some ⟨.symbol .notEqual, ['<', '>'], rest⟩
  | '<' :: rest => some ⟨.symbol .less, ['<'], rest⟩
  | '>' :: '=' :: rest => some ⟨.symbol .greaterEqual, ['>', '='], rest⟩
  | '>' :: rest => some ⟨.symbol .greater, ['>'], rest⟩
  | '+' :: rest => some ⟨.symbol .plus, ['+'], rest⟩
  | '-' :: rest => some ⟨.symbol .minus, ['-'], rest⟩
  | '*' :: rest => some ⟨.symbol .star, ['*'], rest⟩
  | '/' :: rest => some ⟨.symbol .slash, ['/'], rest⟩
  | '(' :: rest => some ⟨.symbol .leftParen, ['('], rest⟩
  | ')' :: rest => some ⟨.symbol .rightParen, [')'], rest⟩
  | ',' :: rest => some ⟨.symbol .comma, [','], rest⟩
  | ';' :: rest => some ⟨.symbol .semicolon, [';'], rest⟩
  | '.' :: rest => some ⟨.symbol .dot, ['.'], rest⟩
  | _ => none

/-- The terminal at the front of a text that starts with `c`. -/
def scanTerminal (c : Char) (rest : List Char) (place : Place) : Except SyntaxFault Scanned :=
  if c = '\'' then
    match quotedText? rest with
    | some (value, body, after) => .ok ⟨.text (String.ofList value), '\'' :: body, after⟩
    | none => .error (.unterminatedString place.offset)
  else if c = '"' then
    match quotedName? rest with
    | some (name, after) => .ok ⟨.name (String.ofList name), '"' :: name ++ ['"'], after⟩
    | none => .error (.unterminatedName place.offset)
  else if c.isDigit || (c = '.' && (rest.head?.any Char.isDigit)) then
    scanNumber (c :: rest) place
  else if startsName c then
    .ok (scanWord (c :: rest))
  else
    match scanSymbol? (c :: rest) with
    | some scanned => .ok scanned
    | none => .error (.unexpectedCharacter c place.offset)

/-- The tokens of a text that starts at a place, given as many steps as the
text has characters, and one more for its end. -/
def scan : Nat → Place → List Char → Except SyntaxFault (List Token)
  | 0, place, _ => .ok [⟨.endOfInput, "", place⟩]
  | _ + 1, place, [] => .ok [⟨.endOfInput, "", place⟩]
  | steps + 1, place, c :: rest =>
    if Unicode.isSpace c then
      scan steps (place.next c) rest
    else if c = '-' ∧ rest.head? = some '-' then
      let comment := (c :: rest).takeWhile (· ≠ '\n')
      scan steps (place.after comment) ((c :: rest).dropWhile (· ≠ '\n'))
    else if c = '/' ∧ rest.head? = some '*' then
      match blockComment? (rest.drop 1) with
      | some (body, after) => scan steps (place.after ('/' :: '*' :: body)) after
      | none => .error (.unterminatedComment place.offset)
    else
      match scanTerminal c rest place with
      | .error fault => .error fault
      | .ok scanned =>
        match scan steps (place.after scanned.lexeme) scanned.rest with
        | .error fault => .error fault
        | .ok tokens => .ok (⟨scanned.terminal, String.ofList scanned.lexeme, place⟩ :: tokens)

/-- The tokens of a text. -/
def ofText (text : String) : Except SyntaxFault (List Token) :=
  scan (text.toList.length + 1) Place.start text.toList

end Token

end Relational
