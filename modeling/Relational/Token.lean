import Relational.Value.Basic

/-!
# Tokens

A statement is read as a list of tokens.  A token pairs a terminal symbol of
the grammar with the text it was written as and the place where it starts; the
list always ends with the end of the input.
-/

namespace Relational

/-- The reserved words of the language.  Some are reserved only so that a
statement using them is refused at that word. -/
inductive Keyword where
  | select
  | «from»
  | «where»
  | insert
  | into
  | values
  | update
  | «set»
  | delete
  | create
  | table
  | index
  | on
  | drop
  | «show»
  | tables
  | and
  | or
  | not
  | like
  | «in»
  | between
  | is
  | null
  | as
  | order
  | «by»
  | asc
  | desc
  | limit
  | offset
  | group
  | having
  | distinct
  | primary
  | key
  | references
  | trueLiteral
  | falseLiteral
  | interval
  | count
  | sum
  | avg
  | min
  | max
  | integer
  | float
  | text
  | boolean
  | default
  | autoIncrement
  | check
  | unique
  | «if»
  | «exists»
  | join
  | alter
  | database
deriving DecidableEq, Repr

namespace Keyword

/-- Every keyword. -/
def all : List Keyword := [
  .select, .«from», .«where», .insert, .into, .values, .update, .«set»,
  .delete, .create, .table, .index, .on, .drop, .«show», .tables,
  .and, .or, .not, .like, .«in», .between, .is, .null,
  .as, .order, .«by», .asc, .desc, .limit, .offset, .group,
  .having, .distinct, .primary, .key, .references, .trueLiteral, .falseLiteral, .interval,
  .count, .sum, .avg, .min, .max, .integer, .float, .text,
  .boolean, .default, .autoIncrement, .check, .unique, .«if», .«exists», .join,
  .alter, .database]

/-- The name of a keyword in messages, which is also one of its spellings. -/
def name : Keyword → String
  | .select => "SELECT"
  | .«from» => "FROM"
  | .«where» => "WHERE"
  | .insert => "INSERT"
  | .into => "INTO"
  | .values => "VALUES"
  | .update => "UPDATE"
  | .«set» => "SET"
  | .delete => "DELETE"
  | .create => "CREATE"
  | .table => "TABLE"
  | .index => "INDEX"
  | .on => "ON"
  | .drop => "DROP"
  | .«show» => "SHOW"
  | .tables => "TABLES"
  | .and => "AND"
  | .or => "OR"
  | .not => "NOT"
  | .like => "LIKE"
  | .«in» => "IN"
  | .between => "BETWEEN"
  | .is => "IS"
  | .null => "NULL"
  | .as => "AS"
  | .order => "ORDER"
  | .«by» => "BY"
  | .asc => "ASC"
  | .desc => "DESC"
  | .limit => "LIMIT"
  | .offset => "OFFSET"
  | .group => "GROUP"
  | .having => "HAVING"
  | .distinct => "DISTINCT"
  | .primary => "PRIMARY"
  | .key => "KEY"
  | .references => "REFERENCES"
  | .trueLiteral => "TRUE"
  | .falseLiteral => "FALSE"
  | .interval => "INTERVAL"
  | .count => "COUNT"
  | .sum => "SUM"
  | .avg => "AVG"
  | .min => "MIN"
  | .max => "MAX"
  | .integer => "INTEGER"
  | .float => "FLOAT"
  | .text => "TEXT"
  | .boolean => "BOOLEAN"
  | .default => "DEFAULT"
  | .autoIncrement => "AUTO_INCREMENT"
  | .check => "CHECK"
  | .unique => "UNIQUE"
  | .«if» => "IF"
  | .«exists» => "EXISTS"
  | .join => "JOIN"
  | .alter => "ALTER"
  | .database => "DATABASE"

/-- The further spellings of the type names, in lower case. -/
def synonyms : List (String × Keyword) := [
  ("int", .integer), ("real", .float), ("double", .float), ("decimal", .float),
  ("string", .text), ("varchar", .text), ("bool", .boolean)]

/-- Every spelling of a keyword in lower case, with the keyword. -/
def spellings : List (String × Keyword) :=
  all.map (fun keyword => (String.ofList (keyword.name.toList.map Char.toLower), keyword)) ++
    synonyms

/-- The keyword that a word spells in any mix of ASCII cases. -/
def ofWord? (word : List Char) : Option Keyword :=
  spellings.lookup (String.ofList (word.map Char.toLower))

/-- The names of the aggregate functions. -/
def isAggregate : Keyword → Bool
  | .count => true
  | .sum => true
  | .avg => true
  | .min => true
  | .max => true
  | _ => false

/-- Keywords that may still name a table, a column or a result. -/
def mayBeName : Keyword → Bool
  | .integer => true
  | .float => true
  | .text => true
  | .boolean => true
  | .key => true
  | .tables => true
  | .database => true
  | .interval => true
  | keyword => keyword.isAggregate

end Keyword

/-- The symbols of the language. -/
inductive Symbol where
  | equal
  | notEqual
  | less
  | greater
  | lessEqual
  | greaterEqual
  | plus
  | minus
  | star
  | slash
  | leftParen
  | rightParen
  | comma
  | semicolon
  | dot
deriving DecidableEq, Repr

namespace Symbol

/-- The canonical spelling of a symbol. -/
def spelling : Symbol → String
  | .equal => "="
  | .notEqual => "!="
  | .less => "<"
  | .greater => ">"
  | .lessEqual => "<="
  | .greaterEqual => ">="
  | .plus => "+"
  | .minus => "-"
  | .star => "*"
  | .slash => "/"
  | .leftParen => "("
  | .rightParen => ")"
  | .comma => ","
  | .semicolon => ";"
  | .dot => "."

/-- Whether a symbol separates or encloses, rather than operates. -/
def isPunctuation : Symbol → Bool
  | .leftParen => true
  | .rightParen => true
  | .comma => true
  | .semicolon => true
  | .dot => true
  | _ => false

end Symbol

/-- The terminal symbols of the grammar. -/
inductive Terminal where
  | keyword (word : Keyword)
  | symbol (sign : Symbol)
  | integer (n : Int64)
  | float (x : Binary64)
  | text (s : String)
  | name (s : String)
  | endOfInput
deriving DecidableEq

namespace Terminal

/-- The lexical class of a terminal. -/
def kind : Terminal → String
  | .keyword _ => "KEYWORD"
  | .symbol sign => if sign.isPunctuation then "PUNCTUATION" else "OPERATOR"
  | .integer _ => "INT_LITERAL"
  | .float _ => "FLOAT_LITERAL"
  | .text _ => "STRING_LITERAL"
  | .name _ => "IDENTIFIER"
  | .endOfInput => "EOF"

/-- How a terminal is named where the grammar asks for it. -/
def description : Terminal → String
  | .keyword word => word.name
  | .symbol sign => "'" ++ sign.spelling ++ "'"
  | terminal => terminal.kind

end Terminal

/-- A place in a text: how many characters precede it, and its line and column,
which count from one. -/
structure Place where
  offset : Nat
  line : Nat
  column : Nat
deriving DecidableEq, Repr

namespace Place

/-- The place of the first character. -/
def start : Place := ⟨0, 1, 1⟩

/-- The place after one character; a line feed starts a new line. -/
def next (place : Place) (c : Char) : Place :=
  if c = '\n' then ⟨place.offset + 1, place.line + 1, 1⟩
  else ⟨place.offset + 1, place.line, place.column + 1⟩

/-- The place after some characters. -/
def after (place : Place) (text : List Char) : Place :=
  text.foldl next place

end Place

/-- A terminal as it occurs in a text. -/
structure Token where
  terminal : Terminal
  /-- The characters exactly as written. -/
  lexeme : String
  place : Place
deriving DecidableEq

namespace Token

/-- How a token is quoted in an error that occurs at it. -/
def near (token : Token) : String :=
  match token.terminal with
  | .endOfInput => "EOF"
  | _ => token.lexeme

end Token

end Relational
