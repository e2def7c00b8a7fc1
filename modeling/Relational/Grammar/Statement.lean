import Relational.Grammar.Expression
import Relational.Statement
import Relational.Token.Lexer

/-!
# The grammar of statements

Each statement form starts with its own keyword.  A text holds exactly one
statement, which a semicolon may end.
-/

namespace Relational

namespace Grammar

/-- Something that a keyword introduces and that may be missing. -/
def optional {α : Type} (keyword : Keyword) (content : Parser α) : Parser (Option α) := do
  if ← accept (.keyword keyword) then
    let value ← content
    return some value
  else
    return none

/-- An optional `WHERE` or `HAVING` condition. -/
def condition (keyword : Keyword) : Parser (Option Expr) :=
  optional keyword expression

/-- The label of a select item: a name behind `AS`, or an identifier. -/
def label : Parser (Option String) := do
  if ← accept (.keyword .as) then
    let chosen ← name
    return some chosen
  else
    match ← look with
    | (.name s, _) => do
      let _ ← advance
      return some s
    | _ => return none

/-- An item of a select list. -/
def selectItem : Parser SelectItem := do
  if ← accept (.symbol .star) then
    return .all
  else
    let value ← expression
    let chosen ← label
    return .expression value chosen

/-- A sort criterion, ascending unless it says otherwise. -/
def sortItem : Parser SortItem := do
  let column ← name
  if ← accept (.keyword .desc) then
    return ⟨column, false⟩
  else
    let _ ← accept (.keyword .asc)
    return ⟨column, true⟩

/-- A query. -/
def select : Parser Select := do
  expectKeyword .select
  let items ← list selectItem
  expectKeyword .«from»
  let table ← name
  let filter ← condition .«where»
  let groupBy ← optional .group do
    expectKeyword .«by»
    list name
  let having ← condition .having
  let orderBy ← optional .order do
    expectKeyword .«by»
    list sortItem
  let limit ← optional .limit natural
  let offset ← optional .offset natural
  return ⟨items, table, filter, groupBy, having, orderBy, limit, offset⟩

/-- The insertion of a row. -/
def insert : Parser Insert := do
  expectKeyword .insert
  expectKeyword .into
  let table ← name
  expectSymbol .leftParen
  let columns ← list name
  expectSymbol .rightParen
  expectKeyword .values
  expectSymbol .leftParen
  let values ← list expression
  expectSymbol .rightParen
  return ⟨table, columns, values⟩

/-- The assignment of an expression to a column. -/
def assignment : Parser (String × Expr) := do
  let column ← name
  expectSymbol .equal
  let value ← expression
  return (column, value)

/-- A change of rows. -/
def update : Parser Update := do
  expectKeyword .update
  let table ← name
  expectKeyword .«set»
  let assignments ← list assignment
  let filter ← condition .«where»
  return ⟨table, assignments, filter⟩

/-- A removal of rows. -/
def delete : Parser Delete := do
  expectKeyword .delete
  expectKeyword .«from»
  let table ← name
  let filter ← condition .«where»
  return ⟨table, filter⟩

/-- The size behind a column type, which has no effect. -/
def typeSize : Parser Unit := do
  if ← accept (.symbol .leftParen) then
    let _ ← natural
    if ← accept (.symbol .comma) then
      let _ ← natural
      expectSymbol .rightParen
    else
      expectSymbol .rightParen
  else
    return ()

/-- A column type. -/
def columnType : Parser ColumnType := do
  let (first, _) ← look
  match first with
  | .keyword .integer => consumed .integer
  | .keyword .float => consumed .float
  | .keyword .text => consumed .text
  | .keyword .boolean => consumed .boolean
  | _ => Parser.refuse .columnType
where
  /-- The type whose name is at the front, with its size. -/
  consumed (type : ColumnType) : Parser ColumnType := do
    let _ ← advance
    typeSize
    return type

/-- What may follow a column's type: the mark of the primary key, unless the
table has one already, and a reference, each at most once. -/
def columnOptions (keyDeclared : Bool) : Nat → Column → Parser Column
  | 0, column => return column
  | steps + 1, column => do
    let (first, _) ← look
    match first with
    | .keyword .primary =>
      if column.primaryKey || keyDeclared then
        Parser.refuse (.terminal (.symbol .comma))
      else do
        let _ ← advance
        expectKeyword .key
        columnOptions keyDeclared steps { column with primaryKey := true }
    | .keyword .references =>
      if column.references.isSome then
        Parser.refuse (.terminal (.symbol .comma))
      else do
        let _ ← advance
        let table ← name
        expectSymbol .leftParen
        let target ← name
        expectSymbol .rightParen
        columnOptions keyDeclared steps { column with references := some ⟨table, target⟩ }
    | _ => return column

/-- The declaration of a column.  Each option occurs at most once, so that the
third look finds what follows the column. -/
def column (keyDeclared : Bool) : Parser Column := do
  let declared ← name
  let type ← columnType
  columnOptions keyDeclared 3 ⟨declared, type, false, none⟩

/-- The columns of a table, at most one of them marked as the primary key. -/
def columns : Nat → Bool → Parser (List Column)
  | 0, _ => Parser.refuse .expression
  | steps + 1, keyDeclared => do
    let first ← column keyDeclared
    if ← accept (.symbol .comma) then
      let others ← columns steps (keyDeclared || first.primaryKey)
      return first :: others
    else
      return [first]

/-- The schema that a list of columns declares, if it is one. -/
def schemaOf (table : String) (columns : List Column) : Parser Schema :=
  fun tokens =>
    match Schema.create table columns with
    | .ok schema => .ok (schema, tokens)
    | .error error => .error (.badSchema error)

/-- The declaration of a table, from its keyword on. -/
def createTable : Parser Schema := do
  expectKeyword .table
  let table ← name
  expectSymbol .leftParen
  let declared ← fun tokens => columns (tokens.length + 1) false tokens
  let (first, _) ← look
  if !declared.any Column.primaryKey && first == .symbol .rightParen then
    Parser.refuse .primaryKey
  else
    expectSymbol .rightParen
    schemaOf table declared

/-- The declaration of an index, from its keyword on. -/
def createIndex : Parser CreateIndex := do
  expectKeyword .index
  let index ← name
  expectKeyword .on
  let table ← name
  expectSymbol .leftParen
  let indexed ← name
  expectSymbol .rightParen
  return ⟨index, table, indexed⟩

/-- The declaration of a table or an index. -/
def create : Parser Statement := do
  expectKeyword .create
  let (first, _) ← look
  match first with
  | .keyword .table => do
    let schema ← createTable
    return .createTable schema
  | .keyword .index => do
    let declaration ← createIndex
    return .createIndex declaration
  | _ => Parser.refuse (.terminal (.keyword .table))

/-- A statement of any form. -/
def statement : Parser Statement := do
  let (first, _) ← look
  match first with
  | .keyword .select => do
    let query ← select
    return .select query
  | .keyword .insert => do
    let insertion ← insert
    return .insert insertion
  | .keyword .update => do
    let change ← update
    return .update change
  | .keyword .delete => do
    let removal ← delete
    return .delete removal
  | .keyword .create => create
  | .keyword .drop => do
    expectKeyword .drop
    expectKeyword .table
    let table ← name
    return .dropTable table
  | .keyword .«show» => do
    expectKeyword .«show»
    expectKeyword .tables
    return .showTables
  | _ => Parser.refuse .statement

/-- The only statement of a list of tokens. -/
def onlyStatement : Parser Statement := do
  let read ← statement
  let _ ← accept (.symbol .semicolon)
  let (first, _) ← look
  if first = .endOfInput then
    return read
  else
    Parser.refuse (.terminal .endOfInput)

end Grammar

namespace Statement

/-- The statement that a list of tokens forms, or why it forms none. -/
def ofTokens (tokens : List Token) : Except Grammar.Refusal Statement :=
  match Grammar.onlyStatement tokens with
  | .ok (statement, _) => .ok statement
  | .error refusal => .error refusal

/-- The statement that a text spells. -/
def parse (text : String) : Except Error Statement :=
  match Token.ofText text with
  | .error fault => .error (.syntaxFault fault)
  | .ok tokens =>
    match ofTokens tokens with
    | .ok statement => .ok statement
    | .error refusal => .error refusal.toError

end Statement

end Relational
