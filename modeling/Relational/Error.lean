import Relational.Value.Basic

/-!
# Errors

An error is a cause.  Clients see three things of it: the name of its kind, a
message that starts with that name, and the status code of a failed request.
All wording is in this module.  Where the operating system or the reader of JSON
gives a reason of its own, the wording ends in front of it.
-/

namespace Relational

/-- A text that is not a statement. -/
inductive SyntaxFault where
  | unexpectedCharacter (c : Char) (position : Nat)
  | unterminatedComment (position : Nat)
  | unterminatedString (position : Nat)
  | unterminatedName (position : Nat)
  | invalidNumber (numeral : String) (position : Nat)
  | integerOutOfRange (numeral : String) (position : Nat)
  | expected (what : String) (near : String)
  | missingPrimaryKey (table : String)
  | compositePrimaryKey (table : String)
  | emptyQuery
  /-- A body that is not a request.  The reader's reason is not part of it. -/
  | invalidRequestBody
deriving DecidableEq

/-- A value that is not of the type its place asks for. -/
inductive TypeFault where
  | cannotConvert (value : Value) (type : ColumnType) (column : String)
  | cannotNegate (value : Value)
  | patternNotText (value : Value)
  | amountNotInteger (value : Value)
  | notACondition (value : Value)
  | notArithmetic (value : Value)
  | notComparable (left right : Value)
  | notNumeric (function : String) (value : Value)
deriving DecidableEq

/-- A change that a table's declaration forbids. -/
inductive ConstraintFault where
  | columnRepeated (column : String)
  | columnMissing (table column : String)
  | nullPrimaryKey (column : String)
  | primaryKeyUpdate (column : String)
deriving DecidableEq

/-- A statement that is well formed but asks for something that cannot be
done. -/
inductive QueryFault where
  | noColumns (table : String)
  | duplicateColumn (column table : String)
  | countMismatch (columns values : Nat)
  | columnAssignedTwice (column : String)
  | havingWithoutGroups
  | starWithAggregation
  | columnNotGrouped (column : String)
  | aggregateNotAllowedIn (call : String) (clause : String)
  | aggregateNotAllowedHere (call : String)
  | notAnAggregate (expression : String)
  | integerOverflow
  | integerOverflowIn (operator : String)
  | strayInterval
  | dateSubArity
  | unaryFunctionArity (function : String)
  | needsWriteAccess (statement : String)
  | rowLength (values : Nat) (table : String) (columns : Nat)
  | rowMissing (id : RowId)
  | rowExists (id : RowId)
  | indexExists (name table : String)
  | invalidDatabaseName (name : String)
  | databaseNotNamed
  | positionOutOfRange (position : Nat)
  | noPlan (statement : String)
deriving DecidableEq

/-- Why a statement or request failed. -/
inductive Error where
  | syntaxFault (fault : SyntaxFault)
  | tableNotFound (table : String)
  | tableExists (table : String)
  | columnNotFound (table column : String)
  | typeMismatch (fault : TypeFault)
  | duplicateKey (table column : String) (value : Value)
  | constraint (fault : ConstraintFault)
  | invalidQuery (fault : QueryFault)
  /-- The database was not in memory when it had to be. -/
  | databaseNotLoaded (database : String)
  /-- The data directory did not take a snapshot.  The system's reason is not part
  of it. -/
  | snapshotNotWritten
  /-- The snapshot at a path is not a document of the expected form.  The reader's
  reason is not part of it. -/
  | snapshotCorrupt (path : String)
  /-- A snapshot describes a table that could not have been built. -/
  | snapshotTableInvalid (table path : String) (cause : Error)
deriving DecidableEq

namespace SyntaxFault

/-- The wording of a syntax error. -/
def message : SyntaxFault → String
  | .unexpectedCharacter c position =>
    "Unexpected character '" ++ String.singleton c ++ "' at position " ++ naturalText position
  | .unterminatedComment position =>
    "Unterminated comment starting with '/*' at position " ++ naturalText position
  | .unterminatedString position =>
    "Unterminated string literal starting with ''' at position " ++ naturalText position
  | .unterminatedName position =>
    "Unterminated quoted identifier starting with '\"' at position " ++ naturalText position
  | .invalidNumber numeral position =>
    "Invalid number '" ++ numeral ++ "' at position " ++ naturalText position
  | .integerOutOfRange numeral position =>
    "Integer literal '" ++ numeral ++ "' out of range at position " ++ naturalText position
  | .expected what near => "Expected " ++ what ++ " near '" ++ near ++ "'"
  | .missingPrimaryKey table =>
    "Table '" ++ table ++ "' requires exactly one PRIMARY KEY column"
  | .compositePrimaryKey table =>
    "Composite primary keys are not supported (table '" ++ table ++ "')"
  | .emptyQuery => "SQL query cannot be empty"
  | .invalidRequestBody => "Invalid request body"

end SyntaxFault

namespace TypeFault

/-- The wording of a type error. -/
def message : TypeFault → String
  | .cannotConvert value type column =>
    "Cannot convert " ++ value.sqlLiteral ++ " to " ++ type.sqlName ++ " for column '" ++
      column ++ "'"
  | .cannotNegate value => "Cannot negate " ++ value.sqlLiteral
  | .patternNotText value => "LIKE pattern must be a string, got " ++ value.sqlLiteral
  | .amountNotInteger value => "DATE_SUB amount must be an integer, got " ++ value.sqlLiteral
  | .notACondition value => "Expected a boolean condition, got " ++ value.sqlLiteral
  | .notArithmetic value => "Cannot use " ++ value.sqlLiteral ++ " in arithmetic"
  | .notComparable left right =>
    "Cannot compare " ++ left.sqlLiteral ++ " with " ++ right.sqlLiteral
  | .notNumeric function value =>
    function ++ " requires numeric values, got " ++ value.sqlLiteral

end TypeFault

namespace ConstraintFault

/-- The wording of a violated constraint. -/
def message : ConstraintFault → String
  | .columnRepeated column => "Column '" ++ column ++ "' specified more than once"
  | .columnMissing table column =>
    "INSERT into '" ++ table ++ "' must specify every column; missing '" ++ column ++ "'"
  | .nullPrimaryKey column => "Primary key column '" ++ column ++ "' cannot be NULL"
  | .primaryKeyUpdate column => "Cannot update primary key column '" ++ column ++ "'"

end ConstraintFault

namespace QueryFault

/-- The wording of a statement that cannot be carried out. -/
def message : QueryFault → String
  | .noColumns table => "Table '" ++ table ++ "' must have at least one column"
  | .duplicateColumn column table =>
    "Duplicate column '" ++ column ++ "' in table '" ++ table ++ "'"
  | .countMismatch columns values =>
    "INSERT has " ++ naturalText columns ++ " columns but " ++ naturalText values ++ " values"
  | .columnAssignedTwice column => "Column '" ++ column ++ "' assigned more than once"
  | .havingWithoutGroups => "HAVING requires GROUP BY or an aggregate"
  | .starWithAggregation => "SELECT * cannot be combined with aggregation"
  | .columnNotGrouped column =>
    "Column '" ++ column ++ "' must appear in GROUP BY or be used in an aggregate function"
  | .aggregateNotAllowedIn call clause =>
    "Aggregate function " ++ call ++ " is not allowed in " ++ clause
  | .aggregateNotAllowedHere call => "Aggregate function " ++ call ++ " is not allowed here"
  | .notAnAggregate expression => expression ++ " is not an aggregate"
  | .integerOverflow => "Integer overflow"
  | .integerOverflowIn operator => "Integer overflow in '" ++ operator ++ "'"
  | .strayInterval => "INTERVAL is only valid as the second argument of DATE_SUB"
  | .dateSubArity => "DATE_SUB takes two arguments"
  | .unaryFunctionArity function => function ++ " takes one argument"
  | .needsWriteAccess statement => statement ++ " requires write access"
  | .rowLength values table columns =>
    "Row has " ++ naturalText values ++ " values but table '" ++ table ++ "' has " ++
      naturalText columns ++ " columns"
  | .rowMissing id => "Row " ++ naturalText id ++ " does not exist"
  | .rowExists id => "Row " ++ naturalText id ++ " already exists"
  | .indexExists name table => "Index '" ++ name ++ "' already exists on table '" ++ table ++ "'"
  | .invalidDatabaseName name => "Invalid database name '" ++ name ++ "'"
  | .databaseNotNamed => "Missing database name 'db'"
  | .positionOutOfRange position => "Position " ++ naturalText position ++ " is out of range"
  | .noPlan statement => "no plan for " ++ statement

end QueryFault

namespace Error

/-- The stable name of an error's kind, with which its message starts. -/
def kind : Error → String
  | .syntaxFault _ => "SyntaxError"
  | .tableNotFound _ => "TableNotFoundError"
  | .tableExists _ => "TableExistsError"
  | .columnNotFound _ _ => "ColumnNotFoundError"
  | .typeMismatch _ => "TypeMismatchError"
  | .duplicateKey _ _ _ => "DuplicateKeyError"
  | .constraint _ => "ConstraintError"
  | .invalidQuery _ => "InvalidQueryError"
  | .databaseNotLoaded _ => "PersistenceError"
  | .snapshotNotWritten => "PersistenceError"
  | .snapshotCorrupt _ => "PersistenceError"
  | .snapshotTableInvalid _ _ _ => "PersistenceError"

/-- The status code of a request that fails with this error. -/
def status : Error → Nat
  | .syntaxFault _ => 400
  | .typeMismatch _ => 400
  | .constraint _ => 400
  | .invalidQuery _ => 400
  | .tableNotFound _ => 404
  | .columnNotFound _ _ => 404
  | .tableExists _ => 409
  | .duplicateKey _ _ _ => 409
  | .databaseNotLoaded _ => 500
  | .snapshotNotWritten => 500
  | .snapshotCorrupt _ => 500
  | .snapshotTableInvalid _ _ _ => 500

/-- The wording of an error without the name of its kind. -/
def detail : Error → String
  | .syntaxFault fault => fault.message
  | .tableNotFound table => "Table '" ++ table ++ "' does not exist"
  | .tableExists table => "Table '" ++ table ++ "' already exists"
  | .columnNotFound table column =>
    "Column '" ++ column ++ "' does not exist in table '" ++ table ++ "'"
  | .typeMismatch fault => fault.message
  | .duplicateKey table column value =>
    "Duplicate value " ++ value.sqlLiteral ++ " for primary key '" ++ column ++
      "' in table '" ++ table ++ "'"
  | .constraint fault => fault.message
  | .invalidQuery fault => fault.message
  | .databaseNotLoaded database => "Database '" ++ database ++ "' is not loaded"
  | .snapshotNotWritten => "IO error"
  | .snapshotCorrupt path => "Corrupt snapshot " ++ path
  | .snapshotTableInvalid table path cause =>
    "Invalid table '" ++ table ++ "' in " ++ path ++ ": " ++ cause.kind ++ ": " ++ detail cause

/-- The message of an error: the name of its kind, then its wording. -/
def message (error : Error) : String :=
  error.kind ++ ": " ++ error.detail

end Error

end Relational
