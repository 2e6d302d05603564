import MqlMySql.Model.Text

/-!
# What the DLL calls outside itself

The DLL is linked against libmysql and the C runtime. `Host` gathers the functions it calls, over an
arbitrary library state: nothing is assumed of their answers here. Null pointers are passed on as
`none`, as the source does not test them.

Every call is recorded with its pointers and its answer. Rows live in library memory, so reading a
column of a row is recorded as well.
-/

namespace MqlMySql

/-- The address of a `MYSQL` structure. -/
structure Mysql where
  address : ℕ
deriving DecidableEq, Repr

/-- The address of a `MYSQL_RES` structure. -/
structure MysqlRes where
  address : ℕ
deriving DecidableEq, Repr

/-- A non-null `MYSQL_ROW`, the address of an array of column texts. -/
structure MysqlRow where
  address : ℕ
deriving DecidableEq, Repr

/-- The arguments of `mysql_real_connect` after the handle. -/
structure ConnectRequest where
  host : List UInt8
  user : List UInt8
  password : List UInt8
  database : List UInt8
  port : ℤ
  socket : List UInt8
  clientFlag : ℤ
deriving DecidableEq, Repr

/-- The functions of libmysql and of the C runtime which the DLL calls.

Only the documented error codes are meant, those of `errmsg.h` and `mysqld_error.h`. All of them are far
below `2 ^ 31`, so storing the `unsigned int` of `mysql_errno` in an `int` keeps its value, and a code is a
natural number here. Messages are at most `MYSQL_ERRMSG_SIZE` = 512 characters
and always fit the 1024 characters of a description. -/
structure Host (σ : Type) where
  mysqlInit : σ → Option Mysql × σ
  mysqlRealConnect : Mysql → ConnectRequest → σ → Option Mysql × σ
  mysqlClose : Option Mysql → σ → σ
  mysqlRealQuery : Option Mysql → List UInt8 → ℕ → σ → ℤ × σ
  mysqlErrno : Option Mysql → σ → ℕ
  mysqlError : Option Mysql → σ → String
  mysqlUseResult : Option Mysql → σ → Option MysqlRes × σ
  mysqlStoreResult : Option Mysql → σ → Option MysqlRes × σ
  mysqlMoreResults : Option Mysql → σ → Bool
  mysqlNextResult : Option Mysql → σ → ℤ × σ
  mysqlAffectedRows : Option Mysql → σ → ℕ
  mysqlFreeResult : Option MysqlRes → σ → σ
  mysqlNumRows : Option MysqlRes → σ → ℕ
  mysqlNumFields : Option MysqlRes → σ → ℕ
  mysqlFetchRow : Option MysqlRes → σ → Option MysqlRow × σ
  rowField : MysqlRow → ℕ → σ → Option (List UInt8)
  wcstombs : WStr → List UInt8

/-- One recorded call into the library, with the pointers it returned. -/
inductive LibraryCall
  | init (answer : Option Mysql)
  | realConnect (mysql : Mysql) (request : ConnectRequest) (answer : Option Mysql)
  | close (mysql : Option Mysql)
  | realQuery (mysql : Option Mysql) (query : List UInt8) (length : ℕ)
  | errno (mysql : Option Mysql)
  | error (mysql : Option Mysql)
  | useResult (mysql : Option Mysql) (answer : Option MysqlRes)
  | storeResult (mysql : Option Mysql) (answer : Option MysqlRes)
  | moreResults (mysql : Option Mysql)
  | nextResult (mysql : Option Mysql)
  | affectedRows (mysql : Option Mysql)
  | freeResult (res : Option MysqlRes)
  | numRows (res : Option MysqlRes)
  | numFields (res : Option MysqlRes)
  | fetchRow (res : Option MysqlRes) (answer : Option MysqlRow)
  | rowField (row : MysqlRow) (column : ℕ)
deriving DecidableEq, Repr

end MqlMySql
