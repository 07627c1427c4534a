import DataCommand.Dialect.Basic

/-!
The built-in dialects.
-/

namespace DataCommand.Dialect

/-- Words reserved in every dialect of SQL. -/
def reservedWords : List String := [
  "ALL", "AND", "AS", "ASC", "BETWEEN", "BY", "CASE", "CHECK", "COLUMN", "CONSTRAINT",
  "CREATE", "DEFAULT", "DELETE", "DESC", "DISTINCT", "DROP", "ELSE", "END", "EXISTS", "FALSE",
  "FOR", "FOREIGN", "FROM", "GRANT", "GROUP", "HAVING", "IN", "INDEX", "INSERT", "INTO", "IS",
  "JOIN", "KEY", "LIKE", "LIMIT", "NOT", "NULL", "OFFSET", "ON", "OR", "ORDER", "PRIMARY",
  "REFERENCES", "SELECT", "SET", "TABLE", "THEN", "TO", "TRUE", "UNION", "UNIQUE", "UPDATE",
  "USER", "USING", "VALUES", "WHEN", "WHERE", "WITH"]

/-- Plain ANSI SQL. -/
def standard : Dialect := { name := "standard", reserved := reservedWords }

/-- MySQL and MariaDB. -/
def mysql : Dialect := {
  name := "mysql"
  leftQuote := '\x60'
  rightQuote := '\x60'
  reserved := reservedWords
  alsoReserved := [
    "CHANGE", "DATABASE", "DIV", "DUAL", "FULLTEXT", "IGNORE", "INTERVAL", "KEYS", "LOCK",
    "MOD", "RANGE", "READ", "REGEXP", "RENAME", "REPLACE", "RLIKE", "SHOW", "STATUS", "XOR"]
  likeForm := .call
  groupsByAlias := true
  ordersNulls := false
  conflictForm := .duplicateKey
  windowForm := .limitPair }

/-- PostgreSQL. -/
def postgres : Dialect := {
  name := "postgres"
  reserved := reservedWords
  likeForm := .call
  groupsByAlias := true
  conflictForm := .onConflict
  windowForm := .limitOffset }

/-- Oracle, which has no catalogs. -/
def oracle : Dialect := {
  name := "oracle"
  reserved := reservedWords
  alsoReserved := [
    "ACCESS", "COMMENT", "DATE", "FILE", "LEVEL", "MODE", "NUMBER", "RAW", "ROW", "ROWID",
    "ROWNUM", "ROWS", "SESSION", "SIZE", "START", "SYSDATE", "UID", "VARCHAR2"]
  targetForm := .owned
  likeForm := .nestedCall
  groupsByAlias := true
  conflictForm := .merge
  windowForm := .rowNumber }

/-- The shell notation of MongoDB. -/
def mongo : Dialect := {
  name := "mongo"
  reserved := []
  naming := .verbatim
  targetForm := .database
  aliasSeparator := ":"
  likeForm := .bare
  likePattern := .anchored
  ordersByAlias := false
  ordersNulls := false
  nullsFallback := .dropped
  windowForm := .hint }

/-- The query language of Elasticsearch. -/
def elastic : Dialect := {
  name := "elastic"
  reserved := []
  naming := .verbatim
  targetForm := .index
  likeForm := .bare
  likePattern := .wildcard
  ordersByAlias := false
  windowForm := .hint }

end DataCommand.Dialect
