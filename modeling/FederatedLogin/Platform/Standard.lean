import FederatedLogin.Certificate.Bundle
import FederatedLogin.Platform

/-!
# A platform to run with

Bundles are loaded by `Certificate.isLoadable`.  The library for databases takes the part of a
dialect that has the name of a driver for that driver, whatever it is; where the part is none, it
lacks what a driver has.
-/

namespace FederatedLogin.Platform

/-- What every module has. -/
def moduleParts : List String :=
  ["__all__", "__annotations__", "__builtins__", "__cached__", "__class__", "__delattr__",
   "__dict__", "__dir__", "__doc__", "__eq__", "__file__", "__format__", "__ge__",
   "__getattribute__", "__getstate__", "__gt__", "__hash__", "__init__", "__init_subclass__",
   "__le__", "__loader__", "__lt__", "__name__", "__ne__", "__new__", "__package__", "__path__",
   "__reduce__", "__reduce_ex__", "__repr__", "__setattr__", "__sizeof__", "__spec__", "__str__",
   "__subclasshook__"]

/-- The parts of the dialects that are no drivers, although they can be asked for as such. -/
def otherParts : List (String × List String) :=
  [("sqlite",
      moduleParts ++
      ["BLOB", "BOOLEAN", "CHAR", "DATE", "DATETIME", "DECIMAL", "FLOAT", "INTEGER", "Insert",
       "JSON", "NUMERIC", "REAL", "SMALLINT", "TEXT", "TIME", "TIMESTAMP", "VARCHAR", "dialect",
       "dml", "insert", "json"]),
   ("postgresql",
      moduleParts ++
      ["ARRAY", "All", "Any", "BIGINT", "BIT", "BOOLEAN", "BYTEA", "CHAR", "CIDR", "CITEXT",
       "CreateDomainType", "CreateEnumType", "DATE", "DATEMULTIRANGE", "DATERANGE", "DOMAIN",
       "DOUBLE_PRECISION", "DropDomainType", "DropEnumType", "ENUM", "ExcludeConstraint", "FLOAT",
       "HSTORE", "INET", "INT4MULTIRANGE", "INT4RANGE", "INT8MULTIRANGE", "INT8RANGE", "INTEGER",
       "INTERVAL", "Insert", "JSON", "JSONB", "JSONPATH", "MACADDR", "MACADDR8", "MONEY",
       "ModuleType", "MultiRange", "NUMERIC", "NUMMULTIRANGE", "NUMRANGE", "NamedType", "OID",
       "REAL", "REGCLASS", "REGCONFIG", "Range", "SMALLINT", "TEXT", "TIME", "TIMESTAMP",
       "TSMULTIRANGE", "TSQUERY", "TSRANGE", "TSTZMULTIRANGE", "TSTZRANGE", "TSVECTOR", "UUID",
       "VARCHAR", "_psycopg_common", "aggregate_order_by", "array", "array_agg", "dialect", "dml",
       "ext", "hstore", "insert", "json", "named_types", "operators", "pg_catalog",
       "phraseto_tsquery", "plainto_tsquery", "ranges", "to_tsquery", "to_tsvector",
       "ts_headline", "types", "websearch_to_tsquery"]),
   ("mysql",
      moduleParts ++
      ["BIGINT", "BINARY", "BIT", "BLOB", "BOOLEAN", "CHAR", "DATE", "DATETIME", "DECIMAL",
       "DOUBLE", "ENUM", "FLOAT", "INTEGER", "Insert", "JSON", "LONGBLOB", "LONGTEXT",
       "MEDIUMBLOB", "MEDIUMINT", "MEDIUMTEXT", "NCHAR", "NUMERIC", "NVARCHAR", "REAL", "SET",
       "SMALLINT", "TEXT", "TIME", "TIMESTAMP", "TINYBLOB", "TINYINT", "TINYTEXT", "VARBINARY",
       "VARCHAR", "YEAR", "dialect", "dml", "enumerated", "expression", "insert", "json",
       "mariadb", "match", "reflection", "reserved_words", "types"]),
   ("mariadb",
      ["dml", "enumerated", "expression", "json", "mariadb", "reflection", "reserved_words",
       "types"]),
   ("mssql",
      moduleParts ++
      ["BIGINT", "BINARY", "BIT", "CHAR", "DATE", "DATETIME", "DATETIME2", "DATETIMEOFFSET",
       "DECIMAL", "DOUBLE_PRECISION", "FLOAT", "IMAGE", "INTEGER", "JSON", "MONEY", "NCHAR",
       "NTEXT", "NUMERIC", "NVARCHAR", "REAL", "ROWVERSION", "SMALLDATETIME", "SMALLINT",
       "SMALLMONEY", "SQL_VARIANT", "TEXT", "TIME", "TIMESTAMP", "TINYINT", "UNIQUEIDENTIFIER",
       "VARBINARY", "VARCHAR", "XML", "dialect", "information_schema", "json", "try_cast"]),
   ("oracle",
      moduleParts ++
      ["BFILE", "BINARY_DOUBLE", "BINARY_FLOAT", "BLOB", "CHAR", "CLOB", "DATE",
       "DOUBLE_PRECISION", "FLOAT", "INTERVAL", "LONG", "ModuleType", "NCHAR", "NCLOB", "NUMBER",
       "NVARCHAR", "NVARCHAR2", "RAW", "REAL", "ROWID", "TIMESTAMP", "VARCHAR", "VARCHAR2",
       "dialect", "dictionary", "types", "vector"])]

/-- Whether a driver is another part of its dialect. -/
def isOtherPart (driver : List Char) : Bool :=
  otherParts.any fun (dialect, parts) =>
    let named := (dialect ++ "+").toList
    named.isPrefixOf driver && parts.contains (String.ofList (driver.drop named.length))

/-- A platform to run with, for those who open it. -/
scoped instance standard : Platform where
  nestingLimit := 950
  two_le_nestingLimit := by decide
  loadsBundle := Certificate.isLoadable
  driverTrouble? driver := if isOtherPart driver then some .partMissing else none

end FederatedLogin.Platform
