import TableDoc.Dialect

/-!
# Names of data types

A type of a column is one of these names with arguments, or a name of the user's own. The module
holds the words that a statement spells them with, the words that a rendered type shows in each
dialect, and the unsigned form of a number type.
-/

namespace TableDoc.Sql

/-- A data type that at least one dialect knows. -/
inductive TypeName where
  | array | bigdecimal | bigint | bignum | bigserial | binary | bit | blob | boolean | bpchar
  | char | cstring | date | datemultirange | daterange | datetime | decfloat | decimal
  | decimal32 | decimal64 | decimal128 | decimal256 | double | enum | float | geography
  | geometry | hstore | inet | int | int128 | int256 | int4multirange | int4range
  | int8multirange | int8range | interval | json | jsonb | list | longblob | longtext | map
  | mediumblob | mediumint | mediumtext | money | name | nchar | null | nullable | nummultirange
  | numrange | nvarchar | object | oid | point | range | regclass | regcollation | regconfig
  | regdictionary | regnamespace | regoper | regoperator | regproc | regprocedure | regrole
  | regtype | serial | set | smallint | smallserial | struct | text | time | timeNs | timestamp
  | timestampltz | timestampntz | timestamptz | timetz | tinyblob | tinyint | tinytext
  | tsmultirange | tsrange | tstzmultirange | tstzrange | ubigint | udecimal | udouble | uint
  | uint128 | uint256 | umediumint | unknown | userDefined | usmallint | utinyint | uuid
  | varbinary | varchar | variant | vector | xml | year
deriving DecidableEq, Repr, Inhabited

namespace TypeName

/-- The name in capitals, as a rendered type shows it where no dialect has a word of its own. -/
def word : TypeName → String
  | array => "ARRAY" | bigdecimal => "BIGDECIMAL" | bigint => "BIGINT" | bignum => "BIGNUM"
  | bigserial => "BIGSERIAL" | binary => "BINARY" | bit => "BIT" | blob => "BLOB"
  | boolean => "BOOLEAN" | bpchar => "BPCHAR" | char => "CHAR" | cstring => "CSTRING"
  | date => "DATE"
  | datemultirange => "DATEMULTIRANGE" | daterange => "DATERANGE" | datetime => "DATETIME"
  | decfloat => "DECFLOAT" | decimal => "DECIMAL" | decimal32 => "DECIMAL32"
  | decimal64 => "DECIMAL64" | decimal128 => "DECIMAL128" | decimal256 => "DECIMAL256"
  | double => "DOUBLE" | enum => "ENUM" | float => "FLOAT" | geography => "GEOGRAPHY"
  | geometry => "GEOMETRY" | hstore => "HSTORE" | inet => "INET" | int => "INT"
  | int128 => "INT128" | int256 => "INT256" | int4multirange => "INT4MULTIRANGE"
  | int4range => "INT4RANGE" | int8multirange => "INT8MULTIRANGE" | int8range => "INT8RANGE"
  | interval => "INTERVAL" | json => "JSON" | jsonb => "JSONB" | list => "LIST"
  | longblob => "LONGBLOB" | longtext => "LONGTEXT" | map => "MAP" | mediumblob => "MEDIUMBLOB"
  | mediumint => "MEDIUMINT" | mediumtext => "MEDIUMTEXT" | money => "MONEY" | name => "NAME"
  | nchar => "NCHAR" | null => "NULL" | nullable => "NULLABLE"
  | nummultirange => "NUMMULTIRANGE" | numrange => "NUMRANGE" | nvarchar => "NVARCHAR"
  | object => "OBJECT" | oid => "OID" | point => "POINT" | range => "RANGE"
  | regclass => "REGCLASS" | regcollation => "REGCOLLATION" | regconfig => "REGCONFIG"
  | regdictionary => "REGDICTIONARY" | regnamespace => "REGNAMESPACE" | regoper => "REGOPER"
  | regoperator => "REGOPERATOR" | regproc => "REGPROC" | regprocedure => "REGPROCEDURE"
  | regrole => "REGROLE" | regtype => "REGTYPE" | serial => "SERIAL" | set => "SET"
  | smallint => "SMALLINT" | smallserial => "SMALLSERIAL" | struct => "STRUCT" | text => "TEXT"
  | time => "TIME" | timeNs => "TIME_NS" | timestamp => "TIMESTAMP" | timestampltz => "TIMESTAMPLTZ"
  | timestampntz => "TIMESTAMPNTZ" | timestamptz => "TIMESTAMPTZ" | timetz => "TIMETZ"
  | tinyblob => "TINYBLOB" | tinyint => "TINYINT" | tinytext => "TINYTEXT"
  | tsmultirange => "TSMULTIRANGE" | tsrange => "TSRANGE" | tstzmultirange => "TSTZMULTIRANGE"
  | tstzrange => "TSTZRANGE" | ubigint => "UBIGINT" | udecimal => "UDECIMAL"
  | udouble => "UDOUBLE" | uint => "UINT" | uint128 => "UINT128" | uint256 => "UINT256"
  | umediumint => "UMEDIUMINT" | unknown => "UNKNOWN" | userDefined => "USER-DEFINED"
  | usmallint => "USMALLINT" | utinyint => "UTINYINT" | uuid => "UUID"
  | varbinary => "VARBINARY" | varchar => "VARCHAR"
  | variant => "VARIANT" | vector => "VECTOR" | xml => "XML" | year => "YEAR"

/-! ## Spellings -/

/-- Words for types that both dialects read alike. -/
def commonSpellings : List (String × TypeName) :=
  [("ARRAY", array), ("BIT", bit), ("BOOL", boolean), ("BOOLEAN", boolean), ("BYTE", tinyint),
   ("MEDIUMINT", mediumint), ("INT1", tinyint), ("TINYINT", tinyint), ("INT16", smallint),
   ("SHORT", smallint), ("SMALLINT", smallint), ("HUGEINT", int128), ("UHUGEINT", uint128),
   ("INT2", smallint), ("INTEGER", int), ("INT", int), ("INT4", int), ("INT32", int),
   ("INT64", bigint), ("INT128", int128), ("INT256", int256), ("LONG", bigint),
   ("BIGINT", bigint), ("UINT", uint), ("UINT128", uint128), ("UINT256", uint256),
   ("DEC", decimal), ("DECIMAL", decimal), ("DECIMAL32", decimal32), ("DECIMAL64", decimal64),
   ("DECIMAL128", decimal128), ("DECIMAL256", decimal256), ("DECFLOAT", decfloat),
   ("BIGDECIMAL", bigdecimal), ("BIGNUMERIC", bigdecimal), ("BIGNUM", bignum), ("LIST", list),
   ("MAP", map), ("NULLABLE", nullable), ("NUMBER", decimal), ("NUMERIC", decimal),
   ("FIXED", decimal), ("REAL", float), ("FLOAT4", float), ("FLOAT8", double),
   ("DOUBLE", double), ("DOUBLE PRECISION", double), ("JSON", json), ("JSONB", jsonb),
   ("CHAR", char), ("CHARACTER", char), ("CHAR VARYING", varchar),
   ("CHARACTER VARYING", varchar), ("NCHAR", nchar), ("VARCHAR", varchar), ("VARCHAR2", varchar),
   ("NVARCHAR", nvarchar), ("NVARCHAR2", nvarchar), ("BPCHAR", bpchar), ("STR", text),
   ("STRING", text), ("TEXT", text), ("LONGTEXT", longtext), ("MEDIUMTEXT", mediumtext),
   ("TINYTEXT", tinytext), ("CLOB", text), ("LONGVARCHAR", text), ("BINARY", binary),
   ("LONGBLOB", longblob), ("MEDIUMBLOB", mediumblob), ("TINYBLOB", tinyblob),
   ("BYTEA", varbinary), ("VARBINARY", varbinary), ("TIME", time), ("TIME_NS", timeNs),
   ("TIMETZ", timetz),
   ("TIMESTAMPTZ", timestamptz), ("TIMESTAMPLTZ", timestampltz),
   ("TIMESTAMP_LTZ", timestampltz), ("TIMESTAMPNTZ", timestampntz),
   ("TIMESTAMP_NTZ", timestampntz), ("DATE", date), ("DATETIME", datetime),
   ("INT4RANGE", int4range), ("INT4MULTIRANGE", int4multirange), ("INT8RANGE", int8range),
   ("INT8MULTIRANGE", int8multirange), ("NUMRANGE", numrange), ("NUMMULTIRANGE", nummultirange),
   ("TSRANGE", tsrange), ("TSMULTIRANGE", tsmultirange), ("TSTZRANGE", tstzrange),
   ("TSTZMULTIRANGE", tstzmultirange), ("DATERANGE", daterange),
   ("DATEMULTIRANGE", datemultirange), ("VECTOR", vector), ("STRUCT", struct),
   ("VARIANT", variant), ("GEOGRAPHY", geography), ("GEOMETRY", geometry), ("INET", inet),
   ("INTERVAL", interval), ("OBJECT", object), ("UUID", uuid), ("ENUM", enum), ("RANGE", range),
   ("SERIAL", serial), ("UNKNOWN", unknown), ("USER-DEFINED", userDefined)]

/-- Types of handles on the objects of a database, which take no arguments and make no arrays. -/
def handles : List TypeName :=
  [cstring, oid, regclass, regcollation, regconfig, regdictionary, regnamespace, regoper,
   regoperator, regproc, regprocedure, regrole, regtype]

/-- Words for types that one dialect alone reads, or reads in its own way. -/
def ownSpellings : Dialect → List (String × TypeName)
  | .mysql =>
    [("BLOB", blob), ("SIGNED", bigint), ("SIGNED INTEGER", bigint), ("UNSIGNED", ubigint),
     ("UNSIGNED INTEGER", ubigint), ("YEAR", year), ("TIMESTAMP", timestamptz), ("INT8", tinyint),
     ("FLOAT", float)]
  | .postgres =>
    [("BLOB", varbinary), ("BIGSERIAL", bigserial), ("SMALLSERIAL", smallserial),
     ("INT8", bigint), ("MONEY", money), ("NAME", name), ("HSTORE", hstore), ("XML", xml),
     ("TIMESTAMP", timestamp), ("FLOAT", double), ("POINT", point)] ++
    handles.map fun t => (t.word, t)

/-- The type that a word in capitals names in a dialect. -/
def ofWord? (d : Dialect) (word : String) : Option TypeName :=
  ((ownSpellings d).lookup word).orElse fun _ => commonSpellings.lookup word

/-! ## Families -/

/-- The unsigned form of a number type that has one. -/
def unsigned? : TypeName → Option TypeName
  | bigint => some ubigint
  | int => some uint
  | mediumint => some umediumint
  | smallint => some usmallint
  | tinyint => some utinyint
  | decimal => some udecimal
  | double => some udouble
  | _ => none

/-- The word and the sign of a number type: an unsigned type shows its signed word. -/
def signedWord? : TypeName → Option String
  | utinyint => some "tinyint"
  | usmallint => some "smallint"
  | umediumint => some "mediumint"
  | uint => some "int"
  | ubigint => some "bigint"
  | udecimal => some "decimal"
  | udouble => some "double"
  | _ => none

/-- Whether a type is a handle on an object of the database. -/
def isHandle (t : TypeName) : Bool := handles.contains t

/-- Types whose arguments are types. -/
def isNested : TypeName → Bool
  | array | list | map | nullable | struct | object | range => true
  | _ => false

/-- Types whose arguments are named fields. -/
def isStruct : TypeName → Bool
  | struct | object => true
  | _ => false

/-- Types whose arguments are the allowed values. -/
def isEnumerated : TypeName → Bool
  | enum | set => true
  | _ => false

/-- Types that may be followed by a choice of time zone. -/
def isTimestamp : TypeName → Bool
  | time | timetz | timestamp | timestamptz | timestampltz | timestampntz => true
  | _ => false

/-- Types of a time of day. -/
def isTimeOfDay : TypeName → Bool
  | time | timetz => true
  | _ => false

/-- Types whose values the database counts up by itself. -/
def isSerial : TypeName → Bool
  | serial | smallserial | bigserial => true
  | _ => false

/-! ## Rendered words -/

/-- The word of a type in a rendered statement. -/
def rendered (d : Dialect) (t : TypeName) : String :=
  match d, t with
  | _, nchar => "CHAR"
  | _, nvarchar => "VARCHAR"
  | .mysql, timestamp | .mysql, timestampntz => "DATETIME"
  | .mysql, timestamptz | .mysql, timestampltz => "TIMESTAMP"
  | .postgres, tinyint => "SMALLINT"
  | .postgres, float => "REAL"
  | .postgres, double => "DOUBLE PRECISION"
  | .postgres, binary | .postgres, varbinary | .postgres, blob => "BYTEA"
  | .postgres, datetime | .postgres, timestampntz => "TIMESTAMP"
  | .postgres, mediumtext | .postgres, longtext | .postgres, tinytext => "TEXT"
  | .postgres, mediumblob | .postgres, longblob | .postgres, tinyblob => "BLOB"
  | _, t => t.word

end TypeName

end TableDoc.Sql
