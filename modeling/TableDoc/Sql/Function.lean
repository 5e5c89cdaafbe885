import TableDoc.Sql.Term
import TableDoc.Text.LetterCase

/-!
# Functions

A function with a class of its own: which arguments a call of it takes and how each dialect writes
the call. Most functions have their name as their class. One name may stand for several functions,
which the arguments tell apart; a name that stands for none takes any arguments and is written as
it stands.
-/

namespace TableDoc.Sql

/-- How a call is written. -/
inductive CallStyle where
  /-- The word and the arguments in parentheses. -/
  | call (shown : String)
  /-- The word alone, whatever the arguments. -/
  | bare (shown : String)
deriving DecidableEq, Repr

/-- A function with a class of its own. -/
structure Function where
  /-- The class of a call. -/
  cls : String
  /-- The least number of arguments. -/
  least : Nat
  /-- The greatest number of arguments, if there is one. -/
  most : Option Nat
  /-- The written form in each dialect. -/
  style : Dialect → CallStyle
  /-- What the arguments have to be, besides their number. -/
  suits : List Term → Bool := fun _ => true

namespace Function

/-- Whether a function takes some arguments. -/
def takes (f : Function) (args : List Term) : Bool :=
  decide (f.least ≤ args.length) && f.most.all (fun m => decide (args.length ≤ m)) && f.suits args

/-- A function that both dialects write alike. -/
def uniform (shown cls : String) (least : Nat) (most : Option Nat) : Function :=
  { cls := cls, least := least, most := most, style := fun _ => .call shown }

/-- A function whose class is its name without underscores. -/
def named (name : String) (least : Nat) (most : Option Nat) : Function :=
  uniform name (Text.lower (String.ofList (name.toList.filter (· != '_')))) least most

/-! ## Functions that the dialects write in their own ways -/

/-- A function of so many arguments at most that each dialect writes in its own way. -/
def styled (cls : String) (most : Nat) (style : Dialect → CallStyle) : Function :=
  { cls := cls, least := 0, most := some most, style := style }

/-- The function of the current time, which is a bare word in one dialect. -/
def currentTimestamp : Function := styled "currenttimestamp" 2 fun
  | .mysql => .call "CURRENT_TIMESTAMP"
  | .postgres => .bare "CURRENT_TIMESTAMP"

/-- The function of the current date. -/
def currentDate : Function := styled "currentdate" 1 fun _ => .bare "CURRENT_DATE"

/-- The function of the current time of day. -/
def currentTime : Function := styled "currenttime" 1 fun _ => .bare "CURRENT_TIME"

/-- The function of the current user. -/
def currentUser : Function := styled "currentuser" 1 fun
  | .mysql => .call "CURRENT_USER"
  | .postgres => .bare "CURRENT_USER"

/-- A function that gives a new identifier. -/
def newIdentifier : Function := styled "uuid" 3 fun
  | .mysql => .call "UUID"
  | .postgres => .call "GEN_RANDOM_UUID"

/-- A function that gives a random number. -/
def randomNumber : Function := styled "rand" 3 fun
  | .mysql => .call "RAND"
  | .postgres => .call "RANDOM"

/-! ## What arguments have to be -/

/-- Whether the second argument is an interval. -/
def addsInterval : List Term → Bool
  | _ :: t :: _ => t.className == "interval"
  | _ => false

/-- Whether the first argument is a text of hexadecimal digits. -/
def holdsHex : List Term → Bool
  | t :: _ => t.className == "hex"
  | [] => false

/-- Whether the form of a date asks for a time of day. -/
def asksForTime : List Char → Bool
  | '%' :: c :: rest => "fHhIiklprSsT".contains c || asksForTime rest
  | _ :: rest => asksForTime rest
  | [] => false

/-- Whether the second argument is the form of a time of day. -/
def readsTime : List Term → Bool
  | _ :: t :: _ => asksForTime t.label.toList
  | _ => false

/-! ## Names -/

/-- The functions whose class is their name, by the least and the greatest number of arguments. -/
def regular : List (Nat × Option Nat × List String) :=
  [(0, some 0, ["CURRENT_ACCOUNT", "CURRENT_ACCOUNT_NAME", "CURRENT_AVAILABLE_ROLES",
    "CURRENT_CATALOG", "CURRENT_CLIENT", "CURRENT_DATABASE", "CURRENT_IP_ADDRESS",
    "CURRENT_ORGANIZATION_NAME", "CURRENT_REGION", "CURRENT_ROLE", "CURRENT_STATEMENT",
    "CURRENT_TIMEZONE", "CURRENT_TRANSACTION", "CURRENT_VERSION", "CURRENT_WAREHOUSE", "PI",
    "SESSION_USER", "UTC_DATE"]),
   (0, some 1, ["CURRENT_DATETIME", "CURRENT_SCHEMA", "CURRENT_SCHEMAS", "LOCALTIME",
    "LOCALTIMESTAMP", "NTILE", "RANDN", "ROW_NUMBER", "SEQ1", "SEQ2", "SEQ4", "SEQ8", "UTC_TIME",
    "UTC_TIMESTAMP"]),
   (0, some 2, ["GENERATOR", "MAP", "MODE", "STR_TO_UNIX", "TIME"]),
   (0, some 4, ["JSON_FORMAT", "TIMESTAMP"]),
   (0, some 6, ["TIMESTAMP_LTZ_FROM_PARTS"]),
   (0, some 7, ["MAKE_INTERVAL", "TIMESTAMP_TZ_FROM_PARTS"]),
   (0, some 11, ["TIMESTAMP_FROM_PARTS"]),
   (0, none, ["ARRAY", "ARRAYS_ZIP", "ARRAY_CONSTRUCT_COMPACT", "COUNT", "CUME_DIST", "DATE",
    "DENSE_RANK", "LIST", "PERCENT_RANK", "RANK", "STRUCT", "VAR_MAP", "XOR"]),
   (1, some 1, ["ABS", "ACOS", "ACOSH", "AI_SUMMARIZE_AGG", "ANY_VALUE",
    "APPROX_PERCENTILE_ACCUMULATE", "APPROX_PERCENTILE_COMBINE", "ARRAY_COMPACT",
    "ARRAY_CONCAT_AGG", "ARRAY_FIRST", "ARRAY_LAST", "ARRAY_MAX", "ARRAY_MIN", "ARRAY_REVERSE",
    "ARRAY_UNION_AGG", "ARRAY_UNIQUE_AGG", "ASCII", "ASIN", "ASINH", "ATANH", "AVG",
    "BITMAP_BIT_POSITION", "BITMAP_BUCKET_NUMBER", "BITMAP_CONSTRUCT_AGG", "BITMAP_COUNT",
    "BITMAP_OR_AGG", "BITWISE_AND_AGG", "BITWISE_COUNT", "BITWISE_OR_AGG", "BITWISE_XOR_AGG",
    "BIT_LENGTH", "BOOLNOT", "BOOLXOR_AGG", "BYTE_LENGTH", "CBRT", "CHECK_JSON",
    "CODE_POINTS_TO_BYTES", "CODE_POINTS_TO_STRING", "COLLATION", "COS", "COSH", "COT", "COTH",
    "COUNT_IF", "CSC", "CSCH", "DATE_FROM_UNIX_DATE", "DATE_STR_TO_DATE", "DATE_TO_DI", "DAY",
    "DAYOFWEEK_ISO", "DAY_OF_MONTH", "DAY_OF_WEEK", "DAY_OF_YEAR", "DEGREES", "DI_TO_DATE", "EXP",
    "FACTORIAL", "FIRST_VALUE", "FLATTEN", "FROM_BASE32", "FROM_BASE64", "FROM_ISO8601_TIMESTAMP",
    "HEX", "HEX_DECODE_STRING", "HOST", "HOUR", "INLINE", "INT64", "IS_ARRAY", "IS_INF", "IS_NAN",
    "IS_NULL_VALUE", "JUSTIFY_DAYS", "JUSTIFY_HOURS", "JUSTIFY_INTERVAL", "KURTOSIS",
    "LAST_VALUE", "LAX_BOOL", "LAX_FLOAT64", "LAX_INT64", "LAX_STRING", "LN", "LOGICAL_AND",
    "LOGICAL_OR", "LOWER", "LOWER_HEX", "MAP_FROM_ENTRIES", "MAP_KEYS", "MAP_SIZE", "MD5",
    "MEDIAN", "MINHASH_COMBINE", "MINUTE", "MONTH", "PARSE_BIGNUMERIC", "PARSE_NUMERIC",
    "QUARTER", "RADIANS", "REVERSE", "RTRIMMED_LENGTH", "SAFE_CONVERT_BYTES_TO_STRING",
    "SAFE_NEGATE", "SEC", "SECH", "SECOND", "SHA", "SIGN", "SIN", "SINH", "SKEWNESS", "SOUNDEX",
    "SOUNDEX_P123", "SPACE", "SQRT", "STAR_MAP", "STDDEV", "STDDEV_POP", "STDDEV_SAMP", "SUM",
    "TAN", "TANH", "TIME_STR_TO_DATE", "TIME_STR_TO_UNIX", "TIME_TO_UNIX", "TO_ARRAY",
    "TO_BASE32", "TO_BASE64", "TO_CODE_POINTS", "TO_DAYS", "TO_MAP", "TRY",
    "TRY_HEX_DECODE_BINARY", "TRY_HEX_DECODE_STRING", "TS_OR_DI_TO_DI", "TS_OR_DS_TO_DATETIME",
    "TS_OR_DS_TO_TIMESTAMP", "TYPEOF", "UNICODE", "UNIX_DATE", "UNIX_MICROS", "UNIX_MILLIS",
    "UNIX_SECONDS", "UNIX_TO_TIME_STR", "UPPER", "VARIANCE", "VARIANCE_POP", "WEEK_OF_YEAR",
    "YEAR", "YEAR_OF_WEEK", "YEAR_OF_WEEK_ISO"]),
   (1, some 2, ["APPROX_DISTINCT", "APPROX_QUANTILES", "APPROX_TOP_K_ACCUMULATE",
    "APPROX_TOP_K_COMBINE", "APPROX_TOP_K_ESTIMATE", "ARRAY_AGG", "ARRAY_DISTINCT", "ARRAY_SIZE",
    "ARRAY_SORT", "ARRAY_SUM", "ATAN", "BASE64_DECODE_BINARY", "BASE64_DECODE_STRING",
    "CHECK_XML", "COLUMNS", "COMPRESS", "DATETIME", "DAYNAME", "EXISTS", "FLOAT64", "HEX_ENCODE",
    "INITCAP", "JSON_EXTRACT_ARRAY", "JSON_TYPE", "JSON_VALUE_ARRAY", "LAST_DAY", "LOG",
    "MONTHNAME", "NEXT_VALUE_FOR", "OBJECT_ID", "PERCENTILE_CONT", "PERCENTILE_DISC", "RANDSTR",
    "SHA2", "STANDARD_HASH", "STRING", "TIME_STR_TO_TIME", "TO_BOOLEAN", "TO_DECFLOAT",
    "TRY_BASE64_DECODE_BINARY", "TRY_BASE64_DECODE_STRING", "TRY_TO_DECFLOAT", "UNHEX",
    "UNIX_TO_STR", "WEEK"]),
   (1, some 3, ["APPROX_TOP_K", "BASE64_ENCODE", "GROUP_CONCAT", "JSON_KEYS", "LAG", "LEAD",
    "LENGTH", "OPEN_JSON", "PARSE_DATETIME", "PARSE_JSON", "SORT_ARRAY", "STRING_TO_ARRAY",
    "STR_TO_DATE", "SUBSTRING", "TO_BINARY", "TO_DOUBLE", "TO_FILE", "TRUNC", "TS_OR_DS_TO_DATE",
    "TS_OR_DS_TO_TIME"]),
   (1, some 4, ["DATE_FROM_PARTS", "FEATURES_AT_TIME", "JSON_STRIP_NULLS", "PARSE_URL", "ROUND",
    "STR_TO_MAP", "TO_CHAR"]),
   (1, some 5, ["SPLIT_PART", "WIDTH_BUCKET"]),
   (1, some 6, ["LEVENSHTEIN", "TO_NUMBER"]),
   (1, some 7, ["UNIX_TO_TIME"]),
   (1, none, ["ARRAY_CONCAT", "ARRAY_INTERSECT", "COALESCE", "CONCAT", "CONCAT_WS", "DECODE_CASE",
    "EXPLODE", "EXPLODE_OUTER", "FARM_FINGERPRINT", "FIRST", "FORMAT", "GREATEST", "GROUPING",
    "GROUPING_ID", "HASH_AGG", "HLL", "LAST", "LEAST", "MAX", "MD5_DIGEST", "MIN", "POSEXPLODE",
    "POSEXPLODE_OUTER", "READ_CSV", "READ_PARQUET", "SCOPE_RESOLUTION"]),
   (2, some 2, ["AI_AGG", "AND", "APPLY", "APPROX_PERCENTILE_ESTIMATE", "ARRAY_ALL", "ARRAY_ANY",
    "ARRAY_CONTAINS_ALL", "ARRAY_REMOVE_AT", "ATAN2", "BOOLAND", "BOOLOR", "COLLATE",
    "COSINE_DISTANCE", "COVAR_POP", "COVAR_SAMP", "DECOMPRESS_BINARY", "DECOMPRESS_STRING",
    "DOT_PRODUCT", "ENCODE", "ENDS_WITH", "EQUAL_NULL", "EUCLIDEAN_DISTANCE", "FROM_BASE",
    "GET_EXTRACT", "JSONB_CONTAINS", "JSONB_EXISTS", "JSONB_EXTRACT", "JSONB_OBJECT_AGG",
    "MANHATTAN_DISTANCE", "MAP_CAT", "MAP_CONTAINS_KEY", "NEXT_DAY", "NULLIF", "OBJECT_AGG",
    "OBJECT_TRANSFORM", "OR", "PARSE_TIME", "PREVIOUS_DAY", "QUANTILE", "RANGE_BUCKET",
    "REGR_AVGX", "REGR_AVGY", "REGR_COUNT", "REGR_INTERCEPT", "REGR_R2", "REGR_SLOPE", "REGR_SXX",
    "REGR_SXY", "REGR_SYY", "REGR_VALX", "REGR_VALY", "REPEAT", "SAFE_ADD", "SAFE_DIVIDE",
    "SAFE_MULTIPLY", "SAFE_SUBTRACT", "SEARCH_IP", "STARTS_WITH", "STRUCT_EXTRACT", "TRANSFORM"]),
   (2, some 3, ["ADD_MONTHS", "AI_CLASSIFY", "ARRAY_APPEND", "ARRAY_EXCEPT", "ARRAY_OVERLAPS",
    "ARRAY_POSITION", "ARRAY_PREPEND", "ARRAY_REMOVE", "ARRAY_TO_STRING", "CONTAINS",
    "CONVERT_TO_CHARSET", "CORR", "DATETIME_ADD", "DATETIME_DIFF", "DATETIME_SUB",
    "DATETIME_TRUNC", "DATE_ADD", "DATE_SUB", "GENERATE_DATE_ARRAY", "GETBIT", "IF",
    "JAROWINKLER_SIMILARITY", "JSONB_EXTRACT_SCALAR", "JSON_ARRAY_CONTAINS", "LEFT",
    "MATCH_AGAINST", "MONTHS_BETWEEN", "NUMBER_TO_STR", "NVL2", "PARSE_IP", "PREDICT", "RANGE_N",
    "REGEXP_FULL_MATCH", "REGEXP_ILIKE", "REGEXP_SPLIT", "REPLACE", "RIGHT", "ST_DISTANCE",
    "ST_POINT", "TIMESTAMPDIFF", "TIMESTAMP_ADD", "TIMESTAMP_SUB", "TIME_ADD", "TIME_DIFF",
    "TIME_SUB", "TIME_TRUNC", "TS_OR_DS_DIFF", "XMLGET"]),
   (2, some 4, ["ARRAY_CONTAINS", "ARRAY_SLICE", "CONVERT_TIMEZONE", "DATE_BIN", "DATE_TRUNC",
    "ENCRYPT", "EXPLODING_GENERATE_SERIES", "GENERATE_EMBEDDING", "GENERATE_SERIES", "MAP_INSERT",
    "NTH_VALUE", "REGEXP_COUNT", "REGEXP_LIKE", "SPLIT", "TIMESTAMP_TRUNC", "TIME_TO_STR",
    "TS_OR_DS_ADD", "UNIFORM"]),
   (2, some 5, ["APPROX_QUANTILE", "DATEDIFF", "DECRYPT", "STR_TO_TIME"]),
   (2, some 6, ["REGEXP_EXTRACT_ALL", "SEARCH"]),
   (2, some 7, ["REGEXP_EXTRACT", "REGEXP_INSTR", "REGEXP_REPLACE"]),
   (2, none, ["ARG_MAX", "ARG_MIN", "ELT", "GLOB", "JSON_ARRAY_APPEND", "JSON_ARRAY_INSERT",
    "JSON_EXTRACT", "JSON_EXTRACT_SCALAR", "JSON_REMOVE", "JSON_SET", "MAP_DELETE", "MAP_PICK",
    "MINHASH", "MOD"]),
   (3, some 3, ["APPROX_TOP_SUM", "GENERATE_TIMESTAMP_ARRAY", "NORMAL", "SUBSTRING_INDEX",
    "TRANSLATE", "ZIPF"]),
   (3, some 4, ["ARRAY_INSERT", "OBJECT_INSERT", "REDUCE", "TIME_SLICE"]),
   (3, some 5, ["ENCRYPT_RAW"]),
   (3, some 6, ["TIME_FROM_PARTS"]),
   (3, some 7, ["DECRYPT_RAW"]),
   (4, some 4, ["PAD", "STUFF"])]

/-- Further names of regular functions, each with the name that is written. -/
def synonyms : List (String × String) :=
  [("APPROX_COUNT_DISTINCT", "APPROX_DISTINCT"), ("ARGMAX", "ARG_MAX"), ("ARGMIN", "ARG_MIN"),
   ("ARRAYAGG", "ARRAY_AGG"), ("ARRAY_CAT", "ARRAY_CONCAT"), ("ARRAY_HAS", "ARRAY_CONTAINS"),
   ("ARRAY_HAS_ALL", "ARRAY_CONTAINS_ALL"), ("ARRAY_INTERSECTION", "ARRAY_INTERSECT"),
   ("ARRAY_JOIN", "ARRAY_TO_STRING"), ("ARRAY_LENGTH", "ARRAY_SIZE"),
   ("BOOLAND_AGG", "LOGICAL_AND"), ("BOOLOR_AGG", "LOGICAL_OR"), ("BOOL_AND", "LOGICAL_AND"),
   ("BOOL_OR", "LOGICAL_OR"), ("CHARACTER_LENGTH", "LENGTH"), ("CHAR_LENGTH", "LENGTH"),
   ("COUNTIF", "COUNT_IF"), ("DATEFROMPARTS", "DATE_FROM_PARTS"), ("DATE_DIFF", "DATEDIFF"),
   ("DAYOFMONTH", "DAY_OF_MONTH"), ("DAYOFWEEK", "DAY_OF_WEEK"), ("DAYOFYEAR", "DAY_OF_YEAR"),
   ("ENDSWITH", "ENDS_WITH"), ("FARMFINGERPRINT64", "FARM_FINGERPRINT"), ("GET_BIT", "GETBIT"),
   ("IFNULL", "COALESCE"), ("IIF", "IF"), ("INSERT", "STUFF"), ("ISINF", "IS_INF"),
   ("ISNAN", "IS_NAN"), ("ISODOW", "DAYOFWEEK_ISO"),
   ("JSON_EXTRACT_PATH_TEXT", "JSON_EXTRACT_SCALAR"), ("JSON_PARSE", "PARSE_JSON"),
   ("LAST_DAY_OF_MONTH", "LAST_DAY"), ("LCASE", "LOWER"), ("LEN", "LENGTH"),
   ("MAX_BY", "ARG_MAX"), ("MIN_BY", "ARG_MIN"), ("NVL", "COALESCE"), ("SHA1", "SHA"),
   ("SIGNUM", "SIGN"), ("SPLIT_BY_STRING", "STRING_TO_ARRAY"), ("STARTSWITH", "STARTS_WITH"),
   ("STDEV", "STDDEV"), ("STRTOK_TO_ARRAY", "STRING_TO_ARRAY"), ("ST_MAKEPOINT", "ST_POINT"),
   ("SUBSTR", "SUBSTRING"), ("TIMEFROMPARTS", "TIME_FROM_PARTS"),
   ("TIMESTAMPFROMPARTS", "TIMESTAMP_FROM_PARTS"),
   ("TIMESTAMPLTZFROMPARTS", "TIMESTAMP_LTZ_FROM_PARTS"),
   ("TIMESTAMPTZFROMPARTS", "TIMESTAMP_TZ_FROM_PARTS"), ("TIMESTAMP_DIFF", "TIMESTAMPDIFF"),
   ("TO_HEX", "HEX"), ("TRUNCATE", "TRUNC"), ("UCASE", "UPPER"), ("VARIANCE_SAMP", "VARIANCE"),
   ("VAR_POP", "VARIANCE_POP"), ("VAR_SAMP", "VARIANCE"), ("WEEKOFYEAR", "WEEK_OF_YEAR"),
   ("YEAROFWEEK", "YEAR_OF_WEEK"), ("YEAROFWEEKISO", "YEAR_OF_WEEK_ISO")]

/-- The regular functions by their names in capitals. -/
def regularByName : List (String × Function) :=
  regular.flatMap fun (least, most, names) => names.map fun n => (n, named n least most)

/-- The functions of both dialects by name in capitals. -/
def common : List (String × Function) :=
  [("LOWER", { uniform "LOWER" "lowerhex" 1 (some 1) with suits := holdsHex }),
   ("LCASE", { uniform "LOWER" "lowerhex" 1 (some 1) with suits := holdsHex }),
   ("UPPER", { uniform "HEX" "hex" 1 (some 1) with suits := holdsHex }),
   ("UCASE", { uniform "HEX" "hex" 1 (some 1) with suits := holdsHex })] ++
  regularByName ++
  synonyms.filterMap (fun (n, shown) => (regularByName.lookup shown).map (n, ·)) ++
  [("ARRAY_FILTER", uniform "FILTER" "arrayfilter" 2 (some 2)),
   ("CEILING", uniform "CEIL" "ceil" 1 (some 3)),
   ("CHARINDEX", uniform "LOCATE" "strposition" 2 (some 5)),
   ("CURRENT_DATE", currentDate), ("CURRENT_TIME", currentTime),
   ("CURRENT_TIMESTAMP", currentTimestamp), ("CURRENT_USER", currentUser),
   ("DATE_TO_DATE_STR", uniform "CAST" "cast" 1 (some 6)),
   ("FILTER", uniform "FILTER" "arrayfilter" 2 (some 2)),
   ("GEN_RANDOM_UUID", newIdentifier), ("GENERATE_UUID", newIdentifier),
   ("INSTR", uniform "STRPOS" "strposition" 2 (some 5)),
   ("LEFTPAD", uniform "LPAD" "pad" 2 (some 4)), ("LIKE", uniform "LIKE" "like" 2 (some 2)),
   ("LIKE", uniform "LIKE" "escape" 3 none),
   ("LOCATE", uniform "LOCATE" "strposition" 2 (some 5)),
   ("LOG10", uniform "LOG10" "log" 1 (some 2)), ("LOG2", uniform "LOG2" "log" 1 (some 2)),
   ("LPAD", uniform "LPAD" "pad" 2 (some 4)), ("LTRIM", uniform "LTRIM" "trim" 1 (some 4)),
   ("POW", uniform "POWER" "pow" 2 (some 2)), ("POWER", uniform "POWER" "pow" 2 (some 2)),
   ("RAND", randomNumber), ("RANDOM", randomNumber),
   ("RIGHTPAD", uniform "RPAD" "pad" 2 (some 4)), ("RPAD", uniform "RPAD" "pad" 2 (some 4)),
   ("RTRIM", uniform "RTRIM" "trim" 1 (some 4)),
   ("STRPOS", uniform "STRPOS" "strposition" 2 (some 5)),
   ("STR_POSITION", uniform "STRPOS" "strposition" 2 (some 5)),
   ("TIME_TO_TIME_STR", uniform "CAST" "cast" 1 (some 6)),
   ("TS_OR_DS_TO_DATE_STR", uniform "SUBSTRING" "substring" 0 (some 3)),
   ("UNNEST", uniform "UNNEST" "unnest" 1 none),
   ("UUID", newIdentifier), ("UUID_STRING", newIdentifier)]

/-- The names of functions that one dialect alone knows, or knows in its own way, in capitals. -/
def own : Dialect → List (String × Function)
  | .mysql =>
    [("BIT_AND", uniform "BIT_AND" "bitwiseandagg" 1 (some 1)),
     ("BIT_COUNT", uniform "BIT_COUNT" "bitwisecount" 1 (some 1)),
     ("BIT_OR", uniform "BIT_OR" "bitwiseoragg" 1 (some 1)),
     ("BIT_XOR", uniform "BIT_XOR" "bitwisexoragg" 1 (some 1)),
     ("CONVERT_TZ", uniform "CONVERT_TZ" "converttimezone" 3 (some 4)),
     ("CHARACTER_LENGTH", uniform "CHAR_LENGTH" "length" 1 (some 3)),
     ("CHAR_LENGTH", uniform "CHAR_LENGTH" "length" 1 (some 3)),
     ("CURDATE", currentDate), ("CURTIME", currentTime),
     ("DATABASE", uniform "SCHEMA" "currentschema" 0 (some 1)),
     ("DATE", uniform "DATE" "tsordstodate" 1 (some 3)),
     ("DATE_ADD", { named "DATE_ADD" 2 (some 3) with suits := addsInterval }),
     ("DATE_FORMAT", uniform "DATE_FORMAT" "timetostr" 2 (some 4)),
     ("DATE_SUB", { named "DATE_SUB" 2 (some 3) with suits := addsInterval }),
     ("DAY", uniform "DAY" "day" 0 (some 1)),
     ("DAYOFMONTH", uniform "DAYOFMONTH" "dayofmonth" 0 (some 1)),
     ("DAYOFWEEK", uniform "DAYOFWEEK" "dayofweek" 0 (some 1)),
     ("DAYOFYEAR", uniform "DAYOFYEAR" "dayofyear" 0 (some 1)),
     ("FORMAT", uniform "FORMAT" "numbertostr" 2 (some 3)),
     ("FROM_UNIXTIME", uniform "FROM_UNIXTIME" "unixtotime" 1 (some 7)),
     ("INSTR", uniform "INSTR" "strposition" 2 (some 5)),
     ("ISNULL", uniform "ISNULL" "paren" 0 none),
     ("LEN", uniform "CHAR_LENGTH" "length" 1 (some 3)), ("LOG", uniform "LN" "ln" 1 (some 1)),
     ("LOG", uniform "LOG" "log" 2 (some 2)),
     ("MAKETIME", uniform "MAKETIME" "timefromparts" 3 (some 6)),
     ("MONTH", uniform "MONTH" "month" 0 (some 1)),
     ("MONTHNAME", uniform "MONTHNAME" "timetostr" 0 (some 4)),
     ("SCHEMA", uniform "SCHEMA" "currentschema" 0 (some 1)),
     ("STR_TO_DATE",
      { uniform "STR_TO_DATE" "strtotime" 2 (some 5) with suits := readsTime }),
     ("STR_TO_DATE", uniform "STR_TO_DATE" "strtodate" 1 (some 3)),
     ("TIMESTAMPDIFF", uniform "TIMESTAMPDIFF" "timestampdiff" 2 (some 3)),
     ("TO_DAYS", uniform "TO_DAYS" "paren" 0 none),
     ("TRUNCATE", uniform "TRUNCATE" "trunc" 1 (some 3)),
     ("VERSION", uniform "VERSION" "currentversion" 0 (some 0)),
     ("WEEK", uniform "WEEK" "week" 0 (some 2)),
     ("WEEKOFYEAR", uniform "WEEKOFYEAR" "weekofyear" 0 (some 1)),
     ("YEAR", uniform "YEAR" "year" 0 (some 1))]
  | .postgres =>
    [("BIT_AND", uniform "BIT_AND" "bitwiseandagg" 1 (some 1)),
     ("BIT_OR", uniform "BIT_OR" "bitwiseoragg" 1 (some 1)),
     ("BIT_XOR", uniform "BIT_XOR" "bitwisexoragg" 1 (some 1)),
     ("DATE_TRUNC", uniform "DATE_TRUNC" "timestamptrunc" 2 (some 4)),
     ("DIV", uniform "DIV" "cast" 0 (some 6)),
     ("GET_BIT", uniform "GET_BIT" "getbit" 2 (some 3)),
     ("GENERATE_SERIES", uniform "GENERATE_SERIES" "explodinggenerateseries" 2 (some 4)),
     ("JSON_EXTRACT_PATH", uniform "JSON_EXTRACT_PATH" "jsonextract" 1 none),
     ("JSON_EXTRACT_PATH_TEXT", uniform "JSON_EXTRACT_PATH_TEXT" "jsonextractscalar" 1 none),
     ("JSON_OBJECT_AGG", uniform "JSON_OBJECT_AGG" "jsonobjectagg" 0 none),
     ("LEVENSHTEIN_LESS_EQUAL", uniform "LEVENSHTEIN_LESS_EQUAL" "levenshtein" 1 (some 6)),
     ("MAKE_TIME", uniform "MAKE_TIME" "timefromparts" 3 (some 6)),
     ("MAKE_TIMESTAMP", uniform "MAKE_TIMESTAMP" "timestampfromparts" 0 (some 11)),
     ("NOW", currentTimestamp), ("SHA256", uniform "SHA256" "sha2" 1 (some 2)),
     ("SHA384", uniform "SHA384" "sha2" 1 (some 2)),
     ("SHA512", uniform "SHA512" "sha2" 1 (some 2)),
     ("TO_CHAR", uniform "TO_CHAR" "timetostr" 2 (some 4)),
     ("TO_DATE", uniform "TO_DATE" "strtodate" 1 (some 3)),
     ("TO_TIMESTAMP", uniform "TO_TIMESTAMP" "unixtotime" 1 (some 1)),
     ("TO_TIMESTAMP", uniform "TO_TIMESTAMP" "strtotime" 2 (some 5)),
     ("UNNEST", uniform "UNNEST" "explode" 1 none),
     ("VERSION", uniform "VERSION" "currentversion" 0 (some 0))]

/-- The functions of a name in capitals, the first to be tried first. The names of a dialect's own
hide the common ones. -/
def ofName (d : Dialect) (name : String) : List Function :=
  let among (fs : List (String × Function)) := fs.filterMap fun (n, f) =>
    if n == name then some f else none
  match among (own d) with
  | [] => among common
  | fs => fs

end Function

end TableDoc.Sql
