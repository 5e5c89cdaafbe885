import TableDoc.Dialect

/-!
# Keywords

The words with a role of their own in a statement, how each dialect spells them, and which of them
may still serve as a name. A keyword of several words is spelled with single blanks.
-/

namespace TableDoc.Sql

/-- A word with a role of its own in a statement. -/
inductive Keyword where
  | all | alter | analyze | and | anti | any | apply | asAlias | asOf | asc | autoIncrement
  | begin | between | cache
  | caseWhen | charset | clusterBy | collate | column | command | comment | commit | connectBy
  | constraint | copy | create | cross | cube | currentCatalog | currentDate | currentSchema
  | currentTime | currentTimestamp | currentUser | database | default | delete | desc | describe
  | distinct | distributeBy | div | drop | elseBranch | endBlock | escape | except | execute
  | existsTest | falseValue | fetch | file | filter | first | forClause | forTimestamp
  | forVersion | force | foreignKey | format | fromClause | full | function | glob | grant
  | groupBy | groupingSets | having | ignore | ilike | inList | inOut | index | inner | insert
  | intersect | into | is | isNull | join | keep | key
  | kill | lateral | left | like | limit | load | localTime | localTimestamp | lock | memberOf
  | merge | modulo | namespaceWord | natural | next | not | notNull | null | offset | on | only
  | operator | or | orderBy | ordinality | out | outer | overClause | overlaps | overwrite
  | partition | partitionBy | partitionedBy | percent | pivot | pragma | primaryKey | procedure
  | qualify | recursive | references | rename | replace | returning | revoke | right
  | rlike | rollback | rollup | row | rows | schema | select | semi | separator | sequence
  | session | sessionUser | set | settings | showWord | similarTo | some | sortBy | soundsLike
  | startWith | straightJoin | table | tablesample | temporary | thenBranch | trigger | trueValue
  | truncate | uncache | union | unique | unnest | unpivot | update | use | usingClause | values
  | variadic | view | volatile | whenBranch | whereClause | window | withClause | xor
deriving DecidableEq, Repr, Inhabited

namespace Keyword

/-! ## Spellings -/

/-- Words that both dialects read alike. -/
def commonSpellings : List (String × Keyword) :=
  [("ALL", all), ("ALTER", alter), ("ANALYZE", analyze), ("AND", and), ("ANTI", anti),
   ("ANY", any), ("APPLY", apply), ("AS", asAlias), ("ASOF", asOf), ("ASC", asc),
   ("AUTOINCREMENT", autoIncrement),
   ("AUTO_INCREMENT", autoIncrement), ("BEGIN", begin), ("BETWEEN", between), ("CACHE", cache),
   ("CALL", command), ("CASE", caseWhen), ("CLUSTER BY", clusterBy), ("COLLATE", collate),
   ("COLUMN", column), ("COMMENT", comment), ("COMMIT", commit), ("CONNECT BY", connectBy),
   ("CONSTRAINT", constraint), ("COPY", copy), ("CREATE", create), ("CROSS", cross),
   ("CUBE", cube), ("CURRENT_CATALOG", currentCatalog), ("CURRENT_DATE", currentDate),
   ("CURRENT_SCHEMA", currentSchema), ("CURRENT_TIME", currentTime),
   ("CURRENT_TIMESTAMP", currentTimestamp), ("CURRENT_USER", currentUser),
   ("DATABASE", database), ("DEFAULT", default), ("DELETE", delete), ("DESC", desc),
   ("DESCRIBE", describe), ("DISTINCT", distinct), ("DISTRIBUTE BY", distributeBy),
   ("DROP", drop), ("ELSE", elseBranch), ("END", endBlock), ("ESCAPE", escape),
   ("EXCEPT", except), ("EXECUTE", execute), ("EXISTS", existsTest), ("FALSE", falseValue),
   ("FETCH", fetch), ("FILE", file), ("FILTER", filter), ("FIRST", first), ("FOR", forClause),
   ("FOR TIMESTAMP", forTimestamp), ("FOR VERSION", forVersion), ("FOREIGN KEY", foreignKey),
   ("FORMAT", format), ("FROM", fromClause), ("FULL", full),
   ("FUNCTION", function), ("GLOB", glob), ("GRANT", grant), ("GROUP BY", groupBy),
   ("GROUPING SETS", groupingSets), ("HAVING", having), ("ILIKE", ilike), ("IN", inList),
   ("INDEX", index), ("INNER", inner), ("INSERT", insert), ("INTERSECT", intersect),
   ("INTO", into), ("IS", is), ("ISNULL", isNull), ("JOIN", join), ("KEEP", keep),
   ("KILL", kill), ("LATERAL", lateral), ("LEFT", left), ("LIKE", like), ("LIMIT", limit),
   ("LOAD", load), ("LOCALTIME", localTime), ("LOCALTIMESTAMP", localTimestamp), ("LOCK", lock),
   ("MERGE", merge), ("NAMESPACE", namespaceWord), ("NATURAL", natural), ("NEXT", next),
   ("NOT", not), ("NOTNULL", notNull), ("NULL", null), ("OFFSET", offset), ("ON", on),
   ("OPERATOR", operator), ("OPTIMIZE", command), ("OR", or), ("ORDER BY", orderBy),
   ("ORDINALITY", ordinality), ("OUT", out), ("OUTER", outer), ("OVER", overClause),
   ("OVERLAPS", overlaps), ("OVERWRITE", overwrite), ("PARTITION", partition),
   ("PARTITION BY", partitionBy), ("PARTITIONED BY", partitionedBy),
   ("PARTITIONED_BY", partitionedBy), ("PERCENT", percent), ("PIVOT", pivot),
   ("PRAGMA", pragma), ("PREPARE", command), ("PRIMARY KEY", primaryKey),
   ("PROCEDURE", procedure), ("QUALIFY", qualify), ("RECURSIVE", recursive), ("REGEXP", rlike),
   ("RENAME", rename), ("REPLACE", replace), ("RETURNING", returning),
   ("REFERENCES", references), ("REVOKE", revoke), ("RIGHT", right), ("RLIKE", rlike),
   ("ROLLBACK", rollback), ("ROLLUP", rollup), ("ROW", row), ("ROWS", rows), ("SCHEMA", schema),
   ("SELECT", select), ("SEMI", semi), ("SEQUENCE", sequence), ("SESSION", session),
   ("SESSION_USER", sessionUser), ("SET", set), ("SETTINGS", settings), ("SHOW", showWord),
   ("SIMILAR TO", similarTo), ("SOME", some), ("SORT BY", sortBy), ("START WITH", startWith),
   ("STRAIGHT_JOIN", straightJoin), ("TABLE", table), ("TABLESAMPLE", tablesample),
   ("TEMP", temporary), ("TEMPORARY", temporary), ("THEN", thenBranch), ("TRIGGER", trigger),
   ("TRUE", trueValue), ("TRUNCATE", truncate), ("UNCACHE", uncache), ("UNION", union),
   ("UNIQUE", unique), ("UNNEST", unnest), ("UNPIVOT", unpivot), ("UPDATE", update), ("USE", use),
   ("USING", usingClause), ("VACUUM", command), ("VALUES", values), ("VIEW", view),
   ("VOLATILE", volatile), ("WHEN", whenBranch), ("WHERE", whereClause), ("WINDOW", window),
   ("WITH", withClause), ("XOR", xor)]

/-- Words with a role in one dialect alone. -/
def ownSpellings : Dialect → List (String × Keyword)
  | .mysql =>
    [("CHARSET", charset), ("DISTINCTROW", distinct), ("DIV", div), ("EXPLAIN", describe),
     ("FORCE", force), ("IGNORE", ignore), ("KEY", key), ("LOCK TABLES", command),
     ("MEMBER OF", memberOf), ("MOD", modulo), ("SEPARATOR", separator),
     ("SOUNDS LIKE", soundsLike), ("START", begin), ("UNLOCK TABLES", command)]
  | .postgres =>
    [("DECLARE", command), ("DO", command), ("EXEC", command),
     ("EXPLAIN", command), ("INOUT", inOut), ("ONLY", only), ("REFRESH", command),
     ("REINDEX", command), ("RESET", command), ("VARIADIC", variadic)]

/-- The keyword that a word in capitals spells in a dialect. -/
def ofWord? (d : Dialect) (word : String) : Option Keyword :=
  ((ownSpellings d).lookup word).orElse fun _ => commonSpellings.lookup word

/-! ## Roles -/

/-- Keywords that never serve as a name on their own. -/
def isStrict : Keyword → Bool
  | alter | analyze | and | asAlias | between | charset | clusterBy | connectBy | create | cross
  | distinct | distributeBy | drop | elseBranch | except | fetch | forClause | forTimestamp
  | forVersion | force | foreignKey
  | fromClause | glob | grant | groupBy | groupingSets | having | ignore | ilike | inList | inner
  | insert | intersect | into | join | key | lateral | like | memberOf | modulo | not | notNull
  | on | or | orderBy | outer | out | partitionBy | partitionedBy | primaryKey | qualify
  | returning | revoke | rlike | select | separator | similarTo | sortBy | soundsLike | startWith
  | straightJoin | tablesample | thenBranch | uncache | union | usingClause | values | whenBranch
  | variadic | whereClause | withClause | xor | only | rollback | session => true
  | _ => false

/-- Keywords that stay keywords even where any word may be a name. -/
def isReserved : Keyword → Bool
  | modulo | not | select => true
  | _ => false

/-- Keywords that name a function when a parenthesis follows. -/
def isCallable (d : Dialect) : Keyword → Bool
  | collate | command | currentDate | currentTime | currentTimestamp | currentUser
  | currentSchema | currentCatalog | filter | first | format | glob | index | isNull | ilike
  | insert | like | localTime | localTimestamp | merge | next | offset | primaryKey | replace
  | rlike | row | sessionUser | unnest | left | right | sequence | table | truncate | window
  | xor | all | any | some | existsTest | null | rollup | cube => true
  | database | modulo | schema | values | charset | set => d == .mysql
  | _ => false

/-- Keywords that name a thing to create. -/
def isCreatable : Keyword → Bool
  | column | constraint | foreignKey | function | index | procedure | trigger | database
  | namespaceWord | schema | sequence | table | view => true
  | _ => false

/-- Keywords whose statement is kept as text from the word on. -/
def isOpaque (d : Dialect) : Keyword → Bool
  | command | elseBranch | execute | fetch | rename => true
  | replace => d == .mysql
  | showWord => d == .postgres
  | _ => false

end Keyword

end TableDoc.Sql
