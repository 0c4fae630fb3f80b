import SqlDialect.Sql.Quoted
import SqlDialect.Sql.Tree
/-!
# Writing statements

`Statement.text` and `Expr.text` write a tree on one line: keywords in capitals, one blank between
words, a comma and a blank between the members of a list, no comments. Parentheses stand where the
tree has them, so none are added and none are lost.
-/

namespace SqlDialect.Sql

/-! ### Names and constants -/

/-- The members of a list with commas between them. -/
def commas (parts : List String) : String := ", ".intercalate parts

/-- Texts, each with a blank before it. -/
def spaced (parts : List String) : String := String.join (parts.map (" " ++ ·))

def parens (s : String) : String := "(" ++ s ++ ")"

/-- A word with a blank after it, if it is wanted. -/
def wordIf (wanted : Bool) (word : String) : String := if wanted then word ++ " " else ""

/-- A text between quotes. A quote after a backslash and a pair of quotes stay as they are, a single
quote is doubled. -/
def escapeQuotes (quote : Char) : (last : Char) → List Char → List Char
  | _, [] => []
  | last, [c] =>
    if c = quote then (if last = '\\' then [c] else [c, c]) else [c]
  | last, c :: d :: r =>
    if c = quote then
      if last = '\\' then c :: escapeQuotes quote last (d :: r)
      else if d = quote then c :: d :: escapeQuotes quote c r
      else c :: c :: escapeQuotes quote c (d :: r)
    else c :: escapeQuotes quote c (d :: r)

def enclose (quote : Char) (s : String) : String :=
  String.ofList (quote :: escapeQuotes quote '\x00' s.toList ++ [quote])

def Ident.text (i : Ident) : String :=
  match i.quote with
  | none => i.value
  | some q => enclose q i.value

def Name.text (n : Name) : String := ".".intercalate (n.map Ident.text)

def columnList (is : List Ident) : String :=
  if is.isEmpty then "" else parens (commas (is.map Ident.text))

def Constant.text : Constant → String
  | number digits long => if long then digits ++ "L" else digits
  | string value => enclose '\'' value
  | quoted value => enclose '"' value
  | marked mark quote value =>
    let body :=
      if mark = "E" then escapedText value else if mark = "U&" then unicodeText value else value
    mark ++ String.singleton quote ++ body ++ String.singleton quote
  | dollar tag value => "$" ++ tag ++ "$" ++ value ++ "$" ++ tag ++ "$"
  | bool b => if b then "true" else "false"
  | null => "NULL"
  | placeholder value => value

/-- Names before types, where there are names. -/
def namedParts : List (Option Ident) → List String → List String
  | some i :: is, t :: ts => (i.text ++ " " ++ t) :: namedParts is ts
  | none :: is, t :: ts => t :: namedParts is ts
  | [], ts => ts
  | _, [] => []

mutual

def DataType.text : DataType → String
  | .builtin s => s
  | .custom name modifiers =>
    Name.text name ++ if modifiers.isEmpty then "" else parens (commas modifiers)
  | .composite maker names parts => maker ++ parens (commas (namedParts names (DataType.texts parts)))
  | .angled maker names parts =>
    maker ++
      if parts.isEmpty then "" else "<" ++ commas (namedParts names (DataType.texts parts)) ++ ">"
  | .followed type words => type.text ++ words
  | .array item size => item.text ++ "[" ++ size.getD "" ++ "]"

def DataType.texts : List DataType → List String
  | [] => []
  | t :: ts => DataType.text t :: DataType.texts ts

end

/-- A name for rows and their columns. -/
def Alias.text (a : Alias) : String :=
  a.name.text ++ if a.columns.isEmpty then "" else " " ++ columnList a.columns

def asAlias : Option Alias → String
  | none => ""
  | some a => " AS " ++ a.text

def Into.text (i : Into) : String :=
  "INTO " ++ wordIf i.temporary "TEMPORARY" ++ wordIf i.unlogged "UNLOGGED" ++
    wordIf i.tableWord "TABLE" ++ Name.text i.name

def UnaryOp.text : UnaryOp → String
  | plus => "+"
  | minus => "-"
  | not => "NOT "

/-- A clause with a list, if the list has members. -/
def listClause (word : String) (parts : List String) : String :=
  if parts.isEmpty then "" else word ++ commas parts

/-- A word and an identifier, if there is one. -/
def identClause (word : String) : Option Ident → String
  | none => ""
  | some i => word ++ i.text

/-- A word and a dotted name, if there is one. -/
def nameClause (word : String) : Option Name → String
  | none => ""
  | some n => word ++ Name.text n

/-- A word and a text, if there is one. -/
def textClause (word : String) : Option String → String
  | none => ""
  | some s => word ++ s

/-- The arms of `CASE`. -/
def branches : (conditions results : List String) → List String
  | c :: cs, r :: rs => (" WHEN " ++ c ++ " THEN " ++ r) :: branches cs rs
  | _, _ => []

def entries : (keys values : List String) → List String
  | k :: ks, v :: vs => (k ++ ": " ++ v) :: entries ks vs
  | _, _ => []

/-- What stands between the parentheses of a call. -/
def arguments (distinct : String) (args phrases : List String) : String :=
  distinct ++ " ".intercalate (if args.isEmpty then phrases else commas args :: phrases)

/-! ### Expressions and queries -/

mutual

def Expr.text : Expr → String
  | .ident i => i.text
  | .compound parts => Name.text parts
  | .constant c => c.text
  | .typed type value => type.text ++ " " ++ enclose '\'' value
  | .introduced word c => word ++ " " ++ c.text
  | .interval value unit => "INTERVAL " ++ value.text ++ unit
  | .unary op e => op.text ++ e.text
  | .factorial e => e.text ++ "!"
  | .binary l op r => l.text ++ " " ++ op ++ " " ++ r.text
  | .quantified l op word r => l.text ++ " " ++ op ++ " " ++ word ++ r.text
  | .isTest e negated test => e.text ++ " IS " ++ wordIf negated "NOT" ++ test
  | .isDistinct l negated r =>
    l.text ++ " IS " ++ wordIf negated "NOT" ++ "DISTINCT FROM " ++ r.text
  | .inList e negated items =>
    e.text ++ " " ++ wordIf negated "NOT" ++ "IN " ++ parens (commas (Expr.texts items))
  | .inQuery e negated q => e.text ++ " " ++ wordIf negated "NOT" ++ "IN " ++ parens q.text
  | .inUnnest e negated array =>
    e.text ++ " " ++ wordIf negated "NOT" ++ "IN UNNEST" ++ parens array.text
  | .between e negated low high =>
    e.text ++ " " ++ wordIf negated "NOT" ++ "BETWEEN " ++ low.text ++ " AND " ++ high.text
  | .pattern e negated op p escape =>
    e.text ++ " " ++ wordIf negated "NOT" ++ op ++ " " ++ p.text ++
      match escape with
      | some s => " ESCAPE '" ++ s ++ "'"
      | none => ""
  | .case operand conditions results otherwise =>
    "CASE" ++ Expr.clause " " operand ++
      String.join (branches (Expr.texts conditions) (Expr.texts results)) ++
      Expr.clause " ELSE " otherwise ++ " END"
  | .cast form e type =>
    match form with
    | .word w tail => w ++ parens (e.text ++ " AS " ++ type.text ++ tail)
    | .doubleColon => e.text ++ "::" ++ type.text
  | .convert word e type charset =>
    word ++ parens (e.text ++
      match type with
      | some t => ", " ++ t.text ++ nameClause " CHARACTER SET " charset
      | none => nameClause " USING " charset)
  | .extract field comma e =>
    "EXTRACT" ++ parens (field ++ (if comma then ", " else " FROM ") ++ e.text)
  | .rounded word e tail => word ++ parens (e.text ++ tail)
  | .position e within => "POSITION" ++ parens (e.text ++ " IN " ++ within.text)
  | .substring e start count commas =>
    "SUBSTRING" ++ parens (e.text ++ Expr.clause (if commas then ", " else " FROM ") start ++
      Expr.clause (if commas then ", " else " FOR ") count)
  | .overlay e what start count =>
    "OVERLAY" ++ parens (e.text ++ " PLACING " ++ what.text ++ " FROM " ++ start.text ++
      Expr.clause " FOR " count)
  | .trim side what e characters =>
    "TRIM" ++ parens (side ++ Expr.before what " FROM " ++ e.text ++
      listClause ", " (Expr.texts characters))
  | .fullText columns value mode =>
    "MATCH " ++ columnList columns ++ " AGAINST " ++ parens (value.text ++ mode)
  | .atTimeZone e zone => e.text ++ " AT TIME ZONE " ++ zone.text
  | .collate e name => e.text ++ " COLLATE " ++ Name.text name
  | .bareCall name => Name.text name
  | .call name distinct args phrases =>
    Name.text name ++ parens (arguments distinct (Expr.texts args) (Expr.texts phrases))
  | .parametric f distinct args phrases =>
    f.text ++ parens (arguments distinct (Expr.texts args) (Expr.texts phrases))
  | .queryCall name q => Name.text name ++ parens q.text
  | .withinGroup f order =>
    f.text ++ " WITHIN GROUP " ++ parens (listClause "ORDER BY " (Expr.texts order))
  | .followed f words => f.text ++ " " ++ words
  | .overNamed f window => f.text ++ " OVER " ++ window.text
  | .over f window => f.text ++ " OVER " ++ parens window.text
  | .window base partition order frame =>
    " ".intercalate (([identClause "" base, listClause "PARTITION BY " (Expr.texts partition),
      listClause "ORDER BY " (Expr.texts order), Expr.clause "" frame] : List String).filter
        (· != ""))
  | .definedWindow name isOwn window =>
    name.text ++ " AS " ++ if isOwn then parens window.text else window.text
  | .frame units start finish =>
    match finish with
    | some e => units ++ " BETWEEN " ++ start.text ++ " AND " ++ e.text
    | none => units ++ " " ++ start.text
  | .bound e words => Expr.before e " " ++ words
  | .nested e => parens e.text
  | .tuple es => parens (commas (Expr.texts es))
  | .array named es => (if named then "ARRAY[" else "[") ++ commas (Expr.texts es) ++ "]"
  | .record type es => type.text ++ parens (commas (Expr.texts es))
  | .dictionary named keys values =>
    wordIf named "MAP" ++ "\x7b" ++ commas (entries (Expr.texts keys) (Expr.texts values)) ++ "\x7d"
  | .subquery q => parens q.text
  | .exists negated q => wordIf negated "NOT" ++ "EXISTS " ++ parens q.text
  | .subscript e index => e.text ++ "[" ++ index.text ++ "]"
  | .slice e lower upper stride =>
    e.text ++ "[" ++ Expr.clause "" lower ++ ":" ++ Expr.clause "" upper ++ Expr.clause ":" stride ++
      "]"
  | .access e key => e.text ++ "." ++ key.text
  | .named name op e => name.text ++ " " ++ op ++ " " ++ e.text
  | .aliased e name => e.text ++ " AS " ++ name.text
  | .wildcard table phrases =>
    String.join (table.map fun i => i.text ++ ".") ++ "*" ++ spaced (Expr.texts phrases)
  | .sorted e words => e.text ++ words
  | .filled e phrases => e.text ++ " WITH FILL" ++ spaced (Expr.texts phrases)
  | .grouping word sets =>
    word ++ " " ++ parens (commas (if word = "GROUPING SETS" then Expr.rows "" sets
      else Expr.groups sets))
  | .phrase words es =>
    match es with
    | [] => words
    | e :: es => (if words = "" then "" else words ++ " ") ++ commas (e.text :: Expr.texts es)

def Expr.texts : List Expr → List String
  | [] => []
  | e :: es => e.text :: Expr.texts es

/-- A word and an expression, if there is one. -/
def Expr.clause (word : String) : Option Expr → String
  | none => ""
  | some e => word ++ e.text

/-- An expression and a word, if there is one. -/
def Expr.before : Option Expr → (word : String) → String
  | none, _ => ""
  | some e, word => e.text ++ word

/-- Lists of expressions, each with a word before it and between parentheses. -/
def Expr.rows (word : String) : List (List Expr) → List String
  | [] => []
  | es :: rows => (word ++ parens (commas (Expr.texts es))) :: Expr.rows word rows

/-- Lists of expressions between parentheses, those of one expression without them. -/
def Expr.groups : List (List Expr) → List String
  | [] => []
  | [] :: sets => "()" :: Expr.groups sets
  | [e] :: sets => e.text :: Expr.groups sets
  | (e :: f :: es) :: sets =>
    parens (commas (e.text :: f.text :: Expr.texts es)) :: Expr.groups sets

def Query.text : Query → String
  | .mk isRecursive ctes body order interpolate limit offset offsetRows limitBy settings fetch locks
      format =>
    (if ctes.isEmpty then ""
      else "WITH " ++ wordIf isRecursive "RECURSIVE" ++ commas (Cte.texts ctes) ++ " ") ++
    body.text ++
    listClause " ORDER BY " (Expr.texts order) ++
    Expr.clause " " interpolate ++
    Expr.clause " LIMIT " limit ++
    Expr.clause " OFFSET " offset ++ offsetRows ++
    listClause " BY " (Expr.texts limitBy) ++
    listClause " SETTINGS " (settings.map fun s => s.1.text ++ " = " ++ s.2.text) ++
    textClause " " fetch ++ spaced locks ++ identClause " FORMAT " format

def Cte.texts : List Cte → List String
  | [] => []
  | c :: cs => c.text :: Cte.texts cs

def Cte.text : Cte → String
  | .mk name q source => name.text ++ " AS " ++ parens q.text ++ identClause " FROM " source

def Body.text : Body → String
  | .select distinct on top items into source views prewhere condition groupAll group groupWith cluster
      distribute sort having windows =>
    "SELECT " ++ wordIf distinct "DISTINCT" ++
    (match on with
      | some es => "ON " ++ parens (commas (Expr.texts es)) ++ " "
      | none => "") ++
    Expr.before top " " ++ commas (Expr.texts items) ++
    (match into with
      | some i => " " ++ i.text
      | none => "") ++
    listClause " FROM " (Source.texts source) ++
    spaced (Expr.texts views) ++
    Expr.clause " PREWHERE " prewhere ++
    Expr.clause " WHERE " condition ++
    (if groupAll then " GROUP BY ALL" else listClause " GROUP BY " (Expr.texts group)) ++
    (if groupAll || !group.isEmpty then spaced (groupWith.map ("WITH " ++ ·)) else "") ++
    listClause " CLUSTER BY " (Expr.texts cluster) ++
    listClause " DISTRIBUTE BY " (Expr.texts distribute) ++
    listClause " SORT BY " (Expr.texts sort) ++
    Expr.clause " HAVING " having ++
    spaced (Expr.texts windows)
  | .query q => parens q.text
  | .values rowWord rows => "VALUES " ++ commas (Expr.rows (if rowWord then "ROW" else "") rows)
  | .table name => "TABLE " ++ name
  | .combined l op quantifier r => l.text ++ " " ++ op ++ quantifier ++ " " ++ r.text
  | .insert words table columns partition q phrases =>
    words ++ " " ++ Name.text table ++ " " ++
      (if columns.isEmpty then "" else columnList columns ++ " ") ++
      (if partition.isEmpty then ""
        else "PARTITION " ++ parens (commas (Expr.texts partition)) ++ " ") ++
      (match q with
        | some q => q.text
        | none => "DEFAULT VALUES") ++
      spaced (Expr.texts phrases)
  | .toFiles words q => words ++ " " ++ q.text
  | .update table assignments source condition returning =>
    "UPDATE " ++ table.text ++ listClause " SET " (Expr.texts assignments) ++
      Source.clause " FROM " source ++ Expr.clause " WHERE " condition ++
      listClause " RETURNING " (Expr.texts returning)

def Source.texts : List Source → List String
  | [] => []
  | s :: ss => s.text :: Source.texts ss

/-- A word and a source, if there is one. -/
def Source.clause (word : String) : Option Source → String
  | none => ""
  | some s => word ++ s.text

def Source.text : Source → String
  | .table name partitions args ordinality called hints =>
    Name.text name ++
      (if partitions.isEmpty then "" else "PARTITION " ++ columnList partitions) ++
      (match args with
        | some es => parens (commas (Expr.texts es))
        | none => "") ++
      (if ordinality then " WITH ORDINALITY" else "") ++ asAlias called ++
      if hints.isEmpty then "" else " WITH " ++ parens (commas (Expr.texts hints))
  | .lateralCall name args called =>
    "LATERAL " ++ Name.text name ++ parens (commas (Expr.texts args)) ++ asAlias called
  | .expression e called => "TABLE" ++ parens e.text ++ asAlias called
  | .unnest arrays ordinality called offset offsetName =>
    "UNNEST" ++ parens (commas (Expr.texts arrays)) ++
      (if ordinality then " WITH ORDINALITY" else "") ++ asAlias called ++
      (if offset then " WITH OFFSET" else "") ++ identClause " AS " offsetName
  | .derived lateral q called => wordIf lateral "LATERAL" ++ parens q.text ++ asAlias called
  | .nested s called => parens s.text ++ asAlias called
  | .pivoted s word phrases called =>
    s.text ++ " " ++ word ++ parens (" ".intercalate (Expr.texts phrases)) ++ asAlias called
  | .joined l words r nearest on shared =>
    l.text ++ " " ++ words ++ " " ++ r.text ++
      (match nearest with
        | some e => " MATCH_CONDITION " ++ parens e.text
        | none => "") ++
      Expr.clause " ON " on ++
      if shared.isEmpty then "" else " USING" ++ columnList shared

end

/-! ### Definitions -/

def phrasesText (phrases : List Expr) : String := " ".intercalate (Expr.texts phrases)

def ColumnDef.text (c : ColumnDef) : String :=
  c.name.text ++ " " ++ c.type.text ++ nameClause " COLLATE " c.collation ++
    spaced (Expr.texts c.options)

def TableDefinition.text (d : TableDefinition) : String :=
  let members := d.columns.map ColumnDef.text ++ d.constraints.map phrasesText
  let stands := d.query.isSome || d.like.isSome || d.cloned.isSome
  "CREATE " ++ d.words ++ "TABLE " ++ wordIf d.ifNotExists "IF NOT EXISTS" ++ Name.text d.name ++
    identClause " ON CLUSTER " d.cluster ++
    (if !members.isEmpty then " " ++ parens (commas members) else if stands then "" else " ()") ++
    (if d.withoutRowId then " WITHOUT ROWID" else "") ++
    nameClause " LIKE " d.like ++ nameClause " CLONE " d.cloned ++
    (if d.partitioned.isEmpty then ""
      else " PARTITIONED BY " ++ parens (commas (d.partitioned.map ColumnDef.text))) ++
    spaced (Expr.texts d.storage) ++
    (if d.properties.isEmpty then ""
      else " TBLPROPERTIES " ++ parens (commas (Expr.texts d.properties))) ++
    (if d.parameters.isEmpty then "" else " WITH " ++ parens (commas (Expr.texts d.parameters))) ++
    (match d.engine with
      | some (e, none) => " ENGINE=" ++ e
      | some (e, some is) => " ENGINE=" ++ e ++ parens (commas (is.map Ident.text))
      | none => "") ++
    (match d.comment with
      | some (equals, s) => " COMMENT " ++ wordIf equals "=" ++ "'" ++ s ++ "'"
      | none => "") ++
    textClause " AUTO_INCREMENT " d.autoIncrement ++
    Expr.clause " PRIMARY KEY " d.primaryKey ++
    Expr.clause " ORDER BY " d.order ++
    Expr.clause " PARTITION BY " d.partition ++
    listClause " CLUSTER BY " (d.clustering.map Ident.text) ++
    (match d.options with
      | some es => " OPTIONS" ++ parens (commas (Expr.texts es))
      | none => "") ++
    textClause " DEFAULT CHARSET=" d.charset ++ textClause " COLLATE=" d.collation ++
    textClause " ON COMMIT " d.onCommit ++ (if d.strict then " STRICT" else "") ++
    match d.query with
    | some q => " AS " ++ q.text
    | none => ""

def ViewColumn.text (c : ViewColumn) : String :=
  c.name.text ++
    (match c.type with
      | some t => " " ++ t.text
      | none => "") ++
    spaced (Expr.texts c.options)

def ViewDefinition.text (d : ViewDefinition) : String :=
  "CREATE " ++ d.words ++ "VIEW " ++ wordIf d.ifNotExists "IF NOT EXISTS" ++ Name.text d.name ++
    nameClause " TO " d.target ++
    (match d.comment with
      | some s => " COMMENT = " ++ enclose '\'' s
      | none => "") ++
    (if d.parameters.isEmpty then "" else " WITH " ++ parens (commas (Expr.texts d.parameters))) ++
    (if d.columns.isEmpty then "" else " " ++ parens (commas (d.columns.map ViewColumn.text))) ++
    (if d.clustering.isEmpty then "" else " CLUSTER BY " ++ columnList d.clustering) ++
    (if d.options.isEmpty then "" else " OPTIONS" ++ parens (commas (Expr.texts d.options))) ++
    " AS " ++ d.query.text ++ if d.unbound then " WITH NO SCHEMA BINDING" else ""

def IndexDefinition.text (d : IndexDefinition) : String :=
  "CREATE " ++ d.words ++
    (match d.name with
      | some n => Name.text n ++ " "
      | none => "") ++
    "ON " ++ Name.text d.table ++
    (match d.method with
      | some i => " USING " ++ i.text ++ " "
      | none => "") ++
    parens (",".intercalate (Expr.texts d.keys)) ++
    (if d.included.isEmpty then ""
      else " INCLUDE " ++ parens (",".intercalate (d.included.map Ident.text))) ++
    (match d.nullsDistinct with
      | some true => " NULLS DISTINCT"
      | some false => " NULLS NOT DISTINCT"
      | none => "") ++
    (if d.parameters.isEmpty then "" else " WITH " ++ parens (commas (Expr.texts d.parameters))) ++
    Expr.clause " WHERE " d.condition

def TableChange.text : TableChange → String
  | addColumn columnWord ifNotExists column place =>
    "ADD " ++ wordIf columnWord "COLUMN" ++ wordIf ifNotExists "IF NOT EXISTS" ++ column.text ++
      place
  | dropColumn ifExists column cascade =>
    "DROP COLUMN " ++ wordIf ifExists "IF EXISTS" ++ column.text ++ if cascade then " CASCADE" else ""
  | renameColumn old new => "RENAME COLUMN " ++ old.text ++ " TO " ++ new.text
  | renameTable name => "RENAME TO " ++ Name.text name
  | redefineColumn words type options place =>
    words ++ " " ++ type.text ++ spaced (Expr.texts options) ++ place
  | other phrases => phrasesText phrases

/-! ### Statements -/

def ShowFilter.text : ShowFilter → String
  | like pattern => "LIKE " ++ enclose '\'' pattern
  | ilike pattern => "ILIKE " ++ String.ofList (escapeQuotes '\'' '\x00' pattern.toList)
  | bare pattern => enclose '\'' pattern
  | condition e => "WHERE " ++ e.text

def showFilter : Option ShowFilter → String
  | none => ""
  | some f => " " ++ f.text

mutual

def Statement.text : Statement → String
  | .query q => q.text
  | .change b => b.text
  | .delete tables fromWord source others condition returning order limit =>
    "DELETE " ++ (if tables.isEmpty then "" else commas (tables.map Name.text) ++ " ") ++
      wordIf fromWord "FROM" ++ commas (Source.texts source) ++
      listClause " USING " (Source.texts others) ++ Expr.clause " WHERE " condition ++
      listClause " RETURNING " (Expr.texts returning) ++
      listClause " ORDER BY " (Expr.texts order) ++ Expr.clause " LIMIT " limit
  | .merge intoWord target source on phrases =>
    "MERGE " ++ wordIf intoWord "INTO" ++ target.text ++ " USING " ++ source.text ++ " ON " ++
      on.text ++ " " ++ phrasesText phrases
  | .drop kind ifExists names tail =>
    "DROP " ++ kind ++ " " ++ wordIf ifExists "IF EXISTS" ++ commas (names.map Name.text) ++ tail
  | .truncate words names tail partition cluster =>
    "TRUNCATE " ++ words ++ commas (names.map Name.text) ++ tail ++
      (if partition.isEmpty then "" else " PARTITION " ++ parens (commas (Expr.texts partition))) ++
      identClause " ON CLUSTER " cluster
  | .createTable d => d.text
  | .createView d => d.text
  | .createIndex d => d.text
  | .alterTable words name cluster changes location =>
    "ALTER TABLE " ++ words ++ Name.text name ++ identClause " ON CLUSTER " cluster ++ " " ++
      commas (changes.map TableChange.text) ++ location
  | .alterView name parameters columns q =>
    "ALTER VIEW " ++ Name.text name ++
      (if parameters.isEmpty then "" else " WITH " ++ parens (commas (Expr.texts parameters))) ++
      (if columns.isEmpty then "" else " " ++ columnList columns) ++ " AS " ++ q.text
  | .explain word queryPlan analyze verbose format options s =>
    word ++ " " ++ wordIf queryPlan "QUERY PLAN" ++ wordIf analyze "ANALYZE" ++
      wordIf verbose "VERBOSE" ++
      (match format with
        | some f => "FORMAT " ++ f ++ " "
        | none => "") ++
      (if options.isEmpty then "" else parens (commas (Expr.texts options)) ++ " ") ++ s.text
  | .explainTable words name => words ++ Name.text name
  | .showTables words place filter =>
    "SHOW " ++ words ++ "TABLES" ++
      (match place with
        | some (word, i) => " " ++ word ++ " " ++ i.text
        | none => "") ++ showFilter filter
  | .showColumns words table filter =>
    "SHOW " ++ words ++ "COLUMNS FROM " ++ Name.text table ++ showFilter filter
  | .showCreate kind name => "SHOW CREATE " ++ kind ++ " " ++ Name.text name
  | .showListing words filter => "SHOW " ++ words ++ showFilter filter
  | .showVariable words => "SHOW" ++ spaced (words.map Ident.text)
  | .use name => "USE " ++ Name.text name
  | .set scope name values =>
    "SET " ++ scope ++ Name.text name ++ " = " ++ commas (Expr.texts values)
  | .setAll scope names values =>
    "SET " ++ scope ++ parens (commas (names.map Ident.text)) ++ " = " ++
      parens (commas (Expr.texts values))
  | .begin start modes => start ++ listClause " " modes
  | .commit chain => "COMMIT" ++ if chain then " AND CHAIN" else ""
  | .rollback chain target =>
    "ROLLBACK" ++ (if chain then " AND CHAIN" else "") ++ identClause " TO SAVEPOINT " target
  | .optimize name cluster partition final deduplicate =>
    "OPTIMIZE TABLE " ++ Name.text name ++ identClause " ON CLUSTER " cluster ++
      Expr.clause " PARTITION " partition ++ (if final then " FINAL" else "") ++
      match deduplicate with
      | some by_ => " DEDUPLICATE" ++ Expr.clause " BY " by_
      | none => ""
  | .prepare name types s =>
    "PREPARE " ++ name.text ++ " " ++
      (if types.isEmpty then "" else parens (commas (types.map DataType.text)) ++ " ") ++ "AS " ++
      s.text
  | .procedure words body => words ++ " AS BEGIN " ++ "; ".intercalate (Statement.texts body) ++ " END"
  | .command phrases => phrasesText phrases
  | .commandOn phrases q => phrasesText phrases ++ " " ++ q.text

def Statement.texts : List Statement → List String
  | [] => []
  | s :: ss => Statement.text s :: Statement.texts ss

end

end SqlDialect.Sql
