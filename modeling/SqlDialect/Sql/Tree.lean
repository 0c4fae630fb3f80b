import SqlDialect.Sql.Token
/-!
# Statements as trees

What a script says, without its layout: expressions, queries and statements. `Statement` and its
parts hold all that is needed to write the statement again. What may stand in a list of expressions,
such as a key to sort by or a result column with a name, is an expression of its own; so is a phrase,
which is some words and the expressions after them.
-/

namespace SqlDialect.Sql

/-- An identifier and the quote it stands in. -/
structure Ident where
  value : String
  quote : Option Char := none
  deriving DecidableEq, Repr

abbrev Name := List Ident

inductive DataType
  /-- A type of the grammar, with its size if it has one. -/
  | builtin (text : String)
  /-- A type named by its user, with modifiers. -/
  | custom (name : Name) (modifiers : List String)
  /-- A type made from others between parentheses, each with a name or without. -/
  | composite (maker : String) (names : List (Option Ident)) (parts : List DataType)
  /-- A type made from others between angle brackets, each with a name or without. -/
  | angled (maker : String) (names : List (Option Ident)) (parts : List DataType)
  /-- The type of a column in a nested table, with the options of the column. -/
  | followed (type : DataType) (words : String)
  /-- An array written with brackets after the type of its items, and its size if that is fixed. -/
  | array (item : DataType) (size : Option String)

inductive Constant
  | number (digits : String) (long : Bool)
  | string (value : String)
  /-- A string between double quotes. -/
  | quoted (value : String)
  /-- A string after a mark such as `N` or `X`. -/
  | marked (mark : String) (quote : Char) (value : String)
  | dollar (tag value : String)
  | bool (b : Bool)
  | null
  | placeholder (value : String)
  deriving DecidableEq, Repr

inductive UnaryOp
  | plus
  | minus
  | not
  deriving DecidableEq, Repr

inductive CastForm
  /-- `CAST`, or a word that stands for it, and what follows the type. -/
  | word (text tail : String)
  | doubleColon
  deriving DecidableEq, Repr

/-- A name for a source of rows, with names for its columns. -/
structure Alias where
  name : Ident
  columns : List Ident
  deriving DecidableEq, Repr

/-- The target of `SELECT … INTO`. -/
structure Into where
  temporary : Bool
  unlogged : Bool
  tableWord : Bool
  name : Name
  deriving DecidableEq, Repr

mutual

/-- An expression, or what stands in a list of expressions. -/
inductive Expr
  | ident (i : Ident)
  | compound (parts : Name)
  | constant (c : Constant)
  /-- A type and a string. -/
  | typed (type : DataType) (text : String)
  /-- A word that names a character set, and a string. -/
  | introduced (word : String) (c : Constant)
  /-- A length of time, with what follows its value. -/
  | interval (value : Expr) (unit : String)
  | unary (op : UnaryOp) (e : Expr)
  | factorial (e : Expr)
  /-- An operator is given by the text it is written with. -/
  | binary (l : Expr) (op : String) (r : Expr)
  /-- A comparison with `ANY`, `SOME` or `ALL`. -/
  | quantified (l : Expr) (op word : String) (r : Expr)
  /-- `IS`, and what the operand is tested for. -/
  | isTest (e : Expr) (negated : Bool) (test : String)
  | isDistinct (l : Expr) (negated : Bool) (r : Expr)
  | inList (e : Expr) (negated : Bool) (items : List Expr)
  | inQuery (e : Expr) (negated : Bool) (q : Query)
  | inUnnest (e : Expr) (negated : Bool) (array : Expr)
  | between (e : Expr) (negated : Bool) (low high : Expr)
  /-- `LIKE`, or another word for a match. -/
  | pattern (e : Expr) (negated : Bool) (op : String) (p : Expr) (escape : Option String)
  | case (operand : Option Expr) (conditions results : List Expr) (otherwise : Option Expr)
  | cast (form : CastForm) (e : Expr) (type : DataType)
  /-- `CONVERT`, or a word that stands for it. -/
  | convert (word : String) (e : Expr) (type : Option DataType) (charset : Option Name)
  | extract (field : String) (comma : Bool) (e : Expr)
  /-- `CEIL` or `FLOOR`, with what follows the operand. -/
  | rounded (word : String) (e : Expr) (tail : String)
  | position (e within : Expr)
  | substring (e : Expr) (start count : Option Expr) (commas : Bool)
  | overlay (e what start : Expr) (count : Option Expr)
  | trim (side : String) (what : Option Expr) (e : Expr) (characters : List Expr)
  /-- A search in a full text. -/
  | fullText (columns : List Ident) (value : Constant) (mode : String)
  | atTimeZone (e zone : Expr)
  | collate (e : Expr) (name : Name)
  /-- A function without parentheses. -/
  | bareCall (name : Name)
  /-- A call; the phrases follow the arguments between the same parentheses. -/
  | call (name : Name) (distinct : String) (args phrases : List Expr)
  /-- A function whose arguments follow the function applied to parameters. -/
  | parametric (f : Expr) (distinct : String) (args phrases : List Expr)
  /-- A function of the rows of a query. -/
  | queryCall (name : Name) (q : Query)
  /-- A function over the rows of a group in an order. -/
  | withinGroup (f : Expr) (order : List Expr)
  /-- An expression followed by words, such as `IGNORE NULLS`. -/
  | followed (f : Expr) (words : String)
  | overNamed (f : Expr) (window : Ident)
  | over (f window : Expr)
  /-- A window: another one it starts from, its partition, its order and its frame. -/
  | window (base : Option Ident) (partition order : List Expr) (frame : Option Expr)
  /-- A window with a name for it; one that only stands for another has no parentheses. -/
  | definedWindow (name : Ident) (parens : Bool) (window : Expr)
  | frame (units : String) (start : Expr) (finish : Option Expr)
  /-- An end of a frame: a number of rows or none, and words. -/
  | bound (e : Option Expr) (words : String)
  | nested (e : Expr)
  | tuple (es : List Expr)
  | array (named : Bool) (es : List Expr)
  /-- Values of a record type, with names for some of them. -/
  | record (type : DataType) (es : List Expr)
  /-- Keys and their values between braces. -/
  | dictionary (named : Bool) (keys values : List Expr)
  | subquery (q : Query)
  | exists (negated : Bool) (q : Query)
  | subscript (e index : Expr)
  /-- A part of an array between two places, with a distance between its items. -/
  | slice (e : Expr) (lower upper stride : Option Expr)
  | access (e : Expr) (key : Ident)
  /-- An argument given by its name. -/
  | named (name : Ident) (op : String) (e : Expr)
  /-- A result column with a name. -/
  | aliased (e : Expr) (name : Ident)
  /-- All columns, of one table or of all, and phrases that say how they differ. -/
  | wildcard (table : Name) (phrases : List Expr)
  /-- A key to sort by, and the words after it. -/
  | sorted (e : Expr) (words : String)
  /-- A key to sort by whose gaps are filled. -/
  | filled (e : Expr) (phrases : List Expr)
  /-- Several groupings at once. -/
  | grouping (word : String) (sets : List (List Expr))
  /-- Words, and the expressions after them. -/
  | phrase (words : String) (es : List Expr)

/-- A query with its common tables, order and limits. The locks also hold what form its result has. -/
inductive Query
  | mk (recursive : Bool) (ctes : List Cte) (body : Body) (order : List Expr)
      (interpolate limit offset : Option Expr) (offsetRows : String) (limitBy : List Expr)
      (settings : List (Ident × Constant)) (fetch : Option String) (locks : List String)
      (format : Option Ident)

/-- A table defined for one query. -/
inductive Cte
  | mk (name : Alias) (q : Query) (source : Option Ident)

/-- What a query is made of. -/
inductive Body
  /-- A selection. The views are phrases, and so is what comes last: windows, the condition on them,
  and how rows form a hierarchy. -/
  | select (distinct : Bool) (on : Option (List Expr)) (top : Option Expr) (items : List Expr)
      (into : Option Into) (source : List Source) (views : List Expr)
      (prewhere condition : Option Expr)
      (groupAll : Bool) (group : List Expr) (groupWith : List String)
      (cluster distribute sort : List Expr) (having : Option Expr) (windows : List Expr)
  | query (q : Query)
  /-- Rows, each a tuple, and whether the word `ROW` stands before each. -/
  | values (rowWord : Bool) (rows : List (List Expr))
  | table (name : String)
  | combined (l : Body) (op quantifier : String) (r : Body)
  /-- The words go from `INSERT` to the name of the table; without a query the rows are defaults. -/
  | insert (words : String) (table : Name) (columns : List Ident) (partition : List Expr)
      (q : Option Query) (phrases : List Expr)
  /-- A query whose rows go to files; the words go from `INSERT` to the format of the files. -/
  | toFiles (words : String) (q : Query)
  /-- The assignments are equations. -/
  | update (table : Source) (assignments : List Expr) (source : Option Source)
      (condition : Option Expr) (returning : List Expr)

inductive Source
  /-- A table or some partitions of it, or a function when there are arguments. -/
  | table (name : Name) (partitions : List Ident) (args : Option (List Expr)) (ordinality : Bool)
      (called : Option Alias) (hints : List Expr)
  /-- A function that may use the columns of the sources before it. -/
  | lateralCall (name : Name) (args : List Expr) (called : Option Alias)
  /-- An expression whose value is a table. -/
  | expression (e : Expr) (called : Option Alias)
  /-- The items of arrays, with their places or without. -/
  | unnest (arrays : List Expr) (ordinality : Bool) (called : Option Alias) (offset : Bool)
      (offsetName : Option Ident)
  | derived (lateral : Bool) (q : Query) (called : Option Alias)
  | nested (s : Source) (called : Option Alias)
  /-- A source and a word, and phrases between parentheses that say how other rows are made of its
  rows. -/
  | pivoted (s : Source) (word : String) (phrases : List Expr) (called : Option Alias)
  /-- A join is given by the words it is written with. -/
  | joined (l : Source) (words : String) (r : Source) (nearest on : Option Expr)
      (shared : List Ident)

end

/-! ### Statements -/

/-- A column in a definition. Its options are phrases. -/
structure ColumnDef where
  name : Ident
  type : DataType
  collation : Option Name := none
  options : List Expr

structure TableDefinition where
  /-- The words between `CREATE` and `TABLE`. -/
  words : String
  ifNotExists : Bool
  name : Name
  cluster : Option Ident := none
  like : Option Name := none
  cloned : Option Name := none
  columns : List ColumnDef := []
  /-- Constraints, each a list of phrases. -/
  constraints : List (List Expr) := []
  withoutRowId : Bool := false
  /-- Columns that the rows are parted by. -/
  partitioned : List ColumnDef := []
  /-- How the rows lie in files, as phrases. -/
  storage : List Expr := []
  /-- Equations after `TBLPROPERTIES`. -/
  properties : List Expr := []
  /-- Equations after `WITH`. -/
  parameters : List Expr := []
  engine : Option (String × Option (List Ident)) := none
  /-- A comment, and whether an equality sign stands before it. -/
  comment : Option (Bool × String) := none
  autoIncrement : Option String := none
  primaryKey : Option Expr := none
  order : Option Expr := none
  partition : Option Expr := none
  clustering : List Ident := []
  /-- Equations after `OPTIONS`. -/
  options : Option (List Expr) := none
  charset : Option String := none
  collation : Option String := none
  onCommit : Option String := none
  strict : Bool := false
  query : Option Query := none

structure ViewColumn where
  name : Ident
  type : Option DataType
  options : List Expr

structure ViewDefinition where
  /-- The words between `CREATE` and `VIEW`. -/
  words : String
  ifNotExists : Bool
  name : Name
  target : Option Name
  comment : Option String
  /-- Equations after `WITH`. -/
  parameters : List Expr
  columns : List ViewColumn
  clustering : List Ident
  /-- Equations after `OPTIONS`. -/
  options : List Expr
  query : Query
  unbound : Bool

structure IndexDefinition where
  /-- The words up to the name. -/
  words : String
  name : Option Name
  table : Name
  method : Option Ident
  keys : List Expr
  included : List Ident
  nullsDistinct : Option Bool
  parameters : List Expr
  condition : Option Expr

inductive TableChange
  | addColumn (columnWord ifNotExists : Bool) (column : ColumnDef) (place : String)
  | dropColumn (ifExists : Bool) (column : Ident) (cascade : Bool)
  | renameColumn (old new : Ident)
  | renameTable (name : Name)
  /-- The words go from the kind of change to the name that the column has from now on. -/
  | redefineColumn (words : String) (type : DataType) (options : List Expr) (place : String)
  /-- A change to constraints, partitions, projections or properties, as phrases. -/
  | other (phrases : List Expr)

inductive ShowFilter
  | like (pattern : String)
  | ilike (pattern : String)
  | bare (pattern : String)
  | condition (e : Expr)

inductive Statement
  /-- A query, or an `INSERT` or `UPDATE` after common tables. -/
  | query (q : Query)
  /-- An `INSERT` or `UPDATE` by itself. -/
  | change (b : Body)
  | delete (tables : List Name) (fromWord : Bool) (source others : List Source)
      (condition : Option Expr) (returning order : List Expr) (limit : Option Expr)
  /-- A change of a table by the rows of a source. -/
  | merge (intoWord : Bool) (target source : Source) (on : Expr) (phrases : List Expr)
  | drop (kind : String) (ifExists : Bool) (names : List Name) (tail : String)
  | truncate (words : String) (names : List Name) (tail : String) (partition : List Expr)
      (cluster : Option Ident)
  | createTable (definition : TableDefinition)
  | createView (definition : ViewDefinition)
  | createIndex (definition : IndexDefinition)
  | alterTable (words : String) (name : Name) (cluster : Option Ident) (changes : List TableChange)
      (location : String)
  | alterView (name : Name) (parameters : List Expr) (columns : List Ident) (q : Query)
  /-- The plan of a statement; with `analyze` the statement runs too. -/
  | explain (word : String) (queryPlan analyze verbose : Bool) (format : Option String)
      (options : List Expr) (s : Statement)
  /-- The columns of a table; the words stand before its name. -/
  | explainTable (words : String) (name : Name)
  | showTables (words : String) (place : Option (String × Ident)) (filter : Option ShowFilter)
  | showColumns (words : String) (table : Name) (filter : Option ShowFilter)
  | showCreate (kind : String) (name : Name)
  | showListing (words : String) (filter : Option ShowFilter)
  | showVariable (words : List Ident)
  | use (name : Name)
  | set (scope : String) (name : Name) (values : List Expr)
  /-- Several variables at once. -/
  | setAll (scope : String) (names : List Ident) (values : List Expr)
  | begin (start : String) (modes : List String)
  | commit (chain : Bool)
  | rollback (chain : Bool) (savepoint : Option Ident)
  | optimize (name : Name) (cluster : Option Ident) (partition : Option Expr) (final : Bool)
      (deduplicate : Option (Option Expr))
  /-- A statement that is kept under a name, with the types of its parameters. -/
  | prepare (name : Ident) (types : List DataType) (s : Statement)
  /-- A procedure: the words up to its parameters, and its statements. -/
  | procedure (words : String) (body : List Statement)
  /-- A statement on names, rights, sessions or settings, as phrases. -/
  | command (phrases : List Expr)
  /-- Such a statement that ends with a query. -/
  | commandOn (phrases : List Expr) (q : Query)

end SqlDialect.Sql
