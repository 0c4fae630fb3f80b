import SqlDialect.Sql.Reader.Column
/-!
# Reading how tables are stored

The clauses of a definition that say how the rows of a table lie in files: by which columns they are
parted, in how many buckets, how a row is written, in which format and where.
-/

namespace SqlDialect.Sql.Reader

/-- The columns that rows are parted by, after `PARTITIONED BY`, or nothing. -/
def partitionColumns (g : Grammar) (inner : Inner) : Reader (List ColumnDef) := do
  return (← afterWords ["PARTITIONED", "BY"] (inParens (commaList (columnDef g inner)))).getD []

/-- The buckets that rows are put into, after `CLUSTERED BY`, or nothing. -/
def buckets (inner : Inner) : Reader (List Expr) := do
  let clauses ← afterWords ["CLUSTERED", "BY"] do
    let columns ← identList
    let keys ← afterWords ["SORTED", "BY"] (inParens (commaList (sortKey inner)))
    expectWord "INTO"
    let count ← unsignedNumeral
    expectWord "BUCKETS"
    return .phrase "CLUSTERED BY" [.tuple (columns.map .ident)] ::
      (keys.map fun es => .phrase "SORTED BY" [.tuple es]).toList ++
      plain ("INTO " ++ count ++ " BUCKETS")
  return clauses.getD []

/-! ### Rows and files -/

/-- A delimiter after the word `w` and the words `ws`, of which `w` has been taken, or nothing. -/
def delimiter (w : String) (ws : List String) : Reader (Option (List String)) :=
  afterWords ws do return [" ".intercalate (w :: ws) ++ " " ++ (← ident).text]

/-- A delimiter, or two after `FIELDS`; nothing at the end. A word that no delimiter follows is the
end too. -/
def delimiters : Reader (Option (List String)) := do
  match ← oneOf ["FIELDS", "COLLECTION", "MAP", "LINES", "NULL"] with
  | some "FIELDS" =>
    match ← delimiter "FIELDS" ["TERMINATED", "BY"] with
    | some first =>
      let escape ← afterWords ["ESCAPED", "BY"] ident
      return some (first ++ (escape.map fun i => "ESCAPED BY " ++ i.text).toList)
    | none => return none
  | some "COLLECTION" => delimiter "COLLECTION" ["ITEMS", "TERMINATED", "BY"]
  | some "MAP" => delimiter "MAP" ["KEYS", "TERMINATED", "BY"]
  | some "LINES" => delimiter "LINES" ["TERMINATED", "BY"]
  | some _ => delimiter "NULL" ["DEFINED", "AS"]
  | none => return none

def rowFormat (g : Grammar) : Reader Expr := do
  expectWord "FORMAT"
  match ← oneOf ["SERDE", "DELIMITED"] with
  | some "SERDE" => return .phrase ("ROW FORMAT SERDE '" ++ (← literal g) ++ "'") []
  | _ =>
    let ds := (← collect delimiters).flatten
    return .phrase ("ROW FORMAT DELIMITED" ++ spaced ds) []

inductive FileFormat
  /-- A format that has a name. -/
  | named (name : String)
  /-- A format for reading and one for writing. -/
  | inOut (input output : Expr)

/-- How the rows of a table lie in files. -/
structure Storage where
  row : Option Expr := none
  format : Option FileFormat := none
  /-- Properties of what writes the rows. -/
  properties : List Expr := []
  location : Option String := none

def fileFormat (inner : Inner) : Reader FileFormat := do
  expectWord "AS"
  if ← word "INPUTFORMAT" then
    let input ← inner.expr 0
    expectWord "OUTPUTFORMAT"
    return .inOut input (← inner.expr 0)
  return .named (← expectOneOf fileFormats)

/-- More of how rows lie in files, in any order, at most `fuel` clauses; of several of a kind the last
one holds. -/
def storageWithin (g : Grammar) (inner : Inner) : (fuel : Nat) → Storage → Reader Storage
  | 0, s => pure s
  | fuel + 1, s => do
    if ← word "ROW" then
      let row ← rowFormat g
      storageWithin g inner fuel { s with row := some row }
    else if ← word "STORED" then
      let format ← fileFormat inner
      storageWithin g inner fuel { s with format := some format }
    else if ← word "LOCATION" then
      let location ← literal g
      storageWithin g inner fuel { s with location := some location }
    else
      match ← afterWords ["WITH", "SERDEPROPERTIES"] (properties g inner) with
      | none | some [] => return s
      | some ps => storageWithin g inner fuel { s with properties := ps }

/-- How the rows of a table lie in files. -/
def storage (g : Grammar) (inner : Inner) : Reader Storage := do
  storageWithin g inner ((← remaining) + 1) {}

/-- The format of files by its name, or nothing. -/
def Storage.namedFormat (s : Storage) : List Expr :=
  match s.format with
  | some (.named f) => plain ("STORED AS " ++ f)
  | _ => []

/-- The format of files for reading and the one for writing, or nothing. -/
def Storage.inOutFormat (s : Storage) : List Expr :=
  match s.format with
  | some (.inOut input output) =>
    [.phrase "STORED AS INPUTFORMAT" [input], .phrase "OUTPUTFORMAT" [output]]
  | _ => []

/-- The properties of what writes the rows. -/
def Storage.rowProperties (s : Storage) : List Expr :=
  if s.properties.isEmpty then [] else [.phrase "WITH SERDEPROPERTIES" [.tuple s.properties]]

def Storage.place (s : Storage) : List Expr :=
  optionalPlain (s.location.map fun l => "LOCATION '" ++ l ++ "'")

/-- The clauses in the order in which they are written. -/
def Storage.phrases (s : Storage) : List Expr :=
  s.row.toList ++ s.namedFormat ++ s.inOutFormat ++ s.rowProperties ++ s.place

/-- The clauses of a table that lies outside, where the name of the format comes late. -/
def Storage.externalPhrases (s : Storage) : List Expr :=
  s.row.toList ++ s.inOutFormat ++ s.rowProperties ++ s.namedFormat ++ s.place

end SqlDialect.Sql.Reader
