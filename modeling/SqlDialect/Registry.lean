import SqlDialect.Catalog
import SqlDialect.Connection.Provider
import SqlDialect.Dialect
import SqlDialect.NativeType.Conversion
import SqlDialect.Text.Inspect
/-!
# The registry of engines

A `Bundle` is all that one engine contributes, and a `Registry` holds bundles in the order of their
engines' identifiers, one for each identifier. A second bundle with the same identifier is refused
and changes nothing.
-/

namespace SqlDialect

/-- What one engine contributes. -/
structure Bundle (σ : Type) where
  /-- The identifier of the engine. -/
  engine : String
  types : TypeTable
  placement : Placement
  provider : Provider σ
  dialect : Dialect
  catalog : Catalog σ

/-- Bundles in strictly ascending order of their identifiers. -/
structure Registry (σ : Type) where
  bundles : List (Bundle σ)
  ascending : bundles.Pairwise fun a b => a.engine < b.engine

namespace Registry

variable {σ : Type}

def empty : Registry σ := ⟨[], .nil⟩

def engines (r : Registry σ) : List String := r.bundles.map (·.engine)

def find? (r : Registry σ) (engine : String) : Option (Bundle σ) :=
  r.bundles.find? (·.engine == engine)

def has (r : Registry σ) (engine : String) : Bool := (r.find? engine).isSome

/-- The bundle of an engine, or an error that names it. -/
def lookup (r : Registry σ) (engine : String) : Except DbError (Bundle σ) :=
  match r.find? engine with
  | some b => .ok b
  | none => .error (.unknownEngine engine)

/-- The bundles with one more, which stands before those with a greater identifier. -/
def insert (b : Bundle σ) : List (Bundle σ) → List (Bundle σ)
  | [] => [b]
  | c :: cs => if b.engine < c.engine then b :: c :: cs else c :: insert b cs

theorem mem_insert {b c : Bundle σ} {cs : List (Bundle σ)} :
    c ∈ insert b cs ↔ c = b ∨ c ∈ cs := by
  induction cs with
  | nil => simp [insert]
  | cons d ds ih =>
    simp only [insert]
    split
    · simp
    · simp only [List.mem_cons, ih]
      constructor
      · rintro (h | h | h)
        · exact .inr (.inl h)
        · exact .inl h
        · exact .inr (.inr h)
      · rintro (h | h | h)
        · exact .inr (.inl h)
        · exact .inl h
        · exact .inr (.inr h)

theorem ascending_insert {b : Bundle σ} {cs : List (Bundle σ)}
    (h : cs.Pairwise fun a b => a.engine < b.engine) (hb : ∀ c ∈ cs, c.engine ≠ b.engine) :
    (insert b cs).Pairwise fun a b => a.engine < b.engine := by
  induction cs with
  | nil => simp [insert]
  | cons c cs ih =>
    simp only [List.pairwise_cons] at h
    simp only [insert]
    split
    · rename_i hlt
      refine .cons ?_ (.cons h.1 h.2)
      intro d hd
      rcases List.mem_cons.1 hd with rfl | hd
      · exact hlt
      · exact String.lt_trans hlt (h.1 d hd)
    · rename_i hle
      refine .cons ?_ (ih h.2 fun d hd => hb d (List.mem_cons_of_mem _ hd))
      intro d hd
      rcases mem_insert.1 hd with rfl | hd
      · rcases Std.lt_trichotomy c.engine d.engine with hlt | heq | hgt
        · exact hlt
        · exact absurd heq (hb c (List.mem_cons_self ..))
        · exact absurd hgt hle
      · exact h.1 d hd

/-- The registry with one more bundle; an identifier that is there already is refused. -/
def register (r : Registry σ) (b : Bundle σ) : Except DbError (Registry σ) :=
  if h : r.find? b.engine = none then
    .ok ⟨insert b r.bundles, ascending_insert r.ascending fun c hc => by
      have := List.find?_eq_none.1 h c hc
      simpa using this⟩
  else .error (.duplicateRegistration b.engine)

def dialect (r : Registry σ) (engine : String) : Except DbError Dialect :=
  (r.lookup engine).map (·.dialect)

def catalog (r : Registry σ) (engine : String) : Except DbError (Catalog σ) :=
  (r.lookup engine).map (·.catalog)

/-- The database that a connection to an engine has if it names none. -/
def defaultDatabase (r : Registry σ) (engine : String) : Except DbError String :=
  (r.catalog engine).map (·.defaultDatabase)

def testConnection (r : Registry σ) (engine : String) (config : ConnectionConfig) :
    Action σ Unit := do
  let b ← Action.ofExcept (r.lookup engine)
  b.provider.testConnection config

/-- The registry as it is shown: the identifiers in order. -/
def text (r : Registry σ) : String :=
  "DialectRegistry \x7b engines: [" ++ ", ".intercalate (r.engines.map Text.inspect) ++ "] \x7d"

end Registry

end SqlDialect
