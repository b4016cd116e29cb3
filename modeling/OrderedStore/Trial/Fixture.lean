import OrderedStore.Store.Property
import OrderedStore.Text.Digits

/-!
# Databases to try things on

A fixture is one database in a file system of its own, which can be closed and opened
again.  Populated fixtures hold numbered entries; the numbers in their keys are padded
with zeros, so that keys sort by number as long as the numbers fit the width.
-/

set_option autoImplicit false

namespace OrderedStore

/-- Opens an empty database in memory, in the faith that the engine grants it. -/
def Store.openMemory (s : Store) (options : Options) : Store × SessionId :=
  let logger := s.logger memoryName
  (s.allocateCache logger options).assemble logger options .inMemory

namespace Trial

/-- The width of the numbers in keys. -/
def keyWidth : Nat := 6

/-- The key of entry `i`. -/
def key (i : Nat) : Bytes :=
  utf8 (String.ofList ("key-".toList ++ Text.paddedDecimal keyWidth i))

/-- The value of entry `i`. -/
def value (i : Nat) : Bytes := utf8 (String.ofList ("value-".toList ++ Text.decimal i))

/-- A store with one database on its file system. -/
structure Fixture where
  store : Store
  session : SessionId

namespace Fixture

/-- The path of the database. -/
def path : String := "db"

/-- Opens the database of a fixture. -/
def openOn (s : Store) (options : Options) : Except Error Fixture :=
  match s.openAt path options with
  | (_, .error e) => .error e
  | (s, .ok id) => .ok ⟨s, id⟩

/-- A fixture with an empty database. -/
def fresh : Except Error Fixture := openOn .empty {}

/-- Closes the database and opens it again. -/
def reopen (fixture : Fixture) (options : Options) : Except Error Fixture :=
  openOn (fixture.store.close fixture.session) options

/-- Commits one write after the other. -/
def commitAll (fixture : Fixture) : List Mutation → Except Error Fixture
  | [] => .ok fixture
  | mutation :: rest =>
    match fixture.store.commit fixture.session ⟨[mutation], false⟩ with
    | (_, .error e) => .error e
    | (s, .ok ()) => commitAll { fixture with store := s } rest

/-- The writes that populate a database. -/
def population (count : Nat) : List Mutation :=
  (List.range count).map fun i => .put (key i) (value i)

/-- A fixture with the entries below `count`. -/
def populated (count : Nat) : Except Error Fixture := do
  (← fresh).commitAll (population count)

/-- All entries of a session, as a new iterator scans them. -/
def dump (s : Store) (id : SessionId) (snapshot : Option SnapshotId) :
    Store × Except Error (List (Except Error Entry)) :=
  match s.iterate id snapshot with
  | (s, .error e) => (s, .error e)
  | (s, .ok iterator) =>
    let (s, items) := s.items iterator
    (s.dropIterator iterator, .ok items)

/-- All entries of the database. -/
def entries (fixture : Fixture) : Except Error (List (Except Error Entry)) :=
  (dump fixture.store fixture.session none).2

/-- Uses an empty database in memory, and closes it. -/
def withMemory {α : Type} (s : Store) (use : SessionId → Store → Store × α) : Store × α :=
  let (s, id) := s.openMemory {}
  let (s, a) := use id s
  (s.close id, a)

end Fixture

end Trial

end OrderedStore
