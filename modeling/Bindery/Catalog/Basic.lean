import Bindery.Catalog.Error

/-!
# Catalogs

The descriptors of a library's algorithms in the order in which they came, with
an index from names to places. No two descriptors share a name, because a
descriptor of a name that is there already is refused.
-/

namespace Bindery

/-- Descriptors in order, with the place of each name. -/
structure Catalog where
  descriptors : List Descriptor := []
  index : List (String × Nat) := []

namespace Catalog

def empty : Catalog := {}

def position? (c : Catalog) (name : String) : Option Nat := c.index.lookup name

def get? (c : Catalog) (name : String) : Option Descriptor := do
  c.descriptors[← c.position? name]?

def contains (c : Catalog) (name : String) : Bool := (c.position? name).isSome

def names (c : Catalog) : List String := c.descriptors.map (·.name)

def size (c : Catalog) : Nat := c.descriptors.length

def isEmpty (c : Catalog) : Bool := c.descriptors.isEmpty

/-- Puts one more descriptor at the end, unless its name is there already: the catalog as it is
then, and what comes of the attempt. -/
def put (c : Catalog) (d : Descriptor) : Catalog × Except CatalogError Unit :=
  if c.contains d.name then (c, .error (.duplicate d.name))
  else
    let indexed := { c with index := (d.name, c.size) :: c.index }
    ({ indexed with descriptors := indexed.descriptors ++ [d] }, .ok ())

/-- The catalog with one more descriptor, where that is not refused. -/
def insert (c : Catalog) (d : Descriptor) : Except CatalogError Catalog :=
  match c.put d with
  | (c, .ok _) => .ok c
  | (_, .error e) => .error e

/-- More descriptors at the end, one after the other. -/
def insertAll (c : Catalog) : List Descriptor → Except CatalogError Catalog
  | [] => .ok c
  | d :: rest =>
    match c.insert d with
    | .ok c => c.insertAll rest
    | .error e => .error e

def ofDescriptors (ds : List Descriptor) : Except CatalogError Catalog := empty.insertAll ds

/-- How a catalog is written: an object whose one member lists the descriptors. -/
def record : Json.Record (List Descriptor) where
  title := "CatalogFile"
  blank := []
  members := [.of "algorithms" true (Json.Draft.list (Descriptor.record 2).decode) fun x _ => x]
  closed := false

def ofJson (text : String) : Except CatalogError Catalog :=
  match Json.decodeText record.decode text with
  | .ok ds => ofDescriptors ds
  | .error e => .error (.json e)

def ofFile (t : FileTree) (path : String) : Except CatalogError Catalog :=
  match t.readText path with
  | .ok text => ofJson text
  | .error e => .error (.file e)

def json (c : Catalog) : Json.Value :=
  .object [("algorithms", .array (c.descriptors.map Descriptor.json))]

/-- The text of a catalog, with one member a line. -/
def pretty (c : Catalog) : String := c.json.pretty

/-- The descriptor of a name, or the failure that there is none. -/
def descriptor (c : Catalog) (name : String) : Except CatalogError Descriptor :=
  match c.get? name with
  | some d => .ok d
  | none => .error (.unknown name)

end Catalog

abbrev Provider := String → Except CatalogError Descriptor

/-- A lookup function as a provider: what it does not know is unknown. -/
def Provider.ofLookup (lookup : String → Option Descriptor) : Provider := fun name =>
  match lookup name with
  | some d => .ok d
  | none => .error (.unknown name)

end Bindery
