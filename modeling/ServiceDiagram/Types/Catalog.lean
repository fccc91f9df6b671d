import ServiceDiagram.Diagram.Descriptor
import ServiceDiagram.Random.Twister
import ServiceDiagram.Table
import ServiceDiagram.Text.Case
import ServiceDiagram.Types.Sampler

namespace ServiceDiagram

/-- A row of the table from which a catalog is made. -/
structure CatalogEntry where
  kind : String
  sampler : Sampler
  addOn : Option String

namespace CatalogEntry

/-- The clause for telephone numbers. -/
def phoneClause : String := ".pattern(/^\\+?[0-9 ()-]\x7b7,20\x7d$/)"

def builtin : List (String × CatalogEntry) :=
  [("string", ⟨"string", .word, none⟩),
   ("text", ⟨"string", .sentence, none⟩),
   ("password", ⟨"string", .password, none⟩),
   ("integer", ⟨"number", .integer, some ".integer()"⟩),
   ("number", ⟨"number", .number, none⟩),
   ("float", ⟨"number", .number, none⟩),
   ("boolean", ⟨"boolean", .boolean, none⟩),
   ("date", ⟨"date", .date, none⟩),
   ("datetime", ⟨"date", .dateTime, some ".iso()"⟩),
   ("email", ⟨"string", .email, some ".email()"⟩),
   ("url", ⟨"string", .url, some ".uri()"⟩),
   ("uuid", ⟨"string", .uuid, some ".guid()"⟩),
   ("phone", ⟨"string", .phone, some phoneClause⟩)]

end CatalogEntry

inductive CatalogError where
  | negativeSeed (seed : Int)
  | emptyName
  | nameTaken (name : String)
  | descriptor (e : DescriptorError)
  deriving DecidableEq, Repr

def CatalogError.message : CatalogError → String
  | negativeSeed seed => messageWithInt "seed must be >= 0, got " seed
  | emptyName => "type name must not be empty"
  | nameTaken name => s!"type '{name}' already exists in catalog"
  | descriptor e => e.message

/-- Types by their names in lower case. Types can be added and are never changed. -/
structure Catalog where
  seed : Nat
  table : List (String × TypeDescriptor)

namespace Catalog

/-- What a sampler fails with if the seed is too long to be written. -/
def seedError : GeneratorError := ⟨"ValueError", unshowableMessage⟩

/-- The sample that a seed and a name determine; there is none if the seed is too long to be
written. -/
def sample (seed : Nat) (name : String) (sampler : Sampler) : Except GeneratorError Value :=
  if isShowableInt seed then .ok (Twister.runSeeded (intText seed ++ ":" ++ name) sampler.draw)
  else .error seedError

/-- Describes the type of an entry, its name in lower case. -/
def describe (seed : Nat) (name : String) (entry : CatalogEntry) :
    Except DescriptorError TypeDescriptor :=
  TypeDescriptor.make entry.kind entry.addOn (some fun _ => sample seed name entry.sampler)

/-- Adds an entry; it replaces one whose name differs in case only. -/
def putEntry (c : Catalog) (name : String) (entry : CatalogEntry) :
    Except CatalogError Catalog := do
  let key := Text.lowercase name
  let d ← (describe c.seed key entry).mapError .descriptor
  return { c with table := Table.put key d c.table }

def make (seed : Int) (entries : List (String × CatalogEntry)) : Except CatalogError Catalog :=
  if seed < 0 then .error (.negativeSeed seed)
  else entries.foldlM (fun c (name, entry) => c.putEntry name entry) ⟨seed.toNat, []⟩

/-- The catalog of the types that are known from the start. -/
def builtin (seed : Nat) : Catalog :=
  ⟨seed, CatalogEntry.builtin.filterMap fun (name, entry) =>
    ((describe seed name entry).toOption).map fun d => (name, d)⟩

/-- The names of all types, in order. -/
def names (c : Catalog) : List String :=
  (c.table.map Prod.fst).mergeSort fun a b => decide (a ≤ b)

/-- The type with a name. -/
def find? (c : Catalog) (name : String) : Option TypeDescriptor :=
  c.table.lookup (Text.lowercase name)

def contains (c : Catalog) (name : String) : Bool := (c.find? name).isSome

def register (c : Catalog) (name : String) (d : TypeDescriptor) : Except CatalogError Catalog :=
  if name = "" then .error .emptyName
  else if c.contains name then .error (.nameTaken name)
  else .ok { c with table := c.table ++ [(Text.lowercase name, d)] }

end Catalog

/-- The type of every class of the diagram: a record, of which the sample is empty. -/
def TypeDescriptor.object : TypeDescriptor :=
  ⟨"object", none, fun _ => .ok (.record []), by decide⟩

/-- The type that a reference names. One to a class of the diagram has a type of its own, and an
unknown one has none. -/
def Catalog.resolve? (c : Catalog) (t : TypeRef) : Option TypeDescriptor :=
  match t.kind with
  | .object => some .object
  | .unknown => none
  | .primitive => c.find? t.name

end ServiceDiagram
