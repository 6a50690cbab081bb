import CloudPlan.Architecture.Basic
import CloudPlan.Text.Digits

/-!
# Projects

Architectures that are kept under ids.  A store of projects may be out of order.
-/

namespace CloudPlan

/-- The id of a project: a number of thirty-two hexadecimal digits. -/
structure ProjectId where
  /-- The number. -/
  value : Nat
deriving DecidableEq

namespace ProjectId

/-- The lengths of the groups of digits, between which hyphens stand. -/
def groups : List Nat := [8, 4, 4, 4, 12]

/-- How many digits there are. -/
def digitCount : Nat := 32

/-- The lowest so many hexadecimal digits of a number, after those that follow them. -/
def lowDigits : Nat → Nat → List Char → List Char
  | 0, _, later => later
  | count + 1, value, later =>
    lowDigits count (value / 16) (Nat.digitChar (value % 16) :: later)

/-- Digits in groups of the given lengths. -/
def grouped : List Nat → List Char → List (List Char)
  | [], _ => []
  | length :: rest, digits => digits.take length :: grouped rest (digits.drop length)

/-- An id as text. -/
def text (id : ProjectId) : String :=
  "-".intercalate ((grouped groups (lowDigits digitCount id.value [])).map String.ofList)

/-- The id that a text is, in digits of either case, with all the hyphens or with none. -/
def parse? (text : String) : Option ProjectId := do
  let parts := text.toList.splitOn '-'
  guard (parts.map (·.length) = groups ∨ parts.map (·.length) = [digitCount])
  return ⟨← Text.naturalIn? 16 parts.flatten⟩

end ProjectId

/-- Why a store of projects does not answer as wished. -/
inductive ProjectError where
  | unknown (id : ProjectId)
  | store (failure : String)
deriving DecidableEq

namespace ProjectError

/-- The stable name of the kind of error. -/
def code : ProjectError → String
  | unknown _ => "ArchitectureNotFound"
  | store _ => "ArchitectureStoreError"

/-- The message of an error. -/
def message : ProjectError → String
  | unknown id => "Architecture not found: " ++ id.text
  | store failure => "Architecture store failure: " ++ failure

end ProjectError

/-- A store of projects. -/
structure ProjectStore where
  /-- The architectures with their ids, the latest one first. -/
  projects : List (ProjectId × Architecture) := []
  /-- Why the store is out of order, if it is. -/
  failure : Option String := none

namespace ProjectStore

/-- The architecture under an id, whether or not the store is in order. -/
def project? (store : ProjectStore) (id : ProjectId) : Option Architecture :=
  store.projects.lookup id

/-- The number of projects. -/
def size (store : ProjectStore) : Nat :=
  store.projects.length

/-- The store is in order. -/
def check (store : ProjectStore) : Except ProjectError Unit :=
  match store.failure with
  | some failure => .error (.store failure)
  | none => .ok ()

/-- The store with an architecture under an id that is not in use. -/
def save (store : ProjectStore) (id : ProjectId) (architecture : Architecture) :
    Except ProjectError ProjectStore := do
  store.check
  return { store with projects := (id, architecture) :: store.projects }

/-- The architecture under an id. -/
def load (store : ProjectStore) (id : ProjectId) : Except ProjectError Architecture := do
  store.check
  match store.project? id with
  | some architecture => return architecture
  | none => throw (.unknown id)

/-- The store in one line. -/
def summary (store : ProjectStore) : String :=
  "InMemoryArchitectureStore \x7b architectures: " ++ toString store.size ++ " \x7d"

end ProjectStore

end CloudPlan
