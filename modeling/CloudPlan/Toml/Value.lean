/-!
# TOML values

The values of a TOML document, and tables while a document is read.  A table remembers
how it came to be, for that decides in which ways it may still grow.
-/

namespace CloudPlan.Toml

/-- How a table came to be. -/
inductive TableOrigin where
  /-- A header names it. -/
  | header
  /-- A longer header goes through it. -/
  | implied
  /-- A dotted key goes through it. -/
  | dotted
deriving DecidableEq

/-- A value. -/
inductive Value where
  | text (value : String)
  | integer (value : Int)
  | float
  | bool (value : Bool)
  | moment
  | list (items : List Value)
  | inlineTable (entries : List (String × Value))
  | table (origin : TableOrigin) (entries : List (String × Value))
  | tables (items : List (List (String × Value)))

/-- The entries of a table, each key once. -/
abbrev Entries := List (String × Value)

namespace Entries

/-- Sets the value under a key, in its place if the key has one and else at the end. -/
def set (key : String) (value : Value) : Entries → Entries
  | [] => [(key, value)]
  | (other, held) :: rest =>
    if other = key then (key, value) :: rest else (other, held) :: set key value rest

/-- The entries but for those under a key. -/
def erase (key : String) (entries : Entries) : Entries :=
  entries.filter (·.1 != key)

/-- The entries with a new one; a key that is there cannot be given again. -/
def add? (key : String) (value : Value) (entries : Entries) : Option Entries := do
  guard (entries.lookup key).isNone
  return entries ++ [(key, value)]

end Entries

/-- A table as it is met on the way along keys. -/
structure Table where
  /-- How it came to be. -/
  origin : TableOrigin
  /-- Its entries. -/
  entries : Entries

/--
Changes the table that keys lead to, and makes the tables on the way that are not there.
A dotted key leads through no table that a header names.
-/
def changeAt {α : Type} (made : TableOrigin) (change : Table → Option (Entries × α)) :
    List String → Table → Option (Entries × α)
  | [], table => change table
  | key :: rest, table =>
    match table.entries.lookup key with
    | none => do
      let (entries, result) ← changeAt made change rest ⟨made, []⟩
      return (table.entries.set key (.table made entries), result)
    | some (.table origin held) => do
      guard (¬ (made = .dotted ∧ origin = .header))
      let (entries, result) ← changeAt made change rest ⟨origin, held⟩
      return (table.entries.set key (.table origin entries), result)
    | some (.tables items) => do
      let last ← items.getLast?
      let (entries, result) ← changeAt made change rest ⟨.header, last⟩
      return (table.entries.set key (.tables (items.dropLast ++ [entries])), result)
    | some _ => none

/-- Gives a value to a key in the table that dotted keys before it lead to. -/
def assign? (path : List String) (key : String) (value : Value) (table : Table) :
    Option Entries := do
  let add (found : Table) : Option (Entries × Unit) := do
    guard (found.origin = .dotted ↔ path ≠ [])
    return (← found.entries.add? key value, ())
  return (← changeAt .dotted add path table).1

/-- How far a document has been read. -/
structure Draft where
  /-- The document but for the table that is being filled. -/
  root : Entries := []
  /-- The entries of the table that is being filled. -/
  current : Entries := []
  /-- The keys that lead to the table that is being filled. -/
  place : List String := []
  /-- The table that is being filled is one of a list. -/
  isListed : Bool := false

namespace Draft

/-- The document with the table that is being filled in its place. -/
def close? (draft : Draft) : Option Entries :=
  match draft.place.getLast? with
  | none => some draft.current
  | some key =>
    let put (parent : Table) : Option (Entries × Unit) :=
      if draft.isListed then
        match parent.entries.lookup key with
        | none => some (parent.entries.set key (.tables [draft.current]), ())
        | some (.tables items) =>
          some (parent.entries.set key (.tables (items ++ [draft.current])), ())
        | some _ => none
      else
        some (parent.entries.set key (.table .header draft.current), ())
    (changeAt .implied put draft.place.dropLast ⟨.header, draft.root⟩).map (·.1)

/-- Begins the table that a header names; a table that headers only went through goes on. -/
def openTable? (draft : Draft) (place : List String) : Option Draft := do
  let root ← draft.close?
  let key ← place.getLast?
  let take (parent : Table) : Option (Entries × Entries) :=
    match parent.entries.lookup key with
    | none => some (parent.entries, [])
    | some (.table .implied held) => some (parent.entries.erase key, held)
    | some _ => none
  let (rest, current) ← changeAt .implied take place.dropLast ⟨.header, root⟩
  return { root := rest, current, place }

/-- Begins one more table of the list that a header names. -/
def openListed? (draft : Draft) (place : List String) : Option Draft := do
  let root ← draft.close?
  let key ← place.getLast?
  let check (parent : Table) : Option (Entries × Unit) :=
    match parent.entries.lookup key with
    | none => some (parent.entries, ())
    | some (.tables _) => some (parent.entries, ())
    | some _ => none
  let (rest, ()) ← changeAt .implied check place.dropLast ⟨.header, root⟩
  return { root := rest, place, isListed := true }

/-- Gives a value to dotted keys in the table that is being filled. -/
def assign? (draft : Draft) (keys : List String) (value : Value) : Option Draft := do
  let key ← keys.getLast?
  let current ← Toml.assign? keys.dropLast key value ⟨.header, draft.current⟩
  return { draft with current }

end Draft

end CloudPlan.Toml
