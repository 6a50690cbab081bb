/-!
# JSON values

Numbers, values and the members of objects.  An object lists its members in the
order in which it is written; one that was read lists them by name.
-/

namespace CloudPlan.Json

/-- A number: an integer of machine size or a double. -/
inductive Number where
  | integer (value : Int)
  | float (value : Float)
deriving DecidableEq

namespace Number

/-- The double nearest to the number. -/
def toFloat : Number → Float
  | integer value =>
    if 0 ≤ value then Float.ofNat value.toNat else -Float.ofNat (-value).toNat
  | float value => value

/-- The natural number that an integer is, if it is one. -/
def natural? : Number → Option Nat
  | integer value => if 0 ≤ value then some value.toNat else none
  | float _ => none

/-- Two numbers are the same integer or equal doubles. -/
def same : Number → Number → Bool
  | integer left, integer right => left == right
  | float left, float right => left == right
  | _, _ => false

end Number

/-- A JSON value. -/
inductive Value where
  | null
  | bool (value : Bool)
  | number (value : Number)
  | text (value : String)
  | list (items : List Value)
  | object (members : List (String × Value))

/-- The members of an object, by name. -/
abbrev Members := List (String × Value)

namespace Members

/-- The members with one more, in the place that the order of names gives it. -/
def insert (name : String) (value : Value) : Members → Members
  | [] => [(name, value)]
  | (other, held) :: rest =>
    if name < other then
      (name, value) :: (other, held) :: rest
    else if name = other then
      (name, value) :: rest
    else
      (other, held) :: insert name value rest

/-- The members in order of their names; of members with one name the last counts. -/
def ofList (members : List (String × Value)) : Members :=
  members.foldl (fun sorted member => insert member.1 member.2 sorted) []

end Members

namespace Value

/-- The member of an object; other values have none. -/
def member? : Value → String → Option Value
  | object members, name => members.lookup name
  | _, _ => none

/-- The text that a value is, if it is one. -/
def text? : Value → Option String
  | text value => some value
  | _ => none

mutual

/-- Two values are the same. -/
def same : Value → Value → Bool
  | null, null => true
  | bool left, bool right => left == right
  | number left, number right => left.same right
  | text left, text right => left == right
  | list left, list right => sameItems left right
  | object left, object right => sameMembers left right
  | _, _ => false

/-- Two lists hold the same values. -/
def sameItems : List Value → List Value → Bool
  | [], [] => true
  | left :: lefts, right :: rights => same left right && sameItems lefts rights
  | _, _ => false

/-- Two lists hold the same members in the same order. -/
def sameMembers : List (String × Value) → List (String × Value) → Bool
  | [], [] => true
  | (name, left) :: lefts, (other, right) :: rights =>
    name == other && same left right && sameMembers lefts rights
  | _, _ => false

end

instance : BEq Value := ⟨same⟩

mutual

/-- Decides whether two values are identical; doubles that are equal need not be. -/
def decideEq : (left right : Value) → Decidable (left = right)
  | null, null => isTrue rfl
  | bool left, bool right => decidable_of_iff (left = right) (by rw [bool.injEq])
  | number left, number right => decidable_of_iff (left = right) (by rw [number.injEq])
  | text left, text right => decidable_of_iff (left = right) (by rw [text.injEq])
  | list left, list right =>
    match decideItemsEq left right with
    | isTrue same => isTrue (congrArg list same)
    | isFalse different => isFalse fun same => different (list.inj same)
  | object left, object right =>
    match decideMembersEq left right with
    | isTrue same => isTrue (congrArg object same)
    | isFalse different => isFalse fun same => different (object.inj same)
  | null, bool _ | null, number _ | null, text _ | null, list _ | null, object _
  | bool _, null | bool _, number _ | bool _, text _ | bool _, list _ | bool _, object _
  | number _, null | number _, bool _ | number _, text _ | number _, list _ | number _, object _
  | text _, null | text _, bool _ | text _, number _ | text _, list _ | text _, object _
  | list _, null | list _, bool _ | list _, number _ | list _, text _ | list _, object _
  | object _, null | object _, bool _ | object _, number _ | object _, text _
  | object _, list _ => isFalse nofun

/-- Decides whether two lists hold identical values. -/
def decideItemsEq : (lefts rights : List Value) → Decidable (lefts = rights)
  | [], [] => isTrue rfl
  | [], _ :: _ | _ :: _, [] => isFalse nofun
  | left :: lefts, right :: rights =>
    match decideEq left right, decideItemsEq lefts rights with
    | isTrue same, isTrue sameRest => isTrue (by rw [same, sameRest])
    | isFalse different, _ => isFalse fun same => different (List.cons.inj same).1
    | _, isFalse different => isFalse fun same => different (List.cons.inj same).2

/-- Decides whether two lists hold identical members. -/
def decideMembersEq : (lefts rights : List (String × Value)) → Decidable (lefts = rights)
  | [], [] => isTrue rfl
  | [], _ :: _ | _ :: _, [] => isFalse nofun
  | (name, left) :: lefts, (other, right) :: rights =>
    if sameName : name = other then
      match decideEq left right, decideMembersEq lefts rights with
      | isTrue same, isTrue sameRest => isTrue (by rw [sameName, same, sameRest])
      | isFalse different, _ =>
        isFalse fun same => different (Prod.mk.inj (List.cons.inj same).1).2
      | _, isFalse different => isFalse fun same => different (List.cons.inj same).2
    else
      isFalse fun same => sameName (Prod.mk.inj (List.cons.inj same).1).1

end

instance : DecidableEq Value := decideEq

/-- The value of an optional text. -/
def textOrNull : Option String → Value
  | some value => text value
  | none => null

/-- The list of texts. -/
def ofTexts (texts : List String) : Value :=
  list (texts.map text)

/-- A natural number. -/
def ofNat (n : Nat) : Value :=
  number (.integer n)

end Value

end CloudPlan.Json
