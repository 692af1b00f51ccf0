import DocSieve.Text.Quoted

/-!
# Described records

A record is described by its name and its fields, a list by its items, a value
that may be missing by whether it is there.

Key definitions: `describeRecord`, `describeList`, `describeOption`.
-/

namespace DocSieve

/-- The name of a record with its fields. -/
def describeRecord (name : String) (fields : List (String × String)) : String :=
  name ++ " \x7b " ++ ", ".intercalate (fields.map fun (field, value) => field ++ ": " ++ value)
    ++ " \x7d"

/-- The items of a list. -/
def describeList (items : List String) : String := "[" ++ ", ".intercalate items ++ "]"

/-- A value that may be missing. -/
def describeOption : Option String → String
  | some value => "Some(" ++ value ++ ")"
  | none => "None"

/-- A number. -/
def describeWord (n : UInt64) : String := Nat.repr n.toNat

/-- A truth value. -/
def describeBool (b : Bool) : String := if b then "true" else "false"

end DocSieve
