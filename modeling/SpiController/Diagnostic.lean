/-!
# Diagnostic text

One-line descriptions of values: `Name { field: value }` for a record, `[a, b]` for a list, `(a, b)`
for a pair, `Some(a)` or `None` for an optional value, and a wrapper around the content of a slot.
-/

namespace SpiController.Diagnostic

/-- The `field: value` entries of a record, separated by commas. -/
def entries (fields : List (String × String)) : String :=
  ", ".intercalate (fields.map fun entry => entry.1 ++ ": " ++ entry.2)

/-- A record with all of its fields. -/
def record (name : String) (fields : List (String × String)) : String :=
  name ++ " \x7b " ++ entries fields ++ " \x7d"

/-- A record that leaves some of its fields out, which two dots at the end show. -/
def openRecord (name : String) (fields : List (String × String)) : String :=
  name ++ " \x7b " ++ entries fields ++ ", .. \x7d"

/-- Items in brackets. -/
def list (items : List String) : String :=
  "[" ++ ", ".intercalate items ++ "]"

/-- Two items in parentheses. -/
def pair (first second : String) : String :=
  "(" ++ first ++ ", " ++ second ++ ")"

/-- An item that may be missing. -/
def optional : Option String → String
  | some text => "Some(" ++ text ++ ")"
  | none => "None"

/-- A slot whose content is replaced as a whole. -/
def slot (content : String) : String :=
  record "Cell" [("value", content)]

/-- A slot whose content is borrowed and changed in place. -/
def sharedSlot (content : String) : String :=
  record "RefCell" [("value", content)]

/-- Truth values are written in small letters. -/
def flag : Bool → String
  | true => "true"
  | false => "false"

/-- Numbers are written in decimal, without a sign or leading zeros. -/
def number (n : Nat) : String :=
  n.repr

end SpiController.Diagnostic
