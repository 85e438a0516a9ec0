import FeeMarket.Quantity
import FeeMarket.Settings.Tree
import FeeMarket.Text.Case

/-!
# Settings from the environment

A variable is a setting if its name, in any case, starts with `FEE_ORACLE__`. In the rest of its
name a double underscore stands between the keys of a path. Its text is a truth value, an
integer of 64 bits or a double, if it reads as one, and else a string.
-/

namespace FeeMarket.Settings

/-- The start of the names of the variables that count, in lower case. -/
def marker : List Char := "fee_oracle__".toList

/-- Puts a point in place of each double underscore. -/
def pointed : List Char → List Char
  | '_' :: '_' :: rest => '.' :: pointed rest
  | c :: rest => c :: pointed rest
  | [] => []

/-- The key that a variable sets, if it counts. -/
def key? (name : String) : Option String :=
  let lower := (Text.lower name).toList
  if marker.isPrefixOf lower then some (String.ofList (pointed (lower.drop marker.length)))
  else none

/-- What the text of a variable is. -/
def scalarOf (text : String) : Scalar :=
  let lower := Text.lower text
  if lower = "true" then .bool true
  else if lower = "false" then .bool false
  else
    match Scalar.integer? 10 text.toList with
    | some n => .integer n
    | none =>
      match Decimal.read? text with
      | some f => .double f
      | none => .string text

/-- The settings of the variables that count. -/
def ofEnvironment (environment : List (String × String)) : SettingFields :=
  environment.filterMap fun (name, text) =>
    (key? name).map fun key => (key, .scalar (scalarOf text) "the environment")

end FeeMarket.Settings
