/-
  VipChannel.Lib.Json

  JSON as Python sees it after `json.loads`: a tree of dicts, lists, strings,
  numbers, booleans and None.  A float is represented by the decimal numeral
  Python prints for it (its shortest round-tripping form), which determines it;
  `NaN` and the infinities are accepted by `json.loads` and occur here too.
-/
import VipChannel.Lib.Decimal

namespace VipChannel.Lib

/-- A decoded JSON value. -/
inductive Json where
  | null
  | bool (b : Bool)
  | int (n : Int)
  | float (printed : Decimal)
  | str (s : String)
  | arr (items : List Json)
  | obj (fields : List (String × Json))

namespace Json

/-- `bool(value)`. -/
def truthy : Json → Bool
  | null => false
  | bool b => b
  | int n => n ≠ 0
  | float d => d.truthy
  | str s => s ≠ ""
  | arr items => !items.isEmpty
  | obj fields => !fields.isEmpty

/-- `fields.get(key)` of a dict, a missing key reading as None. -/
def get (fields : List (String × Json)) (key : String) : Json :=
  ((fields.find? fun f => f.1 == key).map Prod.snd).getD .null

/-- The boolean a value is, if it is one (`isinstance(value, bool)`). -/
def bool? : Json → Option Bool
  | bool b => some b
  | _ => none

end Json

end VipChannel.Lib
