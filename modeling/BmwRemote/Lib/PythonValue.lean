import BmwRemote.Lib.FloatValue

/-! The values that Python reads from a JSON document. -/
namespace BmwRemote.Lib

inductive PyValue where
  | none
  | bool (value : Bool)
  | int (value : ℤ)
  | float (value : FloatValue)
  | str (value : String)
  | list (values : List PyValue)
  | dict (items : List (String × PyValue))

abbrev PyDict := List (String × PyValue)

namespace PyValue

/-- What a value is worth in a comparison with numbers: the two truth values are numbers there. -/
def number? : PyValue → Option FloatValue
  | .bool value => some (.finite (if value then 1 else 0))
  | .int value => some (.finite value)
  | .float value => some value
  | .none | .str _ | .list _ | .dict _ => Option.none

def number : PyValue → Option FloatValue
  | .int value => some (.finite value)
  | .float value => some value
  | .none | .bool _ | .str _ | .list _ | .dict _ => Option.none

/-- Lists and dictionaries have no hash. -/
def Hashable : PyValue → Prop
  | .list _ | .dict _ => False
  | .none | .bool _ | .int _ | .float _ | .str _ => True

instance : DecidablePred Hashable := fun value =>
  match value with
  | .list _ | .dict _ => .isFalse id
  | .none | .bool _ | .int _ | .float _ | .str _ => .isTrue trivial

end PyValue

namespace PyDict

def has (dict : PyDict) (key : String) : Bool := (dict.lookup key).isSome

def get (dict : PyDict) (key : String) : PyValue := (dict.lookup key).getD .none

end PyDict

end BmwRemote.Lib
