/-
# JSON values with exact numbers

A value as Python holds it behind `json.loads`, for code that asks no more of a number than its
value: integers and floats are rationals.
-/

import CameraStack.Lib.PyNumber
import Mathlib.Data.Rat.Defs

namespace CameraStack.Lib

/-- A JSON value; the members of an object have distinct keys. -/
inductive PlainJson
  | null
  | bool (value : Bool)
  | num (value : ℚ)
  | str (value : String)
  | arr (items : List PlainJson)
  | obj (members : List (String × PlainJson))

namespace PlainJson

/-- `bool(value)`. -/
def truthy : PlainJson → Bool
  | null => false
  | bool b => b
  | num q => q ≠ 0
  | str s => s ≠ ""
  | arr items => !items.isEmpty
  | obj members => !members.isEmpty

/-- `value == s` for a string. -/
def eqStr (s : String) : PlainJson → Bool
  | str t => t = s
  | _ => false

/-- `value == n` for an integer. -/
def eqInt (n : ℤ) : PlainJson → Bool
  | num q => q = n
  | bool b => (if b then 1 else 0) = n
  | _ => false

/-- `int(value)`, `none` where it raises; numbers are cut towards zero. -/
def toInt : PlainJson → Option ℤ
  | num q => some (q.num.tdiv q.den)
  | bool b => some (if b then 1 else 0)
  | str s => pyInt s
  | null | arr _ | obj _ => none

/-- `value in set` needs the value to be hashable. -/
def hashable : PlainJson → Bool
  | arr _ => false
  | obj _ => false
  | _ => true

/-- `isinstance(value, dict)`. -/
def isObject : PlainJson → Bool
  | obj _ => true
  | _ => false

/-- `value[key]`; only an object has entries. -/
def entry (key : String) : PlainJson → Option PlainJson
  | obj members => members.lookup key
  | _ => none

/-- `str(value)`. -/
def text (repr : PlainJson → String) : PlainJson → String
  | .str value => value
  | other => repr other

end PlainJson

end CameraStack.Lib
