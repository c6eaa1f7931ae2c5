import Mathlib
import NodeWireguard.WireGuardTypes

/-!
# JavaScript values as the addon sees them

The values N-API hands to the addon and takes back from it. A string is the UTF-8
text that `Utf8Value()` returns, including any zero octet; a finite number is the
rational it denotes. Property reads are on plain data objects: a missing property
reads as `undefined`.

The number checks reject rather than wrap, and name the field they refuse.
-/

namespace NodeWireguard.JsValues

open ByteText

/-- A JavaScript number, which is a double. The three values that are not finite have cases of
their own. -/
inductive JsNumber where
  | nan
  | negInfinity
  | posInfinity
  | finite (value : Rat)
  deriving DecidableEq

/-- A JavaScript value. `date` is a `Date` made from a number of seconds; `other` is
any further kind of object, such as a function or a typed array. -/
inductive JsValue where
  | undefined
  | null
  | boolean (value : Bool)
  | number (value : JsNumber)
  | string (utf8 : Bytes)
  | bigint (value : Int)
  | symbol
  | date (seconds : Int64)
  | array (items : List JsValue)
  | object (props : List (String × JsValue))
  | other

/-- `napi_get_property`; a missing property is `undefined`. -/
def JsValue.get (value : JsValue) (key : String) : JsValue :=
  match value with
  | .object props => ((props.find? (fun prop => prop.1 == key)).map Prod.snd).getD .undefined
  | _ => .undefined

/-- `napi_has_property`. An own property counts also where it is `undefined`. -/
def JsValue.has (value : JsValue) (key : String) : Bool :=
  match value with
  | .object props => props.any (fun prop => prop.1 == key)
  | _ => false

/-- `IsObject()`: arrays, dates and functions are objects too. -/
def JsValue.isObject : JsValue → Bool
  | .date _ | .array _ | .object _ | .other => true
  | _ => false

/-- A property that reads as something other than `undefined` is there. -/
theorem has_of_get (value : JsValue) (key : String) (defined : value.get key ≠ .undefined) :
    value.has key = true := by
  by_contra missing
  apply defined
  cases value with
  | object props =>
    have absent : props.find? (fun prop => prop.1 == key) = none :=
      List.find?_eq_none.mpr (fun prop member matched =>
        missing (List.any_eq_true.mpr ⟨prop, member, matched⟩))
    simp [JsValue.get, absent]
  | _ => rfl

/-- `static_cast<T>(d)` after the checks of `RequireUint16` and `RequireUint32`: an
integer between zero and the limit, or an exception naming the field. -/
def requireUnsigned (limit : Nat) (v : JsNumber) (field : String) : Except Exception Nat :=
  let refused := Exception.invalidArgument
    (ascii field ++ ascii " must be an integer in 0.." ++ ascii (toString limit))
  match v with
  | .finite d =>
      if (⌊d⌋ : Rat) ≠ d ∨ d < 0 ∨ (limit : Rat) < d then .error refused else .ok ⌊d⌋.toNat
  | _ => .error refused

/-- `RequireUint16` -/
def requireUint16 (v : JsNumber) (field : String) : Except Exception UInt16 := do
  return UInt16.ofNat (← requireUnsigned 65535 v field)

/-- `RequireUint32` -/
def requireUint32 (v : JsNumber) (field : String) : Except Exception UInt32 := do
  return UInt32.ofNat (← requireUnsigned 4294967295 v field)

/-- An integer in range is taken as it is. -/
theorem require_unsigned_nat (limit value : Nat) (field : String) (inRange : value ≤ limit) :
    requireUnsigned limit (.finite value) field = .ok value := by
  have floor : ⌊(value : Rat)⌋ = value := Int.floor_natCast value
  have notNegative : ¬ ((value : Rat) < 0) := not_lt.mpr (Nat.cast_nonneg value)
  have notAbove : ¬ ((limit : Rat) < value) := not_lt.mpr (by exact_mod_cast inRange)
  simp [requireUnsigned, floor, notNegative, notAbove]

/-- A number within 16 bits is returned as it is. -/
theorem require_uint16_value (value : UInt16) (field : String) :
    requireUint16 (.finite value.toNat) field = .ok value := by
  have bound := value.toNat_lt
  simp [requireUint16, require_unsigned_nat 65535 value.toNat field (by omega), bind, Except.bind,
    pure, Except.pure]

/-- A number within 32 bits is returned as it is. -/
theorem require_uint32_value (value : UInt32) (field : String) :
    requireUint32 (.finite value.toNat) field = .ok value := by
  have bound := value.toNat_lt
  simp [requireUint32, require_unsigned_nat 4294967295 value.toNat field (by omega), bind,
    Except.bind, pure, Except.pure]

/-- A required string property, or an exception naming it. -/
def requireString (obj : JsValue) (key : String) : Except Exception Bytes :=
  match obj.get key with
  | .string utf8 => .ok utf8
  | _ => .error (.invalidArgument (ascii key ++ ascii " must be a string"))

end NodeWireguard.JsValues
