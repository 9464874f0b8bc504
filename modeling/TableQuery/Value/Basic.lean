/-
# Cell values

A cell of a table is empty or holds a boolean, a signed 64-bit integer, a binary64 number or a
string. Two cells are equal, `==`, if they hold the same kind of content and the same content; of
floats this is `Binary64.same`, so that a table holding a NaN is equal to itself.
-/

import TableQuery.Binary64.Basic

namespace TableQuery

/-- The kinds of content a cell can have. -/
inductive DataType where
  | boolean
  | int64
  | float64
  | string
  deriving DecidableEq, Repr

namespace DataType

/-- Whether the kind is one of numbers. -/
def isNumeric : DataType → Bool
  | int64 | float64 => true
  | boolean | string => false

/-- The name of a kind. -/
def name : DataType → String
  | boolean => "boolean"
  | int64 => "int64"
  | float64 => "float64"
  | string => "string"

end DataType

/-- The content of a cell. -/
inductive Value where
  | null
  | bool (b : Bool)
  | int (i : Int64)
  | float (x : Binary64)
  | str (s : String)
  deriving Inhabited

namespace Value

/-- The kind of content, none of an empty cell. -/
def dataType? : Value → Option DataType
  | null => none
  | bool _ => some .boolean
  | int _ => some .int64
  | float _ => some .float64
  | str _ => some .string

/-- Whether the cell is empty. -/
def isNull : Value → Bool
  | null => true
  | _ => false

/-- Whether the cell holds a number, booleans not among them. -/
def isNumber : Value → Bool
  | int _ | float _ => true
  | _ => false

/-- The boolean of a boolean cell. -/
def bool? : Value → Option Bool
  | bool b => some b
  | _ => none

/-- The integer of an integer cell. -/
def int? : Value → Option Int64
  | int i => some i
  | _ => none

/-- The float of a float cell. -/
def float? : Value → Option Binary64
  | float x => some x
  | _ => none

/-- The string of a string cell. -/
def str? : Value → Option String
  | str s => some s
  | _ => none

/-- Same kind and same content. -/
protected def beq : Value → Value → Bool
  | null, null => true
  | bool a, bool b => a == b
  | int a, int b => a == b
  | float x, float y => x.same y
  | str a, str b => a == b
  | _, _ => false

instance : BEq Value := ⟨Value.beq⟩

theorem isNumber_eq (v : Value) :
    v.isNumber = (v.dataType?.map DataType.isNumeric).getD false := by
  cases v <;> rfl

@[simp] theorem null_beq_null : (null == null) = true := rfl
@[simp] theorem bool_beq_bool (a b : Bool) : (bool a == bool b) = (a == b) := rfl
@[simp] theorem int_beq_int (a b : Int64) : (int a == int b) = (a == b) := rfl
@[simp] theorem float_beq_float (x y : Binary64) : (float x == float y) = x.same y := rfl
@[simp] theorem str_beq_str (a b : String) : (str a == str b) = (a == b) := rfl

end Value

/-- The types whose elements are cell contents of one kind, or optional ones. -/
class ToValue (α : Type) where
  /-- The cell that holds an element. -/
  toValue : α → Value

namespace ToValue

instance : ToValue Value := ⟨id⟩
instance : ToValue Bool := ⟨.bool⟩
instance : ToValue Int64 := ⟨.int⟩
instance : ToValue Int32 := ⟨fun i => .int i.toInt64⟩
instance : ToValue Binary64 := ⟨.float⟩
instance : ToValue String := ⟨.str⟩

/-- A missing element leaves the cell empty. -/
instance {α : Type} [ToValue α] : ToValue (Option α) := ⟨fun
  | some a => toValue a
  | none => .null⟩

end ToValue

end TableQuery
