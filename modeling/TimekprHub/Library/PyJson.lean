import TimekprHub.Library.Dict
import TimekprHub.Library.Fallible
import TimekprHub.Library.PyText

universe u

/-- What `json.loads` raises; an int of too many digits is a plain ValueError. -/
inductive LoadsError
  | jsonDecodeError
  | unicodeDecodeError
  | intTooLong
  | recursionError
  deriving DecidableEq, Repr

def LoadsError.isValueError : LoadsError → Bool
  | jsonDecodeError | unicodeDecodeError | intTooLong => true
  | recursionError => false

inductive PyException
  | typeError
  | attributeError
  | keyError (key : String)
  | indexError
  | valueError
  | overflowError
  | runtimeError
  | dbapiError
  | loads (raised : LoadsError)
  deriving DecidableEq, Repr

/-- A floating-point number as far as these operations look at it. Only the conversions can raise; a
    comparison with an int is exact. -/
class PyFloat (F : Type u) where
  ofInt : Int → Except PyException F
  toInt : F → Except PyException Int
  isZero : F → Bool
  neg : F → F
  abs : F → F
  add : F → F → F
  sub : F → F → F
  above : F → Int → Bool
  below : F → Int → Bool
  lt : F → F → Bool
  longerThan : F → Int → Bool

/-- No floating-point number at all, for texts without one. -/
instance : PyFloat Empty where
  ofInt _ := .error .overflowError
  toInt := Empty.elim
  isZero := Empty.elim
  neg := Empty.elim
  abs := Empty.elim
  add := Empty.elim
  sub := Empty.elim
  above := Empty.elim
  below := Empty.elim
  lt := Empty.elim
  longerThan := Empty.elim

inductive PyNum (F : Type u)
  | int (value : Int)
  | float (value : F)

namespace PyNum

variable {F : Type u} [PyFloat F]

/-- An int meeting a float is converted first. -/
def arith (onInts : Int → Int → Int) (onFloats : F → F → F) : PyNum F → PyNum F → Except PyException (PyNum F)
  | int a, int b => .ok (int (onInts a b))
  | int a, float b => (PyFloat.ofInt a).map fun a => float (onFloats a b)
  | float a, int b => (PyFloat.ofInt b).map fun b => float (onFloats a b)
  | float a, float b => .ok (float (onFloats a b))

def add : PyNum F → PyNum F → Except PyException (PyNum F) := arith (· + ·) PyFloat.add

def sub : PyNum F → PyNum F → Except PyException (PyNum F) := arith (· - ·) PyFloat.sub

def neg : PyNum F → PyNum F
  | int a => int (-a)
  | float a => float (PyFloat.neg a)

def abs : PyNum F → PyNum F
  | int a => int (if a < 0 then -a else a)
  | float a => float (PyFloat.abs a)

def double : PyNum F → PyNum F
  | int a => int (a * 2)
  | float a => float (PyFloat.add a a)

def above (bound : Int) : PyNum F → Bool
  | int a => bound < a
  | float a => PyFloat.above a bound

def below (bound : Int) : PyNum F → Bool
  | int a => a < bound
  | float a => PyFloat.below a bound

def lt : PyNum F → PyNum F → Bool
  | int a, int b => a < b
  | int a, float b => PyFloat.above b a
  | float a, int b => PyFloat.below a b
  | float a, float b => PyFloat.lt a b

/-- `min(a, b)`, which is `a` unless `b` is less. -/
def min (a b : PyNum F) : PyNum F := if lt b a then b else a

/-- More seconds than so many microseconds. -/
def longerThan (microseconds : Int) : PyNum F → Bool
  | int seconds => microseconds < seconds * 1000000
  | float seconds => PyFloat.longerThan seconds microseconds

end PyNum

inductive PyJson (F : Type u)
  | none
  | bool (value : Bool)
  | int (value : Int)
  | float (value : F)
  | str (text : String)
  | list (items : List (PyJson F))
  | dict (entries : List (String × PyJson F))

namespace PyJson

variable {F : Type u}

def getItem (key : String) : PyJson F → Except PyException (PyJson F)
  | dict entries =>
    match List.lookup key entries with
    | some value => .ok value
    | Option.none => .error (.keyError key)
  | _ => .error .typeError

/-- `value.get(key)`; an absent key is `none` here, so that a default can stand for it. -/
def get (key : String) : PyJson F → Except PyException (Option (PyJson F))
  | dict entries => .ok (List.lookup key entries)
  | _ => .error .attributeError

def dictItems : PyJson F → Except PyException (List (String × PyJson F))
  | dict entries => .ok entries
  | _ => .error .attributeError

def iter : PyJson F → Except PyException (List (PyJson F))
  | list items => .ok items
  | dict entries => .ok (entries.map fun entry => str entry.1)
  | str text => .ok (text.toList.map fun c => str (String.singleton c))
  | _ => .error .typeError

def hashable : PyJson F → Bool
  | list _ | dict _ => false
  | _ => true

def isStr (text : String) : PyJson F → Bool
  | str other => other = text
  | _ => false

mutual

def asdictInner : PyJson F → PyJson F
  | list items => list (asdictItems items)
  | dict entries => dict (asdictEntries entries)
  | value => value

def asdictItems : List (PyJson F) → List (PyJson F)
  | [] => []
  | item :: rest => asdictInner item :: asdictItems rest

def asdictEntries : List (String × PyJson F) → List (String × PyJson F)
  | [] => []
  | (key, value) :: rest => (key, asdictInner value) :: asdictEntries rest

end

mutual

theorem asdictInner_eq : ∀ value : PyJson F, asdictInner value = value
  | list items => by rw [asdictInner, asdictItems_eq items]
  | dict entries => by rw [asdictInner, asdictEntries_eq entries]
  | none | bool _ | int _ | float _ | str _ => by rw [asdictInner] <;> nofun

theorem asdictItems_eq : ∀ items : List (PyJson F), asdictItems items = items
  | [] => rfl
  | item :: rest => by rw [asdictItems, asdictInner_eq item, asdictItems_eq rest]

theorem asdictEntries_eq : ∀ entries : List (String × PyJson F), asdictEntries entries = entries
  | [] => rfl
  | (_, value) :: rest => by rw [asdictEntries, asdictInner_eq value, asdictEntries_eq rest]

end

variable [PyFloat F]

def truthy : PyJson F → Bool
  | none => false
  | bool value => value
  | int value => value ≠ 0
  | float value => !PyFloat.isZero value
  | str text => text ≠ ""
  | list items => !items.isEmpty
  | dict entries => !entries.isEmpty

def getOr (value : PyJson F) (key : String) (default : PyJson F) : Except PyException (PyJson F) := do
  let found ← value.get key
  return (found.filter truthy).getD default

def toInt : PyJson F → Except PyException Int
  | bool value => .ok (if value then 1 else 0)
  | int value => .ok value
  | float value => PyFloat.toInt value
  | str text =>
    match PyText.int? text.toList with
    | some value => .ok value
    | Option.none => .error .valueError
  | none | list _ | dict _ => .error .typeError

def number : PyJson F → Except PyException (PyNum F)
  | bool value => .ok (.int (if value then 1 else 0))
  | int value => .ok (.int value)
  | float value => .ok (.float value)
  | none | str _ | list _ | dict _ => .error .typeError

end PyJson
