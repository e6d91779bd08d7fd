import ApplianceAdmin.Python.Text

/-!
# Python values

The values that the daemon meets without a static type: JSON parameters of a request and the
contents of D-Bus variants.  A dictionary of variants is a dictionary of the values inside them.

* `Value`, `Value.toStr` (`str(x)`), `Value.toInt` (`int(x)`), `Value.truthy` (`bool(x)`),
  `Value.iter` (`for item in x`);
* `Dict.get?` (`x.get(key)`) and `Dict.item` (`x[key]`);
* `PyError`: an exception of the language or its libraries, with its class and its text.
-/

namespace ApplianceAdmin.Python

/-- The exception classes that are told apart. -/
inductive PyClass
  | value
  | type
  | key
  | index
  | attribute
  | overflow
  | timeout
  | fileNotFound
  | permission
  | connection
  | os
  | dbus
  | other (name : String)
  deriving DecidableEq

/-- An exception object: its class and `str` of it. -/
structure PyError where
  cls : PyClass
  message : String
  deriving DecidableEq

/-- A `float`, by its `repr` and its value when it is finite. -/
structure PyFloat where
  repr : String
  value : Option ℚ
  repr_chars : ∀ c ∈ repr.toList, c.isDigit = true ∨ c ∈ ['.', '-', '+', 'e', 'i', 'n', 'f', 'a']

/-- A value without a static type. -/
inductive Value
  | none
  | bool (b : Bool)
  | int (n : ℤ)
  | float (x : PyFloat)
  | str (s : String)
  | bytes (bs : List UInt8)
  | list (xs : List Value)
  | dict (kv : List (String × Value))

/-- A dictionary with string keys, in insertion order. -/
abbrev Dict := List (String × Value)

/-- `d.get(key)` -/
def Dict.get? (d : Dict) (key : String) : Option Value := (d.find? (·.1 = key)).map (·.2)

/-- `d[key]` -/
def Dict.item (d : Dict) (key : String) : Except PyError Value :=
  match d.get? key with
  | some v => .ok v
  | .none => .error ⟨.key, "'" ++ key ++ "'"⟩

namespace Value

/-- One byte inside `repr` of a `bytes` object that is quoted with `q`. -/
def byteRepr (q : Char) (b : UInt8) : List Char :=
  let n := b.toNat
  let c := Char.ofNat n
  let hex (d : ℕ) : Char := Nat.digitChar d
  if c = q || c = '\\' then ['\\', c]
  else if n = 0x09 then ['\\', 't']
  else if n = 0x0A then ['\\', 'n']
  else if n = 0x0D then ['\\', 'r']
  else if n < 0x20 || 0x7F ≤ n then ['\\', 'x', hex (n / 16), hex (n % 16)]
  else [c]

/-- `repr` of a `bytes` object -/
def bytesRepr (bs : List UInt8) : String :=
  let q := if bs.any (·.toNat = 0x27) && !bs.any (·.toNat = 0x22) then '"' else '\''
  String.ofList (['b', q] ++ bs.flatMap (byteRepr q) ++ [q])

mutual

/-- `repr(x)` -/
def repr (U : Unicode) : Value → String
  | .none => "None"
  | .bool b => if b then "True" else "False"
  | .int n => toString n
  | .float x => x.repr
  | .str s => U.repr s
  | .bytes bs => bytesRepr bs
  | .list xs => "[" ++ ", ".intercalate (reprList U xs) ++ "]"
  | .dict kv => "\x7b" ++ ", ".intercalate (reprDict U kv) ++ "\x7d"

/-- `repr` of the items of a list -/
def reprList (U : Unicode) : List Value → List String
  | [] => []
  | x :: xs => repr U x :: reprList U xs

/-- `key: value` for the items of a dictionary -/
def reprDict (U : Unicode) : List (String × Value) → List String
  | [] => []
  | (k, v) :: kv => (U.repr k ++ ": " ++ repr U v) :: reprDict U kv

end

/-- `str(x)` -/
def toStr (U : Unicode) : Value → String
  | .str s => s
  | v => v.repr U

section ToStr

variable (U : Unicode)

@[simp] theorem toStr_str (s : String) : (str s).toStr U = s := rfl

theorem toStr_none : none.toStr U = "None" := rfl

theorem toStr_bool (b : Bool) : (bool b).toStr U = if b then "True" else "False" := rfl

theorem toStr_int (n : ℤ) : (int n).toStr U = toString n := rfl

theorem toStr_float (x : PyFloat) : (float x).toStr U = x.repr := rfl

theorem toStr_bytes (bs : List UInt8) : (bytes bs).toStr U = bytesRepr bs := rfl

theorem toStr_list (xs : List Value) : ∃ inner, (list xs).toStr U = inner ++ "]" := ⟨_, rfl⟩

theorem toStr_dict (kv : List (String × Value)) :
    ∃ inner, (dict kv).toStr U = inner ++ "\x7d" := ⟨_, rfl⟩

end ToStr

/-- `bool(x)` -/
def truthy : Value → Bool
  | .none => false
  | .bool b => b
  | .int n => n ≠ 0
  | .float x => x.value ≠ some 0
  | .str s => s ≠ ""
  | .bytes bs => bs ≠ []
  | .list xs => !xs.isEmpty
  | .dict kv => !kv.isEmpty

/-- The text of bytes; a byte outside ASCII becomes a character that no integer contains. -/
def bytesText (bs : List UInt8) : String :=
  String.ofList (bs.map fun b => if b.toNat < 0x80 then Char.ofNat b.toNat else '\x00')

/-- The integer that a text stands for, or the `ValueError` of `int`. -/
def intOfText (U : Unicode) (s : String) (shown : String) : Except PyError ℤ :=
  match parseInt U s with
  | some n => .ok n
  | .none => .error ⟨.value, "invalid literal for int() with base 10: " ++ shown⟩

/-- `int(x)` -/
def toInt (U : Unicode) : Value → Except PyError ℤ
  | .int n => .ok n
  | .bool b => .ok (if b then 1 else 0)
  | .float x =>
      match x.value with
      | some q => .ok (if 0 ≤ q then ⌊q⌋ else ⌈q⌉)
      | .none =>
          if x.repr = "nan" then .error ⟨.value, "cannot convert float NaN to integer"⟩
          else .error ⟨.overflow, "cannot convert float infinity to integer"⟩
  | .str s => intOfText U s (U.repr s)
  | .bytes bs => intOfText U (bytesText bs) (bytesRepr bs)
  | .none => .error ⟨.type,
      "int() argument must be a string, a bytes-like object or a real number, not 'NoneType'"⟩
  | .list _ => .error ⟨.type,
      "int() argument must be a string, a bytes-like object or a real number, not 'list'"⟩
  | .dict _ => .error ⟨.type,
      "int() argument must be a string, a bytes-like object or a real number, not 'dict'"⟩

/-- The items of `for item in x` -/
def iter : Value → Except PyError (List Value)
  | .list xs => .ok xs
  | .dict kv => .ok (kv.map fun p => .str p.1)
  | .str s => .ok (s.toList.map fun c => .str (String.ofList [c]))
  | .bytes bs => .ok (bs.map fun b => .int b.toNat)
  | .none => .error ⟨.type, "'NoneType' object is not iterable"⟩
  | .bool _ => .error ⟨.type, "'bool' object is not iterable"⟩
  | .int _ => .error ⟨.type, "'int' object is not iterable"⟩
  | .float _ => .error ⟨.type, "'float' object is not iterable"⟩

/-- The dictionary behind `x.get(…)`, for which only a dictionary has the method. -/
def asDict : Value → Except PyError Dict
  | .dict kv => .ok kv
  | _ => .error ⟨.attribute, "object has no attribute 'get'"⟩

end Value

end ApplianceAdmin.Python
