import ApplianceAdmin.Models
import ApplianceAdmin.Python.Utf8

/-!
# Lines on a socket

A message between the client and the daemon is the compact JSON of a model and a newline.

* `Stream.readline`: `StreamReader.readline` with its limit, under `asyncio.wait_for`;
* `Json.dumps`: the JSON that pydantic writes; `newline_notMem_dumps`: it is one line;
* `messageLine`: the line of a message; `readline_messageLine`: how it is read.
-/

namespace ApplianceAdmin.Ipc

open Python

/-! ### Reading a line -/

/-- The byte that ends a line -/
def newline : UInt8 := 10

/-- What comes after the bytes of a stream, as far as a reader waits for it -/
inductive Ending
  | eof
  | stall
  | failure (e : PyError)

/-- The bytes that reach a reader, and how they end. -/
structure Stream where
  bytes : List UInt8
  ending : Ending
  /-- Is the newline of an oversized line in the buffer when the line is rejected? -/
  separatorSeen : Bool

/-- The text of the `LimitOverrunError` -/
def overrunText (separatorSeen : Bool) : String :=
  if separatorSeen then "Separator is found, but chunk is longer than limit"
  else "Separator is not found, and chunk exceed the limit"

/-- `await asyncio.wait_for(reader.readline(), timeout)` of a reader with this limit -/
def Stream.readline (limit : ℕ) (s : Stream) : Except Exc (List UInt8) :=
  let line := s.bytes.takeWhile (· ≠ newline)
  if limit < line.length then .error (.py ⟨.value, overrunText s.separatorSeen⟩)
  else if newline ∈ s.bytes then .ok (line ++ [newline])
  else match s.ending with
    | .eof => .ok line
    | .stall => .error .timeoutError
    | .failure e => .error (.py e)

/-- A text of one line and more behind it -/
theorem takeWhile_line {text rest : List UInt8} (h : newline ∉ text) :
    (text ++ newline :: rest).takeWhile (· ≠ newline) = text := by
  rw [List.takeWhile_append_of_pos fun b hb => by
    simpa using fun hn : b = newline => h (hn ▸ hb)]
  simp

/-- A line is read when it keeps to the limit, and rejected when it does not. -/
theorem readline_line {limit : ℕ} {s : Stream} {text rest : List UInt8} (h : newline ∉ text)
    (hs : s.bytes = text ++ newline :: rest) : s.readline limit =
      if limit < text.length then .error (.py ⟨.value, overrunText s.separatorSeen⟩)
      else .ok (text ++ [newline]) := by
  have hmem : newline ∈ text ++ newline :: rest :=
    List.mem_append_right _ List.mem_cons_self
  unfold Stream.readline
  simp only [hs, takeWhile_line h, if_pos hmem]

/-! ### Writing JSON -/

/-- What the JSON library makes of bytes and of floating-point numbers. -/
structure Json where
  /-- The value of a JSON text -/
  loads : List UInt8 → Option Value
  float : PyFloat → String
  float_line : ∀ x, '\n' ∉ (float x).toList

/-- One character inside a JSON string -/
def jsonChar (c : Char) : List Char :=
  if c = '"' then ['\\', '"']
  else if c = '\\' then ['\\', '\\']
  else if c.toNat = 0x08 then ['\\', 'b']
  else if c.toNat = 0x09 then ['\\', 't']
  else if c.toNat = 0x0A then ['\\', 'n']
  else if c.toNat = 0x0C then ['\\', 'f']
  else if c.toNat = 0x0D then ['\\', 'r']
  else if c.toNat < 0x20 then
    ['\\', 'u', '0', '0', Nat.digitChar (c.toNat / 16), Nat.digitChar (c.toNat % 16)]
  else [c]

/-- A JSON string -/
def jsonString (s : String) : String := String.ofList ('"' :: s.toList.flatMap jsonChar ++ ['"'])

namespace Json

variable (json : Json)

mutual

/-- The JSON of a value, or the `PydanticSerializationError`, a `ValueError` -/
def dumps : Value → Except Exc String
  | .none => .ok "null"
  | .bool b => .ok (if b then "true" else "false")
  | .int n => .ok (toString n)
  | .float x => .ok (json.float x)
  | .str s => .ok (jsonString s)
  | .bytes bs =>
      match String.fromUTF8? ⟨bs.toArray⟩ with
      | some s => .ok (jsonString s)
      | .none => .error (.py ⟨.value, "Error serializing to JSON: invalid utf-8 sequence"⟩)
  | .list xs => (dumpsList xs).map fun items => "[" ++ ",".intercalate items ++ "]"
  | .dict kv => (dumpsDict kv).map fun items => "\x7b" ++ ",".intercalate items ++ "\x7d"

/-- The JSON of the items of a list -/
def dumpsList : List Value → Except Exc (List String)
  | [] => .ok []
  | x :: xs => do
      let item ← dumps x
      return item :: (← dumpsList xs)

/-- `"key":value` for the items of a dictionary -/
def dumpsDict : List (String × Value) → Except Exc (List String)
  | [] => .ok []
  | (k, v) :: kv => do
      let item ← dumps v
      return (jsonString k ++ ":" ++ item) :: (← dumpsDict kv)

end

end Json

/-! ### One line -/

/-- A text without a newline -/
def OneLine (s : String) : Prop := '\n' ∉ s.toList

instance (s : String) : Decidable (OneLine s) := inferInstanceAs (Decidable ('\n' ∉ s.toList))

theorem OneLine.append {s t : String} (hs : OneLine s) (ht : OneLine t) : OneLine (s ++ t) := by
  rw [OneLine, String.toList_append, List.mem_append]
  exact fun h => h.elim hs ht

theorem newline_notMem_jsonChar (c : Char) : '\n' ∉ jsonChar c := by
  have hdigit : ∀ n < 16, '\n' ≠ Nat.digitChar n := by decide
  unfold jsonChar
  split_ifs with h₁ h₂ h₃ h₄ h₅ h₆ h₇ h₈
  case pos => decide
  case pos => decide
  case pos => decide
  case pos => decide
  case pos => decide
  case pos => decide
  case pos => decide
  case pos =>
    have hhigh := hdigit (c.toNat / 16) (by omega)
    have hlow := hdigit (c.toNat % 16) (by omega)
    simp [hhigh, hlow]
  case neg =>
    intro h
    rw [← List.mem_singleton.1 h] at h₅
    exact h₅ rfl

theorem oneLine_jsonString (s : String) : OneLine (jsonString s) := by
  rw [OneLine, jsonString, String.toList_ofList]
  simp [newline_notMem_jsonChar]

theorem oneLine_intercalate {items : List String} (h : ∀ s ∈ items, OneLine s) :
    OneLine (",".intercalate items) := by
  induction items with
  | nil => simp [OneLine]
  | cons s items ih =>
    obtain ⟨hs, hitems⟩ := List.forall_mem_cons.1 h
    cases items with
    | nil => rwa [String.intercalate_singleton]
    | cons t items =>
      rw [String.intercalate_cons_cons]
      exact (hs.append (by decide)).append (ih hitems)

theorem oneLine_repr (n : ℕ) : OneLine n.repr := by
  rw [OneLine, Nat.toList_repr]
  intro h
  exact absurd (Nat.isDigit_of_mem_toDigits (by decide) (by decide) h) (by decide)

theorem oneLine_int (n : ℤ) : OneLine (toString n) := by
  cases n with
  | ofNat n => exact oneLine_repr n
  | negSucc n => exact OneLine.append (s := "-") (by decide) (oneLine_repr (n + 1))

namespace Json

variable (json : Json)

mutual

/-- **What is written is one line.** -/
theorem oneLine_dumps : ∀ (v : Value) (s : String), json.dumps v = .ok s → OneLine s
  | .none, s, h => by cases h; decide
  | .bool b, s, h => by cases b <;> cases h <;> decide
  | .int n, s, h => by cases h; exact oneLine_int n
  | .float x, s, h => by cases h; exact json.float_line x
  | .str t, s, h => by cases h; exact oneLine_jsonString t
  | .bytes bs, s, h => by
      rw [dumps] at h
      split at h
      · cases h
        exact oneLine_jsonString _
      · cases h
  | .list xs, s, h => by
      rw [dumps] at h
      cases hitems : json.dumpsList xs with
      | error x => rw [hitems] at h; cases h
      | ok items =>
        rw [hitems] at h
        cases h
        have hlines := oneLine_dumpsList xs items hitems
        exact (OneLine.append (by decide) (oneLine_intercalate hlines)).append (by decide)
  | .dict kv, s, h => by
      rw [dumps] at h
      cases hitems : json.dumpsDict kv with
      | error x => rw [hitems] at h; cases h
      | ok items =>
        rw [hitems] at h
        cases h
        have hlines := oneLine_dumpsDict kv items hitems
        exact (OneLine.append (by decide) (oneLine_intercalate hlines)).append (by decide)

theorem oneLine_dumpsList : ∀ (xs : List Value) (items : List String),
    json.dumpsList xs = .ok items → ∀ s ∈ items, OneLine s
  | [], items, h => by cases h; exact fun _ hs => absurd hs List.not_mem_nil
  | x :: xs, items, h => by
      rw [dumpsList] at h
      cases hitem : json.dumps x with
      | error e => rw [hitem] at h; cases h
      | ok item =>
        cases hrest : json.dumpsList xs with
        | error e => rw [hitem, hrest] at h; cases h
        | ok rest =>
          rw [hitem, hrest] at h
          cases h
          exact List.forall_mem_cons.2 ⟨oneLine_dumps x item hitem, oneLine_dumpsList xs rest hrest⟩

theorem oneLine_dumpsDict : ∀ (kv : List (String × Value)) (items : List String),
    json.dumpsDict kv = .ok items → ∀ s ∈ items, OneLine s
  | [], items, h => by cases h; exact fun _ hs => absurd hs List.not_mem_nil
  | (k, v) :: kv, items, h => by
      rw [dumpsDict] at h
      cases hitem : json.dumps v with
      | error e => rw [hitem] at h; cases h
      | ok item =>
        cases hrest : json.dumpsDict kv with
        | error e => rw [hitem, hrest] at h; cases h
        | ok rest =>
          rw [hitem, hrest] at h
          cases h
          have hkey := (oneLine_jsonString k).append (t := ":") (by decide)
          exact List.forall_mem_cons.2
            ⟨hkey.append (oneLine_dumps v item hitem), oneLine_dumpsDict kv rest hrest⟩

end

end Json

/-- A library that writes only -/
def Json.writer : Json where
  loads _ := none
  float x := x.repr
  float_line x h := by
    rcases x.repr_chars _ h with h | h
    · exact absurd h (by decide)
    · exact absurd h (by decide)

/-- A library that knows the lines of these values -/
def Json.knowing (values : List Value) : Json :=
  { Json.writer with loads := fun line => values.find? fun v =>
      match Json.writer.dumps v with
      | .ok text => encode text ++ [newline] = line
      | .error _ => false }

/-- A message and the newline behind it -/
def messageLine (text : String) : List UInt8 := encode text ++ [newline]

theorem newline_notMem_encode {text : String} (h : OneLine text) : newline ∉ encode text :=
  fun hmem => h (mem_of_mem_encode (by decide) hmem)

/-- How a message is read from a stream that begins with it -/
theorem readline_messageLine {limit : ℕ} {s : Stream} {text : String} {rest : List UInt8}
    (h : OneLine text) (hs : s.bytes = messageLine text ++ rest) : s.readline limit =
      if limit < (encode text).length then .error (.py ⟨.value, overrunText s.separatorSeen⟩)
      else .ok (messageLine text) :=
  readline_line (newline_notMem_encode h) (by rw [hs, messageLine, List.append_assoc]; rfl)

end ApplianceAdmin.Ipc
