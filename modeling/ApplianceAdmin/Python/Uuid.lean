import ApplianceAdmin.Python.Text

/-!
# UUIDs as text

`uuid.UUID(text)` and `str` of it.  The constructor removes `urn:`, `uuid:`, braces and hyphens,
wants 32 characters and hands them to `int(…, 16)`, which reads more than hexadecimal digits.

* `parseUuid`, `uuidText`: the constructor and `str`;
* `IsUuidText`: the canonical form; `parseUuid_uuidText`: it is read back.
-/

namespace ApplianceAdmin.Python

/-- A text without the occurrences of `pattern`; `skip` characters of one of them are still ahead. -/
def removeFrom (pattern : List Char) : (skip : ℕ) → List Char → List Char
  | _, [] => []
  | skip + 1, _ :: cs => removeFrom pattern skip cs
  | 0, c :: cs =>
      if pattern.isPrefixOf (c :: cs) then removeFrom pattern (pattern.length - 1) cs
      else c :: removeFrom pattern 0 cs

/-- The value of a hexadecimal digit, a decimal digit of any script included. -/
def hexDigit (U : Unicode) (c : Char) : Option ℕ :=
  if 97 ≤ c.toNat ∧ c.toNat ≤ 102 then some (c.toNat - 87)
  else if 65 ≤ c.toNat ∧ c.toNat ≤ 70 then some (c.toNat - 55)
  else U.digit c

/-- Hexadecimal digits with single underscores between them -/
def parseHexDigits (U : Unicode) (cs : List Char) : Option ℕ :=
  let groups := cs.splitOn '_'
  if groups.all (· ≠ []) then
    (groups.flatten.mapM (hexDigit U)).map fun ds => ds.foldl (fun n d => 16 * n + d) 0
  else none

/-- Hexadecimal digits after the prefix `0x`, which one underscore may follow -/
def parseHexPrefixed (U : Unicode) : List Char → Option ℕ
  | zero :: x :: cs =>
      if U.digit zero = some 0 ∧ (x = 'x' ∨ x = 'X') then
        match cs with
        | '_' :: ds => parseHexDigits U ds
        | ds => parseHexDigits U ds
      else parseHexDigits U (zero :: x :: cs)
  | cs => parseHexDigits U cs

/-- `int(text, 16)`; `none` stands for `ValueError`. -/
def parseHex (U : Unicode) (cs : List Char) : Option ℤ :=
  match (cs.dropWhile intSpace).rdropWhile intSpace with
  | '-' :: ds => (parseHexPrefixed U ds).map fun n => -(n : ℤ)
  | '+' :: ds => (parseHexPrefixed U ds).map fun n => (n : ℤ)
  | ds => (parseHexPrefixed U ds).map fun n => (n : ℤ)

/-- The 32 characters that `UUID(text)` reads, if there are so many -/
def uuidChars (text : String) : Option (List Char) :=
  let cs := removeFrom "uuid:".toList 0 (removeFrom "urn:".toList 0 text.toList)
  let brace (c : Char) : Bool := c = '\x7b' || c = '\x7d'
  let cs := ((cs.dropWhile brace).rdropWhile brace).filter (· ≠ '-')
  if cs.length = 32 then some cs else none

/-- `UUID(text).int`; `none` stands for `ValueError`. -/
def parseUuid (U : Unicode) (text : String) : Option ℕ :=
  match (uuidChars text).bind (parseHex U) with
  | some n => if 0 ≤ n ∧ n < 2 ^ 128 then some n.toNat else none
  | none => none

/-- `n` hexadecimal digits of a number, the last ones -/
def hexText (digits n : ℕ) : List Char :=
  (List.range digits).reverse.map fun k => Nat.digitChar (n / 16 ^ k % 16)

/-- A `UUID` object. -/
structure UUID where
  int : ℕ
  int_lt : int < 2 ^ 128

/-- `str(uuid)` -/
def uuidText (n : ℕ) : String :=
  let hex := hexText 32 n
  String.ofList (hex.take 8 ++ ['-'] ++ (hex.drop 8).take 4 ++ ['-'] ++ (hex.drop 12).take 4 ++
    ['-'] ++ (hex.drop 16).take 4 ++ ['-'] ++ hex.drop 20)

example : (parseUuid .ascii "\x7bABCDEF01-2345-6789-abcd-ef0123456789\x7d").map uuidText =
    some "abcdef01-2345-6789-abcd-ef0123456789" := by decide

/-! ### The canonical text -/

/-- `[0-9a-f]` -/
def isHexChar (c : Char) : Bool := c.isDigit || (97 ≤ c.toNat && c.toNat ≤ 102)

/-- Groups of 8, 4, 4, 4 and 12 digits with hyphens between them -/
def IsUuidText (s : String) : Prop :=
  ∃ a b c d e : List Char, s = String.ofList (a ++ ['-'] ++ b ++ ['-'] ++ c ++ ['-'] ++ d ++ ['-'] ++ e) ∧
    a.length = 8 ∧ b.length = 4 ∧ c.length = 4 ∧ d.length = 4 ∧ e.length = 12 ∧
    ∀ x ∈ a ++ b ++ c ++ d ++ e, isHexChar x = true

section Digits

variable {U : Unicode}

theorem isHexChar_digitChar : ∀ n < 16, isHexChar (Nat.digitChar n) = true := by decide

theorem hexDigit_digitChar (n : ℕ) (h : n < 16) : hexDigit U (Nat.digitChar n) = some n := by
  have hascii : ∀ n < 10, isAscii (Nat.digitChar n) = true ∧ (Nat.digitChar n).isDigit = true ∧
      (Nat.digitChar n).toNat = n + 48 := by decide
  have hletter : ∀ n < 16, 10 ≤ n → (Nat.digitChar n).toNat = n + 87 := by decide
  unfold hexDigit
  by_cases hn : n < 10
  · obtain ⟨hascii, hdigit, hvalue⟩ := hascii n hn
    rw [hvalue, if_neg (by omega), if_neg (by omega), U.digit_ascii _ hascii, if_pos hdigit, hvalue,
      Nat.add_sub_cancel]
  · have hvalue := hletter n h (by omega)
    rw [hvalue, if_pos (by omega)]
    congr 1

theorem length_hexText (digits n : ℕ) : (hexText digits n).length = digits := by
  rw [hexText, List.length_map, List.length_reverse, List.length_range]

theorem isHexChar_of_mem_hexText {digits n : ℕ} {c : Char} (h : c ∈ hexText digits n) :
    isHexChar c = true := by
  obtain ⟨k, -, rfl⟩ := List.mem_map.1 h
  exact isHexChar_digitChar _ (Nat.mod_lt _ (by decide))

/-- The values of the digits are read from their text. -/
theorem mapM_hexDigit_hexText (digits n : ℕ) : (hexText digits n).mapM (hexDigit U) =
    some ((List.range digits).reverse.map fun k => n / 16 ^ k % 16) := by
  rw [hexText]
  induction (List.range digits).reverse with
  | nil => rfl
  | cons k ks ih =>
    rw [List.map_cons, List.mapM_cons, hexDigit_digitChar _ (Nat.mod_lt _ (by decide)), ih]
    rfl

/-- The digits of a number make up its last part. -/
theorem foldl_digits (digits n start : ℕ) :
    ((List.range digits).reverse.map fun k => n / 16 ^ k % 16).foldl (fun n d => 16 * n + d) start =
      start * 16 ^ digits + n % 16 ^ digits := by
  induction digits generalizing start with
  | zero => simp [Nat.mod_one]
  | succ digits ih =>
    rw [List.range_succ, List.reverse_append, List.reverse_singleton, List.singleton_append,
      List.map_cons, List.foldl_cons, ih, Nat.mod_pow_succ]
    ring

theorem hexText_succ (digits n : ℕ) :
    hexText (digits + 1) n = hexText digits (n / 16) ++ [Nat.digitChar (n % 16)] := by
  have hdigit : ∀ k, n / 16 ^ (k + 1) = n / 16 / 16 ^ k := fun k => by
    rw [Nat.div_div_eq_div_mul, pow_succ']
  rw [hexText, hexText, List.range_succ_eq_map, List.reverse_cons, List.map_append,
    ← List.map_reverse, List.map_map]
  simp only [Function.comp_def, Nat.succ_eq_add_one, hdigit]
  simp

theorem exists_digitChar {c : Char} (h : isHexChar c = true) : ∃ d < 16, Nat.digitChar d = c := by
  simp only [isHexChar, Bool.or_eq_true, isDigit_iff, Bool.and_eq_true, decide_eq_true_eq] at h
  have hchar : ∀ d < 16, (Nat.digitChar d).toNat = if d < 10 then d + 48 else d + 87 := by decide
  rcases h with h | h
  · refine ⟨c.toNat - 48, by omega, Char.toNat_inj.1 ?_⟩
    rw [hchar _ (by omega), if_pos (by omega)]
    omega
  · refine ⟨c.toNat - 87, by omega, Char.toNat_inj.1 ?_⟩
    rw [hchar _ (by omega), if_neg (by omega)]
    omega

/-- Hexadecimal digits are those of a number. -/
theorem exists_hexText (cs : List Char) (h : ∀ c ∈ cs, isHexChar c = true) :
    ∃ n < 16 ^ cs.length, hexText cs.length n = cs := by
  induction cs using List.reverseRecOn with
  | nil => exact ⟨0, by decide, rfl⟩
  | append_singleton cs c ih =>
    rw [List.forall_mem_append, List.forall_mem_singleton] at h
    obtain ⟨n, hn, hcs⟩ := ih h.1
    obtain ⟨d, hd, rfl⟩ := exists_digitChar h.2
    rw [List.length_append, List.length_singleton]
    refine ⟨16 * n + d, ?_, ?_⟩
    · rw [pow_succ]
      omega
    · rw [hexText_succ, show (16 * n + d) / 16 = n by omega, show (16 * n + d) % 16 = d by omega, hcs]

end Digits

/-! ### Reading it back -/

section ReadBack

variable {U : Unicode} {cs : List Char}

theorem notMem_of_isHexChar {c : Char} (hcs : ∀ x ∈ cs, isHexChar x = true)
    (hc : isHexChar c = false) : c ∉ cs := fun hmem => by
  rw [hcs c hmem] at hc
  cases hc

theorem removeFrom_of_notMem {p : Char} {pattern : List Char} (h : p ∉ cs) :
    removeFrom (p :: pattern) 0 cs = cs := by
  induction cs with
  | nil => rfl
  | cons c cs ih =>
    rw [List.mem_cons, not_or] at h
    have hprefix : (p :: pattern).isPrefixOf (c :: cs) = false := by
      rw [List.isPrefixOf_cons_cons, beq_eq_false_iff_ne.2 h.1, Bool.false_and]
    rw [removeFrom, hprefix]
    exact congrArg (List.cons c) (ih h.2)

/-- What has none of the characters to be stripped stays. -/
theorem trim_eq_self {p : Char → Bool} (h : ∀ c ∈ cs, p c = false) :
    (cs.dropWhile p).rdropWhile p = cs := by
  have hleft : cs.dropWhile p = cs := by
    rw [List.dropWhile_eq_self_iff]
    exact fun hpos => by simp [h _ (List.getElem_mem hpos)]
  rw [hleft, List.rdropWhile_eq_self_iff]
  exact fun hne => by simp [h _ (List.getLast_mem hne)]

theorem intSpace_of_isHexChar {c : Char} (h : isHexChar c = true) : intSpace c = false := by
  have hbounds : 48 ≤ c.toNat ∧ c.toNat ≤ 102 := by
    simp only [isHexChar, Bool.or_eq_true, isDigit_iff, Bool.and_eq_true, decide_eq_true_eq] at h
    omega
  have hne : c ≠ ' ' := by
    rintro rfl
    exact absurd hbounds.1 (by decide)
  have hspace : isSpace c = false := by simp [isSpace]; omega
  rw [intSpace, hspace]
  simp [hne]
  omega

/-- No prefix is read where there are hexadecimal digits only. -/
theorem parseHexPrefixed_of_isHexChar (h : ∀ c ∈ cs, isHexChar c = true) :
    parseHexPrefixed U cs = parseHexDigits U cs := by
  match cs with
  | [] | [_] => rfl
  | zero :: x :: ds =>
    have hx : isHexChar x = true := h x (by simp)
    have hprefix : ¬(x = 'x' ∨ x = 'X') := by
      rintro (rfl | rfl) <;> cases hx
    rw [parseHexPrefixed, if_neg fun hzero => hprefix hzero.2]
    rintro ds rfl
    exact absurd (h '_' (by simp)) (by decide)

theorem parseHex_of_isHexChar (h : ∀ c ∈ cs, isHexChar c = true) (hne : cs ≠ []) :
    parseHex U cs = ((cs.mapM (hexDigit U)).map fun ds => ds.foldl (fun n d => 16 * n + d) 0).map
      fun n : ℕ => (n : ℤ) := by
  have htrim : (cs.dropWhile intSpace).rdropWhile intSpace = cs :=
    trim_eq_self fun c hc => intSpace_of_isHexChar (h c hc)
  have hgroups : cs.splitOn '_' = [cs] :=
    List.splitOn_eq_singleton (notMem_of_isHexChar h (by decide))
  have hdigits : parseHexPrefixed U cs =
      (cs.mapM (hexDigit U)).map fun ds => ds.foldl (fun n d => 16 * n + d) 0 := by
    rw [parseHexPrefixed_of_isHexChar h, parseHexDigits, hgroups]
    simp [hne]
  rw [← hdigits, parseHex]
  simp only [htrim]
  split
  · exact absurd (h '-' (by simp)) (by decide)
  · exact absurd (h '+' (by simp)) (by decide)
  · cases parseHexPrefixed U cs <;> rfl

/-- The digits of a number are read as its last part. -/
theorem parseHex_hexText (n : ℕ) {digits : ℕ} (hdigits : digits ≠ 0) :
    parseHex U (hexText digits n) = some ((n % 16 ^ digits : ℕ) : ℤ) := by
  have hne : hexText digits n ≠ [] := fun hnil => hdigits (by
    rw [← length_hexText digits n, hnil, List.length_nil])
  rw [parseHex_of_isHexChar (fun c hc => isHexChar_of_mem_hexText hc) hne, mapM_hexDigit_hexText,
    Option.map_some, foldl_digits, Nat.zero_mul, Nat.zero_add, Option.map_some]

/-- What is left of a canonical text without its hyphens -/
theorem uuidChars_canonical {a b c d e : List Char} (hlength : (a ++ b ++ c ++ d ++ e).length = 32)
    (hhex : ∀ x ∈ a ++ b ++ c ++ d ++ e, isHexChar x = true) :
    uuidChars (String.ofList (a ++ ['-'] ++ b ++ ['-'] ++ c ++ ['-'] ++ d ++ ['-'] ++ e)) =
      some (a ++ b ++ c ++ d ++ e) := by
  have hmem (x : Char) (hx : x ∈ a ++ ['-'] ++ b ++ ['-'] ++ c ++ ['-'] ++ d ++ ['-'] ++ e) :
      isHexChar x = true ∨ x = '-' := by
    by_cases hhyphen : x = '-'
    · exact .inr hhyphen
    · exact .inl (hhex x (by simp [hhyphen] at hx; simpa using hx))
  have hno (x : Char) (hx : isHexChar x = false) (hne : x ≠ '-') :
      x ∉ a ++ ['-'] ++ b ++ ['-'] ++ c ++ ['-'] ++ d ++ ['-'] ++ e := fun h => by
    rcases hmem x h with hx' | hx'
    · rw [hx] at hx'
      cases hx'
    · exact hne hx'
  have hbrace : ∀ x ∈ a ++ ['-'] ++ b ++ ['-'] ++ c ++ ['-'] ++ d ++ ['-'] ++ e,
      (decide (x = '\x7b') || decide (x = '\x7d')) = false := fun x hx => by
    rcases hmem x hx with h | rfl
    · have hne : x ≠ '\x7b' ∧ x ≠ '\x7d' := by constructor <;> rintro rfl <;> cases h
      simp [hne.1, hne.2]
    · rfl
  have hfilter (l : List Char) (hl : ∀ x ∈ l, isHexChar x = true) :
      l.filter (fun x => decide (x ≠ '-')) = l :=
    List.filter_eq_self.2 fun x hx => by
      have hne : x ≠ '-' := by
        rintro rfl
        cases hl _ hx
      simp [hne]
  have hparts : (a ++ ['-'] ++ b ++ ['-'] ++ c ++ ['-'] ++ d ++ ['-'] ++ e).filter
      (fun x => decide (x ≠ '-')) = a ++ b ++ c ++ d ++ e := by
    simp only [List.filter_append]
    rw [hfilter a fun x hx => hhex x (by simp [hx]), hfilter b fun x hx => hhex x (by simp [hx]),
      hfilter c fun x hx => hhex x (by simp [hx]), hfilter d fun x hx => hhex x (by simp [hx]),
      hfilter e fun x hx => hhex x (by simp [hx])]
    simp
  unfold uuidChars
  simp only [String.toList_ofList, show "urn:".toList = ['u', 'r', 'n', ':'] from rfl,
    show "uuid:".toList = ['u', 'u', 'i', 'd', ':'] from rfl]
  rw [removeFrom_of_notMem (hno 'u' (by decide) (by decide)),
    removeFrom_of_notMem (hno 'u' (by decide) (by decide)), trim_eq_self hbrace, hparts,
    if_pos hlength]

theorem take_drop_parts (l : List Char) : l.take 8 ++ (l.drop 8).take 4 ++ (l.drop 12).take 4 ++
    (l.drop 16).take 4 ++ l.drop 20 = l := by
  have hsplit (i j : ℕ) : (l.drop i).take j ++ l.drop (i + j) = l.drop i := by
    rw [← List.drop_drop, List.take_append_drop]
  rw [List.append_assoc, hsplit 16 4, List.append_assoc, hsplit 12 4, List.append_assoc, hsplit 8 4,
    List.take_append_drop]

/-- Every canonical text is that of a UUID. -/
theorem IsUuidText.exists_uuidText {s : String} (h : IsUuidText s) :
    ∃ n < 2 ^ 128, uuidText n = s := by
  obtain ⟨a, b, c, d, e, rfl, ha, hb, hc, hd, he, hhex⟩ := h
  obtain ⟨n, hn, hdigits⟩ := exists_hexText _ hhex
  have hlength : (a ++ b ++ c ++ d ++ e).length = 32 := by simp [ha, hb, hc, hd, he]
  rw [hlength] at hn hdigits
  refine ⟨n, hn.trans_eq (by norm_num), ?_⟩
  rw [uuidText, hdigits]
  simp [ha, hb, hc, hd, List.drop_append, List.drop_of_length_le]

theorem isUuidText_uuidText (n : ℕ) : IsUuidText (uuidText n) := by
  have hlength := length_hexText 32 n
  refine ⟨_, _, _, _, _, rfl, ?_, ?_, ?_, ?_, ?_, fun x hx => ?_⟩
  any_goals simp [hlength]
  rw [take_drop_parts] at hx
  exact isHexChar_of_mem_hexText hx

/-- **`UUID(str(uuid)) == uuid`** -/
theorem parseUuid_uuidText {n : ℕ} (h : n < 2 ^ 128) : parseUuid U (uuidText n) = some n := by
  have hparts := take_drop_parts (hexText 32 n)
  have hchars : uuidChars (uuidText n) = some (hexText 32 n) := by
    refine (uuidChars_canonical ?_ ?_).trans (congrArg some hparts)
    · rw [hparts, length_hexText]
    · rw [hparts]
      exact fun x hx => isHexChar_of_mem_hexText hx
  have hn : n % 16 ^ 32 = n := Nat.mod_eq_of_lt (h.trans_eq (by norm_num))
  rw [parseUuid, hchars, Option.bind_some, parseHex_hexText n (by decide), hn]
  exact if_pos ⟨Int.natCast_nonneg n, by exact_mod_cast h⟩

theorem parseUuid_lt {text : String} {n : ℕ} (h : parseUuid U text = some n) : n < 2 ^ 128 := by
  unfold parseUuid at h
  split at h
  · split_ifs at h with hrange
    rw [← Option.some.inj h]
    have := hrange.2
    omega
  · cases h

/-- `UUID(text)` -/
def UUID.parse (U : Unicode) (text : String) : Option UUID :=
  (parseUuid U text).attach.map fun n => ⟨n.1, parseUuid_lt n.2⟩

end ReadBack

end ApplianceAdmin.Python
