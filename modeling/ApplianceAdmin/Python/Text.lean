import Mathlib.Data.List.DropRight
import Mathlib.Tactic

/-!
# Text as Python handles it

The string functions of the interpreter and its standard library that the daemon calls, as
functions on `String` with the documented behaviour.

* `Unicode`: the character database, with what is documented of it; `Unicode.lower` is `str.lower`,
  the rule for a final sigma included;
* `strip`, `rstrip`, `splitlines`, `splitOnce`;
* `parseInt`: `int(text)`, underscores, signs and the 4300 digit limit included;
* `decodeReplace`: `bytes.decode("utf-8", errors="replace")`;
* `shlexSplit`: `shlex.split`, the state machine of the module in its POSIX mode.
-/

namespace ApplianceAdmin.Python

/-- A character of the ASCII range. -/
def isAscii (c : Char) : Bool := c.val < 128

/-- The interpreter's character database: what it says of one character. -/
structure Unicode where
  /-- The full lower-case mapping, for every character but capital sigma. -/
  lowerOf : Char → List Char
  /-- The property `Cased` -/
  cased : Char → Bool
  /-- The property `Case_Ignorable` -/
  ignorable : Char → Bool
  /-- The value of a character that is a decimal digit. -/
  digit : Char → Option ℕ
  /-- `repr` of a `str` -/
  repr : String → String
  lowerOf_ascii : ∀ c, isAscii c = true → lowerOf c = [c.toLower]
  /-- What the mapping produces is in lower case. -/
  lowerOf_fixed : ∀ c, ∀ d ∈ lowerOf c, c ≠ 'Σ' → d ≠ 'Σ' ∧ lowerOf d = [d]
  lowerOf_sigma : lowerOf 'σ' = ['σ'] ∧ lowerOf 'ς' = ['ς']
  /-- Only the full stop is mapped to a text with a full stop. -/
  lowerOf_dot : ∀ c, c ≠ '.' → '.' ∉ lowerOf c
  digit_ascii : ∀ c, isAscii c = true → digit c = if c.isDigit then some (c.toNat - 48) else none

/-! ### Lower case -/

theorem isLower_iff {c : Char} : c.isLower = true ↔ 97 ≤ c.toNat ∧ c.toNat ≤ 122 := by
  change (decide (c.val ≥ 'a'.val) && decide (c.val ≤ 'z'.val)) = true ↔ _
  simp only [Bool.and_eq_true, decide_eq_true_eq, UInt32.le_iff_toNat_le]
  rfl

theorem isUpper_iff {c : Char} : c.isUpper = true ↔ 65 ≤ c.toNat ∧ c.toNat ≤ 90 := by
  change decide (c.val ≥ 'A'.val ∧ c.val ≤ 'Z'.val) = true ↔ _
  simp only [decide_eq_true_eq, UInt32.le_iff_toNat_le]
  rfl

theorem isDigit_iff {c : Char} : c.isDigit = true ↔ 48 ≤ c.toNat ∧ c.toNat ≤ 57 := by
  simp only [Char.isDigit, Bool.and_eq_true, decide_eq_true_eq, UInt32.le_iff_toNat_le]
  rfl

theorem toNat_toLower_of_isUpper {c : Char} (h : c.isUpper = true) :
    c.toLower.toNat = c.toNat + 32 := by
  obtain ⟨h₁, h₂⟩ := isUpper_iff.1 h
  have hadd : (c.val + ('a'.val - 'A'.val)).toNat = c.val.toNat + 32 := by
    rw [UInt32.toNat_add]
    exact Nat.mod_eq_of_lt (show c.val.toNat + 32 < 2 ^ 32 from Nat.lt_of_le_of_lt
      (Nat.add_le_add_right h₂ 32) (by decide))
  delta Char.toLower
  rw [dif_pos ⟨UInt32.le_iff_toNat_le.2 h₁, UInt32.le_iff_toNat_le.2 h₂⟩]
  exact hadd

theorem toLower_of_not_isUpper {c : Char} (h : c.isUpper = false) : c.toLower = c := by
  delta Char.toLower
  rw [dif_neg]
  rintro ⟨h₁, h₂⟩
  rw [isUpper_iff.2 ⟨UInt32.le_iff_toNat_le.1 h₁, UInt32.le_iff_toNat_le.1 h₂⟩] at h
  cases h

/-- Lower-casing changes capital letters only, and makes small letters of them. -/
theorem toLower_cases (c : Char) : c.toLower = c ∨ c.toLower.isLower = true := by
  cases h : c.isUpper with
  | false => exact .inl (toLower_of_not_isUpper h)
  | true =>
    have hn := toNat_toLower_of_isUpper h
    rw [isUpper_iff] at h
    exact .inr (isLower_iff.2 (by omega))

theorem toLower_of_isLower {c : Char} (h : c.isLower = true) : c.toLower = c := by
  refine toLower_of_not_isUpper (Bool.eq_false_iff.2 fun hu => ?_)
  rw [isLower_iff] at h
  rw [isUpper_iff] at hu
  omega

theorem toLower_toLower (c : Char) : c.toLower.toLower = c.toLower := by
  rcases toLower_cases c with h | h
  · rw [h, h]
  · exact toLower_of_isLower h

/-- A character that is no small letter comes from itself only. -/
theorem eq_of_toLower_eq {c d : Char} (hd : d.isLower = false) (h : c.toLower = d) : c = d := by
  subst h
  exact ((toLower_cases c).resolve_right (by simp [hd])).symm

namespace Unicode

variable (U : Unicode)

/-- Is a capital sigma between `before` (nearest character first) and `after` the end of a word? -/
def finalSigma (before after : List Char) : Bool :=
  (before.dropWhile U.ignorable).head?.any U.cased &&
    !(after.dropWhile U.ignorable).head?.any U.cased

/-- The lower case of one character in its context. -/
def lowerAt (before : List Char) (c : Char) (after : List Char) : List Char :=
  if c = 'Σ' then [if U.finalSigma before after then 'ς' else 'σ'] else U.lowerOf c

/-- The lower case of the characters that follow `before`. -/
def lowerFrom (before : List Char) : List Char → List Char
  | [] => []
  | c :: cs => U.lowerAt before c cs ++ lowerFrom (c :: before) cs

/-- `text.lower()` -/
def lower (s : String) : String := String.ofList (U.lowerFrom [] s.toList)

/-- A character that is its own lower case wherever it stands. -/
def Small (c : Char) : Prop := c ≠ 'Σ' ∧ U.lowerOf c = [c]

variable {U}

theorem small_of_mem_lowerAt {before after : List Char} {c d : Char}
    (hd : d ∈ U.lowerAt before c after) : U.Small d := by
  unfold lowerAt at hd
  split_ifs at hd with hc hs
  · rw [List.mem_singleton.1 hd]
    exact ⟨by decide, U.lowerOf_sigma.2⟩
  · rw [List.mem_singleton.1 hd]
    exact ⟨by decide, U.lowerOf_sigma.1⟩
  · exact U.lowerOf_fixed c d hd hc

theorem small_of_mem_lowerFrom {before cs : List Char} {d : Char}
    (hd : d ∈ U.lowerFrom before cs) : U.Small d := by
  induction cs generalizing before with
  | nil => cases hd
  | cons c cs ih => exact (List.mem_append.1 hd).elim small_of_mem_lowerAt ih

theorem lowerFrom_of_small {before cs : List Char} (h : ∀ c ∈ cs, U.Small c) :
    U.lowerFrom before cs = cs := by
  induction cs generalizing before with
  | nil => rfl
  | cons c cs ih =>
    obtain ⟨hc, hcs⟩ := List.forall_mem_cons.1 h
    rw [lowerFrom, ih hcs, lowerAt, if_neg hc.1, hc.2, List.singleton_append]

theorem lower_eq_self_iff {s : String} : U.lower s = s ↔ ∀ c ∈ s.toList, U.Small c := by
  refine ⟨fun h c hc => ?_, fun h => ?_⟩
  · rw [← h, lower, String.toList_ofList] at hc
    exact small_of_mem_lowerFrom hc
  · rw [lower, lowerFrom_of_small h, String.ofList_toList]

/-- Lower case is reached at once. -/
theorem lower_lower (s : String) : U.lower (U.lower s) = U.lower s := by
  rw [lower_eq_self_iff, lower, String.toList_ofList]
  exact fun c hc => small_of_mem_lowerFrom hc

/-- A text put together from texts in lower case is in lower case. -/
theorem lower_append {s t : String} (hs : U.lower s = s) (ht : U.lower t = t) :
    U.lower (s ++ t) = s ++ t := by
  rw [lower_eq_self_iff] at hs ht ⊢
  intro c hc
  rw [String.toList_append, List.mem_append] at hc
  exact hc.elim (hs c) (ht c)

theorem lowerAt_ascii {before after : List Char} {c : Char} (hc : isAscii c = true) :
    U.lowerAt before c after = [c.toLower] := by
  have hne : c ≠ 'Σ' := by rintro rfl; exact absurd hc (by decide)
  rw [lowerAt, if_neg hne, U.lowerOf_ascii c hc]

/-- An ASCII text at the end is lowered character by character, whatever precedes it. -/
theorem lowerFrom_append_ascii {before cs ds : List Char} (h : ds.all isAscii = true) :
    ∃ es, U.lowerFrom before (cs ++ ds) = es ++ ds.map Char.toLower := by
  induction cs generalizing before with
  | nil =>
    refine ⟨[], ?_⟩
    rw [List.nil_append, List.nil_append]
    induction ds generalizing before with
    | nil => rfl
    | cons d ds ih =>
      simp only [List.all_cons, Bool.and_eq_true] at h
      obtain ⟨hd, hds⟩ := h
      rw [lowerFrom, ih hds, lowerAt_ascii hd, List.map_cons, List.singleton_append]
  | cons c cs ih =>
    obtain ⟨es, he⟩ := @ih (c :: before)
    exact ⟨U.lowerAt before c (cs ++ ds) ++ es, by
      rw [List.cons_append, lowerFrom, he, List.append_assoc]⟩

theorem lower_append_ascii (s : String) {t : String} (h : t.toList.all isAscii = true) :
    ∃ u, U.lower (s ++ t) = u ++ String.ofList (t.toList.map Char.toLower) := by
  obtain ⟨es, he⟩ := @lowerFrom_append_ascii U [] s.toList _ h
  refine ⟨String.ofList es, ?_⟩
  rw [lower, String.toList_append, he, String.ofList_append]

/-- On ASCII, `lower` maps the letters. -/
theorem lower_ascii {s : String} (h : s.toList.all isAscii = true) :
    U.lower s = String.ofList (s.toList.map Char.toLower) := by
  have key : ∀ (cs before : List Char), cs.all isAscii = true →
      U.lowerFrom before cs = cs.map Char.toLower := by
    intro cs
    induction cs with
    | nil => exact fun _ _ => rfl
    | cons c cs ih =>
      intro before hcs
      simp only [List.all_cons, Bool.and_eq_true] at hcs
      obtain ⟨hc, hcs⟩ := hcs
      rw [lowerFrom, ih _ hcs, lowerAt_ascii hc, List.map_cons, List.singleton_append]
  rw [lower, key _ _ h]

/-- The ASCII part of the database; other characters have no case, and only `Σ` is mapped. -/
def ascii : Unicode where
  lowerOf c := if c = 'Σ' then ['σ'] else [c.toLower]
  cased c := c.isAlpha
  ignorable c := c ∈ ['\'', '.', ':', '^', '\x60']
  digit c := if c.isDigit then some (c.toNat - 48) else none
  repr s := "'" ++ s ++ "'"
  lowerOf_ascii c hc := by
    rw [if_neg]
    rintro rfl
    exact absurd hc (by decide)
  lowerOf_fixed c d hd hc := by
    rw [if_neg hc, List.mem_singleton] at hd
    have hne : d ≠ 'Σ' := fun h => hc (eq_of_toLower_eq (by decide) (hd ▸ h))
    exact ⟨hne, by rw [if_neg hne, hd, toLower_toLower]⟩
  lowerOf_sigma := by decide
  lowerOf_dot c hc := by
    split_ifs
    · decide
    · exact fun h => hc (eq_of_toLower_eq (by decide) (List.mem_singleton.1 h).symm)
  digit_ascii c _ := rfl

end Unicode

/-! ### Whitespace and lines -/

/-- The last character of a text is that of its last part. -/
theorem getLast?_append_of_eq_some {s t : String} {c : Char} (h : t.toList.getLast? = some c) :
    (s ++ t).toList.getLast? = some c := by
  rw [String.toList_append, List.getLast?_append, h, Option.some_or]

/-- `str.isspace` for one character. -/
def isSpace (c : Char) : Bool :=
  let n := c.toNat
  (0x09 ≤ n && n ≤ 0x0D) || (0x1C ≤ n && n ≤ 0x20) || n == 0x85 || n == 0xA0 || n == 0x1680 ||
    (0x2000 ≤ n && n ≤ 0x200A) || n == 0x2028 || n == 0x2029 || n == 0x202F || n == 0x205F ||
    n == 0x3000

/-- `text.strip()` -/
def strip (s : String) : String :=
  String.ofList ((s.toList.dropWhile isSpace).rdropWhile isSpace)

/-- A beginning of what is left after the leading whitespace has no leading whitespace. -/
theorem dropWhile_of_prefix {α : Type} {p : α → Bool} {l m : List α} (h : m <+: l.dropWhile p) :
    m.dropWhile p = m := by
  obtain ⟨t, ht⟩ := h
  cases m with
  | nil => rfl
  | cons c m =>
    have hc := List.head?_dropWhile_not p l
    rw [← ht] at hc
    exact List.dropWhile_cons_of_neg (by simpa using hc)

theorem strip_strip (s : String) : strip (strip s) = strip s := by
  rw [strip, strip, String.toList_ofList, dropWhile_of_prefix (List.rdropWhile_prefix _ _),
    List.rdropWhile_idempotent]

theorem strip_eq_self {s : String} (h : ∀ c ∈ s.toList, isSpace c = false) : strip s = s := by
  have hleft : s.toList.dropWhile isSpace = s.toList := by
    rw [List.dropWhile_eq_self_iff]
    exact fun hpos => by simp [h _ (List.getElem_mem hpos)]
  have hright : s.toList.rdropWhile isSpace = s.toList := by
    rw [List.rdropWhile_eq_self_iff]
    exact fun hne => by simp [h _ (List.getLast_mem hne)]
  rw [strip, hleft, hright, String.ofList_toList]

theorem strip_append_newline (s : String) : strip (s ++ "\n") = strip s := by
  have hnl : isSpace '\n' = true := by decide
  rw [strip, strip, String.toList_append, show "\n".toList = ['\n'] from rfl, List.dropWhile_append]
  split_ifs with h
  · rw [List.isEmpty_iff.1 h]
    rfl
  · rw [List.rdropWhile_concat_pos _ _ _ hnl]

/-- `text.rstrip(".")` -/
def rstripDots (s : String) : String := String.ofList (s.toList.rdropWhile (· = '.'))

/-- A character at which `str.splitlines` breaks a line. -/
def isLineBreak (c : Char) : Bool :=
  let n := c.toNat
  (0x0A ≤ n && n ≤ 0x0D) || (0x1C ≤ n && n ≤ 0x1E) || n == 0x85 || n == 0x2028 || n == 0x2029

/-- The lines of `cs` after the characters `line` of the current one. -/
def linesFrom (line : List Char) : List Char → List String
  | [] => if line = [] then [] else [String.ofList line]
  | '\r' :: '\n' :: cs => String.ofList line :: linesFrom [] cs
  | c :: cs =>
      if isLineBreak c then String.ofList line :: linesFrom [] cs else linesFrom (line ++ [c]) cs

/-- `text.splitlines()` -/
def splitlines (s : String) : List String := linesFrom [] s.toList

/-- `text.split(sep, 1)` for a text that contains the character `sep`. -/
def splitOnce (sep : Char) (s : String) : Option (String × String) :=
  match s.toList.dropWhile (· ≠ sep) with
  | [] => none
  | _ :: rest => some (String.ofList (s.toList.takeWhile (· ≠ sep)), String.ofList rest)

/-! ### Integers -/

/-- The whitespace that `int` skips: of ASCII, not the separators `U+001C … U+001F`. -/
def intSpace (c : Char) : Bool :=
  (0x09 ≤ c.toNat && c.toNat ≤ 0x0D) || c == ' ' || (0x7F ≤ c.toNat && isSpace c)

/-- The value of a sequence of decimal digits. -/
def digitsValue (ds : List ℕ) : ℕ := ds.foldl (fun n d => 10 * n + d) 0

/-- Decimal digits with single underscores between them, at most 4300 of them. -/
def parseDigits (U : Unicode) (cs : List Char) : Option ℕ :=
  let groups := cs.splitOn '_'
  if groups.all (· ≠ []) then
    match groups.flatten.mapM U.digit with
    | some ds => if ds.length ≤ 4300 then some (digitsValue ds) else none
    | none => none
  else none

/-- `int(text)`; `none` stands for `ValueError`. -/
def parseInt (U : Unicode) (s : String) : Option ℤ :=
  match (s.toList.dropWhile intSpace).rdropWhile intSpace with
  | '-' :: cs => (parseDigits U cs).map fun n => -(n : ℤ)
  | '+' :: cs => (parseDigits U cs).map fun n => (n : ℤ)
  | cs => (parseDigits U cs).map fun n => (n : ℤ)

/-! ### UTF-8 -/

/-- U+FFFD, which stands for what cannot be decoded. -/
def replacement : Char := Char.ofNat 0xFFFD

/-- How many bytes follow the lead byte `b`, and the range of the first of them. -/
def leadByte (b : UInt8) : Option (ℕ × ℕ × ℕ) :=
  let n := b.toNat
  if 0xC2 ≤ n ∧ n ≤ 0xDF then some (1, 0x80, 0xBF)
  else if n = 0xE0 then some (2, 0xA0, 0xBF)
  else if n = 0xED then some (2, 0x80, 0x9F)
  else if 0xE1 ≤ n ∧ n ≤ 0xEF then some (2, 0x80, 0xBF)
  else if n = 0xF0 then some (3, 0x90, 0xBF)
  else if n = 0xF4 then some (3, 0x80, 0x8F)
  else if 0xF1 ≤ n ∧ n ≤ 0xF3 then some (3, 0x80, 0xBF)
  else none

/-- The payload bits of a lead byte that `more` bytes follow. -/
def leadBits (more : ℕ) (b : UInt8) : ℕ := b.toNat % 2 ^ (6 - more)

/-- Decode, having read a sequence of which `more` bytes with first range `lo … hi` are owed and
`acc` are the bits so far; `more = 0` is between characters.  A byte that does not continue the
sequence ends it with U+FFFD and is looked at again as a lead byte. -/
def decodeFrom : (more lo hi acc : ℕ) → List UInt8 → List Char
  | 0, _, _, _, [] => []
  | _ + 1, _, _, _, [] => [replacement]
  | 0, _, _, _, b :: bs =>
      if b.toNat < 0x80 then Char.ofNat b.toNat :: decodeFrom 0 0 0 0 bs
      else match leadByte b with
        | some (more, lo, hi) => decodeFrom more lo hi (leadBits more b) bs
        | none => replacement :: decodeFrom 0 0 0 0 bs
  | more + 1, lo, hi, acc, b :: bs =>
      if lo ≤ b.toNat ∧ b.toNat ≤ hi then
        let acc := 64 * acc + b.toNat % 64
        if more = 0 then Char.ofNat acc :: decodeFrom 0 0 0 0 bs
        else decodeFrom more 0x80 0xBF acc bs
      else if b.toNat < 0x80 then replacement :: Char.ofNat b.toNat :: decodeFrom 0 0 0 0 bs
      else match leadByte b with
        | some (more, lo, hi) => replacement :: decodeFrom more lo hi (leadBits more b) bs
        | none => replacement :: replacement :: decodeFrom 0 0 0 0 bs

/-- `raw.decode("utf-8", errors="replace")` -/
def decodeReplace (raw : List UInt8) : String := String.ofList (decodeFrom 0 0 0 0 raw)

/-! ### `shlex.split` -/

/-- Where the splitter stands; an escape remembers the quote it has to go back to. -/
inductive ShlexState
  | between
  | word
  | quote (q : Char)
  | escape (back : Option Char)
  deriving DecidableEq

/-- `whitespace` of a `shlex` object -/
def shlexSpace (c : Char) : Bool := c = ' ' || c = '\t' || c = '\r' || c = '\n'

/-- The tokens of the remaining characters, with the current token and whether it was quoted. -/
def shlexFrom : ShlexState → List Char → Bool → List Char → Except String (List String)
  | .between, _, _, [] => .ok []
  | .word, tok, quoted, [] => .ok (if tok = [] && !quoted then [] else [String.ofList tok])
  | .quote _, _, _, [] => .error "No closing quotation"
  | .escape _, _, _, [] => .error "No escaped character"
  | .between, _, _, c :: cs =>
      if shlexSpace c then shlexFrom .between [] false cs
      else if c = '\\' then shlexFrom (.escape none) [] false cs
      else if c = '\'' || c = '"' then shlexFrom (.quote c) [] false cs
      else shlexFrom .word [c] false cs
  | .quote q, tok, _, c :: cs =>
      if c = q then shlexFrom .word tok true cs
      else if c = '\\' && q = '"' then shlexFrom (.escape (some q)) tok true cs
      else shlexFrom (.quote q) (tok ++ [c]) true cs
  | .escape none, tok, quoted, c :: cs => shlexFrom .word (tok ++ [c]) quoted cs
  | .escape (some q), tok, quoted, c :: cs =>
      -- inside quotes only the quote and the backslash lose the backslash before them
      if c ≠ '\\' && c ≠ q then shlexFrom (.quote q) (tok ++ ['\\', c]) quoted cs
      else shlexFrom (.quote q) (tok ++ [c]) quoted cs
  | .word, tok, quoted, c :: cs =>
      if shlexSpace c then
        if tok = [] && !quoted then shlexFrom .between [] false cs
        else (shlexFrom .between [] false cs).map (String.ofList tok :: ·)
      else if c = '\'' || c = '"' then shlexFrom (.quote c) tok quoted cs
      else if c = '\\' then shlexFrom (.escape none) tok quoted cs
      else shlexFrom .word (tok ++ [c]) quoted cs

/-- `shlex.split(text)`; the error is the message of the `ValueError`. -/
def shlexSplit (s : String) : Except String (List String) := shlexFrom .between [] false s.toList

end ApplianceAdmin.Python
