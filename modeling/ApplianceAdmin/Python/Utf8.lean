import ApplianceAdmin.Python.Text

/-!
# UTF-8

`encode` is `text.encode()`, the inverse of the decoding with replacement of `Python.Text` on the
byte strings that it produces.

* `utf8EncodeChar_cases`: the one to four bytes of a character;
* `decodeReplace_encode`, `encode_decodeReplace_iff`: which byte strings survive decoding;
* `length_decodeReplace_le`, `length_decodeReplace_pos`: decoding makes a text no longer than the
  bytes, and no text empty;
* `length_encode`: how many bytes encoding makes.
-/

namespace ApplianceAdmin.Python

/-- `text.encode()` -/
def encode (s : String) : List UInt8 := s.toList.flatMap String.utf8EncodeChar

theorem toList_loop (bs : ByteArray) (i : ℕ) (r : List UInt8) :
    ByteArray.toList.loop bs i r = r.reverse ++ bs.data.toList.drop i := by
  fun_induction ByteArray.toList.loop bs i r with
  | case1 i r h ih =>
    have hi : i < bs.data.toList.length := h
    rw [ih, List.reverse_cons, List.append_assoc, List.singleton_append,
      List.drop_eq_getElem_cons hi]
    have hget : bs.get! i = bs.data.toList[i] := by
      cases bs
      exact getElem!_pos _ i h
    rw [hget]
  | case2 i r h =>
    rw [List.drop_eq_nil_of_le (Nat.not_lt.1 h), List.append_nil]

theorem toList_toUTF8 (s : String) : s.toUTF8.toList = encode s := by
  have hbytes : s.toUTF8 = (s.toList.flatMap String.utf8EncodeChar).toByteArray :=
    String.utf8Encode_toList.symm
  rw [ByteArray.toList, toList_loop, hbytes, List.toList_data_toByteArray]
  rfl

@[simp] theorem encode_empty : encode "" = [] := rfl

/-! ### The bytes of a character -/

/-- The range of the scalar values -/
theorem toNat_range (c : Char) : c.toNat < 0xD800 ∨ 0xDFFF < c.toNat ∧ c.toNat < 0x110000 := c.valid

/-- **The bytes of a character.** -/
theorem utf8EncodeChar_cases (c : Char) :
    (c.toNat < 0x80 ∧ String.utf8EncodeChar c = [UInt8.ofNat c.toNat]) ∨
    (0x80 ≤ c.toNat ∧ c.toNat < 0x800 ∧ String.utf8EncodeChar c =
      [UInt8.ofNat (c.toNat / 64 + 0xC0), UInt8.ofNat (c.toNat % 64 + 0x80)]) ∨
    (0x800 ≤ c.toNat ∧ c.toNat < 0x10000 ∧ String.utf8EncodeChar c =
      [UInt8.ofNat (c.toNat / 4096 + 0xE0), UInt8.ofNat (c.toNat / 64 % 64 + 0x80),
        UInt8.ofNat (c.toNat % 64 + 0x80)]) ∨
    (0x10000 ≤ c.toNat ∧ String.utf8EncodeChar c =
      [UInt8.ofNat (c.toNat / 262144 + 0xF0), UInt8.ofNat (c.toNat / 4096 % 64 + 0x80),
        UInt8.ofNat (c.toNat / 64 % 64 + 0x80), UInt8.ofNat (c.toNat % 64 + 0x80)]) := by
  have hrange := toNat_range c
  have hval : c.val.toNat = c.toNat := rfl
  unfold String.utf8EncodeChar
  simp only [hval]
  split_ifs with h₁ h₂ h₃
  · exact .inl ⟨by omega, rfl⟩
  · refine .inr (.inl ⟨by omega, by omega, ?_⟩)
    rw [Nat.mod_eq_of_lt (show c.toNat / 64 < 32 by omega)]
  · refine .inr (.inr (.inl ⟨by omega, by omega, ?_⟩))
    rw [Nat.mod_eq_of_lt (show c.toNat / 4096 < 16 by omega)]
  · refine .inr (.inr (.inr ⟨by omega, ?_⟩))
    rw [Nat.mod_eq_of_lt (show c.toNat / 262144 < 8 by omega)]

/-- A byte of the ASCII range stands for itself. -/
theorem mem_utf8EncodeChar {c : Char} {b : UInt8} (hb : b.toNat < 0x80)
    (h : b ∈ String.utf8EncodeChar c) : c.toNat = b.toNat := by
  have hrange := toNat_range c
  rcases utf8EncodeChar_cases c with ⟨hc, he⟩ | ⟨hc, hc', he⟩ | ⟨hc, hc', he⟩ | ⟨hc, he⟩
  all_goals
    simp only [he, List.mem_cons, List.not_mem_nil, or_false, ← UInt8.toNat_inj,
      UInt8.toNat_ofNat'] at h
    omega

theorem mem_of_mem_encode {s : String} {b : UInt8} (hb : b.toNat < 0x80) (h : b ∈ encode s) :
    Char.ofNat b.toNat ∈ s.toList := by
  obtain ⟨c, hc, hbc⟩ := List.mem_flatMap.1 h
  rwa [← mem_utf8EncodeChar hb hbc, Char.ofNat_toNat]

/-! ### Decoding what was encoded -/

theorem leadByte_two {b : UInt8} (h : 0xC2 ≤ b.toNat) (h' : b.toNat ≤ 0xDF) :
    leadByte b = some (1, 0x80, 0xBF) := by
  rw [leadByte, if_pos ⟨h, h'⟩]

/-- The lead byte of three: what its second byte may be depends on it. -/
theorem leadByte_three {b : UInt8} (h : 0xE0 ≤ b.toNat) (h' : b.toNat ≤ 0xEF) :
    leadByte b = some (2, if b.toNat = 0xE0 then 0xA0 else 0x80,
      if b.toNat = 0xED then 0x9F else 0xBF) := by
  by_cases h₀ : b.toNat = 0xE0
  · simp [leadByte, h₀]
  · by_cases h₁ : b.toNat = 0xED
    · simp [leadByte, h₁]
    · have hlead : leadByte b = some (2, 0x80, 0xBF) := by
        unfold leadByte
        simp only [h₀, h₁, if_false]
        rw [if_neg (by omega), if_pos (by omega)]
      rw [hlead, if_neg h₀, if_neg h₁]

theorem leadByte_four {b : UInt8} (h : 0xF0 ≤ b.toNat) (h' : b.toNat ≤ 0xF4) :
    leadByte b = some (3, if b.toNat = 0xF0 then 0x90 else 0x80,
      if b.toNat = 0xF4 then 0x8F else 0xBF) := by
  by_cases h₀ : b.toNat = 0xF0
  · simp [leadByte, h₀]
  · by_cases h₁ : b.toNat = 0xF4
    · simp [leadByte, h₁]
    · have hlead : leadByte b = some (3, 0x80, 0xBF) := by
        unfold leadByte
        simp only [h₀, h₁, if_false]
        rw [if_neg (by omega), if_neg (by omega), if_neg (by omega), if_neg (by omega),
          if_pos (by omega)]
      rw [hlead, if_neg h₀, if_neg h₁]

theorem decodeFrom_lead {b : UInt8} {bs : List UInt8} {more lo hi : ℕ} (h : 0x80 ≤ b.toNat)
    (hlead : leadByte b = some (more, lo, hi)) :
    decodeFrom 0 0 0 0 (b :: bs) = decodeFrom more lo hi (leadBits more b) bs := by
  rw [decodeFrom, if_neg (by omega), hlead]

theorem decodeFrom_tail {more lo hi acc : ℕ} {b : UInt8} {bs : List UInt8} (h : lo ≤ b.toNat)
    (h' : b.toNat ≤ hi) : decodeFrom (more + 2) lo hi acc (b :: bs) =
      decodeFrom (more + 1) 0x80 0xBF (64 * acc + b.toNat % 64) bs := by
  rw [decodeFrom, if_pos ⟨h, h'⟩, if_neg (by omega)]

theorem decodeFrom_last {lo hi acc : ℕ} {b : UInt8} {bs : List UInt8} (h : lo ≤ b.toNat)
    (h' : b.toNat ≤ hi) : decodeFrom 1 lo hi acc (b :: bs) =
      Char.ofNat (64 * acc + b.toNat % 64) :: decodeFrom 0 0 0 0 bs := by
  rw [decodeFrom, if_pos ⟨h, h'⟩, if_pos rfl]

theorem toNat_ofNat {n : ℕ} (h : n < 256) : (UInt8.ofNat n).toNat = n := by
  rw [UInt8.toNat_ofNat', Nat.mod_eq_of_lt h]

/-- **A character is decoded from its bytes, whatever follows them.** -/
theorem decodeFrom_utf8EncodeChar (c : Char) (bs : List UInt8) :
    decodeFrom 0 0 0 0 (String.utf8EncodeChar c ++ bs) = c :: decodeFrom 0 0 0 0 bs := by
  have hrange := toNat_range c
  rcases utf8EncodeChar_cases c with ⟨hc, he⟩ | ⟨hc, hc', he⟩ | ⟨hc, hc', he⟩ | ⟨hc, he⟩
  · have h₀ : (UInt8.ofNat c.toNat).toNat = c.toNat := toNat_ofNat (by omega)
    rw [he, List.singleton_append, decodeFrom, h₀, if_pos hc, Char.ofNat_toNat]
  · have h₀ := toNat_ofNat (show c.toNat / 64 + 0xC0 < 256 by omega)
    have h₁ := toNat_ofNat (show c.toNat % 64 + 0x80 < 256 by omega)
    rw [he, List.cons_append, List.cons_append, List.nil_append,
      decodeFrom_lead (by omega) (leadByte_two (by omega) (by omega)),
      decodeFrom_last (by omega) (by omega), leadBits, h₀, h₁]
    have hn : 64 * ((c.toNat / 64 + 0xC0) % 2 ^ (6 - 1)) + (c.toNat % 64 + 0x80) % 64 = c.toNat := by
      omega
    rw [hn, Char.ofNat_toNat]
  · have h₀ := toNat_ofNat (show c.toNat / 4096 + 0xE0 < 256 by omega)
    have h₁ := toNat_ofNat (show c.toNat / 64 % 64 + 0x80 < 256 by omega)
    have h₂ := toNat_ofNat (show c.toNat % 64 + 0x80 < 256 by omega)
    rw [he, List.cons_append, List.cons_append, List.cons_append, List.nil_append,
      decodeFrom_lead (by omega) (leadByte_three (by omega) (by omega)),
      decodeFrom_tail (by split <;> omega) (by split <;> omega),
      decodeFrom_last (by omega) (by omega), leadBits, h₀, h₁, h₂]
    have hn : 64 * (64 * ((c.toNat / 4096 + 0xE0) % 2 ^ (6 - 2)) +
        (c.toNat / 64 % 64 + 0x80) % 64) + (c.toNat % 64 + 0x80) % 64 = c.toNat := by omega
    rw [hn, Char.ofNat_toNat]
  · have h₀ := toNat_ofNat (show c.toNat / 262144 + 0xF0 < 256 by omega)
    have h₁ := toNat_ofNat (show c.toNat / 4096 % 64 + 0x80 < 256 by omega)
    have h₂ := toNat_ofNat (show c.toNat / 64 % 64 + 0x80 < 256 by omega)
    have h₃ := toNat_ofNat (show c.toNat % 64 + 0x80 < 256 by omega)
    rw [he, List.cons_append, List.cons_append, List.cons_append, List.cons_append,
      List.nil_append, decodeFrom_lead (by omega) (leadByte_four (by omega) (by omega)),
      decodeFrom_tail (by split <;> omega) (by split <;> omega),
      decodeFrom_tail (by omega) (by omega), decodeFrom_last (by omega) (by omega), leadBits,
      h₀, h₁, h₂, h₃]
    have hn : 64 * (64 * (64 * ((c.toNat / 262144 + 0xF0) % 2 ^ (6 - 3)) +
        (c.toNat / 4096 % 64 + 0x80) % 64) + (c.toNat / 64 % 64 + 0x80) % 64) +
        (c.toNat % 64 + 0x80) % 64 = c.toNat := by omega
    rw [hn, Char.ofNat_toNat]

theorem decodeFrom_encode (cs : List Char) :
    decodeFrom 0 0 0 0 (cs.flatMap String.utf8EncodeChar) = cs := by
  induction cs with
  | nil => rfl
  | cons c cs ih => rw [List.flatMap_cons, decodeFrom_utf8EncodeChar, ih]

/-- **Decoding undoes encoding.** -/
theorem decodeReplace_encode (s : String) : decodeReplace (encode s) = s := by
  rw [decodeReplace, encode, decodeFrom_encode, String.ofList_toList]

/-- The bytes of a character after its first -/
def moreBytes (c : Char) : ℕ :=
  if c.toNat < 0x80 then 0 else if c.toNat < 0x800 then 1 else if c.toNat < 0x10000 then 2 else 3

/-- The bytes of a text beyond one for each of its characters -/
def surplus (s : String) : ℕ := (s.toList.map moreBytes).sum

theorem length_utf8EncodeChar (c : Char) :
    (String.utf8EncodeChar c).length = 1 + moreBytes c := by
  unfold moreBytes
  rcases utf8EncodeChar_cases c with ⟨hc, he⟩ | ⟨hc, hc', he⟩ | ⟨hc, hc', he⟩ | ⟨hc, he⟩
  · rw [he, if_pos hc]
    rfl
  · rw [he, if_neg (by omega), if_pos hc']
    rfl
  · rw [he, if_neg (by omega), if_neg (by omega), if_pos hc']
    rfl
  · rw [he, if_neg (by omega), if_neg (by omega), if_neg (by omega)]
    rfl

/-- **The bytes of a text are its characters and their surplus.** -/
theorem length_encode (s : String) : (encode s).length = s.length + surplus s := by
  have hchars : ∀ cs : List Char, (cs.flatMap String.utf8EncodeChar).length =
      cs.length + (cs.map moreBytes).sum := by
    intro cs
    induction cs with
    | nil => rfl
    | cons c cs ih =>
      rw [List.flatMap_cons, List.length_append, length_utf8EncodeChar, ih, List.length_cons,
        List.map_cons, List.sum_cons]
      omega
  rw [encode, hchars, String.length_toList, surplus]

theorem length_encode_ge (s : String) : s.length ≤ (encode s).length := by
  rw [length_encode]
  exact Nat.le_add_right _ _

end ApplianceAdmin.Python
