import GrammarServer.Json.Token
import GrammarServer.Text.Position
import Mathlib.Data.List.Basic

/-!
# Strings and numbers as a JSON text writes them

A string can be written in many ways: each of its characters stands for itself or for one of
its escapes, a pair of units included.  However a string is written, reading collects its
characters.  A whole number is written by its decimal digits, and reading finds its value.

Main results:

- Theorem `readString_of_writesChars`: a string is read as the text that it writes.
- Theorem `scanNumber_digitBytes`: the digits of a number are found.
- Theorem `value_digitBytes`: a coordinate has its value.
-/

namespace GrammarServer.Json

open Text (utf8Bytes ofUtf8? maxCoordinate)

/-! ## How strings are written -/

/-- The characters with an escape of two characters, and the second of these. -/
def shortEscapes : List (Char × Char) :=
  [('"', '"'), ('\\', '\\'), ('/', '/'), ('\x08', 'b'), ('\x0C', 'f'), ('\n', 'n'), ('\r', 'r'),
    ('\t', 't')]

/-- A character is the hexadecimal digit of a value, as a small letter or as a capital. -/
def IsHexDigit (value : Nat) (c : Char) : Prop :=
  c = Nat.digitChar value ∨ c = (Nat.digitChar value).toUpper

/-- Four hexadecimal digits write a unit of 16 bits. -/
inductive WritesUnit (value : Nat) : List Char → Prop
  | digits {a b c d : Char} (hvalue : value < 0x10000) (ha : IsHexDigit (value / 4096) a)
    (hb : IsHexDigit (value / 256 % 16) b) (hc : IsHexDigit (value / 16 % 16) c)
    (hd : IsHexDigit (value % 16) d) : WritesUnit value [a, b, c, d]

/-- A character of a string is written as itself, by a short escape, or by the units of its
code. -/
inductive WritesChar : Char → List Char → Prop
  | plain {c : Char} (hcontrol : 0x20 ≤ c.toNat) (hquote : c ≠ '"') (hslash : c ≠ '\\') :
    WritesChar c [c]
  | short {c letter : Char} (h : (c, letter) ∈ shortEscapes) : WritesChar c ['\\', letter]
  | unit {c : Char} {digits : List Char} (h : WritesUnit c.toNat digits) :
    WritesChar c ('\\' :: 'u' :: digits)
  | pair {c : Char} {high low : List Char} (hc : 0x10000 ≤ c.toNat)
    (hhigh : WritesUnit (0xD800 + (c.toNat - 0x10000) / 0x400) high)
    (hlow : WritesUnit (0xDC00 + (c.toNat - 0x10000) % 0x400) low) :
    WritesChar c ('\\' :: 'u' :: high ++ '\\' :: 'u' :: low)

/-- The characters of a string are written one after the other. -/
inductive WritesChars : List Char → List Char → Prop
  | nil : WritesChars [] []
  | cons {c : Char} {cs written rest : List Char} (hc : WritesChar c written)
    (hcs : WritesChars cs rest) : WritesChars (c :: cs) (written ++ rest)

/-! ## Characters as bytes -/

/-- The bytes of characters. -/
def encode (cs : List Char) : List UInt8 :=
  cs.flatMap String.utf8EncodeChar

@[simp]
theorem encode_nil : encode [] = [] := rfl

@[simp]
theorem encode_cons (c : Char) (cs : List Char) :
    encode (c :: cs) = String.utf8EncodeChar c ++ encode cs := rfl

@[simp]
theorem encode_append (first second : List Char) :
    encode (first ++ second) = encode first ++ encode second :=
  List.flatMap_append

theorem utf8Bytes_eq_encode (text : String) : utf8Bytes text = encode text.toList := by
  have htext : text.toByteArray = (encode text.toList).toByteArray := by
    conv_lhs => rw [← text.ofList_toList, String.toByteArray_ofList]
    rfl
  rw [utf8Bytes, String.toUTF8, htext, List.data_toByteArray]

theorem ofUtf8?_encode (cs : List Char) : ofUtf8? (encode cs) = some (String.ofList cs) := by
  have hbytes : (⟨(encode cs).toArray⟩ : ByteArray) = cs.utf8Encode := by
    ext1
    exact List.data_toByteArray.symm
  have hvalid : cs.utf8Encode.IsValidUTF8 := ⟨cs, rfl⟩
  rw [ofUtf8?, String.fromUTF8?, hbytes, dif_pos hvalid]
  rfl

/-- A character of ASCII is one byte. -/
theorem utf8EncodeChar_of_lt {c : Char} (h : c.toNat < 0x80) :
    String.utf8EncodeChar c = [UInt8.ofNat c.toNat] := by
  have hle : c.val.toNat ≤ 127 := Nat.le_of_lt_succ h
  simp only [String.utf8EncodeChar, if_pos hle]
  rfl

theorem toNat_ofNat_of_ascii {n : Nat} (h : n < 0x80) : (UInt8.ofNat n).toNat = n :=
  UInt8.toNat_ofNat_of_lt' (Nat.lt_trans h (by decide))

/-- The bytes of any other character lie outside ASCII. -/
theorem le_of_mem_utf8EncodeChar {c : Char} (h : 0x80 ≤ c.toNat) {b : UInt8}
    (hb : b ∈ String.utf8EncodeChar c) : 0x80 ≤ b := by
  have hnot : ¬ c.val.toNat ≤ 127 := Nat.not_le.mpr h
  simp only [String.utf8EncodeChar, if_neg hnot] at hb
  rw [UInt8.le_iff_toNat_le]
  split at hb
  · simp only [List.mem_cons, List.not_mem_nil, or_false] at hb
    rcases hb with rfl | rfl <;> simp <;> omega
  split at hb
  · simp only [List.mem_cons, List.not_mem_nil, or_false] at hb
    rcases hb with rfl | rfl | rfl <;> simp <;> omega
  · simp only [List.mem_cons, List.not_mem_nil, or_false] at hb
    rcases hb with rfl | rfl | rfl | rfl <;> simp <;> omega

/-! ## Hexadecimal digits -/

/-- A hexadecimal digit is one byte, which has the value of the digit. -/
theorem encode_of_isHexDigit {value : Nat} {c : Char} (hvalue : value < 16)
    (h : IsHexDigit value c) (cs : List Char) :
    encode (c :: cs) = UInt8.ofNat c.toNat :: encode cs ∧
      hexValue? (UInt8.ofNat c.toNat) = some value := by
  have hsmall : ∀ value < 16, (Nat.digitChar value).toNat < 0x80 ∧
      hexValue? (UInt8.ofNat (Nat.digitChar value).toNat) = some value := by decide
  have hcapital : ∀ value < 16, (Nat.digitChar value).toUpper.toNat < 0x80 ∧
      hexValue? (UInt8.ofNat (Nat.digitChar value).toUpper.toNat) = some value := by decide
  have hbyte : c.toNat < 0x80 ∧ hexValue? (UInt8.ofNat c.toNat) = some value := by
    rcases h with rfl | rfl
    · exact hsmall value hvalue
    · exact hcapital value hvalue
  refine ⟨?_, hbyte.2⟩
  rw [encode_cons, utf8EncodeChar_of_lt hbyte.1, List.singleton_append]

/-- Four hexadecimal digits are read as the unit that they write. -/
theorem readHex_of_writesUnit {value : Nat} {text : List Char} (h : WritesUnit value text)
    (rest : List UInt8) : readHex (encode text ++ rest) = .ok (value, rest) := by
  cases h with
  | digits hvalue ha hb hc hd =>
    have ha' := encode_of_isHexDigit (by omega) ha
    have hb' := encode_of_isHexDigit (by omega) hb
    have hc' := encode_of_isHexDigit (by omega) hc
    have hd' := encode_of_isHexDigit (by omega) hd
    have hsum : ((value / 4096 * 16 + value / 256 % 16) * 16 + value / 16 % 16) * 16 +
        value % 16 = value := by omega
    simp only [(ha' _).1, (hb' _).1, (hc' _).1, (hd' _).1, encode_nil, List.cons_append,
      List.nil_append, readHex, (ha' []).2, (hb' []).2, (hc' []).2, (hd' []).2, hsum]

/-! ## Escapes -/

/-- The code of a character is no half of a surrogate pair, and lies in the seventeen
planes. -/
theorem toNat_range (c : Char) :
    (c.toNat < 0xD800 ∨ 0xDFFF < c.toNat) ∧ c.toNat < 0x110000 := by
  have hvalid := c.valid
  simp only [UInt32.isValidChar, Nat.isValidChar] at hvalid
  rw [Char.toNat]
  omega

/-- A character is read from the unit of its code. -/
theorem readUnicode_of_unit {c : Char} {digits : List Char} (h : WritesUnit c.toNat digits)
    (rest : List UInt8) : readUnicode (encode digits ++ rest) = .ok (c, rest) := by
  have hrange := toNat_range c
  have hlow : isLowSurrogate c.toNat = false := by
    simp only [isLowSurrogate, Bool.and_eq_false_iff, decide_eq_false_iff_not]
    omega
  have hhigh : isHighSurrogate c.toNat = false := by
    simp only [isHighSurrogate, Bool.and_eq_false_iff, decide_eq_false_iff_not]
    omega
  simp [readUnicode, readHex_of_writesUnit h, hlow, hhigh, Char.ofNat_toNat]

/-- A character is read from the two units of its code. -/
theorem readUnicode_of_pair {c : Char} {high low : List Char} (hc : 0x10000 ≤ c.toNat)
    (hhigh : WritesUnit (0xD800 + (c.toNat - 0x10000) / 0x400) high)
    (hlow : WritesUnit (0xDC00 + (c.toNat - 0x10000) % 0x400) low) (rest : List UInt8) :
    readUnicode (encode high ++ 0x5C :: 0x75 :: (encode low ++ rest)) = .ok (c, rest) := by
  have hrange := toNat_range c
  have hfirst : isLowSurrogate (0xD800 + (c.toNat - 0x10000) / 0x400) = false ∧
      isHighSurrogate (0xD800 + (c.toNat - 0x10000) / 0x400) = true := by
    simp only [isLowSurrogate, isHighSurrogate, Bool.and_eq_false_iff, Bool.and_eq_true,
      decide_eq_false_iff_not, decide_eq_true_eq]
    omega
  have hsecond : isLowSurrogate (0xDC00 + (c.toNat - 0x10000) % 0x400) = true := by
    simp only [isLowSurrogate, Bool.and_eq_true, decide_eq_true_eq]
    omega
  have hcode : 0x10000 + (0xD800 + (c.toNat - 0x10000) / 0x400 - 0xD800) * 0x400 +
      (0xDC00 + (c.toNat - 0x10000) % 0x400 - 0xDC00) = c.toNat := by omega
  have hnext : readLowSurrogate (0x5C :: 0x75 :: (encode low ++ rest)) =
      .ok (0xDC00 + (c.toNat - 0x10000) % 0x400, rest) := by
    simp [readLowSurrogate, readHex_of_writesUnit hlow, hsecond]
  rw [readUnicode, readHex_of_writesUnit hhigh]
  simp only [hfirst, hnext, hcode, Char.ofNat_toNat, Bool.false_eq_true, if_false, if_true]

/-- A short escape is read as the character that it writes. -/
theorem encode_of_mem_shortEscapes {c letter : Char} (h : (c, letter) ∈ shortEscapes)
    (rest : List UInt8) :
    ∃ b, encode ['\\', letter] = [0x5C, b] ∧ readEscape (b :: rest) = .ok (c, rest) ∧
      skipEscape (b :: rest) = .ok rest := by
  have hall : ∀ pair ∈ shortEscapes, pair.2.toNat < 0x80 ∧ UInt8.ofNat pair.2.toNat ≠ 0x75 ∧
      shortEscape? (UInt8.ofNat pair.2.toNat) = some pair.1 := by decide
  obtain ⟨hascii, hnot, hescape⟩ := hall _ h
  refine ⟨UInt8.ofNat letter.toNat, ?_, ?_, ?_⟩
  · rw [encode_cons, encode_cons, utf8EncodeChar_of_lt hascii]
    rfl
  · simp [readEscape, hnot, hescape]
  · simp [skipEscape, hnot, hescape]

/-! ## Strings -/

section

variable {content rest after : List UInt8} {b : UInt8} {c : Char}

theorem readString_plain (hcontrol : 0x20 ≤ b) (hquote : b ≠ 0x22) (hslash : b ≠ 0x5C) :
    readString content (b :: rest) = readString (b :: content) rest := by
  have hnot : ¬ b < 0x20 := by
    rw [UInt8.not_lt]
    exact hcontrol
  rw [readString, if_neg hquote, if_neg hslash, if_neg hnot]

theorem skipString_plain (hcontrol : 0x20 ≤ b) (hquote : b ≠ 0x22) (hslash : b ≠ 0x5C) :
    skipString (b :: rest) = skipString rest := by
  have hnot : ¬ b < 0x20 := by
    rw [UInt8.not_lt]
    exact hcontrol
  rw [skipString, if_neg hquote, if_neg hslash, if_neg hnot]

theorem readString_escape (h : readEscape rest = .ok (c, after)) :
    readString content (0x5C :: rest) =
      readString ((String.utf8EncodeChar c).reverse ++ content) after := by
  rw [readString, if_neg (by decide), if_pos rfl]
  split
  case h_1 fault hfault =>
    rw [h] at hfault
    cases hfault
  case h_2 c' after' hread =>
    rw [h] at hread
    cases hread
    rfl

theorem skipString_escape (h : skipEscape rest = .ok after) :
    skipString (0x5C :: rest) = skipString after := by
  rw [skipString, if_neg (by decide), if_pos rfl]
  split
  case h_1 fault hfault =>
    rw [h] at hfault
    cases hfault
  case h_2 after' hskip =>
    rw [h] at hskip
    cases hskip
    rfl

/-- Bytes that stand for themselves are collected. -/
theorem readString_plains {bytes : List UInt8}
    (h : ∀ b ∈ bytes, 0x20 ≤ b ∧ b ≠ 0x22 ∧ b ≠ 0x5C) (content rest : List UInt8) :
    readString content (bytes ++ rest) = readString (bytes.reverse ++ content) rest ∧
      skipString (bytes ++ rest) = skipString rest := by
  induction bytes generalizing content with
  | nil => exact ⟨rfl, rfl⟩
  | cons b bytes ih =>
    obtain ⟨hcontrol, hquote, hslash⟩ := h b List.mem_cons_self
    have hrest := ih (fun d hd => h d (List.mem_cons_of_mem b hd)) (b :: content)
    rw [List.cons_append, readString_plain hcontrol hquote hslash,
      skipString_plain hcontrol hquote hslash, hrest.1, hrest.2, List.reverse_cons,
      List.append_assoc, List.singleton_append]
    exact ⟨rfl, rfl⟩

/-- The bytes of a character that stands for itself do so too. -/
theorem plain_of_mem_utf8EncodeChar (hcontrol : 0x20 ≤ c.toNat) (hquote : c ≠ '"')
    (hslash : c ≠ '\\') (hb : b ∈ String.utf8EncodeChar c) :
    0x20 ≤ b ∧ b ≠ 0x22 ∧ b ≠ 0x5C := by
  by_cases hascii : c.toNat < 0x80
  · rw [utf8EncodeChar_of_lt hascii, List.mem_singleton] at hb
    have hbyte : b.toNat = c.toNat := by
      rw [hb, toNat_ofNat_of_ascii hascii]
    refine ⟨?_, ?_, ?_⟩
    · rw [UInt8.le_iff_toNat_le, hbyte]
      exact hcontrol
    · rintro rfl
      exact hquote (Char.toNat_inj.mp hbyte.symm)
    · rintro rfl
      exact hslash (Char.toNat_inj.mp hbyte.symm)
  · have hlarge := le_of_mem_utf8EncodeChar (Nat.le_of_not_lt hascii) hb
    refine ⟨UInt8.le_trans (by decide) hlarge, ?_, ?_⟩
    · rintro rfl
      exact absurd hlarge (by decide)
    · rintro rfl
      exact absurd hlarge (by decide)

/-- However a character is written, its bytes are collected. -/
theorem readString_of_writesChar {written : List Char} (h : WritesChar c written)
    (content rest : List UInt8) :
    readString content (encode written ++ rest) =
        readString ((String.utf8EncodeChar c).reverse ++ content) rest ∧
      skipString (encode written ++ rest) = skipString rest := by
  cases h with
  | plain hcontrol hquote hslash =>
    rw [encode_cons, encode_nil, List.append_nil]
    exact readString_plains (fun b => plain_of_mem_utf8EncodeChar hcontrol hquote hslash)
      content rest
  | short hmem =>
    obtain ⟨b, hbytes, hread, hskip⟩ := encode_of_mem_shortEscapes hmem rest
    rw [hbytes]
    exact ⟨readString_escape hread, skipString_escape hskip⟩
  | @unit digits hdigits =>
    have hread : readEscape (0x75 :: (encode digits ++ rest)) = .ok (c, rest) :=
      readUnicode_of_unit hdigits rest
    have hskip : skipEscape (0x75 :: (encode digits ++ rest)) = .ok rest := by
      simp [skipEscape, readHex_of_writesUnit hdigits]
    exact ⟨readString_escape hread, skipString_escape hskip⟩
  | @pair high low hc hhigh hlow =>
    have hbytes : encode ('\\' :: 'u' :: high ++ '\\' :: 'u' :: low) ++ rest =
        0x5C :: 0x75 :: (encode high ++ 0x5C :: 0x75 :: (encode low ++ rest)) := by
      simp only [encode_append, encode_cons, List.cons_append, List.append_assoc]
      rfl
    have hread : readEscape (0x75 :: (encode high ++ 0x5C :: 0x75 :: (encode low ++ rest))) =
        .ok (c, rest) := readUnicode_of_pair hc hhigh hlow rest
    -- A string that is passed over takes the two units for escapes of their own.
    have hfirst : skipEscape (0x75 :: (encode high ++ 0x5C :: 0x75 :: (encode low ++ rest))) =
        .ok (0x5C :: 0x75 :: (encode low ++ rest)) := by
      simp [skipEscape, readHex_of_writesUnit hhigh]
    have hsecond : skipEscape (0x75 :: (encode low ++ rest)) = .ok rest := by
      simp [skipEscape, readHex_of_writesUnit hlow]
    rw [hbytes]
    exact ⟨readString_escape hread, (skipString_escape hfirst).trans (skipString_escape hsecond)⟩

/-- A string is read as the text that it writes. -/
theorem readString_of_writesChars {cs written : List Char} (h : WritesChars cs written)
    (content rest : List UInt8) :
    readString content (encode written ++ rest) =
        readString ((encode cs).reverse ++ content) rest ∧
      skipString (encode written ++ rest) = skipString rest := by
  induction h generalizing content with
  | nil => exact ⟨rfl, rfl⟩
  | @cons c cs written others hc hcs ih =>
    have hfirst := readString_of_writesChar hc content (encode others ++ rest)
    have hothers := ih ((String.utf8EncodeChar c).reverse ++ content)
    rw [encode_append, List.append_assoc, hfirst.1, hfirst.2, hothers.1, hothers.2, encode_cons,
      List.reverse_append, List.append_assoc]
    exact ⟨rfl, rfl⟩

end

/-! ## Numbers -/

/-- A number does not go on with the bytes that follow. -/
def EndsNumber (bytes : List UInt8) : Prop :=
  ∀ b ∈ bytes.head?, isDigitByte b = false ∧ b ≠ 0x2E ∧ b ≠ 0x65 ∧ b ≠ 0x45

/-- The byte of a decimal digit. -/
theorem isDigitByte_of_isDigit {c : Char} (h : c.isDigit = true) :
    c.toNat < 0x80 ∧ isDigitByte (UInt8.ofNat c.toNat) = true ∧
      (UInt8.ofNat c.toNat).toNat = c.toNat := by
  have hrange : 48 ≤ c.toNat ∧ c.toNat ≤ 57 := by
    simpa [Char.isDigit, UInt32.le_iff_toNat_le] using h
  have hbyte : (UInt8.ofNat c.toNat).toNat = c.toNat := toNat_ofNat_of_ascii (by omega)
  refine ⟨by omega, ?_, hbyte⟩
  simp only [isDigitByte, Bool.and_eq_true, decide_eq_true_eq, UInt8.le_iff_toNat_le, hbyte]
  exact hrange

/-- Decimal digits as bytes. -/
theorem encode_of_isDigit {cs : List Char} (h : ∀ c ∈ cs, c.isDigit = true) :
    encode cs = cs.map fun c => UInt8.ofNat c.toNat := by
  induction cs with
  | nil => rfl
  | cons c cs ih =>
    have hc := (isDigitByte_of_isDigit (h c List.mem_cons_self)).1
    rw [encode_cons, utf8EncodeChar_of_lt hc, List.map_cons,
      ih fun d hd => h d (List.mem_cons_of_mem c hd), List.singleton_append]

/-- The bytes of the decimal digits of a number. -/
def digitBytes (n : Nat) : List UInt8 :=
  encode (Nat.toDigits 10 n)

theorem isDigit_toDigits {n : Nat} : ∀ c ∈ Nat.toDigits 10 n, c.isDigit = true :=
  fun _ hc => Nat.isDigit_of_mem_toDigits (by decide) (by decide) hc

theorem isDigitByte_of_mem_digitBytes {n : Nat} {b : UInt8} (hb : b ∈ digitBytes n) :
    isDigitByte b = true := by
  rw [digitBytes, encode_of_isDigit isDigit_toDigits] at hb
  obtain ⟨c, hc, rfl⟩ := List.mem_map.mp hb
  exact (isDigitByte_of_isDigit (isDigit_toDigits c hc)).2.1

/-- Digits as bytes have the value of the digits. -/
theorem foldl_encode_digits {cs : List Char} (h : ∀ c ∈ cs, c.isDigit = true) (start : Nat) :
    (encode cs).foldl (fun n d => n * 10 + (d.toNat - 0x30)) start =
      Nat.ofDigitChars 10 cs start := by
  rw [encode_of_isDigit h]
  induction cs generalizing start with
  | nil => rfl
  | cons c cs ih =>
    have hc := (isDigitByte_of_isDigit (h c List.mem_cons_self)).2.2
    rw [List.map_cons, List.foldl_cons, ih fun d hd => h d (List.mem_cons_of_mem c hd), hc,
      Nat.ofDigitChars_cons, Nat.mul_comm]
    rfl

theorem natOfDigits_digitBytes (n : Nat) : natOfDigits (digitBytes n) = n := by
  rw [natOfDigits, digitBytes, foldl_encode_digits isDigit_toDigits]
  exact Nat.ofDigitChars_toDigits (by decide) (by decide)

/-- The decimal digits of a number that is not zero do not start with zero. -/
theorem head?_toDigits_ne {n : Nat} (h : 0 < n) : (Nat.toDigits 10 n).head? ≠ some '0' := by
  induction n using Nat.strongRecOn with
  | ind n ih =>
    by_cases hsmall : n < 10
    · rw [Nat.toDigits_of_lt_base hsmall, List.head?_cons, ne_eq, Option.some.injEq,
        Nat.digitChar_eq_zero]
      omega
    · rw [Nat.toDigits_of_base_le (by decide) (by omega), List.head?_append_of_ne_nil]
      · exact ih (n / 10) (by omega) (by omega)
      · exact Nat.toDigits_ne_nil

/-- The bytes of a number that is not zero do not start with that of zero. -/
theorem head?_digitBytes_ne {n : Nat} (h : 0 < n) : (digitBytes n).head? ≠ some 0x30 := by
  have hne := head?_toDigits_ne h
  rw [digitBytes, encode_of_isDigit isDigit_toDigits, List.head?_map]
  cases hhead : (Nat.toDigits 10 n).head? with
  | none => simp
  | some c =>
    rw [hhead] at hne
    have hdigit := isDigit_toDigits c (List.mem_of_head? hhead)
    have hbyte := (isDigitByte_of_isDigit hdigit).2.2
    rw [Option.map_some, ne_eq, Option.some.injEq]
    intro hzero
    rw [hzero] at hbyte
    exact hne (congrArg some (Char.toNat_inj.mp hbyte.symm))

theorem digitBytes_ne_nil (n : Nat) : digitBytes n ≠ [] := by
  rw [digitBytes, encode_of_isDigit isDigit_toDigits, ne_eq, List.map_eq_nil_iff]
  exact Nat.toDigits_ne_nil

/-- A run of digits ends where no digit follows. -/
theorem takeWhile_digitBytes (n : Nat) {rest : List UInt8} (h : EndsNumber rest) :
    (digitBytes n ++ rest).takeWhile isDigitByte = digitBytes n ∧
      (digitBytes n ++ rest).dropWhile isDigitByte = rest := by
  have hdigits : ∀ b ∈ digitBytes n, isDigitByte b = true := fun b =>
    isDigitByte_of_mem_digitBytes
  rw [List.takeWhile_append_of_pos hdigits, List.dropWhile_append_of_pos hdigits]
  cases rest with
  | nil => simp
  | cons b rest =>
    have hb := (h b rfl).1
    simp [hb]

theorem scanDigits_digitBytes (n : Nat) {rest : List UInt8} (h : EndsNumber rest) :
    scanDigits (digitBytes n ++ rest) = .ok (digitBytes n, rest) := by
  obtain ⟨htake, hdrop⟩ := takeWhile_digitBytes n h
  rw [scanDigits, htake, hdrop]
  cases hbytes : digitBytes n with
  | nil => exact absurd hbytes (digitBytes_ne_nil n)
  | cons b bytes => rfl

/-- The bytes of a number start with a digit. -/
theorem exists_digitBytes_eq_cons (n : Nat) :
    ∃ b bytes, digitBytes n = b :: bytes ∧ isDigitByte b = true := by
  obtain ⟨b, bytes, hbytes⟩ := List.exists_cons_of_ne_nil (digitBytes_ne_nil n)
  have hmem : b ∈ digitBytes n := by
    rw [hbytes]
    exact List.mem_cons_self
  exact ⟨b, bytes, hbytes, isDigitByte_of_mem_digitBytes hmem⟩

theorem scanWhole_digitBytes (n : Nat) {rest : List UInt8} (h : EndsNumber rest) :
    scanWhole (digitBytes n ++ rest) = .ok (digitBytes n, rest) := by
  by_cases hzero : n = 0
  · have hbytes : digitBytes 0 = [0x30] := by decide
    rw [hzero, hbytes]
    cases rest with
    | nil => rfl
    | cons b rest =>
      have hb := (h b rfl).1
      simp [scanWhole, hb]
  · have hne := head?_digitBytes_ne (Nat.pos_of_ne_zero hzero)
    obtain ⟨b, bytes, hbytes, _⟩ := exists_digitBytes_eq_cons n
    rw [← scanDigits_digitBytes n h]
    unfold scanWhole
    split
    case h_1 d after hstart =>
      rw [hbytes, List.cons_append, List.cons.injEq] at hstart
      rw [hbytes, List.head?_cons, hstart.1] at hne
      exact absurd rfl hne
    case h_2 => rfl

/-- A whole number is read as the number that it writes. -/
theorem scanNumber_digitBytes (n : Nat) {rest : List UInt8} (h : EndsNumber rest) :
    scanNumber (digitBytes n ++ rest) = .ok (⟨false, digitBytes n, [], none⟩, rest) := by
  have hfraction : scanFraction rest = .ok ([], rest) := by
    unfold scanFraction
    split
    case h_1 after => exact absurd rfl (h 0x2E rfl).2.1
    case h_2 => rfl
  have hexponent : scanExponent rest = .ok (none, rest) := by
    cases rest with
    | nil => rfl
    | cons b rest =>
      obtain ⟨_, _, hsmall, hcapital⟩ := h b rfl
      simp [scanExponent, hsmall, hcapital]
  have hunsigned : scanUnsigned false (digitBytes n ++ rest) =
      .ok (⟨false, digitBytes n, [], none⟩, rest) := by
    simp only [scanUnsigned, scanWhole_digitBytes n h, hfraction, hexponent]
  obtain ⟨b, bytes, hbytes, hdigit⟩ := exists_digitBytes_eq_cons n
  rw [← hunsigned]
  unfold scanNumber
  split
  case h_1 after hstart =>
    rw [hbytes, List.cons_append, List.cons.injEq] at hstart
    rw [hstart.1] at hdigit
    exact absurd hdigit (by decide)
  case h_2 => rfl

/-! ## The value of a number -/

/-- Digits only make a significand larger. -/
theorem le_foldl_digits (start : Nat) (digits : List UInt8) :
    start ≤ digits.foldl (fun n d => n * 10 + (d.toNat - 0x30)) start := by
  induction digits generalizing start with
  | nil => exact Nat.le_refl start
  | cons d digits ih =>
    have hmore := ih (start * 10 + (d.toNat - 0x30))
    rw [List.foldl_cons]
    omega

/-- A number that is not too large has all its digits absorbed. -/
theorem absorbDigits_eq {start : Nat} {digits : List UInt8}
    (h : digits.foldl (fun n d => n * 10 + (d.toNat - 0x30)) start ≤ maxSignificand) :
    absorbDigits start digits =
      (digits.foldl (fun n d => n * 10 + (d.toNat - 0x30)) start, []) := by
  induction digits generalizing start with
  | nil => rfl
  | cons d digits ih =>
    rw [List.foldl_cons] at h
    have hfirst := le_foldl_digits (start * 10 + (d.toNat - 0x30)) digits
    rw [absorbDigits, if_pos (Nat.le_trans hfirst h), ih h, List.foldl_cons]

/-- A coordinate fits a double. -/
theorem exceedsDouble_of_le {n : Nat} (h : n ≤ maxCoordinate) : exceedsDouble n 0 = false := by
  have hsmall : n < Nat.pow 2 53 := Nat.lt_of_le_of_lt h (by decide)
  have hnearest : nearestDouble n * nearestDouble (Nat.pow 10 (0 : Int).toNat) = n := by
    rw [nearestDouble, if_pos hsmall]
    exact Nat.mul_one n
  have hlarge : maxCoordinate < Nat.pow 2 1024 - Nat.pow 2 970 := by decide +kernel
  have hnot : ¬ Nat.pow 2 1024 - Nat.pow 2 970 ≤ n := by omega
  unfold exceedsDouble
  rw [hnearest]
  split
  case isTrue => rfl
  case isFalse =>
    rw [if_neg (by decide)]
    exact decide_eq_false hnot

/-- The parts of a coordinate have its value. -/
theorem value_digitBytes {n : Nat} (h : n ≤ maxCoordinate) (bytes rest : List UInt8) :
    NumberParts.value ⟨false, digitBytes n, [], none⟩ bytes rest = .ok (.integer n) := by
  have hvalue : (digitBytes n).foldl (fun n d => n * 10 + (d.toNat - 0x30)) 0 = n :=
    natOfDigits_digitBytes n
  have habsorb : absorbDigits 0 (digitBytes n) = (n, []) := by
    have hfits : n ≤ maxSignificand := Nat.le_trans h (by decide)
    rw [absorbDigits_eq (by rw [hvalue]; exact hfits), hvalue]
  simp [NumberParts.value, NumberParts.scaled, NumberParts.integer?, habsorb, absorbDigits,
    natOfDigits_digitBytes, exceedsDouble_of_le h]

end GrammarServer.Json
