import Mathlib.Tactic.Lemma
import Mathlib.Tactic.SplitIfs
import ScopedAuth.Text.Percent

/-!
# Texts in which every percent sign begins an escape

The texts that are put together from plain characters and escapes, read from left to right
(`Percent.Escaped`), are those that `Percent.wellFormed` accepts.  They are also the texts in whose
UTF-8 bytes every percent sign, taken on its own, has two digits right behind it
(`Percent.escaped_iff_escapedBytes`): a digit is no percent sign, so that escapes never overlap, and
no byte of a character outside ASCII looks like either.
-/

namespace ScopedAuth.Text

/-- The characters from `0` to `9`, from `a` to `f` and from `A` to `F`. -/
def Hexadecimal (c : Char) : Prop :=
  ('0' ≤ c ∧ c ≤ '9') ∨ ('a' ≤ c ∧ c ≤ 'f') ∨ ('A' ≤ c ∧ c ≤ 'F')

/-- The digits that have a value are the hexadecimal ones. -/
lemma isHexDigit_iff {c : Char} : isHexDigit c = true ↔ Hexadecimal c := by
  have hdigit : c.isDigit = true ↔ '0' ≤ c ∧ c ≤ '9' := by
    rw [Char.isDigit, Bool.and_eq_true, decide_eq_true_eq, decide_eq_true_eq]
    exact Iff.rfl
  unfold isHexDigit hexValue? Hexadecimal
  rw [← hdigit]
  split_ifs with h₁ h₂ h₃ <;> simp_all

/-- A hexadecimal digit by its number. -/
lemma hexadecimal_iff {c : Char} : Hexadecimal c ↔
    (48 ≤ c.toNat ∧ c.toNat ≤ 57) ∨ (97 ≤ c.toNat ∧ c.toNat ≤ 102) ∨
      (65 ≤ c.toNat ∧ c.toNat ≤ 70) := by
  simp only [Hexadecimal, Char.le_def, UInt32.le_iff_toNat_le]
  exact Iff.rfl

/-- A percent sign is no digit. -/
lemma Hexadecimal.ne_percent {c : Char} (h : Hexadecimal c) : c ≠ '%' := by
  rintro rfl
  exact absurd h (by unfold Hexadecimal; decide)

namespace Percent

/-! ### From left to right -/

/-- A text is put together from plain characters and escapes. -/
inductive Escaped : List Char → Prop
  | nil : Escaped []
  | plain {c : Char} {rest : List Char} (hc : c ≠ '%') (hrest : Escaped rest) : Escaped (c :: rest)
  | escape {a b : Char} {rest : List Char} (ha : Hexadecimal a) (hb : Hexadecimal b)
    (hrest : Escaped rest) : Escaped ('%' :: a :: b :: rest)

/-- A text begins with two digits. -/
def BeginsWithDigits (text : List Char) : Prop :=
  ∃ a b rest, text = a :: b :: rest ∧ Hexadecimal a ∧ Hexadecimal b

/-- A character other than a percent sign changes nothing. -/
lemma escaped_cons_of_ne {c : Char} {rest : List Char} (hc : c ≠ '%') :
    Escaped (c :: rest) ↔ Escaped rest := by
  constructor
  · intro h
    cases h with
    | plain _ hrest => exact hrest
    | escape => exact absurd rfl hc
  · exact Escaped.plain hc

/-- A percent sign needs two digits behind it; it makes no difference whether they are read
again. -/
lemma escaped_cons_percent {rest : List Char} :
    Escaped ('%' :: rest) ↔ BeginsWithDigits rest ∧ Escaped rest := by
  constructor
  · intro h
    cases h with
    | plain hc _ => exact absurd rfl hc
    | escape ha hb hrest =>
      exact ⟨⟨_, _, _, rfl, ha, hb⟩, .plain ha.ne_percent (.plain hb.ne_percent hrest)⟩
  · rintro ⟨⟨a, b, more, rfl, ha, hb⟩, hrest⟩
    rw [escaped_cons_of_ne ha.ne_percent, escaped_cons_of_ne hb.ne_percent] at hrest
    exact Escaped.escape ha hb hrest

/-- Two digits are found in front of a character that is no digit, or not at all. -/
lemma beginsWithDigits_append {before rest : List Char} (h : ∀ c ∈ rest.head?, ¬ Hexadecimal c) :
    BeginsWithDigits (before ++ rest) ↔ BeginsWithDigits before := by
  constructor
  · rintro ⟨a, b, more, htext, ha, hb⟩
    match before with
    | [] =>
      rw [List.nil_append] at htext
      exact absurd ha (h a (by rw [htext]; rfl))
    | [x] =>
      have hrest : rest = b :: more := (List.cons.inj htext).2
      exact absurd hb (h b (by rw [hrest]; rfl))
    | x :: y :: last =>
      have hmore : y :: (last ++ rest) = b :: more := (List.cons.inj htext).2
      rw [← (List.cons.inj htext).1] at ha
      rw [← (List.cons.inj hmore).1] at hb
      exact ⟨x, y, last, rfl, ha, hb⟩
  · rintro ⟨a, b, more, rfl, ha, hb⟩
    exact ⟨a, b, more ++ rest, rfl, ha, hb⟩

/-- No escape reaches across a character that is no digit. -/
lemma escaped_append {before rest : List Char} (h : ∀ c ∈ rest.head?, ¬ Hexadecimal c) :
    Escaped (before ++ rest) ↔ Escaped before ∧ Escaped rest := by
  induction before with
  | nil => exact (and_iff_right Escaped.nil).symm
  | cons c more ih =>
    rw [List.cons_append]
    by_cases hc : c = '%'
    · subst hc
      rw [escaped_cons_percent, escaped_cons_percent, beginsWithDigits_append h, ih, and_assoc]
    · rw [escaped_cons_of_ne hc, escaped_cons_of_ne hc, ih]

/-- A text without percent signs is a text without escapes. -/
lemma escaped_of_not_mem {text : List Char} (h : '%' ∉ text) : Escaped text := by
  induction text with
  | nil => exact Escaped.nil
  | cons c rest ih =>
    obtain ⟨hc, hrest⟩ := List.ne_and_not_mem_of_not_mem_cons h
    exact Escaped.plain hc.symm (ih hrest)

/-- The texts that are accepted are those that are put together from plain characters and
escapes. -/
lemma wellFormed_iff_escaped (text : List Char) : wellFormed text = true ↔ Escaped text := by
  fun_induction wellFormed text with
  | case1 => exact iff_of_true rfl Escaped.nil
  | case2 a b rest ih =>
    rw [Bool.and_eq_true, Bool.and_eq_true, isHexDigit_iff, isHexDigit_iff, ih]
    constructor
    · rintro ⟨⟨ha, hb⟩, hrest⟩
      exact Escaped.escape ha hb hrest
    · intro h
      cases h with
      | plain hc _ => exact absurd rfl hc
      | escape ha hb hrest => exact ⟨⟨ha, hb⟩, hrest⟩
  | case3 c rest hshort ih =>
    rw [Bool.and_eq_true, bne_iff_ne, ih]
    constructor
    · rintro ⟨hc, hrest⟩
      exact Escaped.plain hc hrest
    · intro h
      cases h with
      | plain hc hrest => exact ⟨hc, hrest⟩
      | escape => exact (hshort _ _ _ rfl rfl).elim

/-! ### Byte by byte -/

/-- The bytes of a text. -/
def bytes (text : List Char) : List UInt8 :=
  text.flatMap String.utf8EncodeChar

/-- A byte is that of a hexadecimal digit. -/
def HexByte (byte : UInt8) : Prop :=
  (48 ≤ byte.toNat ∧ byte.toNat ≤ 57) ∨ (97 ≤ byte.toNat ∧ byte.toNat ≤ 102) ∨
    (65 ≤ byte.toNat ∧ byte.toNat ≤ 70)

/-- Behind a position there are two more bytes, both of them digits. -/
def DigitsBehind (bytes : List UInt8) (i : Nat) : Prop :=
  ∃ a b, bytes[i + 1]? = some a ∧ bytes[i + 2]? = some b ∧ HexByte a ∧ HexByte b

/-- Whatever the position of a percent sign, two digits stand behind it. -/
def EscapedBytes (bytes : List UInt8) : Prop :=
  ∀ i : Nat, bytes[i]? = some 0x25 → DigitsBehind bytes i

/-- The first byte is looked at on its own, and so are the others. -/
lemma escapedBytes_cons {byte : UInt8} {rest : List UInt8} :
    EscapedBytes (byte :: rest) ↔
      (byte = 0x25 → DigitsBehind (byte :: rest) 0) ∧ EscapedBytes rest := by
  constructor
  · intro h
    exact ⟨fun hbyte => h 0 (congrArg some hbyte), fun i hi => h (i + 1) hi⟩
  · rintro ⟨hfirst, hrest⟩ i hi
    cases i with
    | zero => exact hfirst (Option.some.inj hi)
    | succ i => exact hrest i hi

/-- Bytes that are no percent signs change nothing. -/
lemma escapedBytes_append {before rest : List UInt8} (h : ∀ byte ∈ before, byte ≠ 0x25) :
    EscapedBytes (before ++ rest) ↔ EscapedBytes rest := by
  induction before with
  | nil => exact Iff.rfl
  | cons byte before ih =>
    obtain ⟨hbyte, hbefore⟩ := List.forall_mem_cons.mp h
    rw [List.cons_append, escapedBytes_cons, ih hbefore]
    exact and_iff_right fun hpercent => absurd hpercent hbyte

/-- A character in ASCII is one byte. -/
lemma utf8EncodeChar_of_lt {c : Char} (h : c.toNat < 128) :
    String.utf8EncodeChar c = [UInt8.ofNat c.toNat] := by
  have hle : c.val.toNat ≤ 0x7f := Nat.le_of_lt_succ h
  rw [String.utf8EncodeChar, if_pos hle]
  rfl

/-- The bytes of a character outside ASCII are all outside ASCII. -/
lemma le_of_mem_utf8EncodeChar {c : Char} (h : 128 ≤ c.toNat) {byte : UInt8}
    (hbyte : byte ∈ String.utf8EncodeChar c) : 128 ≤ byte.toNat := by
  have hlt : ¬ c.val.toNat ≤ 0x7f := Nat.not_le_of_gt (Nat.lt_of_succ_le h)
  rw [String.utf8EncodeChar, if_neg hlt] at hbyte
  split_ifs at hbyte <;> simp only [List.mem_cons, List.not_mem_nil, or_false] at hbyte
  · rcases hbyte with rfl | rfl <;> rw [UInt8.toNat_ofNat'] <;> omega
  · rcases hbyte with rfl | rfl | rfl <;> rw [UInt8.toNat_ofNat'] <;> omega
  · rcases hbyte with rfl | rfl | rfl | rfl <;> rw [UInt8.toNat_ofNat'] <;> omega

/-- The number of a byte in ASCII is that of its character. -/
lemma toNat_ofNat_of_lt {c : Char} (h : c.toNat < 128) : (UInt8.ofNat c.toNat).toNat = c.toNat := by
  rw [UInt8.toNat_ofNat']
  omega

/-- Only a percent sign has the byte of a percent sign. -/
lemma ne_percent_of_mem_utf8EncodeChar {c : Char} (hc : c ≠ '%') {byte : UInt8}
    (hbyte : byte ∈ String.utf8EncodeChar c) : byte ≠ 0x25 := by
  rintro rfl
  by_cases hlt : c.toNat < 128
  · rw [utf8EncodeChar_of_lt hlt, List.mem_singleton] at hbyte
    have hnumber : c.toNat = '%'.toNat := by
      rw [← toNat_ofNat_of_lt hlt, ← hbyte]
      rfl
    exact hc (Char.toNat_inj.mp hnumber)
  · have hle := le_of_mem_utf8EncodeChar (Nat.le_of_not_lt hlt) hbyte
    exact absurd hle (by decide)

/-- A character in ASCII adds one byte in front. -/
lemma bytes_cons_of_lt {c : Char} (h : c.toNat < 128) (rest : List Char) :
    bytes (c :: rest) = UInt8.ofNat c.toNat :: bytes rest := by
  rw [bytes, List.flatMap_cons, utf8EncodeChar_of_lt h]
  rfl

/-- The bytes of a text begin with a digit if the text does, and only then; `p` is what is asked of
the rest. -/
lemma exists_hexByte_iff {text : List Char} {p : List UInt8 → Prop} :
    (∃ byte rest, bytes text = byte :: rest ∧ HexByte byte ∧ p rest) ↔
      ∃ c rest, text = c :: rest ∧ Hexadecimal c ∧ p (bytes rest) := by
  constructor
  · rintro ⟨byte, rest, hbytes, hhex, hp⟩
    cases text with
    | nil => exact nomatch hbytes
    | cons c more =>
      by_cases hlt : c.toNat < 128
      · rw [bytes_cons_of_lt hlt] at hbytes
        obtain ⟨rfl, rfl⟩ := List.cons.inj hbytes
        refine ⟨c, more, rfl, ?_, hp⟩
        rwa [HexByte, toNat_ofNat_of_lt hlt, ← hexadecimal_iff] at hhex
      · have hmem : byte ∈ String.utf8EncodeChar c := by
          obtain ⟨first, others, hchar⟩ := List.exists_cons_of_ne_nil
            (String.utf8EncodeChar_ne_nil (c := c))
          rw [bytes, List.flatMap_cons, hchar] at hbytes
          rw [hchar, (List.cons.inj hbytes).1]
          exact List.mem_cons_self
        have hle := le_of_mem_utf8EncodeChar (Nat.le_of_not_lt hlt) hmem
        unfold HexByte at hhex
        omega
  · rintro ⟨c, rest, rfl, hhex, hp⟩
    have hlt : c.toNat < 128 := by
      rw [hexadecimal_iff] at hhex
      omega
    refine ⟨UInt8.ofNat c.toNat, bytes rest, bytes_cons_of_lt hlt rest, ?_, hp⟩
    rwa [HexByte, toNat_ofNat_of_lt hlt, ← hexadecimal_iff]

/-- Two digits stand behind a percent sign in the bytes if they do in the text. -/
lemma digitsBehind_percent {rest : List Char} :
    DigitsBehind (0x25 :: bytes rest) 0 ↔ BeginsWithDigits rest := by
  have hbytes : DigitsBehind (0x25 :: bytes rest) 0 ↔
      ∃ a more, bytes rest = a :: more ∧ HexByte a ∧
        ∃ b last, more = b :: last ∧ HexByte b ∧ True := by
    constructor
    · rintro ⟨a, b, ha, hb, hhexa, hhexb⟩
      match hcut : bytes rest with
      | [] =>
        rw [hcut] at ha
        exact nomatch ha
      | [x] =>
        rw [hcut] at hb
        exact nomatch hb
      | x :: y :: last =>
        rw [hcut] at ha hb
        obtain rfl := Option.some.inj ha
        obtain rfl := Option.some.inj hb
        exact ⟨x, _, rfl, hhexa, y, last, rfl, hhexb, trivial⟩
    · rintro ⟨a, more, hcut, hhexa, b, last, rfl, hhexb, -⟩
      rw [hcut]
      exact ⟨a, b, rfl, rfl, hhexa, hhexb⟩
  rw [hbytes, exists_hexByte_iff]
  simp only [exists_hexByte_iff, BeginsWithDigits]
  constructor
  · rintro ⟨a, more, rfl, ha, b, last, rfl, hb, -⟩
    exact ⟨a, b, last, rfl, ha, hb⟩
  · rintro ⟨a, b, last, rfl, ha, hb⟩
    exact ⟨a, _, rfl, ha, b, last, rfl, hb, trivial⟩

/-- To read a text from left to right, escape by escape, comes to the same as to look at each
percent sign among its bytes on its own. -/
lemma escaped_iff_escapedBytes (text : List Char) : Escaped text ↔ EscapedBytes (bytes text) := by
  induction text with
  | nil => exact iff_of_true Escaped.nil fun i hi => nomatch hi
  | cons c rest ih =>
    by_cases hc : c = '%'
    · subst hc
      have hbytes : bytes ('%' :: rest) = 0x25 :: bytes rest := rfl
      rw [hbytes, escaped_cons_percent, escapedBytes_cons, digitsBehind_percent, ih]
      exact and_congr_left fun _ => ⟨fun h _ => h, fun h => h rfl⟩
    · have hbytes : bytes (c :: rest) = String.utf8EncodeChar c ++ bytes rest := rfl
      rw [hbytes, escaped_cons_of_ne hc, ih,
        escapedBytes_append fun byte => ne_percent_of_mem_utf8EncodeChar hc]

end Percent

end ScopedAuth.Text
