import Mathlib.Tactic.Lemma
import ScopedAuth.Text.Base64

/-!
# Base64 can be undone

`decode?` reads padded text over the standard alphabet and refuses everything else: characters that
are not in the alphabet, padding at any other place, and leftover bits that are not zero.  It undoes
the encoding of any bytes (`decode?_encode`), by groups of three as they were encoded.
-/

namespace ScopedAuth.Text.Base64

/-! ### Decoding -/

/-- The sixty-four characters in the order of their values. -/
def alphabet : List Char :=
  "ABCDEFGHIJKLMNOPQRSTUVWXYZabcdefghijklmnopqrstuvwxyz0123456789+/".toList

/-- The value of a character of the alphabet. -/
def value? (c : Char) : Option Nat :=
  alphabet.idxOf? c

/-- Decodes text that ends with a whole group.  What a padded last group holds beyond its bytes has
to be zero. -/
def decode? : List Char → Option (List UInt8)
  | [] => some []
  | [a, b, '=', '='] => do
    let n := (← value? a) * 64 + (← value? b)
    if n % 16 = 0 then return [UInt8.ofNat (n / 16)] else none
  | [a, b, c, '='] => do
    let n := ((← value? a) * 64 + (← value? b)) * 64 + (← value? c)
    if n % 4 = 0 then return [UInt8.ofNat (n / 4 / 256), UInt8.ofNat (n / 4 % 256)] else none
  | a :: b :: c :: d :: rest => do
    let n := (((← value? a) * 64 + (← value? b)) * 64 + (← value? c)) * 64 + (← value? d)
    return UInt8.ofNat (n / 256 / 256) :: UInt8.ofNat (n / 256 % 256) :: UInt8.ofNat (n % 256) ::
      (← decode? rest)
  | _ => none

/-- A text consists of characters of the alphabet and at most two equals signs at its end, and its
length is a multiple of four. -/
def IsPadded (text : List Char) : Prop :=
  ∃ body padding, text = body ++ List.replicate padding '=' ∧ padding ≤ 2 ∧
    (∀ c ∈ body, c ∈ alphabet) ∧ 4 ∣ text.length

/-! ### Symbols -/

/-- The character for a value stands at its place in the alphabet. -/
lemma value?_symbol {n : Nat} (h : n < 64) : value? (symbol n) = some n := by
  have hall : ∀ n < 64, value? (symbol n) = some n := by decide +kernel
  exact hall n h

/-- The character for a value is in the alphabet. -/
lemma symbol_mem_alphabet {n : Nat} (h : n < 64) : symbol n ∈ alphabet := by
  have hall : ∀ n < 64, symbol n ∈ alphabet := by decide +kernel
  exact hall n h

/-- Padding is none of the characters. -/
lemma symbol_ne_padding {n : Nat} (h : n < 64) : symbol n ≠ '=' := by
  have hmem := symbol_mem_alphabet h
  intro heq
  rw [heq] at hmem
  exact absurd hmem (by decide +kernel)

/-! ### Groups -/

/-- Two characters before padding are read as the number that they were written for. -/
lemma decode?_two {n : Nat} (h : n < 64 * 64) :
    decode? [symbol (n / 64), symbol (n % 64), '=', '='] =
      if n % 16 = 0 then some [UInt8.ofNat (n / 16)] else none := by
  have hhigh : n / 64 < 64 := by omega
  have hlow : n % 64 < 64 := by omega
  have hn : n / 64 * 64 + n % 64 = n := by omega
  rw [decode?, value?_symbol hhigh, value?_symbol hlow]
  change (if (n / 64 * 64 + n % 64) % 16 = 0 then
    some [UInt8.ofNat ((n / 64 * 64 + n % 64) / 16)] else none) = _
  rw [hn]

/-- Three characters before padding are read as the number that they were written for. -/
lemma decode?_three {n : Nat} (h : n < 64 * 64 * 64) :
    decode? [symbol (n / 64 / 64), symbol (n / 64 % 64), symbol (n % 64), '='] =
      if n % 4 = 0 then some [UInt8.ofNat (n / 4 / 256), UInt8.ofNat (n / 4 % 256)] else none := by
  have hhigh : n / 64 / 64 < 64 := by omega
  have hmiddle : n / 64 % 64 < 64 := by omega
  have hlow : n % 64 < 64 := by omega
  have hn : (n / 64 / 64 * 64 + n / 64 % 64) * 64 + n % 64 = n := by omega
  rw [decode?, value?_symbol hhigh, value?_symbol hmiddle, value?_symbol hlow]
  · change (if ((n / 64 / 64 * 64 + n / 64 % 64) * 64 + n % 64) % 4 = 0 then
      some [UInt8.ofNat (((n / 64 / 64 * 64 + n / 64 % 64) * 64 + n % 64) / 4 / 256),
        UInt8.ofNat (((n / 64 / 64 * 64 + n / 64 % 64) * 64 + n % 64) / 4 % 256)] else none) = _
    rw [hn]
  · exact symbol_ne_padding hlow

/-- Four characters are read as the number that they were written for, whatever follows. -/
lemma decode?_four {n : Nat} (h : n < 64 * 64 * 64 * 64) (rest : List Char) :
    decode? (symbol (n / 64 / 64 / 64) :: symbol (n / 64 / 64 % 64) :: symbol (n / 64 % 64) ::
      symbol (n % 64) :: rest) =
      (decode? rest).map fun bytes => UInt8.ofNat (n / 256 / 256) ::
        UInt8.ofNat (n / 256 % 256) :: UInt8.ofNat (n % 256) :: bytes := by
  have hfirst : n / 64 / 64 / 64 < 64 := by omega
  have hsecond : n / 64 / 64 % 64 < 64 := by omega
  have hthird : n / 64 % 64 < 64 := by omega
  have hfourth : n % 64 < 64 := by omega
  have hn : ((n / 64 / 64 / 64 * 64 + n / 64 / 64 % 64) * 64 + n / 64 % 64) * 64 + n % 64 = n := by
    omega
  rw [decode?, value?_symbol hfirst, value?_symbol hsecond, value?_symbol hthird,
    value?_symbol hfourth]
  · change ((decode? rest).bind fun bytes => some (_ :: _ :: _ :: bytes)) = _
    rw [hn]
    cases decode? rest with
    | none => rfl
    | some bytes => rfl
  · intro _ heq
    exact absurd heq (symbol_ne_padding hfourth)
  · intro heq
    exact absurd heq (symbol_ne_padding hfourth)

/-- Decoding undoes encoding. -/
lemma decode?_encode (bytes : List UInt8) : decode? (encode bytes) = some bytes := by
  fun_induction encode bytes with
  | case1 => rfl
  | case2 a n =>
    have ha : a.toNat < 256 := a.toNat_lt
    have hzero : n % 16 = 0 := by omega
    have hbyte : n / 16 = a.toNat := by omega
    rw [decode?_two (by omega), if_pos hzero, hbyte, UInt8.ofNat_toNat]
  | case3 a b n =>
    have ha : a.toNat < 256 := a.toNat_lt
    have hb : b.toNat < 256 := b.toNat_lt
    have hzero : n % 4 = 0 := by omega
    have hfirst : n / 4 / 256 = a.toNat := by omega
    have hsecond : n / 4 % 256 = b.toNat := by omega
    rw [decode?_three (by omega), if_pos hzero, hfirst, hsecond, UInt8.ofNat_toNat,
      UInt8.ofNat_toNat]
  | case4 a b c rest n ih =>
    have ha : a.toNat < 256 := a.toNat_lt
    have hb : b.toNat < 256 := b.toNat_lt
    have hc : c.toNat < 256 := c.toNat_lt
    have hfirst : n / 256 / 256 = a.toNat := by omega
    have hsecond : n / 256 % 256 = b.toNat := by omega
    have hthird : n % 256 = c.toNat := by omega
    rw [decode?_four (by omega), ih, hfirst, hsecond, hthird, UInt8.ofNat_toNat,
      UInt8.ofNat_toNat, UInt8.ofNat_toNat, Option.map_some]

example : decode? "w6k6OnA=".toList = some "é::p".toUTF8.data.toList := by decide +kernel

/-- A whole group in front of padded text makes padded text. -/
lemma IsPadded.append (group : List Char) {text : List Char} (hgroup : ∀ c ∈ group, c ∈ alphabet)
    (hlength : 4 ∣ group.length) (h : IsPadded text) : IsPadded (group ++ text) := by
  obtain ⟨body, padding, rfl, hpadding, hbody, hwhole⟩ := h
  refine ⟨group ++ body, padding, (List.append_assoc group body _).symm, hpadding,
    List.forall_mem_append.mpr ⟨hgroup, hbody⟩, ?_⟩
  rw [List.length_append]
  exact Nat.dvd_add hlength hwhole

/-- Encoded bytes are padded text. -/
lemma isPadded_encode (bytes : List UInt8) : IsPadded (encode bytes) := by
  fun_induction encode bytes with
  | case1 => exact ⟨[], 0, rfl, by decide, List.forall_mem_nil _, by decide⟩
  | case2 a n =>
    have ha : a.toNat < 256 := a.toNat_lt
    refine ⟨[symbol (n / 64), symbol (n % 64)], 2, rfl, Nat.le_refl 2, ?_, Nat.dvd_refl 4⟩
    rw [List.forall_mem_cons, List.forall_mem_singleton]
    exact ⟨symbol_mem_alphabet (by omega), symbol_mem_alphabet (by omega)⟩
  | case3 a b n =>
    have ha : a.toNat < 256 := a.toNat_lt
    have hb : b.toNat < 256 := b.toNat_lt
    refine ⟨[symbol (n / 64 / 64), symbol (n / 64 % 64), symbol (n % 64)], 1, rfl, by decide, ?_,
      Nat.dvd_refl 4⟩
    rw [List.forall_mem_cons, List.forall_mem_cons, List.forall_mem_singleton]
    exact ⟨symbol_mem_alphabet (by omega), symbol_mem_alphabet (by omega),
      symbol_mem_alphabet (by omega)⟩
  | case4 a b c rest n ih =>
    have ha : a.toNat < 256 := a.toNat_lt
    have hb : b.toNat < 256 := b.toNat_lt
    have hc : c.toNat < 256 := c.toNat_lt
    refine IsPadded.append [symbol (n / 64 / 64 / 64), symbol (n / 64 / 64 % 64),
      symbol (n / 64 % 64), symbol (n % 64)] ?_ (Nat.dvd_refl 4) ih
    rw [List.forall_mem_cons, List.forall_mem_cons, List.forall_mem_cons,
      List.forall_mem_singleton]
    exact ⟨symbol_mem_alphabet (by omega), symbol_mem_alphabet (by omega),
      symbol_mem_alphabet (by omega), symbol_mem_alphabet (by omega)⟩

/-! ### Texts -/

/-- What is encoded of a text is its UTF-8. -/
lemma decode?_encodeText (text : String) :
    decode? (encodeText text).toList = some text.toUTF8.data.toList := by
  have hutf8 : text.toUTF8.data.toList = text.toList.flatMap String.utf8EncodeChar := by
    rw [String.toUTF8, ← String.utf8Encode_toList, List.utf8Encode,
      List.toList_data_toByteArray]
  rw [encodeText, String.toList_ofList, decode?_encode, hutf8]

/-- An encoded text is padded text. -/
lemma isPadded_encodeText (text : String) : IsPadded (encodeText text).toList := by
  rw [encodeText, String.toList_ofList]
  exact isPadded_encode _

end ScopedAuth.Text.Base64
