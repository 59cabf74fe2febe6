import Mathlib.Data.List.Induction
import ScopedAuth.Proofs.Text.Escapes

/-!
# What escapes leave alone when they are undone

A text is decoded to bytes, and these are read as UTF-8.  The end of a text that holds no escapes
and nothing but ASCII survives both (`Percent.exists_eq_append_of_decodeText?`): no escape reaches
into it, since it begins with a character that is no digit, and its bytes belong to no other
character.
-/

namespace ScopedAuth.Text.Percent

/-! ### Bytes -/

/-- A character that begins no escape stands for itself. -/
lemma decode_cons_of_not {c : Char} {rest : List Char} (h : c = '%' → ¬ BeginsWithDigits rest) :
    decode (c :: rest) = String.utf8EncodeChar c ++ decode rest := by
  rw [decode.eq_def (c :: rest)]
  split
  · next heq => exact nomatch heq
  · next a b more heq =>
    obtain ⟨rfl, rfl⟩ := List.cons.inj heq
    split
    · next x y hx hy =>
      refine absurd ⟨a, b, more, rfl, ?_, ?_⟩ (h rfl)
      · rw [← isHexDigit_iff, isHexDigit, hx]
        rfl
      · rw [← isHexDigit_iff, isHexDigit, hy]
        rfl
    · rfl
  · next heq =>
    obtain ⟨rfl, rfl⟩ := List.cons.inj heq
    rfl

/-- The byte of an escape. -/
lemma exists_decode_eq_cons {a b : Char} (ha : Hexadecimal a) (hb : Hexadecimal b) :
    ∃ byte, ∀ rest, decode ('%' :: a :: b :: rest) = byte :: decode rest := by
  obtain ⟨x, hx⟩ := Option.isSome_iff_exists.mp (isHexDigit_iff.mpr ha)
  obtain ⟨y, hy⟩ := Option.isSome_iff_exists.mp (isHexDigit_iff.mpr hb)
  refine ⟨UInt8.ofNat (16 * x + y), fun rest => ?_⟩
  rw [decode.eq_def]
  simp only [hx, hy]

/-- What stands in front of a character that is no digit is decoded without it. -/
lemma decode_append {front tail : List Char} (h : ∀ c ∈ tail.head?, ¬ Hexadecimal c) :
    decode (front ++ tail) = decode front ++ decode tail := by
  induction hlength : front.length using Nat.strongRecOn generalizing front with
  | ind n ih =>
    cases front with
    | nil => rfl
    | cons c rest =>
      by_cases hescape : c = '%' ∧ BeginsWithDigits rest
      · obtain ⟨rfl, a, b, more, rfl, ha, hb⟩ := hescape
        obtain ⟨byte, hbyte⟩ := exists_decode_eq_cons ha hb
        change decode ('%' :: a :: b :: (more ++ tail)) = _
        simp only [List.length_cons] at hlength
        rw [hbyte, hbyte, ih more.length (by omega) rfl, List.cons_append]
      · have hplain : c = '%' → ¬ BeginsWithDigits rest := not_and.mp hescape
        rw [List.length_cons] at hlength
        rw [List.cons_append, decode_cons_of_not hplain,
          decode_cons_of_not fun hc => (beginsWithDigits_append h).not.mpr (hplain hc),
          ih rest.length (by omega) rfl, List.append_assoc]

/-- A text without percent signs is its own bytes. -/
lemma decode_eq_bytes {text : List Char} (h : '%' ∉ text) : decode text = bytes text := by
  induction text with
  | nil => rfl
  | cons c rest ih =>
    obtain ⟨hc, hrest⟩ := List.ne_and_not_mem_of_not_mem_cons h
    rw [decode_cons_of_not fun heq => absurd heq.symm hc, ih hrest, bytes, bytes,
      List.flatMap_cons]

/-! ### Characters -/

/-- A text whose bytes end with those of characters in ASCII ends with these characters. -/
lemma exists_eq_append_of_bytes {text tail : List Char} {front : List UInt8}
    (hascii : ∀ c ∈ tail, c.toNat < 128) (h : bytes text = front ++ bytes tail) :
    ∃ before, text = before ++ tail := by
  induction tail using List.reverseRecOn generalizing text with
  | nil => exact ⟨text, (List.append_nil text).symm⟩
  | append_singleton tail last ih =>
    rw [List.forall_mem_append, List.forall_mem_singleton] at hascii
    have hlast : bytes [last] = [UInt8.ofNat last.toNat] := bytes_cons_of_lt hascii.2 []
    have hbytes : bytes (tail ++ [last]) = bytes tail ++ [UInt8.ofNat last.toNat] := by
      rw [bytes, List.flatMap_append, ← bytes, ← bytes, hlast]
    rw [hbytes, ← List.append_assoc] at h
    cases text using List.reverseRecOn with
    | nil => exact absurd h.symm (List.append_ne_nil_of_right_ne_nil _ (List.cons_ne_nil _ _))
    | append_singleton text c =>
      have hsplit : bytes (text ++ [c]) = bytes text ++ String.utf8EncodeChar c := by
        rw [bytes, List.flatMap_append, List.flatMap_singleton, ← bytes]
      obtain hnil | ⟨init, byte, hchar⟩ := List.eq_nil_or_concat (String.utf8EncodeChar c)
      · exact absurd hnil String.utf8EncodeChar_ne_nil
      rw [List.concat_eq_append] at hchar
      rw [hsplit, hchar, ← List.append_assoc] at h
      obtain ⟨hinit, hbyte⟩ := List.append_inj' h rfl
      obtain rfl : byte = UInt8.ofNat last.toNat := List.head_eq_of_cons_eq hbyte
      have hlt : c.toNat < 128 := by
        by_contra hge
        have hle := le_of_mem_utf8EncodeChar (Nat.le_of_not_lt hge)
          (hchar ▸ List.mem_append_right init List.mem_cons_self)
        rw [toNat_ofNat_of_lt hascii.2] at hle
        omega
      rw [utf8EncodeChar_of_lt hlt, ← List.nil_append [_]] at hchar
      obtain ⟨rfl, hsame⟩ := List.append_inj' hchar rfl
      have hcode := congrArg UInt8.toNat (List.head_eq_of_cons_eq hsame)
      rw [toNat_ofNat_of_lt hlt, toNat_ofNat_of_lt hascii.2] at hcode
      obtain rfl := Char.toNat_inj.mp hcode
      rw [List.append_nil] at hinit
      obtain ⟨before, rfl⟩ := ih hascii.1 hinit
      exact ⟨before, List.append_assoc ..⟩

/-- A text that is read from bytes has these bytes. -/
lemma bytes_of_fromUTF8?_eq_some {content : List UInt8} {text : String}
    (h : String.fromUTF8? ⟨content.toArray⟩ = some text) : bytes text.toList = content := by
  unfold String.fromUTF8? at h
  split at h
  · have hbytes := congrArg ByteArray.data (String.utf8Encode_toList (b := text))
    rw [← Option.some.inj h, List.utf8Encode, List.data_toByteArray] at hbytes
    rw [← Option.some.inj h]
    exact congrArg Array.toList hbytes
  · exact nomatch h

/-- What is decoded from a text ends like the text, as far as that is ASCII without escapes. -/
lemma exists_eq_append_of_decodeText? {front tail text : List Char} {c : Char}
    (hc : ¬ Hexadecimal c) (hascii : ∀ d ∈ c :: tail, d.toNat < 128) (hplain : '%' ∉ c :: tail)
    (h : decodeText? (front ++ c :: tail) = some text) : ∃ before, text = before ++ c :: tail := by
  unfold decodeText? at h
  split at h
  · obtain ⟨decoded, hdecoded, rfl⟩ := Option.map_eq_some_iff.mp h
    have hhead : ∀ d ∈ (c :: tail).head?, ¬ Hexadecimal d :=
      fun d hd => Option.some.inj hd ▸ hc
    have hbytes := bytes_of_fromUTF8?_eq_some hdecoded
    rw [decode_append hhead, decode_eq_bytes hplain] at hbytes
    exact exists_eq_append_of_bytes hascii hbytes
  · exact ⟨front, (Option.some.inj h).symm⟩

end ScopedAuth.Text.Percent
