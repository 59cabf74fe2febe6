import Mathlib.Data.List.TakeWhile
import Mathlib.Tactic.Lemma
import ScopedAuth.Json.Printer
import ScopedAuth.Proofs.Json.Reader

/-!
# What is printed can be read

A printed document is read as the document that it was (`Json.read?_pretty`), whatever is in its
strings.  That holds of a value in the middle of a text as well, and so it goes by the structure of
the document: the rest of the text is left over, unless it goes on with a number that has just been
read.
-/

namespace ScopedAuth.Json

/-! ### Strings -/

/-- The digit for a value below sixteen has this value. -/
lemma hexValue?_hexDigit : ∀ n < 16, Text.hexValue? (hexDigit n) = some n := by
  decide

/-- The four digits for a control character are those of its number. -/
lemma readUnit?_control {n : Nat} (hn : n < 0x20) (rest : List Char) :
    readUnit? ('0' :: '0' :: hexDigit (n / 16) :: hexDigit (n % 16) :: rest) = some (n, rest) := by
  have hzero : Text.hexValue? '0' = some 0 := rfl
  have hhigh := hexValue?_hexDigit (n / 16) (by omega)
  have hlow := hexValue?_hexDigit (n % 16) (by omega)
  have hsum : 256 * (16 * 0 + 0) + (16 * (n / 16) + n % 16) = n := by omega
  simp only [readUnit?, hzero, hhigh, hlow, hsum, Option.bind_eq_bind, Option.bind_some,
    Option.pure_def]

/-- A control character is read from its escape. -/
lemma readEscape?_control {c : Char} (hc : c.toNat < 0x20) (rest : List Char) :
    readEscape? ('u' :: '0' :: '0' :: hexDigit (c.toNat / 16) :: hexDigit (c.toNat % 16) :: rest) =
      some (c, rest) := by
  have hplain : c.toNat < 0xD800 ∨ 0xE000 ≤ c.toNat := by omega
  simp only [readEscape?, if_true, readUnicode?, readUnit?_control hc, Option.bind_eq_bind,
    Option.bind_some, if_pos hplain, Char.ofNat_toNat, Option.pure_def]

/-- A character is read from what is written for it. -/
lemma readChar?_escape (c : Char) (rest : List Char) :
    readChar? (escape c ++ rest) = some (c, rest) := by
  unfold escape
  split_ifs with hquote hbackslash hb ht hn hf hr hcontrol
  · rw [hquote]
    rfl
  · rw [hbackslash]
    rfl
  · rw [hb]
    rfl
  · rw [ht]
    rfl
  · rw [hn]
    rfl
  · rw [hf]
    rfl
  · rw [hr]
    rfl
  · exact readEscape?_control hcontrol rest
  · rw [List.singleton_append, readChar?, if_neg hbackslash, if_neg]
    rintro (h | h)
    · exact hquote h
    · exact hcontrol h

/-- A string begins with its first character. -/
lemma readChars?_of_readChar? {text rest : List Char} {c : Char}
    (h : readChar? text = some (c, rest)) (fuel : Nat) :
    readChars? (fuel + 1) text =
      (readChars? fuel rest).map fun (more, rest) => (c :: more, rest) := by
  cases text with
  | nil => cases h
  | cons first text =>
    have hquote : first ≠ '"' := by
      rintro rfl
      cases h
    rw [readChars?, if_neg hquote, h]
    simp only [Option.bind_eq_bind, Option.bind_some]
    cases readChars? fuel rest with
    | none => rfl
    | some value => rfl

/-- Characters are read from what is written for them. -/
lemma readChars?_flatMap_escape (value rest : List Char) :
    ∀ fuel, value.length < fuel →
      readChars? fuel (value.flatMap escape ++ '"' :: rest) = some (value, rest) := by
  induction value with
  | nil =>
    intro fuel hfuel
    obtain ⟨fuel, rfl⟩ := Nat.exists_eq_succ_of_ne_zero hfuel.ne'
    rfl
  | cons c value ih =>
    intro fuel hfuel
    obtain ⟨fuel, rfl⟩ := Nat.exists_eq_succ_of_ne_zero (Nat.ne_zero_of_lt hfuel)
    rw [List.flatMap_cons, List.append_assoc, Nat.succ_eq_add_one,
      readChars?_of_readChar? (readChar?_escape c _), ih fuel (Nat.lt_of_succ_lt_succ hfuel)]
    rfl

/-- At least one character is written for each. -/
lemma length_le_length_flatMap_escape (value : List Char) :
    value.length ≤ (value.flatMap escape).length := by
  induction value with
  | nil => exact Nat.le_refl 0
  | cons c value ih =>
    have hescape : 1 ≤ (escape c).length := by
      unfold escape
      split_ifs <;> simp
    rw [List.flatMap_cons, List.length_append, List.length_cons]
    omega

/-- A string is read from what is written for it. -/
lemma readString?_quoted (s : String) (rest : List Char) :
    readString? (quoted s ++ rest) = some (s, rest) := by
  have hshort := length_le_length_flatMap_escape s.toList
  have hchars := readChars?_flatMap_escape s.toList rest
    (s.toList.flatMap escape ++ '"' :: rest).length
    (by rw [List.length_append, List.length_cons]; omega)
  have hquoted : quoted s ++ rest = '"' :: (s.toList.flatMap escape ++ '"' :: rest) := by
    simp only [quoted, List.cons_append, List.append_assoc, List.nil_append]
  rw [hquoted, readString?, hchars, Option.map_some]
  exact congrArg (fun value => some (value, rest)) String.ofList_toList

/-! ### Blanks -/

/-- Nothing is skipped in front of a character that is no blank. -/
lemma skip_cons {c : Char} (hc : isBlank c = false) (rest : List Char) :
    skip (c :: rest) = c :: rest := by
  rw [skip, List.dropWhile_cons, hc]
  rfl

/-- The start of a line is skipped. -/
lemma skip_newLine (depth : Nat) (rest : List Char) : skip (newLine depth ++ rest) = skip rest := by
  refine List.dropWhile_append_of_pos fun c hc => ?_
  rcases List.mem_cons.mp hc with rfl | hc
  · rfl
  · rw [List.eq_of_mem_replicate hc]
    rfl

/-- A line begins with two blanks for each level. -/
lemma length_newLine (depth : Nat) : (newLine depth).length = 2 * depth + 1 := by
  rw [newLine, List.length_cons, List.length_replicate]

/-! ### Values -/

/-- A document whose numbers are written as numbers. -/
inductive Valid : Json → Prop
  | null : Valid .null
  | boolean (value : Bool) : Valid (.boolean value)
  | number {text : String} (h : isNumber text.toList = true) : Valid (.number text)
  | string (value : String) : Valid (.string value)
  | array {elements : List Json} (h : ∀ element ∈ elements, Valid element) :
    Valid (.array elements)
  | object {members : List (String × Json)} (h : ∀ entry ∈ members, Valid entry.2) :
    Valid (.object members)

/-- A text does not go on with a number. -/
def EndsNumber (text : List Char) : Prop :=
  ∀ c ∈ text.head?, isNumberChar c = false

/-- A number has no other characters than those of numbers. -/
lemma isNumberChar_of_isNumber {text : List Char} (h : isNumber text = true) :
    ∀ c ∈ text, isNumberChar c = true := by
  rw [isNumber, Bool.and_eq_true, Bool.and_eq_true, List.all_eq_true] at h
  exact h.1.1

/-- A number is read up to where it ends. -/
lemma readNumber?_append {text rest : List Char} (h : isNumber text = true)
    (hrest : EndsNumber rest) :
    readNumber? (text ++ rest) = some (.number (String.ofList text), rest) := by
  have hall := isNumberChar_of_isNumber h
  have htake : (text ++ rest).takeWhile isNumberChar = text := by
    rw [List.takeWhile_append_of_pos hall]
    cases rest with
    | nil => rw [List.takeWhile_nil, List.append_nil]
    | cons c rest =>
      rw [List.takeWhile_cons, hrest c rfl, if_neg Bool.false_ne_true, List.append_nil]
  have hdrop : (text ++ rest).dropWhile isNumberChar = rest := by
    rw [List.dropWhile_append_of_pos hall]
    cases rest with
    | nil => rfl
    | cons c rest => rw [List.dropWhile_cons, hrest c rfl, if_neg Bool.false_ne_true]
  rw [readNumber?, htake, hdrop, if_pos h]

/-- A number begins with a character that is found nowhere else at the start of a value. -/
lemma exists_eq_cons_of_isNumber {text : List Char} (h : isNumber text = true) :
    ∃ c rest, text = c :: rest ∧ isNumberChar c = true := by
  cases text with
  | nil => cases h
  | cons c rest => exact ⟨c, rest, rfl, isNumberChar_of_isNumber h c List.mem_cons_self⟩

/-- The characters of numbers are no blanks, and no other value begins with one. -/
lemma isBlank_eq_false_and_ne {c : Char} (h : isNumberChar c = true) :
    isBlank c = false ∧ c ≠ '"' ∧ c ≠ '[' ∧ c ≠ ']' ∧ c ≠ '\x7b' := by
  refine ⟨?_, ?_, ?_, ?_, ?_⟩
  · rw [← Bool.not_eq_true]
    intro hblank
    simp only [isBlank, Bool.or_eq_true, decide_eq_true_eq] at hblank
    rcases hblank with ((rfl | rfl) | rfl) | rfl <;> exact absurd h (by decide)
  all_goals
    rintro rfl
    exact absurd h (by decide)

/-- The first character of a value is no blank, and does not close an array. -/
lemma exists_print_eq_cons {value : Json} (h : Valid value) (depth : Nat) :
    ∃ c rest, print depth value = c :: rest ∧ isBlank c = false ∧ c ≠ ']' := by
  cases h with
  | null => exact ⟨'n', _, rfl, rfl, by decide⟩
  | boolean value => cases value <;> exact ⟨_, _, rfl, rfl, by decide⟩
  | @number text h =>
    obtain ⟨c, rest, htext, hc⟩ := exists_eq_cons_of_isNumber h
    obtain ⟨hblank, -, -, hclose, -⟩ := isBlank_eq_false_and_ne hc
    exact ⟨c, rest, by rw [print, htext], hblank, hclose⟩
  | string value => exact ⟨'"', _, rfl, rfl, by decide⟩
  | @array elements h => cases elements <;> exact ⟨'[', _, rfl, rfl, by decide⟩
  | @object members h =>
    cases members with
    | nil => exact ⟨'\x7b', _, rfl, rfl, by decide⟩
    | cons entry members => exact ⟨'\x7b', _, rfl, rfl, by decide⟩

/-- Nothing is skipped in front of a value. -/
lemma skip_print {value : Json} (h : Valid value) (depth : Nat) (rest : List Char) :
    skip (print depth value ++ rest) = print depth value ++ rest := by
  obtain ⟨c, more, hprint, hc, -⟩ := exists_print_eq_cons h depth
  rw [hprint, List.cons_append, skip_cons hc]

/-- No number goes on with what follows the elements of an array. -/
lemma endsNumber_printElements (depth depth' : Nat) (elements : List Json) (rest : List Char) :
    EndsNumber (printElements depth elements ++ (newLine depth' ++ rest)) := by
  cases elements with
  | nil =>
    rintro c ⟨⟩
    rfl
  | cons element elements =>
    rintro c ⟨⟩
    rfl

/-- No number goes on with what follows the members of an object. -/
lemma endsNumber_printMembers (depth depth' : Nat) (members : List (String × Json))
    (rest : List Char) : EndsNumber (printMembers depth members ++ (newLine depth' ++ rest)) := by
  cases members with
  | nil =>
    rintro c ⟨⟩
    rfl
  | cons entry members =>
    rintro c ⟨⟩
    rfl

/-- The name of a member is read, together with its colon and the blank behind it. -/
lemma readKey?_newLine_quoted (depth : Nat) (key : String) {text : List Char}
    (htext : skip text = text) :
    readKey? (skip (newLine depth ++ (quoted key ++ ':' :: ' ' :: text))) = some (key, text) := by
  have hquote : skip (quoted key ++ ':' :: ' ' :: text) = quoted key ++ ':' :: ' ' :: text := by
    rw [quoted, List.cons_append, List.cons_append, skip_cons rfl]
  have hcolon : skip (':' :: ' ' :: text) = ':' :: ' ' :: text := skip_cons rfl _
  have hblank : skip (' ' :: text) = text := htext
  rw [skip_newLine, hquote]
  simp only [readKey?, readString?_quoted, Option.bind_eq_bind, Option.bind_some, hcolon, hblank,
    Option.pure_def]

section Steps

variable {fuel : Nat} {text behind behind' rest : List Char} {value : Json}

/-- One more element of an array, behind a comma. -/
lemma readElements?_cons {elements : List Json}
    (hvalue : readValue? fuel (skip text) = some (value, behind))
    (helements : readElements? fuel (skip behind) = some (elements, rest)) :
    readElements? (fuel + 1) (',' :: text) = some (value :: elements, rest) := by
  simp only [readElements?, hvalue, helements, Option.bind_eq_bind, Option.bind_some,
    Option.pure_def]

/-- One more member of an object, behind a comma. -/
lemma readMembers?_cons {key : String} {members : List (String × Json)}
    (hkey : readKey? (skip text) = some (key, behind))
    (hvalue : readValue? fuel behind = some (value, behind'))
    (hmembers : readMembers? fuel (skip behind') = some (members, rest)) :
    readMembers? (fuel + 1) (',' :: text) = some ((key, value) :: members, rest) := by
  simp only [readMembers?, hkey, hvalue, hmembers, Option.bind_eq_bind, Option.bind_some,
    Option.pure_def]

/-- An array begins with its first element. -/
lemma readValue?_array {elements : List Json} (hclose : (skip text).head? ≠ some ']')
    (hvalue : readValue? fuel (skip text) = some (value, behind))
    (helements : readElements? fuel (skip behind) = some (elements, rest)) :
    readValue? (fuel + 1) ('[' :: text) = some (.array (value :: elements), rest) := by
  rw [readValue?, if_neg (by decide), if_pos rfl]
  split
  · next behind h => exact absurd (congrArg List.head? h) hclose
  · simp only [hvalue, helements, Option.bind_eq_bind, Option.bind_some, Option.pure_def]

/-- An object begins with its first member. -/
lemma readValue?_object {key : String} {members : List (String × Json)}
    (hclose : (skip text).head? ≠ some '\x7d')
    (hkey : readKey? (skip text) = some (key, behind))
    (hvalue : readValue? fuel behind = some (value, behind'))
    (hmembers : readMembers? fuel (skip behind') = some (members, rest)) :
    readValue? (fuel + 1) ('\x7b' :: text) = some (.object ((key, value) :: members), rest) := by
  rw [readValue?, if_neg (by decide), if_neg (by decide), if_pos rfl]
  split
  · next behind h => exact absurd (congrArg List.head? h) hclose
  · simp only [hkey, hvalue, hmembers, Option.bind_eq_bind, Option.bind_some, Option.pure_def]

end Steps

/-- A string is read as a value. -/
lemma readValue?_quoted (fuel : Nat) (value : String) (rest : List Char) :
    readValue? (fuel + 1) (quoted value ++ rest) = some (.string value, rest) := by
  have hquoted : quoted value ++ rest = '"' :: (value.toList.flatMap escape ++ ['"'] ++ rest) := rfl
  have hread := readString?_quoted value rest
  rw [hquoted] at hread ⊢
  rw [readValue?, if_pos rfl, hread]
  rfl

/-- A number is read as a value. -/
lemma readValue?_number (fuel : Nat) {text rest : List Char} (h : isNumber text = true)
    (hrest : EndsNumber rest) :
    readValue? (fuel + 1) (text ++ rest) = some (.number (String.ofList text), rest) := by
  have hread := readNumber?_append h hrest
  obtain ⟨c, more, rfl, hc⟩ := exists_eq_cons_of_isNumber h
  obtain ⟨-, hquote, harray, -, hobject⟩ := isBlank_eq_false_and_ne hc
  rw [List.cons_append] at hread ⊢
  rw [readValue?, if_neg hquote, if_neg harray, if_neg hobject, if_pos hc, hread]

-- The recursion is that of the printer.  The bound that a reader counts down from has to cover the
-- text of its own value only, and so what is left of it covers the texts of the parts.
mutual

/-- A value is read from what is printed for it. -/
theorem readValue?_print : ∀ {value : Json}, Valid value → ∀ (depth fuel : Nat) (rest : List Char),
    (print depth value).length ≤ fuel + 1 → EndsNumber rest →
      readValue? (fuel + 1) (print depth value ++ rest) = some (value, rest)
  | .null, _, _, _, _, _, _ => rfl
  | .boolean true, _, _, _, _, _, _ => rfl
  | .boolean false, _, _, _, _, _, _ => rfl
  | .number _, .number h, _, fuel, rest, _, hrest => by
    have hread := readValue?_number fuel h hrest
    rwa [String.ofList_toList] at hread
  | .string value, _, _, fuel, rest, _, _ => readValue?_quoted fuel value rest
  | .array [], _, _, _, _, _, _ => rfl
  | .array (element :: elements), .array h, depth, fuel, rest, hfuel, _ => by
    have hvalid := h element List.mem_cons_self
    simp only [print, List.length_append, List.length_cons, length_newLine] at hfuel
    obtain ⟨fuel, rfl⟩ : ∃ less, fuel = less + 1 := ⟨fuel - 1, by omega⟩
    have helement := readValue?_print hvalid (depth + 1) fuel
      (printElements (depth + 1) elements ++ (newLine depth ++ ']' :: rest)) (by omega)
      (endsNumber_printElements _ _ _ _)
    have helements := readElements?_print
      (fun other hother => h other (List.mem_cons_of_mem _ hother)) (depth + 1) depth fuel rest
      (by omega)
    rw [← skip_print hvalid, ← skip_newLine (depth + 1)] at helement
    simp only [print, List.append_assoc, List.cons_append, List.nil_append]
    refine readValue?_array ?_ helement helements
    obtain ⟨c, more, hprint, -, hclose⟩ := exists_print_eq_cons hvalid (depth + 1)
    rw [skip_newLine, skip_print hvalid, hprint]
    exact fun h => hclose (Option.some.inj h)
  | .object [], _, _, _, _, _, _ => rfl
  | .object ((key, value) :: members), .object h, depth, fuel, rest, hfuel, _ => by
    have hvalid : Valid value := h (key, value) List.mem_cons_self
    simp only [print, List.length_append, List.length_cons, length_newLine] at hfuel
    obtain ⟨fuel, rfl⟩ : ∃ less, fuel = less + 1 := ⟨fuel - 1, by omega⟩
    have hvalue := readValue?_print hvalid (depth + 1) fuel
      (printMembers (depth + 1) members ++ (newLine depth ++ '\x7d' :: rest)) (by omega)
      (endsNumber_printMembers _ _ _ _)
    have hmembers := readMembers?_print
      (fun other hother => h other (List.mem_cons_of_mem _ hother)) (depth + 1) depth fuel rest
      (by omega)
    simp only [print, List.append_assoc, List.cons_append, List.nil_append]
    refine readValue?_object ?_ (readKey?_newLine_quoted _ key (skip_print hvalid _ _)) hvalue
      hmembers
    rw [skip_newLine, quoted, List.cons_append, List.cons_append, skip_cons rfl]
    exact fun h => absurd (Option.some.inj h) (by decide)

/-- Further elements are read from what is printed for them, up to the end of the array. -/
theorem readElements?_print : ∀ {elements : List Json}, (∀ element ∈ elements, Valid element) →
    ∀ (depth depth' fuel : Nat) (rest : List Char), (printElements depth elements).length ≤ fuel →
      readElements? (fuel + 1)
        (skip (printElements depth elements ++ (newLine depth' ++ ']' :: rest))) =
          some (elements, rest)
  | [], _, _, _, _, _, _ => by
    rw [printElements, List.nil_append, skip_newLine, skip_cons rfl]
    rfl
  | element :: elements, h, depth, depth', fuel, rest, hfuel => by
    have hvalid := h element List.mem_cons_self
    simp only [printElements, List.length_append, List.length_cons, length_newLine] at hfuel
    obtain ⟨fuel, rfl⟩ : ∃ less, fuel = less + 1 := ⟨fuel - 1, by omega⟩
    have helement := readValue?_print hvalid depth fuel
      (printElements depth elements ++ (newLine depth' ++ ']' :: rest)) (by omega)
      (endsNumber_printElements _ _ _ _)
    have helements := readElements?_print
      (fun other hother => h other (List.mem_cons_of_mem _ hother)) depth depth' fuel rest
      (by omega)
    rw [← skip_print hvalid, ← skip_newLine depth] at helement
    simp only [printElements, List.append_assoc, List.cons_append]
    rw [skip_cons rfl]
    exact readElements?_cons helement helements

/-- Further members are read from what is printed for them, up to the end of the object. -/
theorem readMembers?_print : ∀ {members : List (String × Json)},
    (∀ entry ∈ members, Valid entry.2) → ∀ (depth depth' fuel : Nat) (rest : List Char),
    (printMembers depth members).length ≤ fuel →
      readMembers? (fuel + 1)
        (skip (printMembers depth members ++ (newLine depth' ++ '\x7d' :: rest))) =
          some (members, rest)
  | [], _, _, _, _, _, _ => by
    rw [printMembers, List.nil_append, skip_newLine, skip_cons rfl]
    rfl
  | (key, value) :: members, h, depth, depth', fuel, rest, hfuel => by
    have hvalid : Valid value := h (key, value) List.mem_cons_self
    simp only [printMembers, List.length_append, List.length_cons, length_newLine] at hfuel
    obtain ⟨fuel, rfl⟩ : ∃ less, fuel = less + 1 := ⟨fuel - 1, by omega⟩
    have hvalue := readValue?_print hvalid depth fuel
      (printMembers depth members ++ (newLine depth' ++ '\x7d' :: rest)) (by omega)
      (endsNumber_printMembers _ _ _ _)
    have hmembers := readMembers?_print
      (fun other hother => h other (List.mem_cons_of_mem _ hother)) depth depth' fuel rest
      (by omega)
    simp only [printMembers, List.append_assoc, List.cons_append, List.nil_append]
    rw [skip_cons rfl]
    exact readMembers?_cons (readKey?_newLine_quoted _ key (skip_print hvalid _ _)) hvalue hmembers

end

/-! ### Documents -/

/-- A printed document is read as the document that it was. -/
theorem read?_pretty {document : Json} (h : Valid document) :
    read? (pretty document) = some document := by
  have hlist : (pretty document).toList = print 0 document := String.toList_ofList
  have hskip := skip_print h 0 []
  rw [List.append_nil] at hskip
  obtain ⟨c, rest, hprint, -⟩ := exists_print_eq_cons h 0
  have hread := readValue?_print h 0 rest.length [] (by rw [hprint, List.length_cons])
    (fun _ h => nomatch h)
  rw [List.append_nil, ← List.length_cons (a := c), ← hprint] at hread
  rw [read?, ← String.length_toList, hlist, hskip, hread]
  rfl

end ScopedAuth.Json
