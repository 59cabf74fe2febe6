import Mathlib.Data.Bool.AllAny
import ScopedAuth.Proofs.Text.Characters
import ScopedAuth.Url.Host

/-!
# Host names that stand for themselves

A name of lower-case letters, digits and hyphens between dots is read as the host of that very name
(`Host.parse_hostName`), provided that no label is marked as encoded, and that the last one begins
with a letter: it would otherwise be taken for a part of an address.
-/

namespace ScopedAuth.Url

open ScopedAuth.Text

/-- Labels of lower-case letters, digits and hyphens, the last of which begins with a letter. -/
structure IsDomain (labels : List (List Char)) : Prop where
  plain : ∀ label ∈ labels, ∀ c ∈ label, c.isLower = true ∨ c.isDigit = true ∨ c = '-'
  last_letter : ∃ first rest, labels.getLast? = some (first :: rest) ∧ first.isLower = true

/-- Labels of a domain, none of which is marked as encoded. -/
structure IsHostName (labels : List (List Char)) : Prop extends IsDomain labels where
  unmarked : ∀ label ∈ labels, ¬ ['x', 'n', '-', '-'] <+: label

/-- The name that labels make, with dots between them. -/
def hostName (labels : List (List Char)) : List Char :=
  List.intercalate ['.'] labels

/-! ### Characters -/

/-- A character that may occur in a host name as it stands. -/
def IsNameChar (c : Char) : Prop :=
  c.isLower = true ∨ c.isDigit = true ∨ c = '-' ∨ c = '.'

instance : DecidablePred IsNameChar :=
  fun c => inferInstanceAs (Decidable (c.isLower = true ∨ c.isDigit = true ∨ c = '-' ∨ c = '.'))

section NameChar

variable {c : Char}

/-- A letter is no digit. -/
lemma not_isDigit_of_isLower (h : c.isLower = true) : c.isDigit = false := by
  rw [isLower_iff] at h
  rw [← Bool.not_eq_true, isDigit_iff]
  omega

/-- The characters of host names by their numbers. -/
lemma isNameChar_iff : IsNameChar c ↔
    (97 ≤ c.toNat ∧ c.toNat ≤ 122) ∨ (48 ≤ c.toNat ∧ c.toNat ≤ 57) ∨ c.toNat = 45 ∨
      c.toNat = 46 := by
  have hyphen : c = '-' ↔ c.toNat = 45 := Char.toNat_inj.symm
  have hdot : c = '.' ↔ c.toNat = 46 := Char.toNat_inj.symm
  rw [IsNameChar, isLower_iff, isDigit_iff, hyphen, hdot]

/-- A character of a host name is in ASCII. -/
lemma IsNameChar.toNat_lt (h : IsNameChar c) : c.toNat < 128 := by
  rw [isNameChar_iff] at h
  omega

/-- A character of a host name has no other lower case. -/
lemma IsNameChar.toLower_eq (h : IsNameChar c) : c.toLower = c := by
  rw [isNameChar_iff] at h
  refine dif_neg ?_
  rintro ⟨hle, hge⟩
  have hle' : 65 ≤ c.toNat := UInt32.le_iff_toNat_le.mp hle
  have hge' : c.toNat ≤ 90 := UInt32.le_iff_toNat_le.mp hge
  omega

/-- A character of a host name is none that may not occur in one. -/
lemma IsNameChar.ne (h : IsNameChar c) {other : Char} (hother : ¬ IsNameChar other) : c ≠ other :=
  fun heq => hother (heq ▸ h)

/-- A character of a host name is allowed in domains. -/
lemma IsNameChar.isForbidden_eq_false (h : IsNameChar c) : Idna.isForbidden c = false := by
  have hdelimiters : ∀ d ∈ "%#/:<>?@[\\]^|".toList, ¬ IsNameChar d :=
    List.all_iff_forall_prop.mp (by decide)
  have hmem : c ∉ "%#/:<>?@[\\]^|".toList := fun hmem => hdelimiters c hmem h
  rw [isNameChar_iff] at h
  rw [Idna.isForbidden, Bool.or_eq_false_iff, Bool.or_eq_false_iff, decide_eq_false_iff_not,
    decide_eq_false_iff_not, List.contains_eq_mem, decide_eq_false_iff_not]
  exact ⟨⟨by omega, by omega⟩, hmem⟩

end NameChar

/-! ### Names -/

/-- A label that does not begin with a digit is no number. -/
lemma number?_eq_none {first : Char} (h : first.isDigit = false) (rest : List Char) :
    Ipv4.number? (first :: rest) = none := by
  unfold Ipv4.number?
  split
  · next heq => exact nomatch heq
  · next heq =>
    rw [(List.cons.inj heq).1] at h
    exact nomatch h
  · rw [List.all_cons, h, Bool.false_and]
    rfl

/-- What occurs in a host name is a dot or occurs in one of the labels. -/
lemma eq_dot_or_mem_of_mem_hostName {labels : List (List Char)} {c : Char}
    (hc : c ∈ hostName labels) : c = '.' ∨ ∃ label ∈ labels, c ∈ label := by
  induction labels with
  | nil => exact nomatch hc
  | cons label rest ih =>
    cases rest with
    | nil =>
      rw [hostName, List.intercalate_singleton] at hc
      exact Or.inr ⟨label, List.mem_cons_self, hc⟩
    | cons next more =>
      rw [hostName, List.intercalate_cons_cons, List.mem_append, List.mem_append,
        List.mem_singleton] at hc
      rcases hc with (hc | hc) | hc
      · exact Or.inr ⟨label, List.mem_cons_self, hc⟩
      · exact Or.inl hc
      · refine (ih hc).imp_right ?_
        rintro ⟨other, hother, hc⟩
        exact ⟨other, List.mem_cons_of_mem _ hother, hc⟩

/-- A name whose last label begins with a letter does not end like an address. -/
lemma endsInNumber_eq_false {host : List Char} {first : Char} {rest : List Char}
    (hlast : (host.splitOn '.').getLast? = some (first :: rest)) (hletter : first.isLower = true) :
    Ipv4.endsInNumber host = false := by
  have hlabels : Ipv4.labels host = host.splitOn '.' := by
    obtain ⟨before, hbefore⟩ := List.getLast?_eq_some_iff.mp hlast
    rw [Ipv4.labels, hbefore, List.reverse_append]
    change ((first :: rest) :: before.reverse).reverse = before ++ [first :: rest]
    rw [List.reverse_cons, List.reverse_reverse]
  have hdigit : first.isDigit = false := not_isDigit_of_isLower hletter
  have hall : (first :: rest).all Char.isDigit = false := by
    rw [List.all_cons, hdigit, Bool.false_and]
  rw [Ipv4.endsInNumber, hlabels, hlast]
  change (!false && (first :: rest).all Char.isDigit ||
    (Ipv4.number? (first :: rest)).isSome) = false
  rw [hall, number?_eq_none hdigit rest]
  rfl

namespace IsDomain

variable {labels : List (List Char)} (h : IsDomain labels)

include h

/-- A domain has a label. -/
lemma ne_nil : labels ≠ [] := by
  obtain ⟨first, rest, hlast, -⟩ := h.last_letter
  rintro rfl
  exact nomatch hlast

/-- The dots of a domain are those between its labels. -/
lemma splitOn_hostName : (hostName labels).splitOn '.' = labels := by
  have hdots : ∀ label ∈ labels, '.' ∉ label := by
    intro label hlabel hdot
    exact absurd (h.plain label hlabel '.' hdot) (by decide)
  rw [hostName, List.splitOn_intercalate '.' hdots h.ne_nil]

/-- A domain is made of characters that may occur in one. -/
lemma isNameChar {c : Char} (hc : c ∈ hostName labels) : IsNameChar c := by
  rcases eq_dot_or_mem_of_mem_hostName hc with rfl | ⟨label, hlabel, hmem⟩
  · decide
  · exact (h.plain label hlabel c hmem).imp_right fun hor => hor.imp_right Or.inl

/-- Any other character is missing in a domain. -/
lemma not_mem_hostName {c : Char} (hc : ¬ IsNameChar c) : c ∉ hostName labels :=
  fun hmem => hc (h.isNameChar hmem)

/-- A domain is not empty. -/
lemma hostName_ne_nil : hostName labels ≠ [] := by
  intro hnil
  obtain ⟨first, rest, hlast, -⟩ := h.last_letter
  have hlabels := h.splitOn_hostName
  rw [hnil, List.splitOn_nil] at hlabels
  rw [← hlabels] at hlast
  exact nomatch hlast

/-- A domain is its own lower case. -/
lemma map_toLower_hostName : (hostName labels).map Char.toLower = hostName labels :=
  (List.map_congr_left fun _ hc => (h.isNameChar hc).toLower_eq).trans (List.map_id _)

end IsDomain

namespace IsHostName

variable {labels : List (List Char)} (h : IsHostName labels)

include h

/-- A host name is its own form in ASCII. -/
lemma toAscii?_hostName : Idna.toAscii? (hostName labels) = some (hostName labels) := by
  have hascii : Idna.isAscii (hostName labels) = true := by
    rw [Idna.isAscii, List.all_eq_true]
    exact fun c hc => decide_eq_true (h.isNameChar hc).toNat_lt
  have hplain : Idna.isPlain (hostName labels) = true := by
    rw [Idna.isPlain, hascii, h.map_toLower_hostName, h.splitOn_hostName, Bool.true_and,
      List.all_eq_true]
    intro label hlabel
    rw [Option.isNone_iff_eq_none]
    unfold Idna.markedPart?
    split
    · exact absurd ⟨_, rfl⟩ (h.unmarked _ hlabel)
    · rfl
  have hallowed : ¬ (hostName labels).any Idna.isForbidden = true := by
    rw [List.any_eq_true]
    rintro ⟨c, hc, hforbidden⟩
    rw [(h.isNameChar hc).isForbidden_eq_false] at hforbidden
    exact nomatch hforbidden
  rw [Idna.toAscii?, if_pos hplain, if_neg hallowed, h.map_toLower_hostName]

/-- A host name does not end like an address. -/
lemma endsInNumber_hostName : Ipv4.endsInNumber (hostName labels) = false := by
  obtain ⟨first, rest, hlast, hletter⟩ := h.last_letter
  rw [← h.splitOn_hostName] at hlast
  exact endsInNumber_eq_false hlast hletter

/-- A host name is read as the host of that name. -/
lemma parse_hostName :
    Host.parse (hostName labels) = .ok (.domain (String.ofList (hostName labels))) := by
  have hpercent : ¬ (hostName labels).contains '%' = true := by
    rw [List.contains_eq_mem, decide_eq_true_eq]
    exact h.not_mem_hostName (by decide)
  have hempty : ¬ (hostName labels).isEmpty = true := by
    rw [List.isEmpty_iff]
    exact h.hostName_ne_nil
  unfold Host.parse
  split
  · next rest hbracket =>
    have hmem : '[' ∈ hostName labels := hbracket ▸ List.mem_cons_self
    exact absurd hmem (h.not_mem_hostName (by decide))
  · rw [Percent.decodeText?, if_neg hpercent, Option.bind_some, h.toAscii?_hostName]
    change Host.ofAscii (hostName labels) = _
    rw [Host.ofAscii, if_neg hempty, h.endsInNumber_hostName]
    rfl

end IsHostName

end ScopedAuth.Url
