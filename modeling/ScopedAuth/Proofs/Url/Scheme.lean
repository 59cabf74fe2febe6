import Mathlib.Logic.Basic
import Mathlib.Tactic.Lemma
import ScopedAuth.Url.Parser

/-!
# Which texts begin with a scheme

A scheme is a letter and what may follow it, up to a colon (`HasScheme`).  A text that begins with
one is cut there and nowhere else (`splitScheme?_append`), and a text that does not is no absolute
URL, but no faulty one either (`parse_eq_ok_none_iff`).  The special schemes may be written with
letters of either case (`IsSpecialScheme.exists_eq_cons`).
-/

namespace ScopedAuth.Url

/-- A text begins with a letter, then letters, digits, plus signs, hyphens and dots, then a
colon. -/
def HasScheme (text : List Char) : Prop :=
  ∃ first name rest, text = first :: (name ++ ':' :: rest) ∧ first.isAlpha = true ∧
    ∀ c ∈ name, c.isAlphanum = true ∨ c = '+' ∨ c = '-' ∨ c = '.'

/-- What may follow the first letter of a scheme. -/
lemma isSchemeChar_iff {c : Char} :
    isSchemeChar c = true ↔ c.isAlphanum = true ∨ c = '+' ∨ c = '-' ∨ c = '.' := by
  simp only [isSchemeChar, Bool.or_eq_true, decide_eq_true_eq, or_assoc]

/-- A letter may stand anywhere in a scheme. -/
lemma isSchemeChar_of_isAlpha {c : Char} (h : c.isAlpha = true) : isSchemeChar c = true := by
  rw [isSchemeChar_iff, Char.isAlphanum, h]
  exact Or.inl rfl

/-- A text is cut at the colon behind its scheme. -/
lemma splitScheme?_append {first : Char} {name : List Char} (hfirst : first.isAlpha = true)
    (hname : ∀ c ∈ name, isSchemeChar c = true) (rest : List Char) :
    splitScheme? (first :: (name ++ ':' :: rest)) =
      some ((first :: name).map Char.toLower, rest) := by
  have hall : ∀ c ∈ first :: name, isSchemeChar c = true :=
    List.forall_mem_cons.mpr ⟨isSchemeChar_of_isAlpha hfirst, hname⟩
  have htake : (first :: name ++ ':' :: rest).takeWhile isSchemeChar = first :: name := by
    rw [List.takeWhile_append_of_pos hall]
    simp [isSchemeChar]
  have hdrop : (first :: name ++ ':' :: rest).dropWhile isSchemeChar = ':' :: rest := by
    rw [List.dropWhile_append_of_pos hall]
    simp [isSchemeChar]
  rw [← List.cons_append, splitScheme?, htake, hdrop]
  exact if_pos hfirst

/-- Only a text with a scheme is cut. -/
lemma hasScheme_of_splitScheme?_eq_some {text : List Char} {parts : List Char × List Char}
    (h : splitScheme? text = some parts) : HasScheme text := by
  have htext := List.takeWhile_append_dropWhile (p := isSchemeChar) (l := text)
  unfold splitScheme? at h
  split at h
  · next first name rest htake hdrop =>
    have hall : ∀ c ∈ first :: name, isSchemeChar c = true := by
      rw [← htake, ← List.all_eq_true]
      exact List.all_takeWhile
    split at h
    · next hfirst =>
      rw [htake, hdrop] at htext
      refine ⟨first, name, rest, htext.symm, hfirst, fun c hc => ?_⟩
      exact isSchemeChar_iff.mp (hall c (List.mem_cons_of_mem _ hc))
    · exact nomatch h
  · exact nomatch h

/-- The texts that are cut are those with a scheme. -/
lemma splitScheme?_eq_none_iff {text : List Char} :
    splitScheme? text = none ↔ ¬ HasScheme text := by
  constructor
  · rintro hnone ⟨first, name, rest, rfl, hfirst, hname⟩
    have hsome := splitScheme?_append hfirst (fun c hc => isSchemeChar_iff.mpr (hname c hc)) rest
    rw [hnone] at hsome
    exact nomatch hsome
  · intro h
    cases hsplit : splitScheme? text with
    | none => rfl
    | some parts => exact absurd (hasScheme_of_splitScheme?_eq_some hsplit) h

/-- A text is no absolute URL, but not a faulty one either, if it does not begin with a scheme, and
only then. -/
lemma parse_eq_ok_none_iff {text : List Char} : parse text = .ok none ↔ ¬ HasScheme text := by
  rw [← splitScheme?_eq_none_iff, parse]
  cases splitScheme? text with
  | none => exact iff_of_true rfl rfl
  | some parts =>
    obtain ⟨scheme, rest⟩ := parts
    refine iff_of_false ?_ (Option.some_ne_none _)
    change (parseAfterScheme (String.ofList scheme) rest).map some ≠ .ok none
    cases parseAfterScheme (String.ofList scheme) rest with
    | error error => exact fun h => nomatch h
    | ok url => exact fun h => Option.some_ne_none url (Except.ok.inj h)

/-- What is read is a URL if the text begins with a scheme, and only then. -/
lemma isSome_iff_hasScheme {text : List Char} {url : Option Url} (h : parse text = .ok url) :
    url.isSome = true ↔ HasScheme text := by
  rw [← not_iff_not, ← parse_eq_ok_none_iff, h, Except.ok.injEq, Bool.not_eq_true,
    Option.isSome_eq_false_iff, Option.isNone_iff_eq_none]

/-! ### Special schemes -/

/-- The schemes whose URLs have a host and a port of their own, with that port. -/
def specialSchemes : List (String × Port) :=
  [("http", 80), ("https", 443), ("ws", 80), ("wss", 443), ("ftp", 21)]

/-- A scheme is one of them, and the port is its own. -/
def IsSpecialScheme (scheme : String) (port : Port) : Prop :=
  (scheme, port) ∈ specialSchemes

/-- What is a letter in lower case is one as it stands. -/
lemma isAlpha_of_isLower_toLower {c : Char} (h : c.toLower.isLower = true) : c.isAlpha = true := by
  by_cases hupper : c.isUpper = true
  · change (c.isUpper || c.isLower) = true
    rw [hupper, Bool.true_or]
  · have hsame : c.toLower = c := by
      refine dif_neg fun hle => hupper ?_
      exact decide_eq_true hle
    rw [hsame] at h
    change (c.isUpper || c.isLower) = true
    rw [h, Bool.or_true]

namespace IsSpecialScheme

variable {scheme : String} {port : Port} (h : IsSpecialScheme scheme port)

include h

/-- The URLs of a special scheme are laid out like those of the web. -/
lemma ofScheme_eq : Layout.ofScheme scheme = .web port := by
  have hall : ∀ item ∈ specialSchemes, Layout.ofScheme item.1 = .web item.2 := by decide
  exact hall _ h

/-- A special scheme has letters, and nothing else. -/
lemma ne_nil_and_isLower : scheme.toList ≠ [] ∧ scheme.toList.all Char.isLower = true := by
  have hall : ∀ item ∈ specialSchemes,
      item.1.toList ≠ [] ∧ item.1.toList.all Char.isLower = true := by decide
  exact hall (scheme, port) h

variable {letters : List Char} (hletters : letters.map Char.toLower = scheme.toList)

include hletters

/-- A text that is a special scheme in lower case is made of letters. -/
lemma isAlpha_of_mem {c : Char} (hc : c ∈ letters) : c.isAlpha = true := by
  refine isAlpha_of_isLower_toLower (List.all_eq_true.mp h.ne_nil_and_isLower.2 _ ?_)
  exact hletters ▸ List.mem_map_of_mem hc

/-- A text that is a special scheme in lower case is a letter and what may follow it. -/
lemma exists_eq_cons : ∃ first name, letters = first :: name ∧ first.isAlpha = true ∧
    ∀ c ∈ name, isSchemeChar c = true := by
  have halpha : ∀ c ∈ letters, c.isAlpha = true := fun _ => h.isAlpha_of_mem hletters
  cases letters with
  | nil => exact absurd hletters.symm h.ne_nil_and_isLower.1
  | cons first name =>
    rw [List.forall_mem_cons] at halpha
    exact ⟨first, name, rfl, halpha.1, fun c hc => isSchemeChar_of_isAlpha (halpha.2 c hc)⟩

end IsSpecialScheme

end ScopedAuth.Url
