import ScopedAuth.Proofs.Outcome
import ScopedAuth.Proofs.Text.Escapes
import ScopedAuth.Proofs.Url.Scheme
import ScopedAuth.Scope

/-!
# Which texts are targets

A text is a target if it is a URI reference (`Target.IsReference`): not blank, without an illegal
character, with nothing but escapes behind its percent signs, and either relative or a URL.  What a
text is refused for is the first of these conditions that it does not meet (`Target.Refused`), and
`Target.exists_parse_eq_ok_iff_isReference` says that this describes reading a target completely.
-/

namespace ScopedAuth.Target

open ScopedAuth.Text

/-- A text is empty or all white space. -/
def Blank (text : List Char) : Prop :=
  ∀ c ∈ text, isBlank c = true

/-- A character may occur in a target. -/
def Legal (c : Char) : Prop :=
  isBlank c = false ∧ isControl c = false ∧ c ∉ excluded

/-- The characters that are refused are those that may not occur. -/
lemma isIllegal_iff {c : Char} : isIllegal c = true ↔ ¬ Legal c := by
  rw [← Bool.not_eq_false, not_iff_not, isIllegal, Bool.or_eq_false_iff, Bool.or_eq_false_iff,
    and_assoc, List.contains_eq_mem, decide_eq_false_iff_not]
  exact Iff.rfl

/-- A text is a URI reference that a target can be read from. -/
structure IsReference (text : List Char) : Prop where
  not_blank : ∃ c ∈ text, isBlank c = false
  legal : ∀ c ∈ text, Legal c
  escaped : Percent.Escaped text
  relative_or_url : ¬ Url.HasScheme text ∨ ∃ url, Url.parse text = .ok (some url)

/-- What a text is refused for. -/
inductive Refused (text : String) : Error → Prop
  /-- There is nothing but white space. -/
  | missing (h : Blank text.toList) : Refused text .missing
  /-- The first character that may not occur is `c`. -/
  | illegal (before after : List Char) (c : Char) (hblank : ¬ Blank text.toList)
    (hsplit : text.toList = before ++ c :: after) (hbefore : ∀ d ∈ before, Legal d)
    (hc : ¬ Legal c) : Refused text (.invalid text (.illegalCharacter c))
  /-- A percent sign begins no escape. -/
  | malformed (hblank : ¬ Blank text.toList) (hlegal : ∀ c ∈ text.toList, Legal c)
    (h : ¬ Percent.Escaped text.toList) : Refused text (.invalid text .malformedEscape)
  /-- There is a scheme, but no URL. -/
  | url (error : Url.Error) (hblank : ¬ Blank text.toList) (hlegal : ∀ c ∈ text.toList, Legal c)
    (hescaped : Percent.Escaped text.toList) (h : Url.parse text.toList = .error error) :
    Refused text (.invalid text (.url error))

/-! ### The checks, one after the other -/

section Checks

variable {text : String}

/-- A blank text is missing. -/
lemma readUrl_of_blank (h : Blank text.toList) : readUrl text = .error .missing := by
  have hall : text.toList.all isBlank = true := List.all_eq_true.mpr h
  unfold readUrl
  exact if_pos hall

/-- The first illegal character of a text that is not blank is reported. -/
lemma readUrl_of_illegal {before after : List Char} {c : Char} (hblank : ¬ Blank text.toList)
    (hsplit : text.toList = before ++ c :: after) (hbefore : ∀ d ∈ before, Legal d)
    (hc : ¬ Legal c) : readUrl text = .error (.invalid text (.illegalCharacter c)) := by
  have hall : ¬ text.toList.all isBlank = true := mt List.all_eq_true.mp hblank
  have hfind : text.toList.find? isIllegal = some c := by
    rw [List.find?_eq_some_iff_append]
    refine ⟨isIllegal_iff.mpr hc, before, after, hsplit, fun d hd => ?_⟩
    rw [Bool.not_eq_true', ← Bool.not_eq_true, isIllegal_iff, not_not]
    exact hbefore d hd
  unfold readUrl
  rw [if_neg hall, hfind]

/-- A text of legal characters is checked for its escapes, and then read as a URL. -/
lemma readUrl_of_legal (hblank : ¬ Blank text.toList) (hlegal : ∀ c ∈ text.toList, Legal c) :
    readUrl text =
      if Percent.wellFormed text.toList then
        (Url.parse text.toList).mapError fun e => .invalid text (.url e)
      else .error (.invalid text .malformedEscape) := by
  have hall : ¬ text.toList.all isBlank = true := mt List.all_eq_true.mp hblank
  have hfind : text.toList.find? isIllegal = none := by
    rw [List.find?_eq_none]
    intro c hc
    rw [isIllegal_iff, not_not]
    exact hlegal c hc
  unfold readUrl
  rw [if_neg hall, hfind]
  cases Percent.wellFormed text.toList with
  | true => rfl
  | false => rfl

/-- What a text is refused for is reported. -/
lemma Refused.readUrl_eq {error : Error} (h : Refused text error) :
    readUrl text = .error error := by
  cases h with
  | missing h => exact readUrl_of_blank h
  | illegal before after c hblank hsplit hbefore hc =>
    exact readUrl_of_illegal hblank hsplit hbefore hc
  | malformed hblank hlegal h =>
    rw [readUrl_of_legal hblank hlegal]
    exact if_neg (mt (Percent.wellFormed_iff_escaped _).mp h)
  | url error hblank hlegal hescaped h =>
    rw [readUrl_of_legal hblank hlegal, if_pos ((Percent.wellFormed_iff_escaped _).mpr hescaped), h]
    rfl

/-- The URL of a text that meets the other conditions is that of the URL parser. -/
lemma readUrl_of_escaped (hblank : ¬ Blank text.toList) (hlegal : ∀ c ∈ text.toList, Legal c)
    (hescaped : Percent.Escaped text.toList) {url : Option Url}
    (h : Url.parse text.toList = .ok url) : readUrl text = .ok url := by
  rw [readUrl_of_legal hblank hlegal, if_pos ((Percent.wellFormed_iff_escaped _).mpr hescaped), h]
  rfl

/-- A text is not blank if one of its characters is not. -/
lemma not_blank_iff {text : List Char} : ¬ Blank text ↔ ∃ c ∈ text, isBlank c = false := by
  simp only [Blank, not_forall, Bool.not_eq_true, exists_prop]

/-- A text is a URI reference, or it is refused for something. -/
lemma isReference_or_exists_refused (text : String) :
    IsReference text.toList ∨ ∃ error, Refused text error := by
  by_cases hblank : Blank text.toList
  · exact Or.inr ⟨_, .missing hblank⟩
  by_cases hlegal : ∀ c ∈ text.toList, Legal c
  · by_cases hescaped : Percent.Escaped text.toList
    · cases hurl : Url.parse text.toList with
      | error error => exact Or.inr ⟨_, .url error hblank hlegal hescaped hurl⟩
      | ok url =>
        refine Or.inl ⟨not_blank_iff.mp hblank, hlegal, hescaped, ?_⟩
        cases url with
        | none => exact Or.inl (Url.parse_eq_ok_none_iff.mp hurl)
        | some url => exact Or.inr ⟨url, hurl⟩
    · exact Or.inr ⟨_, .malformed hblank hlegal hescaped⟩
  · obtain ⟨before, c, after, hsplit, hbefore, hc⟩ := exists_first_of_not_forall hlegal
    exact Or.inr ⟨_, .illegal before after c hblank hsplit hbefore hc⟩

/-- What is read from a URI reference is what the URL parser gives. -/
lemma IsReference.exists_readUrl_eq_ok (h : IsReference text.toList) :
    ∃ url, Url.parse text.toList = .ok url ∧ readUrl text = .ok url := by
  have hblank := not_blank_iff.mpr h.not_blank
  rcases h.relative_or_url with hrelative | ⟨url, hurl⟩
  · have hnone := Url.parse_eq_ok_none_iff.mpr hrelative
    exact ⟨none, hnone, readUrl_of_escaped hblank h.legal h.escaped hnone⟩
  · exact ⟨some url, hurl, readUrl_of_escaped hblank h.legal h.escaped hurl⟩

end Checks

/-! ### Targets -/

section Parse

variable {text : String}

/-- A target is refused for what is wrong with its URL. -/
lemma parse_eq_error_iff {error : Error} :
    parse text = .error error ↔ readUrl text = .error error := by
  unfold parse
  split
  · next other h => rw [h, Except.error.injEq, Except.error.injEq]
  · next url h =>
    refine iff_of_false nofun fun herror => ?_
    rw [h] at herror
    exact nomatch herror

/-- A URI reference is read as a target. -/
lemma IsReference.exists_parse_eq_ok (h : IsReference text.toList) :
    ∃ target, parse text = .ok target := by
  obtain ⟨url, -, hurl⟩ := h.exists_readUrl_eq_ok
  cases hparse : parse text with
  | ok target => exact ⟨target, rfl⟩
  | error error =>
    rw [parse_eq_error_iff, hurl] at hparse
    exact nomatch hparse

/-- A text is refused for what is wrong with it, and only for that. -/
lemma parse_eq_error_iff_refused {error : Error} :
    parse text = .error error ↔ Refused text error := by
  constructor
  · intro herror
    rcases isReference_or_exists_refused text with h | ⟨other, hrefused⟩
    · obtain ⟨target, hok⟩ := h.exists_parse_eq_ok
      rw [herror] at hok
      exact nomatch hok
    · have hother := parse_eq_error_iff.mpr hrefused.readUrl_eq
      rw [herror] at hother
      rw [Except.error.inj hother]
      exact hrefused
  · intro hrefused
    exact parse_eq_error_iff.mpr hrefused.readUrl_eq

/-- The text of a target is a URI reference. -/
lemma isReference_of_parse {target : Target} (h : parse text = .ok target) :
    IsReference text.toList := by
  rcases isReference_or_exists_refused text with hreference | ⟨error, hrefused⟩
  · exact hreference
  · rw [parse_eq_error_iff_refused.mpr hrefused] at h
    exact nomatch h

end Parse

/-- A target holds the URL that its text spells. -/
lemma url_parse_text (target : Target) : Url.parse target.text.toList = .ok target.url := by
  rcases isReference_or_exists_refused target.text with h | ⟨error, hrefused⟩
  · obtain ⟨url, hurl, hread⟩ := h.exists_readUrl_eq_ok
    rw [target.reads] at hread
    rw [hurl, Except.ok.inj hread]
  · have herror := hrefused.readUrl_eq
    rw [target.reads] at herror
    exact nomatch herror

/-- Without a URL there is no host and no port, and so no scope. -/
lemma eq_none_of_not_isAbsolute {target : Target} (h : target.isAbsolute = false) :
    target.url = none ∧ target.host? = none ∧ target.port? = none ∧
      Scope.ofTarget? target = none := by
  have hurl : target.url = none := Option.not_isSome_iff_eq_none.mp (Bool.eq_false_iff.mp h)
  have hhost : target.host? = none := by rw [host?, hurl]; rfl
  have hport : target.port? = none := by rw [port?, hurl]; rfl
  have hscope : Scope.ofTarget? target = none := by rw [Scope.ofTarget?, hhost]; rfl
  exact ⟨hurl, hhost, hport, hscope⟩

/-- A text is read as a target exactly if it is a URI reference.  The target then keeps the text, is
absolute exactly if the text has a scheme, and has no URL, host, port or scope if it is not.  Any
other text is refused for the first condition that it does not meet, in these words.  Instead of
reading the escapes from left to right, each percent sign among the bytes may be checked on its
own. -/
theorem exists_parse_eq_ok_iff_isReference (text : String) :
    ((∃ target, parse text = .ok target) ↔ IsReference text.toList) ∧
    (∀ target, parse text = .ok target →
      target.text = text ∧
      (target.isAbsolute = true ↔ Url.HasScheme text.toList) ∧
      (target.isAbsolute = false → target.url = none ∧ target.host? = none ∧
        target.port? = none ∧ Scope.ofTarget? target = none)) ∧
    (∀ error, parse text = .error error ↔ Refused text error) ∧
    ((∀ c, (Fault.illegalCharacter c).message = "illegal character " ++ Text.Quoted.char c) ∧
      Fault.malformedEscape.message = "malformed percent escape" ∧
      (∀ error, (Fault.url error).message = error.message) ∧
      ∀ fault, (Error.invalid text fault).message =
        "Invalid target URI " ++ text ++ ": " ++ fault.message) ∧
    (Percent.Escaped text.toList ↔ Percent.EscapedBytes (Percent.bytes text.toList)) := by
  refine ⟨⟨?_, IsReference.exists_parse_eq_ok⟩, ?_, fun _ => parse_eq_error_iff_refused,
    ⟨fun _ => rfl, rfl, fun _ => rfl, fun _ => rfl⟩, Percent.escaped_iff_escapedBytes _⟩
  · rintro ⟨target, hok⟩
    exact isReference_of_parse hok
  · intro target hok
    have htext : target.text = text := text_of_parse hok
    have habsolute := Url.isSome_iff_hasScheme (url_parse_text target)
    rw [htext] at habsolute
    exact ⟨htext, habsolute, eq_none_of_not_isAbsolute⟩

end ScopedAuth.Target
