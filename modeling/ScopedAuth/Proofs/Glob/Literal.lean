import Mathlib.Tactic.Lemma
import ScopedAuth.Glob.Match
import ScopedAuth.Proofs.Outcome

/-!
# Patterns that begin with plain text

Characters without a meaning of their own stand for themselves.  A pattern that begins with such
characters matches only texts that begin with the very same ones
(`Pattern.exists_eq_append_of_matches`), whatever the rest of the pattern is.
-/

namespace ScopedAuth.Glob

/-- A character has no meaning of its own in a pattern. -/
def IsPlain (c : Char) : Prop :=
  c ≠ '?' ∧ c ≠ '*' ∧ c ≠ '['

instance : DecidablePred IsPlain :=
  fun c => inferInstanceAs (Decidable (c ≠ '?' ∧ c ≠ '*' ∧ c ≠ '['))

/-- A plain character is read as itself. -/
lemma readTokens_cons_of_isPlain {c : Char} (hc : IsPlain c) (position : Nat) (atStart : Bool)
    (rest : List Char) :
    readTokens position atStart (c :: rest) =
      (readTokens (position + 1) (c = '/') rest).map (.literal c :: ·) := by
  obtain ⟨hquestion, hasterisk, hbracket⟩ := hc
  rw [readTokens]
  all_goals simp_all

/-- Plain characters at the beginning are read as themselves, if the pattern can be read at all. -/
lemma exists_readTokens_append {before : List Char} (hbefore : ∀ c ∈ before, IsPlain c)
    {position : Nat} {atStart : Bool} {rest : List Char} {tokens : List Token}
    (h : readTokens position atStart (before ++ rest) = .ok tokens) :
    ∃ later, tokens = before.map .literal ++ later := by
  induction before generalizing position atStart tokens with
  | nil => exact ⟨tokens, rfl⟩
  | cons c before ih =>
    obtain ⟨hc, hmore⟩ := List.forall_mem_cons.mp hbefore
    rw [List.cons_append, readTokens_cons_of_isPlain hc] at h
    cases hread : readTokens (position + 1) (c = '/') (before ++ rest) with
    | error error =>
      rw [hread] at h
      exact nomatch h
    | ok read =>
      rw [hread] at h
      obtain ⟨later, rfl⟩ := ih hmore hread
      exact ⟨later, (Except.ok.inj h).symm⟩

/-- A text that matches tokens which begin with characters begins with these characters. -/
lemma exists_eq_append_of_matchTokens {before : List Char} {tokens : List Token}
    {text : List Char} (h : matchTokens (before.map .literal ++ tokens) text = .found) :
    ∃ rest, text = before ++ rest ∧ matchTokens tokens rest = .found := by
  induction before generalizing text with
  | nil => exact ⟨text, rfl, h⟩
  | cons c before ih =>
    cases text with
    | nil => exact nomatch h
    | cons d more =>
      rw [List.map_cons, List.cons_append] at h
      change (if Token.takes (.literal c) d then _ else Verdict.differs) = .found at h
      by_cases htakes : Token.takes (.literal c) d = true
      · rw [if_pos htakes] at h
        obtain ⟨rest, rfl, hrest⟩ := ih h
        have heq : d = c := of_decide_eq_true htakes
        exact ⟨rest, congrArg (· :: _) heq, hrest⟩
      · rw [if_neg htakes] at h
        exact nomatch h

/-- A text that matches a pattern begins with the plain characters that the pattern begins with. -/
lemma Pattern.exists_eq_append_of_matches {before rest : List Char}
    (hbefore : ∀ c ∈ before, IsPlain c) {pattern : Pattern}
    {source : String} (hsource : source.toList = before ++ rest)
    (hparse : Pattern.parse source = .ok pattern) {text : String}
    (h : pattern.matches text = true) : ∃ more, text.toList = before ++ more := by
  rw [Pattern.parse, hsource] at hparse
  cases hread : readTokens 0 true (before ++ rest) with
  | error error =>
    rw [hread] at hparse
    exact nomatch hparse
  | ok tokens =>
    rw [hread] at hparse
    obtain ⟨later, htokens⟩ := exists_readTokens_append hbefore hread
    rw [← Except.ok.inj hparse, Pattern.matches, decide_eq_true_eq, htokens] at h
    obtain ⟨more, hmore, -⟩ := exists_eq_append_of_matchTokens h
    exact ⟨more, hmore⟩

end ScopedAuth.Glob
