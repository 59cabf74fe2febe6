import Mathlib.Data.List.Infix
import ScopedAuth.Proofs.Glob.Literal

/-!
# The language of a pattern

A question mark stands for any one character, an asterisk for any run of them, and every other
character for itself.  `Spells` says so for the text of a pattern and `StandFor` for its tokens, and
the matcher finds exactly the texts that it says (`matchTokens_eq_found_iff`,
`standFor_map_ofChar_iff`).

The matcher gives up altogether as soon as the text ends before the tokens do.  What makes this
sound is that then no ending of the text fits the tokens either, so that an asterisk in front of
them could not be of any help by taking more (`Verdict.Says`).
-/

namespace ScopedAuth.Glob

/-! ### Tokens -/

/-- A text is put together from one piece for each token: one character that the token takes, or any
run of characters for an asterisk.  Runs of components are left out. -/
inductive StandFor : List Token → List Char → Prop
  | nil : StandFor [] []
  | one {token : Token} {c : Char} {tokens : List Token} {rest : List Char}
    (htakes : token.takes c = true) (hrest : StandFor tokens rest) :
    StandFor (token :: tokens) (c :: rest)
  | run {tokens : List Token} {rest : List Char} (skipped : List Char)
    (hrest : StandFor tokens rest) : StandFor (.anyRun :: tokens) (skipped ++ rest)

/-- No tokens stand for the empty text only. -/
lemma standFor_nil_iff {text : List Char} : StandFor [] text ↔ text = [] := by
  constructor
  · intro h
    cases h
    rfl
  · rintro rfl
    exact .nil

/-- With an asterisk in front, tokens stand for the texts of which they stand for an ending. -/
lemma standFor_anyRun_iff {tokens : List Token} {text : List Char} :
    StandFor (.anyRun :: tokens) text ↔ ∃ rest, rest <:+ text ∧ StandFor tokens rest := by
  constructor
  · intro h
    cases h with
    | one htakes => exact nomatch htakes
    | run skipped hrest => exact ⟨_, ⟨skipped, rfl⟩, hrest⟩
  · rintro ⟨rest, ⟨skipped, rfl⟩, hrest⟩
    exact .run skipped hrest

/-- Any other token takes the first character of the text. -/
lemma standFor_cons_iff {token : Token} (htoken : token ≠ .anyRun) {tokens : List Token}
    {text : List Char} :
    StandFor (token :: tokens) text ↔
      ∃ c rest, text = c :: rest ∧ token.takes c = true ∧ StandFor tokens rest := by
  constructor
  · intro h
    cases h with
    | one htakes hrest => exact ⟨_, _, rfl, htakes, hrest⟩
    | run => exact absurd rfl htoken
  · rintro ⟨c, rest, rfl, htakes, hrest⟩
    exact .one htakes hrest

/-- What a verdict says about tokens and a text. -/
def Verdict.Says (tokens : List Token) (text : List Char) : Verdict → Prop
  | .found => StandFor tokens text
  | .differs => ¬ StandFor tokens text
  | .exhausted => ∀ rest, rest <:+ text → ¬ StandFor tokens rest

/-- A verdict other than that the text differs is the same with an asterisk in front. -/
lemma Verdict.Says.anyRun {tokens : List Token} {text : List Char} {verdict : Verdict}
    (h : verdict.Says tokens text) (hdiffers : verdict ≠ .differs) :
    verdict.Says (.anyRun :: tokens) text := by
  cases verdict with
  | found => exact standFor_anyRun_iff.mpr ⟨text, List.suffix_rfl, h⟩
  | differs => exact absurd rfl hdiffers
  | exhausted =>
    intro ending hending hrun
    obtain ⟨rest, hsuffix, hrest⟩ := standFor_anyRun_iff.mp hrun
    exact h rest (hsuffix.trans hending) hrest

/-- Where the tokens do not fit the whole text, it makes no difference to an asterisk in front of
them whether it skips the first character. -/
lemma standFor_anyRun_of_not_standFor {tokens : List Token} {c : Char} {text : List Char}
    (hwhole : ¬ StandFor tokens (c :: text)) (h : StandFor (.anyRun :: tokens) (c :: text)) :
    StandFor (.anyRun :: tokens) text := by
  obtain ⟨rest, hsuffix, hrest⟩ := standFor_anyRun_iff.mp h
  rcases List.suffix_cons_iff.mp hsuffix with rfl | hsuffix
  · exact absurd hrest hwhole
  · exact standFor_anyRun_iff.mpr ⟨rest, hsuffix, hrest⟩

/-- If the verdicts on tokens can be relied on, so can those that come of trying them behind an
asterisk. -/
lemma says_tryRuns {tokens : List Token} {next : List Char → Verdict}
    (hnext : ∀ text, (next text).Says tokens text) (text : List Char) :
    (tryRuns next text).Says (.anyRun :: tokens) text := by
  induction text with
  | nil =>
    have hsaid := hnext []
    rw [tryRuns]
    by_cases hdiffers : next [] = .differs
    · rw [hdiffers] at hsaid ⊢
      intro h
      obtain ⟨rest, hsuffix, hrest⟩ := standFor_anyRun_iff.mp h
      rw [List.suffix_nil.mp hsuffix] at hrest
      exact hsaid hrest
    · exact hsaid.anyRun hdiffers
  | cons c text ih =>
    have hsaid := hnext (c :: text)
    by_cases hdiffers : next (c :: text) = .differs
    -- The tokens do not fit the whole text, and so the verdict is that on the text behind `c`.
    · rw [hdiffers] at hsaid
      have hlater : tryRuns next (c :: text) = tryRuns next text := by rw [tryRuns, hdiffers]
      rw [hlater]
      cases hverdict : tryRuns next text with
      | found =>
        rw [hverdict] at ih
        obtain ⟨rest, hsuffix, hrest⟩ := standFor_anyRun_iff.mp ih
        exact standFor_anyRun_iff.mpr ⟨rest, hsuffix.trans (List.suffix_cons c text), hrest⟩
      | differs =>
        rw [hverdict] at ih
        intro h
        exact ih (standFor_anyRun_of_not_standFor hsaid h)
      | exhausted =>
        rw [hverdict] at ih
        intro ending hending h
        rcases List.suffix_cons_iff.mp hending with rfl | hending
        · exact ih text List.suffix_rfl (standFor_anyRun_of_not_standFor hsaid h)
        · exact ih ending hending h
    -- Any other verdict ends the search at once.
    · have hstop : tryRuns next (c :: text) = next (c :: text) := by
        rw [tryRuns]
        split
        · next heq => exact absurd heq hdiffers
        · rfl
      rw [hstop]
      exact hsaid.anyRun hdiffers

/-- A token that takes one character and then others. -/
lemma matchTokens_cons_cons {token : Token} (hrun : token ≠ .anyRun)
    (hcomponents : token ≠ .anyComponents) (tokens : List Token) (c : Char) (text : List Char) :
    matchTokens (token :: tokens) (c :: text) =
      if token.takes c then matchTokens tokens text else .differs := by
  rw [matchTokens]
  · exact hrun
  · exact hcomponents

/-- The verdict of the matcher can be relied on, as long as there are no runs of components. -/
lemma says_matchTokens {tokens : List Token} (htokens : .anyComponents ∉ tokens)
    (text : List Char) : (matchTokens tokens text).Says tokens text := by
  induction tokens generalizing text with
  | nil =>
    cases text with
    | nil => exact .nil
    | cons c text => exact fun h => List.cons_ne_nil c text (standFor_nil_iff.mp h)
  | cons token tokens ih =>
    obtain ⟨hcomponents, hmore⟩ := List.ne_and_not_mem_of_not_mem_cons htokens
    by_cases hrun : token = .anyRun
    · subst hrun
      rw [matchTokens]
      exact says_tryRuns (ih hmore) text
    · cases text with
      | nil =>
        have hexhausted : matchTokens (token :: tokens) [] = .exhausted := by
          rw [matchTokens]
          · exact hrun
          · exact hcomponents.symm
        rw [hexhausted]
        intro ending hending h
        obtain ⟨c, rest, rfl, -⟩ := (standFor_cons_iff hrun).mp h
        exact List.cons_ne_nil c rest (List.suffix_nil.mp hending)
      | cons c text =>
        rw [matchTokens_cons_cons hrun hcomponents.symm]
        by_cases htakes : token.takes c = true
        · rw [if_pos htakes]
          have hsaid := ih hmore text
          cases hverdict : matchTokens tokens text with
          | found =>
            rw [hverdict] at hsaid
            exact .one htakes hsaid
          | differs =>
            rw [hverdict] at hsaid
            intro h
            obtain ⟨d, rest, heq, -, hrest⟩ := (standFor_cons_iff hrun).mp h
            rw [(List.cons.inj heq).2] at hsaid
            exact hsaid hrest
          | exhausted =>
            rw [hverdict] at hsaid
            intro ending hending h
            obtain ⟨d, rest, rfl, -, hrest⟩ := (standFor_cons_iff hrun).mp h
            refine hsaid rest ?_ hrest
            rcases List.suffix_cons_iff.mp hending with heq | hending
            · rw [(List.cons.inj heq).2]
            · exact (List.suffix_cons d rest).trans hending
        · rw [if_neg htakes]
          intro h
          obtain ⟨d, rest, heq, hd, -⟩ := (standFor_cons_iff hrun).mp h
          rw [(List.cons.inj heq).1] at htakes
          exact htakes hd

/-- The matcher finds the texts that the tokens stand for, and no others. -/
lemma matchTokens_eq_found_iff {tokens : List Token} (htokens : .anyComponents ∉ tokens)
    {text : List Char} : matchTokens tokens text = .found ↔ StandFor tokens text := by
  have hsaid := says_matchTokens htokens text
  cases hverdict : matchTokens tokens text with
  | found =>
    rw [hverdict] at hsaid
    exact iff_of_true rfl hsaid
  | differs =>
    rw [hverdict] at hsaid
    exact iff_of_false (nomatch ·) hsaid
  | exhausted =>
    rw [hverdict] at hsaid
    exact iff_of_false (nomatch ·) (hsaid text List.suffix_rfl)

/-! ### Patterns without brackets and double asterisks -/

/-- A text is put together from one piece for each character of a pattern: any character for a
question mark, any run of characters for an asterisk, and otherwise the character itself. -/
inductive Spells : List Char → List Char → Prop
  | nil : Spells [] []
  | literal {c : Char} {pattern text : List Char} (hquestion : c ≠ '?') (hasterisk : c ≠ '*')
    (h : Spells pattern text) : Spells (c :: pattern) (c :: text)
  | question {pattern text : List Char} (c : Char) (h : Spells pattern text) :
    Spells ('?' :: pattern) (c :: text)
  | asterisk {pattern text : List Char} (run : List Char) (h : Spells pattern text) :
    Spells ('*' :: pattern) (run ++ text)

/-- A pattern opens no class, and it has no two asterisks in a row. -/
structure IsSimple (pattern : List Char) : Prop where
  not_mem : '[' ∉ pattern
  not_infix : ¬ ['*', '*'] <:+: pattern

/-- The token for a character of such a pattern. -/
def Token.ofChar (c : Char) : Token :=
  if c = '?' then .anyChar else if c = '*' then .anyRun else .literal c

/-- A question mark is read as any character. -/
lemma Token.ofChar_question : Token.ofChar '?' = .anyChar :=
  rfl

/-- An asterisk is read as any run of characters. -/
lemma Token.ofChar_asterisk : Token.ofChar '*' = .anyRun :=
  rfl

/-- A plain character is read as itself. -/
lemma Token.ofChar_of_isPlain {c : Char} (hc : IsPlain c) : Token.ofChar c = .literal c := by
  rw [ofChar, if_neg hc.1, if_neg hc.2.1]

/-- No character is read as a run of components. -/
lemma Token.ofChar_ne_anyComponents (c : Char) : Token.ofChar c ≠ .anyComponents := by
  rw [ofChar]
  split_ifs <;> exact nofun

/-- What is left of such a pattern is such a pattern. -/
lemma IsSimple.of_cons {c : Char} {pattern : List Char} (h : IsSimple (c :: pattern)) :
    IsSimple pattern :=
  ⟨List.not_mem_of_not_mem_cons h.not_mem,
    fun hadjacent => h.not_infix (hadjacent.trans (List.suffix_cons c pattern).isInfix)⟩

/-- An asterisk may stand in front of such a pattern that does not begin with one. -/
lemma IsSimple.cons_asterisk {pattern : List Char} (h : IsSimple pattern)
    (hnext : pattern.head? ≠ some '*') : IsSimple ('*' :: pattern) := by
  refine ⟨?_, fun hadjacent => ?_⟩
  · rw [List.mem_cons, not_or]
    exact ⟨by decide, h.not_mem⟩
  · rcases List.infix_cons_iff.mp hadjacent with ⟨rest, hrest⟩ | hadjacent
    · obtain ⟨-, rfl⟩ := List.cons.inj hrest
      exact hnext rfl
    · exact h.not_infix hadjacent

/-- Plain characters may stand in front of such a pattern. -/
lemma IsSimple.append {before pattern : List Char} (hbefore : ∀ c ∈ before, IsPlain c)
    (h : IsSimple pattern) : IsSimple (before ++ pattern) := by
  induction before with
  | nil => exact h
  | cons c before ih =>
    obtain ⟨hc, hbefore⟩ := List.forall_mem_cons.mp hbefore
    have hmore := ih hbefore
    refine ⟨?_, fun hadjacent => ?_⟩
    · rw [List.cons_append, List.mem_cons, not_or]
      exact ⟨hc.2.2.symm, hmore.not_mem⟩
    · rcases List.infix_cons_iff.mp hadjacent with ⟨rest, hrest⟩ | hadjacent
      · exact hc.2.1 (List.cons.inj hrest).1.symm
      · exact hmore.not_infix hadjacent

/-- An asterisk is read as such where no second one follows. -/
lemma readTokens_cons_asterisk {rest : List Char} (hrest : rest.head? ≠ some '*')
    (position : Nat) (atStart : Bool) :
    readTokens position atStart ('*' :: rest) =
      (readTokens (position + 1) false rest).map (.anyRun :: ·) := by
  rw [readTokens]
  · rintro more rfl
    exact hrest rfl
  · rintro more rfl
    exact hrest rfl

/-- Such a pattern can be read, and each of its characters is read by itself. -/
lemma IsSimple.readTokens_eq {pattern : List Char} (h : IsSimple pattern) (position : Nat)
    (atStart : Bool) :
    readTokens position atStart pattern = .ok (pattern.map Token.ofChar) := by
  induction pattern generalizing position atStart with
  | nil => rw [readTokens, List.map_nil]
  | cons c pattern ih =>
    have hmore := ih h.of_cons
    by_cases hquestion : c = '?'
    · subst hquestion
      rw [readTokens, hmore]
      rfl
    · by_cases hasterisk : c = '*'
      · subst hasterisk
        have hnext : pattern.head? ≠ some '*' := by
          intro hhead
          obtain ⟨more, rfl⟩ := List.head?_eq_some_iff.mp hhead
          exact h.not_infix (List.prefix_append ['*', '*'] more).isInfix
        rw [readTokens_cons_asterisk hnext, hmore]
        rfl
      · have hbracket : c ≠ '[' := fun heq => h.not_mem (heq ▸ List.mem_cons_self)
        have hc : IsPlain c := ⟨hquestion, hasterisk, hbracket⟩
        rw [readTokens_cons_of_isPlain hc, hmore, List.map_cons, Token.ofChar_of_isPlain hc]
        rfl

/-- The tokens of a pattern stand for what the pattern spells. -/
lemma standFor_map_ofChar_iff {pattern text : List Char} :
    StandFor (pattern.map Token.ofChar) text ↔ Spells pattern text := by
  induction pattern generalizing text with
  | nil =>
    rw [List.map_nil, standFor_nil_iff]
    constructor
    · rintro rfl
      exact .nil
    · intro h
      cases h
      rfl
  | cons c pattern ih =>
    rw [List.map_cons]
    constructor
    · intro h
      by_cases hquestion : c = '?'
      · subst hquestion
        rw [Token.ofChar_question, standFor_cons_iff (by decide)] at h
        obtain ⟨d, rest, rfl, -, hrest⟩ := h
        exact .question d (ih.mp hrest)
      · by_cases hasterisk : c = '*'
        · subst hasterisk
          rw [Token.ofChar_asterisk, standFor_anyRun_iff] at h
          obtain ⟨rest, ⟨run, rfl⟩, hrest⟩ := h
          exact .asterisk run (ih.mp hrest)
        · rw [Token.ofChar, if_neg hquestion, if_neg hasterisk,
            standFor_cons_iff Token.noConfusion] at h
          obtain ⟨d, rest, rfl, htakes, hrest⟩ := h
          obtain rfl : d = c := of_decide_eq_true htakes
          exact .literal hquestion hasterisk (ih.mp hrest)
    · intro h
      cases h with
      | literal hquestion hasterisk h =>
        rw [Token.ofChar, if_neg hquestion, if_neg hasterisk]
        exact .one (decide_eq_true rfl) (ih.mpr h)
      | question d h => exact .one rfl (ih.mpr h)
      | asterisk run h => exact .run run (ih.mpr h)

/-- Such a pattern is accepted. -/
lemma IsSimple.parse_eq_ok {pattern : String} (h : IsSimple pattern.toList) :
    Pattern.parse pattern = .ok ⟨pattern.toList.map Token.ofChar⟩ := by
  rw [Pattern.parse, h.readTokens_eq]
  rfl

/-- A pattern without wildcards spells only itself. -/
lemma spells_iff_eq {pattern text : List Char} (hquestion : '?' ∉ pattern)
    (hasterisk : '*' ∉ pattern) : Spells pattern text ↔ text = pattern := by
  induction pattern generalizing text with
  | nil =>
    rw [← standFor_map_ofChar_iff]
    exact standFor_nil_iff
  | cons c pattern ih =>
    obtain ⟨hcQuestion, hquestion⟩ := List.ne_and_not_mem_of_not_mem_cons hquestion
    obtain ⟨hcAsterisk, hasterisk⟩ := List.ne_and_not_mem_of_not_mem_cons hasterisk
    constructor
    · intro h
      cases h with
      | literal _ _ h => rw [(ih hquestion hasterisk).mp h]
      | question => exact absurd rfl hcQuestion
      | asterisk => exact absurd rfl hcAsterisk
    · rintro rfl
      exact .literal hcQuestion.symm hcAsterisk.symm ((ih hquestion hasterisk).mpr rfl)

/-- Plain characters at the beginning of a pattern spell themselves. -/
lemma spells_append_iff {before pattern text : List Char} (hbefore : ∀ c ∈ before, IsPlain c) :
    Spells (before ++ pattern) text ↔ ∃ rest, text = before ++ rest ∧ Spells pattern rest := by
  induction before generalizing text with
  | nil =>
    constructor
    · exact fun h => ⟨text, rfl, h⟩
    · rintro ⟨rest, rfl, h⟩
      exact h
  | cons c before ih =>
    obtain ⟨hc, hbefore⟩ := List.forall_mem_cons.mp hbefore
    constructor
    · intro h
      cases h with
      | literal _ _ h =>
        obtain ⟨rest, rfl, hrest⟩ := (ih hbefore).mp h
        exact ⟨rest, rfl, hrest⟩
      | question => exact absurd rfl hc.1
      | asterisk => exact absurd rfl hc.2.1
    · rintro ⟨rest, rfl, hrest⟩
      exact .literal hc.1 hc.2.1 ((ih hbefore).mpr ⟨rest, rfl, hrest⟩)

/-- An asterisk at the beginning of a pattern spells any run of characters. -/
lemma spells_asterisk_iff {pattern text : List Char} :
    Spells ('*' :: pattern) text ↔ ∃ run rest, text = run ++ rest ∧ Spells pattern rest := by
  constructor
  · intro h
    cases h with
    | literal _ hasterisk => exact absurd rfl hasterisk
    | asterisk run h => exact ⟨run, _, rfl, h⟩
  · rintro ⟨run, rest, rfl, h⟩
    exact .asterisk run h

end ScopedAuth.Glob
