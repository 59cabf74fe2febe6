import ScopedAuth.Proofs.Config.Resolution
import ScopedAuth.Proofs.Glob.Wildcards

/-!
# The first pattern that matches answers

Patterns are added one after the other, and some of them may be refused.  A refused one leaves no
trace, and of the others the first that matches a target answers for it, so that later patterns only
ever answer for targets that nothing answered for before (`PatternList.find?_attemptAll`).

Patterns whose only wildcards are question marks and single asterisks are never refused, and what
they match is what they spell.
-/

namespace ScopedAuth

namespace Glob

/-- Only a pattern that can be read matches anything. -/
lemma accepts_of_parse {pattern : String} {parsed : Pattern}
    (h : Pattern.parse pattern = .ok parsed) (text : String) :
    accepts pattern text = parsed.matches text := by
  rw [accepts, h]

/-- A pattern that cannot be read matches nothing. -/
lemma accepts_of_parse_eq_error {pattern : String} {error : PatternError}
    (h : Pattern.parse pattern = .error error) (text : String) : accepts pattern text = false := by
  rw [accepts, h]

/-- A pattern without brackets and double asterisks matches exactly what it spells. -/
lemma IsSimple.accepts_iff {pattern : String} (h : IsSimple pattern.toList) (text : String) :
    accepts pattern text = true ↔ Spells pattern.toList text.toList := by
  have hcomponents : Token.anyComponents ∉ pattern.toList.map Token.ofChar := by
    intro hmem
    obtain ⟨c, -, hc⟩ := List.mem_map.mp hmem
    exact Token.ofChar_ne_anyComponents c hc
  rw [accepts_of_parse h.parse_eq_ok, Pattern.matches, decide_eq_true_eq,
    matchTokens_eq_found_iff hcomponents, standFor_map_ofChar_iff]

/-- A pattern without any wildcards is not refused, and it matches its own text only. -/
lemma accepts_iff_eq {pattern : String} (h : IsSimple pattern.toList)
    (hquestion : '?' ∉ pattern.toList) (hasterisk : '*' ∉ pattern.toList) (text : String) :
    accepts pattern text = true ↔ text = pattern := by
  rw [h.accepts_iff, spells_iff_eq hquestion hasterisk, String.toList_inj]

end Glob

namespace PatternList

/-- A list of patterns after an attempt to add one, which may be refused. -/
def attempt (list : PatternList) (call : String × Credential) : PatternList :=
  match list.add call.1 call.2 with
  | .ok longer => longer
  | .error _ => list

/-- The list of patterns after a sequence of attempts. -/
def attemptAll (calls : List (String × Credential)) : PatternList :=
  calls.foldl attempt empty

/-- Whether a pattern is added depends on the pattern alone. -/
lemma add_eq (list : PatternList) (pattern : String) (credential : Credential) :
    list.add pattern credential = (Glob.Pattern.parse pattern).map fun parsed =>
      ⟨list.items ++ [(parsed, credential)]⟩ := by
  rw [add]
  cases Glob.Pattern.parse pattern with
  | ok parsed => rfl
  | error error => rfl

/-- What is refused for one list is refused for all, and changes none of them. -/
lemma attempt_of_add_eq_error {list : PatternList} {pattern : String} {credential : Credential}
    {error : Glob.PatternError} (h : list.add pattern credential = .error error) :
    list.attempt (pattern, credential) = list := by
  rw [attempt, h]

/-- One attempt: the pattern is added, or the list stays as it is. -/
lemma attempt_cases (list : PatternList) (call : String × Credential) :
    (∃ parsed, Glob.Pattern.parse call.1 = .ok parsed ∧
      list.add call.1 call.2 = .ok (list.attempt call) ∧
      (list.attempt call).items = list.items ++ [(parsed, call.2)]) ∨
    (∃ error, Glob.Pattern.parse call.1 = .error error ∧ list.attempt call = list) := by
  rw [attempt, add_eq]
  cases hparse : Glob.Pattern.parse call.1 with
  | ok parsed => exact Or.inl ⟨parsed, rfl, rfl, rfl⟩
  | error error => exact Or.inr ⟨error, rfl, rfl⟩

/-- After an attempt the answers are those from before and, for targets without one, the credential
of the attempt if its pattern matches. -/
lemma find?_attempt (list : PatternList) (call : String × Credential) (target : Target) :
    (list.attempt call).find? target =
      (list.find? target).or
        (if Glob.accepts call.1 target.text then some call.2 else none) := by
  rcases list.attempt_cases call with ⟨parsed, -, hadd, -⟩ | ⟨error, hparse, hattempt⟩
  · exact find?_add hadd target
  · rw [hattempt, Glob.accepts_of_parse_eq_error hparse, if_neg Bool.false_ne_true, Option.or_none]

/-- After a sequence of attempts the answers are those from before and, for targets without one,
that of the first pattern which matches. -/
lemma find?_foldl_attempt (list : PatternList) (calls : List (String × Credential))
    (target : Target) :
    (calls.foldl attempt list).find? target =
      (list.find? target).or
        ((calls.find? fun call => Glob.accepts call.1 target.text).map (·.2)) := by
  induction calls generalizing list with
  | nil => exact (Option.or_none).symm
  | cons call rest ih =>
    rw [List.foldl_cons, ih, find?_attempt, Option.or_assoc, List.find?_cons]
    by_cases haccepts : Glob.accepts call.1 target.text = true
    · rw [if_pos haccepts, haccepts, Option.some_or]
      rfl
    · rw [if_neg haccepts, Bool.eq_false_iff.mpr haccepts, Option.none_or]

/-- After a sequence of attempts there are as many patterns more as were not refused. -/
lemma size_foldl_attempt (list : PatternList) (calls : List (String × Credential)) :
    (calls.foldl attempt list).size =
      list.size + calls.countP fun call => (Glob.Pattern.parse call.1).isOk := by
  induction calls generalizing list with
  | nil => rfl
  | cons call rest ih =>
    rw [List.foldl_cons, ih, List.countP_cons]
    rcases list.attempt_cases call with ⟨parsed, hparse, -, hitems⟩ | ⟨error, hparse, hattempt⟩
    · have hone : (list.attempt call).size = list.size + 1 := by
        rw [size, hitems, List.length_append, List.length_singleton, size]
      have hok : (Glob.Pattern.parse call.1).isOk = true := isOk_iff.mpr ⟨parsed, hparse⟩
      rw [hone, hok, if_pos rfl]
      omega
    · have hrefused : (Glob.Pattern.parse call.1).isOk = false := by
        rw [hparse]
        rfl
      rw [hattempt, hrefused, if_neg Bool.false_ne_true, Nat.add_zero]

/-- Patterns are tried in the order in which they were added.  A refused attempt is as good as none,
the others are counted, and the first pattern that matches a target answers for it; an answer that
is there never changes when patterns are added.  A pattern whose only wildcards are question marks
and single asterisks is never refused, and it matches exactly the texts that it spells, which for a
pattern without wildcards is its own text alone. -/
theorem find?_attemptAll (calls : List (String × Credential)) :
    (∀ before pattern credential after error, calls = before ++ (pattern, credential) :: after →
      (attemptAll before).add pattern credential = .error error →
      attemptAll calls = attemptAll (before ++ after)) ∧
    (attemptAll calls).size = calls.countP (fun call => (Glob.Pattern.parse call.1).isOk) ∧
    (∀ target, (attemptAll calls).find? target =
      (calls.find? fun call => Glob.accepts call.1 target.text).map (·.2)) ∧
    (∀ target credential more, (attemptAll calls).find? target = some credential →
      (attemptAll (calls ++ more)).find? target = some credential) ∧
    ∀ pattern : String, Glob.IsSimple pattern.toList →
      (∀ list credential, ∃ longer, PatternList.add list pattern credential = .ok longer) ∧
      (∀ text, Glob.accepts pattern text = true ↔ Glob.Spells pattern.toList text.toList) ∧
      ('?' ∉ pattern.toList → '*' ∉ pattern.toList →
        ∀ target : Target, Glob.accepts pattern target.text = true ↔ target.text = pattern) := by
  have hfind : ∀ calls target, (attemptAll calls).find? target =
      (calls.find? fun call => Glob.accepts call.1 target.text).map (·.2) :=
    fun calls target => find?_foldl_attempt empty calls target
  refine ⟨?_, ?_, hfind calls, ?_, ?_⟩
  · rintro before pattern credential after error rfl hrefused
    rw [attemptAll, attemptAll, List.foldl_append, List.foldl_append, List.foldl_cons]
    have hskip : (attemptAll before).attempt (pattern, credential) = attemptAll before :=
      attempt_of_add_eq_error hrefused
    rw [attemptAll] at hskip
    rw [hskip]
  · rw [attemptAll, size_foldl_attempt]
    exact Nat.zero_add _
  · intro target credential more hanswer
    rw [hfind] at hanswer ⊢
    rw [List.find?_append, Option.map_or, hanswer, Option.some_or]
  · intro pattern hsimple
    refine ⟨fun list credential => ?_, hsimple.accepts_iff, fun hquestion hasterisk target => ?_⟩
    · rw [add_eq, hsimple.parse_eq_ok]
      exact ⟨_, rfl⟩
    · exact Glob.accepts_iff_eq hsimple hquestion hasterisk target.text

/-- Attempts to add four patterns, of which the first opens a class that is not closed. -/
def sampleAttempts : List (String × Credential) :=
  [("https://[", .basic ⟨"nobody", ⟨"pw"⟩⟩), ("https://*.example/?", .basic ⟨"short", ⟨"pw"⟩⟩),
    ("https://*.example/*", .basic ⟨"any", ⟨"pw"⟩⟩), ("urn:a", .basic ⟨"exact", ⟨"pw"⟩⟩)]

/-- The first pattern leaves no trace.  Of the two that match, the earlier answers, although its
asterisk has to take more than it can at first, and it goes on to do so. -/
theorem find?_attemptAll_sampleAttempts :
    (∃ error, (attemptAll []).add "https://[" (.basic ⟨"nobody", ⟨"pw"⟩⟩) = .error error ∧
      attemptAll sampleAttempts = attemptAll (sampleAttempts.drop 1)) ∧
    (attemptAll sampleAttempts).size = 3 ∧
    (∀ target : Target, target.text = "https://a.example/.example/x" →
      (attemptAll sampleAttempts).find? target = some (.basic ⟨"short", ⟨"pw"⟩⟩) ∧
      (attemptAll (sampleAttempts ++ sampleAttempts)).find? target =
        some (.basic ⟨"short", ⟨"pw"⟩⟩)) ∧
    Glob.IsSimple "https://*.example/?".toList ∧
    Glob.Spells "https://*.example/?".toList "https://a.example/.example/x".toList ∧
    (Glob.IsSimple "urn:a".toList ∧ '?' ∉ "urn:a".toList ∧ '*' ∉ "urn:a".toList) ∧
    ∀ target : Target, Glob.accepts "urn:a" target.text = true ↔ target.text = "urn:a" := by
  obtain ⟨hskip, hsize, hfind, hkeep, hsimple⟩ := find?_attemptAll sampleAttempts
  have hstars : Glob.IsSimple "https://*.example/?".toList := ⟨by decide, by decide⟩
  have hplain : Glob.IsSimple "urn:a".toList := ⟨by decide, by decide⟩
  have hquestion : '?' ∉ "urn:a".toList := by decide
  have hasterisk : '*' ∉ "urn:a".toList := by decide
  have hunclosed : Glob.Pattern.parse "https://[" = .error ⟨8, .range⟩ := by decide +kernel
  have hrefused : (attemptAll []).add "https://[" (.basic ⟨"nobody", ⟨"pw"⟩⟩) =
      .error ⟨8, .range⟩ := by
    rw [add_eq, hunclosed, Except.map]
  refine ⟨⟨_, hrefused, hskip [] _ _ _ _ rfl hrefused⟩, ?_, ?_, hstars, ?_,
    ⟨hplain, hquestion, hasterisk⟩, (hsimple _ hplain).2.2 hquestion hasterisk⟩
  · rw [hsize]
    decide +kernel
  · intro target htext
    have hanswer : (attemptAll sampleAttempts).find? target =
        some (.basic ⟨"short", ⟨"pw"⟩⟩) := by
      rw [hfind, htext]
      decide +kernel
    exact ⟨hanswer, hkeep target _ _ hanswer⟩
  · exact ((hsimple _ hstars).2.1 _).mp (by decide +kernel)

end PatternList

end ScopedAuth
