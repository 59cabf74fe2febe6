/-!
# Glob patterns

A pattern stands for the texts that it matches.  A question mark is any one character, an asterisk
any run of characters, a class in brackets any character that it lists or, behind an exclamation
mark, does not list.  Two asterisks that form a whole path component are any run of components.
-/

namespace ScopedAuth.Glob

/-- What a class lists: single characters and ranges of them. -/
inductive ClassItem where
  | single (c : Char)
  | range (first last : Char)
  deriving DecidableEq

/-- Whether an item lists a character. -/
def ClassItem.lists : ClassItem → Char → Bool
  | .single d, c => c = d
  | .range first last, c => first ≤ c && c ≤ last

/-- A part of a pattern. -/
inductive Token where
  | literal (c : Char)
  | anyChar
  | anyRun
  | anyComponents
  | oneOf (items : List ClassItem)
  | noneOf (items : List ClassItem)
  deriving DecidableEq

/-- What is wrong with a pattern. -/
inductive Fault where
  /-- Three or more asterisks in a row. -/
  | wildcards
  /-- Two asterisks that are not a whole component. -/
  | recursion
  /-- A bracket that opens no class. -/
  | range
  deriving DecidableEq

/-- The wording of a fault. -/
def Fault.message : Fault → String
  | .wildcards => "wildcards are either regular `*` or recursive `**`"
  | .recursion => "recursive wildcards must form a single path component"
  | .range => "invalid range pattern"

/-- A fault and the position, in characters, near which it is. -/
structure PatternError where
  position : Nat
  fault : Fault
  deriving DecidableEq

/-- The wording of an error. -/
def PatternError.message (error : PatternError) : String :=
  "Pattern syntax error near position " ++ toString error.position ++ ": " ++ error.fault.message

/-- A sequence of tokens that a text matches from one end to the other. -/
structure Pattern where
  tokens : List Token
  deriving DecidableEq

/-! ### Reading patterns -/

/-- Reads the inside of a class; a hyphen between two characters makes a range. -/
def readItems : List Char → List ClassItem
  | first :: '-' :: last :: rest => .range first last :: readItems rest
  | c :: rest => .single c :: readItems rest
  | [] => []

/-- Splits behind the first closing bracket that is not the first character. -/
def splitClass? : List Char → Option (List Char × List Char)
  | [] => none
  | c :: rest =>
    match rest.dropWhile (· != ']') with
    | [] => none
    | _ :: behind => some (c :: rest.takeWhile (· != ']'), behind)

/-- Reads a class behind its opening bracket; gives the token, how many characters it took and what
follows. -/
def readClass? : List Char → Option (Token × Nat × List Char)
  | '!' :: rest =>
    (splitClass? rest).map fun (inside, behind) =>
      (.noneOf (readItems inside), inside.length + 2, behind)
  | rest =>
    (splitClass? rest).map fun (inside, behind) =>
      (.oneOf (readItems inside), inside.length + 1, behind)

/-- What follows a class is shorter than what its closing bracket was looked for in. -/
theorem length_lt_of_splitClass? {text inside behind : List Char}
    (h : splitClass? text = some (inside, behind)) : behind.length < text.length := by
  unfold splitClass? at h
  split at h
  · exact nomatch h
  · next c rest =>
    split at h
    · exact nomatch h
    · next bracket after hdrop =>
      obtain ⟨-, rfl⟩ := Prod.mk.inj (Option.some.inj h)
      have hle := (List.dropWhile_suffix (l := rest) (· != ']')).length_le
      rw [hdrop, List.length_cons] at hle
      exact Nat.lt_succ_of_lt hle

/-- What follows a class is shorter than what follows its opening bracket. -/
theorem length_lt_of_readClass? {text behind : List Char} {token : Token} {length : Nat}
    (h : readClass? text = some (token, length, behind)) : behind.length < text.length := by
  unfold readClass? at h
  split at h
  all_goals
    obtain ⟨⟨inside, after⟩, hsplit, heq⟩ := Option.map_eq_some_iff.mp h
    obtain ⟨-, -, rfl⟩ := Prod.mk.inj heq |>.imp_right Prod.mk.inj
    have hlt := length_lt_of_splitClass? hsplit
  · exact Nat.lt_succ_of_lt hlt
  · exact hlt

/-- Adds a run of components in front, unless one is there. -/
def consComponents : List Token → List Token
  | .anyComponents :: rest => .anyComponents :: rest
  | tokens => .anyComponents :: tokens

/-- Reads the tokens of a pattern.  `position` is where the rest begins, and `atStart` says whether
a component begins there. -/
def readTokens (position : Nat) (atStart : Bool) (text : List Char) :
    Except PatternError (List Token) :=
  match text with
  | [] => .ok []
  | '?' :: rest => (readTokens (position + 1) false rest).map (.anyChar :: ·)
  | '*' :: '*' :: '*' :: _ => .error ⟨position + 2, .wildcards⟩
  | '*' :: '*' :: rest =>
    if !atStart then .error ⟨position - 1, .recursion⟩
    else
      match rest with
      | [] => .ok [.anyComponents]
      | '/' :: rest => (readTokens (position + 3) true rest).map consComponents
      | _ => .error ⟨position + 2, .recursion⟩
  | '*' :: rest => (readTokens (position + 1) false rest).map (.anyRun :: ·)
  | '[' :: rest =>
    match hclass : readClass? rest with
    | none => .error ⟨position, .range⟩
    | some (token, length, behind) =>
      have := length_lt_of_readClass? hclass
      (readTokens (position + 1 + length) false behind).map (token :: ·)
  | c :: rest => (readTokens (position + 1) (c = '/') rest).map (.literal c :: ·)
termination_by text.length
decreasing_by all_goals simp only [List.length_cons]; omega

/-- Reads a pattern. -/
def Pattern.parse (text : String) : Except PatternError Pattern :=
  (readTokens 0 true text.toList).map Pattern.mk

end ScopedAuth.Glob
