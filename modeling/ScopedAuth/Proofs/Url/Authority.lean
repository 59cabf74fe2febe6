import Mathlib.Data.List.TakeWhile
import Mathlib.Tactic.Lemma
import ScopedAuth.Proofs.Outcome
import ScopedAuth.Proofs.Url.Scheme

/-!
# Where the authority of a URL of the web ends

What stands between the two slashes behind the scheme and the next slash, question mark or hash is
the authority, whatever follows (`IsSpecialScheme.parse_eq`).  An authority without an at sign and a
colon is nothing but a host (`parseAuthority_of_not_mem`), and a host is asked at the port of the
scheme whether that is written behind it or not (`parseAuthority_append_port`).
-/

namespace ScopedAuth.Url

open ScopedAuth.Text

/-! ### Authorities -/

/-- Without an at sign no user is given. -/
lemma splitUserinfo?_of_not_mem {text : List Char} (h : '@' ∉ text) :
    splitUserinfo? text = none := by
  have hdrop : text.reverse.dropWhile (· != '@') = [] := by
    rw [List.dropWhile_eq_nil_iff]
    intro c hc
    rw [bne_iff_ne]
    rintro rfl
    exact h (List.mem_reverse.mp hc)
  rw [splitUserinfo?, hdrop]

/-- Without a colon no port is given. -/
lemma splitPort_of_not_mem {text : List Char} (h : ':' ∉ text) (inside : Bool) :
    splitPort inside text = (text, none) := by
  induction text generalizing inside with
  | nil => rfl
  | cons c rest ih =>
    obtain ⟨hc, hrest⟩ := List.ne_and_not_mem_of_not_mem_cons h
    have hcolon : ¬ (decide (c = ':') && !inside) = true := by
      rw [decide_eq_false (Ne.symm hc), Bool.false_and]
      exact Bool.false_ne_true
    rw [splitPort, if_neg hcolon]
    simp only [ih hrest]

/-- An authority without an at sign and a colon is a host. -/
lemma parseAuthority_of_not_mem {port : Port} {text : List Char} (huser : '@' ∉ text)
    (hport : ':' ∉ text) (hne : text ≠ []) (isLast : Bool) :
    parseAuthority (.web port) text isLast =
      (Host.parse text).map fun host => ⟨"", "", some host, none⟩ := by
  have hempty : ¬ text.isEmpty = true := by
    rw [List.isEmpty_iff]
    exact hne
  simp only [parseAuthority, splitUserinfo?_of_not_mem huser, Option.getD_none,
    splitPort_of_not_mem hport, parseHost, hempty, Bool.false_eq_true, false_and, and_false,
    if_false]
  cases Host.parse text with
  | error error => rfl
  | ok host => rfl

/-! ### Ports -/

/-- The port of a scheme, written out, counts as none. -/
lemma parsePort_eq_ok_none {port : Port} {digits : List Char} (hdigits : digits.all Char.isDigit)
    (hvalue : Ipv4.valueOf 10 digits = port.toNat) :
    parsePort (.web port) digits = .ok none := by
  have hle : ¬ 65535 < port.toNat := Nat.not_lt.mpr (Nat.le_of_lt_succ port.toNat_lt)
  have hport : (Layout.web port).defaultPort? = some port.toNat.toUInt16 :=
    congrArg some UInt16.ofNat_toNat.symm
  simp only [parsePort, hdigits, hvalue, if_neg hle, hport, or_true, if_true, Bool.not_true,
    Bool.false_eq_true, if_false]

/-- Zeros in front do not change the value of digits. -/
lemma valueOf_replicate_append (base zeros : Nat) (digits : List Char) :
    Ipv4.valueOf base (List.replicate zeros '0' ++ digits) = Ipv4.valueOf base digits := by
  induction zeros with
  | zero => rfl
  | succ n ih =>
    have hzero : (hexValue? '0').getD 0 = 0 := rfl
    rw [← ih, List.replicate_succ, List.cons_append, Ipv4.valueOf, List.foldl_cons, hzero,
      Nat.zero_mul, Ipv4.valueOf]

/-- The port stands behind the first colon, unless there are brackets. -/
lemma splitPort_append_colon {host : List Char} (hcolon : ':' ∉ host) (hbracket : '[' ∉ host)
    (digits : List Char) : splitPort false (host ++ ':' :: digits) = (host, some digits) := by
  induction host with
  | nil => rfl
  | cons c rest ih =>
    obtain ⟨hc, hrest⟩ := List.ne_and_not_mem_of_not_mem_cons hcolon
    obtain ⟨hopen, hrest'⟩ := List.ne_and_not_mem_of_not_mem_cons hbracket
    have hnot : ¬ (decide (c = ':') && !false) = true := by
      rw [decide_eq_false (Ne.symm hc)]
      exact Bool.false_ne_true
    rw [List.cons_append, splitPort, if_neg hnot, if_neg (Ne.symm hopen), ite_self]
    simp only [ih hrest hrest']

/-- The port of the scheme may be left out, named by a colon alone, or written out. -/
lemma parseAuthority_append_port {port : Port} {host digits : List Char} (huser : '@' ∉ host)
    (hcolon : ':' ∉ host) (hbracket : '[' ∉ host) (hne : host ≠ [])
    (hdigits : digits.all Char.isDigit) (hport : parsePort (.web port) digits = .ok none)
    (isLast : Bool) :
    parseAuthority (.web port) (host ++ ':' :: digits) isLast =
      parseAuthority (.web port) host isLast := by
  have huser' : '@' ∉ host ++ ':' :: digits := by
    rw [List.mem_append, List.mem_cons, not_or, not_or]
    refine ⟨huser, by decide, fun hmem => ?_⟩
    exact absurd (List.all_eq_true.mp hdigits '@' hmem) (by decide)
  have hempty : ¬ host.isEmpty = true := by
    rw [List.isEmpty_iff]
    exact hne
  have hempty' : ¬ (host ++ ':' :: digits).isEmpty = true := by
    rw [List.isEmpty_iff]
    exact List.append_ne_nil_of_right_ne_nil _ (List.cons_ne_nil _ _)
  rw [parseAuthority_of_not_mem huser hcolon hne]
  simp only [parseAuthority, splitUserinfo?_of_not_mem huser', Option.getD_none,
    splitPort_append_colon hcolon hbracket, parseHost, hempty, hempty', Bool.false_eq_true,
    false_and, and_false, if_false, Option.getD_some, hport]
  cases Host.parse host with
  | error error => rfl
  | ok host => rfl

/-! ### URLs -/

/-- The URL of a scheme and an authority with what stands behind them: path, query and fragment. -/
def withAuthority (scheme : String) (layout : Layout) (rest : List Char) (authority : Authority) :
    Url :=
  let pathText := rest.takeWhile (!endsPath ·)
  let tail := parseTail layout (rest.dropWhile (!endsPath ·))
  ⟨scheme, some authority,
    if layout = .general ∧ pathText.isEmpty then "" else (Path.parse layout pathText).1,
    tail.1, tail.2⟩

/-- What stands in front of the first slash, question mark or hash is the authority. -/
lemma parseWithAuthority_append (scheme : String) (layout : Layout) {before rest : List Char}
    (hbefore : ∀ c ∈ before, endsAuthority c = false)
    (hrest : ∀ c ∈ rest.head?, endsAuthority c = true) :
    parseWithAuthority scheme layout (before ++ rest) =
      (parseAuthority layout before rest.isEmpty).map (withAuthority scheme layout rest) := by
  have hall : ∀ c ∈ before, (!endsAuthority c) = true := by
    intro c hc
    rw [hbefore c hc]
    rfl
  have htake : (before ++ rest).takeWhile (!endsAuthority ·) = before := by
    rw [List.takeWhile_append_of_pos hall]
    cases rest with
    | nil => exact List.append_nil before
    | cons c more =>
      rw [List.takeWhile_cons_of_neg, List.append_nil]
      rw [hrest c rfl]
      exact Bool.false_ne_true
  have hdrop : (before ++ rest).dropWhile (!endsAuthority ·) = rest := by
    rw [List.dropWhile_append_of_pos hall]
    cases rest with
    | nil => rfl
    | cons c more =>
      rw [List.dropWhile_cons_of_neg]
      rw [hrest c rfl]
      exact Bool.false_ne_true
  rw [parseWithAuthority, htake, hdrop]
  cases parseAuthority layout before rest.isEmpty with
  | error error => rfl
  | ok authority => rfl

/-- A URL of a special scheme, in letters of either case, has the authority that stands behind its
two slashes. -/
lemma IsSpecialScheme.parse_eq {scheme : String} {port : Port} (h : IsSpecialScheme scheme port)
    {letters before rest : List Char} (hletters : letters.map Char.toLower = scheme.toList)
    (hne : before ≠ []) (hbefore : ∀ c ∈ before, endsAuthority c = false)
    (hrest : ∀ c ∈ rest.head?, endsAuthority c = true) :
    parse (letters ++ ("://".toList ++ (before ++ rest))) =
      (parseAuthority (.web port) before rest.isEmpty).map fun authority =>
        some (withAuthority scheme (.web port) rest authority) := by
  have hslashes : ('/' :: '/' :: (before ++ rest)).dropWhile (· = '/') = before ++ rest := by
    obtain ⟨c, more, rfl⟩ := List.exists_cons_of_ne_nil hne
    have hc : ¬ decide (c = '/') = true := by
      intro heq
      have hends := hbefore c List.mem_cons_self
      rw [of_decide_eq_true heq] at hends
      exact nomatch hends
    change (c :: (more ++ rest)).dropWhile (· = '/') = c :: (more ++ rest)
    exact List.dropWhile_cons_of_neg hc
  obtain ⟨first, name, rfl, hfirst, hname⟩ := h.exists_eq_cons hletters
  change parse (first :: (name ++ ':' :: '/' :: '/' :: (before ++ rest))) = _
  rw [parse, splitScheme?_append hfirst hname, hletters]
  change (parseAfterScheme (String.ofList scheme.toList) _).map some = _
  rw [String.ofList_toList, parseAfterScheme, h.ofScheme_eq]
  change (parseWithAuthority _ (.web port) (List.dropWhile _ _)).map some = _
  rw [hslashes, parseWithAuthority_append _ _ hbefore hrest]
  cases parseAuthority (.web port) before rest.isEmpty with
  | error error => rfl
  | ok authority => rfl

end ScopedAuth.Url
