import Mathlib.Data.List.Basic
import ScopedAuth.Proofs.Unicode.Tables
import ScopedAuth.Unicode.Uppercase

/-!
# Upper case is final

No capital letter has another one: a text in upper case stays as it is (`upper_upper`), although one
character may have become several.  No character is lost either (`upper_eq_empty_iff`), and letters
in ASCII have the same capital in either case (`upper_eq_of_map_toLower_eq`).

What has a capital and what is one are two sets of some fifteen hundred code points each.  That they
have none in common is seen from their bit maps (`land_bitmap_capitals_cased`).
-/

namespace ScopedAuth.Unicode

/-! ### The tables -/

/-- The distances of the code points of a run from the first. -/
def CaseRun.distances (run : CaseRun) : List Nat :=
  (List.range ((run.last - run.first) / run.stride + 1)).map (run.stride * ·)

/-- The code points that have a capital form other than themselves. -/
def cased : List Nat :=
  caseRuns.flatMap (fun run => run.distances.map (run.first + ·)) ++ caseExpansions.map (·.1)

/-- The code points of the capital forms. -/
def capitals : List Nat :=
  caseRuns.flatMap (fun run => run.distances.map (run.capital + ·)) ++
    caseExpansions.flatMap (·.2)

/-- A code point in a run lies at one of the distances, and so does its capital. -/
lemma CaseRun.exists_distance_of_capital? {run : CaseRun} {n capital : Nat}
    (h : run.capital? n = some capital) :
    ∃ d ∈ run.distances, n = run.first + d ∧ capital = run.capital + d := by
  unfold capital? at h
  split at h
  · next hin =>
    obtain ⟨hfirst, hlast, hstride⟩ := hin
    refine ⟨n - run.first, ?_, (Nat.add_sub_cancel' hfirst).symm, (Option.some.inj h).symm⟩
    refine List.mem_map.mpr ⟨(n - run.first) / run.stride, ?_, ?_⟩
    · rw [List.mem_range, Nat.lt_succ_iff]
      exact Nat.div_le_div_right (Nat.sub_le_sub_right hlast _)
    · exact Nat.mul_div_cancel' (Nat.dvd_of_mod_eq_zero hstride)
  · exact nomatch h

/-- A code point that is not in the tables is not looked up in vain. -/
lemma upperChar_of_not_mem_cased {c : Char} (h : c.toNat ∉ cased) : upperChar c = [c] := by
  rw [cased, List.mem_append, not_or] at h
  obtain ⟨hruns, hexpansions⟩ := h
  have hrun : caseRuns.findSome? (·.capital? c.toNat) = none := by
    rw [List.findSome?_eq_none_iff]
    intro run hmem
    cases hcapital : run.capital? c.toNat with
    | none => rfl
    | some capital =>
      obtain ⟨d, hd, hc, -⟩ := CaseRun.exists_distance_of_capital? hcapital
      exact absurd (List.mem_flatMap.mpr ⟨run, hmem, List.mem_map.mpr ⟨d, hd, hc.symm⟩⟩) hruns
  have hexpansion : caseExpansions.lookup c.toNat = none := by
    rw [List.lookup_eq_none_iff]
    rintro ⟨n, codes⟩ hmem
    rw [bne_iff_ne]
    rintro rfl
    exact hexpansions (List.mem_map.mpr ⟨_, hmem, rfl⟩)
  rw [upperChar, hrun, hexpansion]

/-- A character is its own upper-case form, or made of capitals. -/
lemma upperChar_cases (c : Char) :
    upperChar c = [c] ∨
      ∃ codes, codes ≠ [] ∧ (∀ n ∈ codes, n ∈ capitals) ∧ upperChar c = codes.map Char.ofNat := by
  have hfull : ∀ row ∈ caseExpansions, row.2 ≠ [] := by decide
  unfold upperChar
  split
  · next n hfind =>
    obtain ⟨run, hmem, hcapital⟩ := List.exists_of_findSome?_eq_some hfind
    obtain ⟨d, hd, -, hn⟩ := CaseRun.exists_distance_of_capital? hcapital
    refine Or.inr ⟨[n], List.cons_ne_nil n [], ?_, rfl⟩
    rw [List.forall_mem_singleton, capitals, List.mem_append]
    exact Or.inl (List.mem_flatMap.mpr ⟨run, hmem, List.mem_map.mpr ⟨d, hd, hn.symm⟩⟩)
  · split
    · next codes hlookup =>
      have hmem : (c.toNat, codes) ∈ caseExpansions := by
        obtain ⟨before, after, hsplit, -⟩ := List.lookup_eq_some_iff.mp hlookup
        rw [hsplit]
        exact List.mem_append_right _ List.mem_cons_self
      refine Or.inr ⟨codes, hfull _ hmem, fun n hn => ?_, rfl⟩
      rw [capitals, List.mem_append]
      exact Or.inr (List.mem_flatMap.mpr ⟨_, hmem, hn⟩)
    · exact Or.inl rfl

/-- No capital has a capital form other than itself. -/
lemma land_bitmap_capitals_cased : bitmap capitals &&& bitmap cased = 0 := by decide +kernel

/-- The capitals are characters. -/
lemma all_isValidChar_capitals : capitals.all (fun n => decide n.isValidChar) = true := by
  decide +kernel

/-- A capital is its own upper-case form. -/
lemma upperChar_ofNat_of_mem_capitals {n : Nat} (h : n ∈ capitals) :
    upperChar (Char.ofNat n) = [Char.ofNat n] := by
  have hvalid : n.isValidChar :=
    of_decide_eq_true (List.all_eq_true.mp all_isValidChar_capitals n h)
  refine upperChar_of_not_mem_cased ?_
  rw [toNat_ofNat hvalid]
  exact not_mem_of_land_bitmap land_bitmap_capitals_cased h

/-- What a character becomes in upper case stays as it is. -/
lemma upperChar_of_mem_upperChar {c d : Char} (h : d ∈ upperChar c) : upperChar d = [d] := by
  rcases upperChar_cases c with hself | ⟨codes, -, hcodes, heq⟩
  · rw [hself, List.mem_singleton] at h
    rw [h, hself]
  · rw [heq, List.mem_map] at h
    obtain ⟨n, hn, rfl⟩ := h
    exact upperChar_ofNat_of_mem_capitals (hcodes n hn)

/-- No character disappears. -/
lemma upperChar_ne_nil (c : Char) : upperChar c ≠ [] := by
  rcases upperChar_cases c with hself | ⟨codes, hne, -, heq⟩
  · rw [hself]
    exact List.cons_ne_nil c []
  · rw [heq, Ne, List.map_eq_nil_iff]
    exact hne

/-- A letter in ASCII has the same capital in either case. -/
lemma upperChar_toLower (c : Char) : upperChar c.toLower = upperChar c := by
  have hletters : ∀ n ∈ List.range' 65 26,
      upperChar (Char.ofNat n).toLower = upperChar (Char.ofNat n) := by decide +kernel
  by_cases hupper : 65 ≤ c.toNat ∧ c.toNat ≤ 90
  · have hletter := hletters c.toNat (List.mem_range'_1.mpr ⟨hupper.1, by omega⟩)
    rwa [Char.ofNat_toNat] at hletter
  · have hlower : c.toLower = c := by
      refine dif_neg ?_
      rintro ⟨hle, hge⟩
      have hle' : 65 ≤ c.toNat := UInt32.le_iff_toNat_le.mp hle
      have hge' : c.toNat ≤ 90 := UInt32.le_iff_toNat_le.mp hge
      exact hupper ⟨hle', hge'⟩
    rw [hlower]

/-! ### Texts -/

/-- A text in upper case stays as it is. -/
lemma upper_upper (s : String) : upper (upper s) = upper s := by
  have hchars : (s.toList.flatMap upperChar).flatMap upperChar = s.toList.flatMap upperChar := by
    rw [List.flatMap_assoc]
    refine List.flatMap_congr fun c _ => ?_
    have hself : (upperChar c).flatMap upperChar = (upperChar c).flatMap ([·]) :=
      List.flatMap_congr fun d hd => upperChar_of_mem_upperChar hd
    rw [hself, List.flatMap_singleton']
  rw [upper, upper, String.toList_ofList, hchars]

/-- Nothing is made of nothing only. -/
lemma upper_eq_empty_iff {s : String} : upper s = "" ↔ s = "" := by
  rw [upper, ← String.toList_inj, String.toList_ofList, String.toList_empty,
    List.flatMap_eq_nil_iff, ← String.toList_inj, String.toList_empty]
  constructor
  · intro h
    exact List.eq_nil_iff_forall_not_mem.mpr fun c hc => upperChar_ne_nil c (h c hc)
  · intro h c hc
    rw [h] at hc
    exact nomatch hc

/-- Texts that differ in the case of letters in ASCII only are the same in upper case. -/
lemma upper_eq_of_map_toLower_eq {s t : String}
    (h : s.toList.map Char.toLower = t.toList.map Char.toLower) : upper s = upper t := by
  have hlower : ∀ cs : List Char,
      cs.flatMap upperChar = (cs.map Char.toLower).flatMap upperChar := by
    intro cs
    rw [List.flatMap_map]
    exact List.flatMap_congr fun c _ => (upperChar_toLower c).symm
  rw [upper, upper, hlower s.toList, hlower t.toList, h]

end ScopedAuth.Unicode
