import Mathlib.Data.List.Sort
import Mathlib.Tactic.Ring
import ScopedAuth.Idna.Punycode
import ScopedAuth.Proofs.Text.Characters
import ScopedAuth.Proofs.Unicode.Tables

/-!
# Labels that are decoded are encoded the same way

What a label in lower case decodes to is encoded as this very label (`Punycode.encode_of_decode?`).
A number is spelled in one way only (`exists_of_readNumber`).  The decoder inserts one character
after the other, in ascending order of their codes and, for each code, from left to right, which is
the order in which the encoder looks for them: whenever the decoder has inserted a character, the
encoder, on what has been decoded so far, has written the numbers read so far and stands right
behind that character (`Follows`).
-/

namespace ScopedAuth.Idna.Punycode

open ScopedAuth.Unicode ScopedAuth.Text

/-! ### Digits -/

/-- A digit other than a capital letter is the character of its value. -/
lemma digitChar_of_digitValue? {c : Char} {digit : Nat}
    (hplain : c.isLower = true ∨ c.isDigit = true ∨ c = '-') (h : digitValue? c = some digit) :
    digit < base ∧ digitChar digit = c := by
  unfold digitValue? at h
  split at h
  · next hlower =>
    rw [isLower_iff] at hlower
    have hdigit := Option.some.inj h
    have hchar : Char.ofNat (digit + 97) = c := by
      rw [show digit + 97 = c.toNat by omega, Char.ofNat_toNat]
    refine ⟨by unfold base; omega, ?_⟩
    rw [digitChar, if_pos (by omega), hchar]
  · next hlower =>
    split at h
    · next hupper =>
      rw [isUpper_iff] at hupper
      rcases hplain with hplain | hplain | rfl
      · exact absurd hplain hlower
      · rw [isDigit_iff] at hplain
        omega
      · exact absurd hupper (by decide)
    · next hupper =>
      split at h
      · next hdigit =>
        rw [isDigit_iff] at hdigit
        have hvalue := Option.some.inj h
        have hchar : Char.ofNat (digit - 26 + 48) = c := by
          rw [show digit - 26 + 48 = c.toNat by omega, Char.ofNat_toNat]
        refine ⟨by unfold base; omega, ?_⟩
        rw [digitChar, if_neg (by omega), hchar]
      · exact nomatch h

/-- The threshold lies between its two bounds. -/
lemma threshold_bounds (k bias : Nat) : 1 ≤ threshold k bias ∧ threshold k bias ≤ 26 := by
  unfold threshold tMin tMax
  split
  · omega
  · split
    · omega
    · omega

/-! ### Numbers -/

/-- A digit below the threshold ends a number, any other one stands before the rest of it. -/
lemma readNumber_cons {c : Char} {more : List Char} {i weight k bias : Nat}
    {result : Nat × List Char} (h : readNumber i weight k bias (c :: more) = some result) :
    ∃ digit, digitValue? c = some digit ∧
      (digit < threshold k bias ∧ result = (i + digit * weight, more) ∨
        threshold k bias ≤ digit ∧ readNumber (i + digit * weight)
          (weight * (base - threshold k bias)) (k + base) bias more = some result) := by
  unfold readNumber at h
  split at h
  · exact nomatch h
  · next digit hdigit =>
    refine ⟨digit, hdigit, ?_⟩
    simp only at h
    split at h
    · exact nomatch h
    · split at h
      · next hlt => exact Or.inl ⟨hlt, (Option.some.inj h).symm⟩
      · next hge =>
        split at h
        · exact nomatch h
        · exact Or.inr ⟨Nat.le_of_not_lt hge, h⟩

/-- A number below the threshold is one digit. -/
lemma writeNumber_of_lt {q k bias : Nat} (h : q < threshold k bias) (fuel : Nat) :
    writeNumber fuel q k bias = [digitChar q] := by
  unfold writeNumber
  cases fuel with
  | zero => rfl
  | succ fuel => exact if_pos h

/-- Any other number is written as a digit from the threshold on and the rest of it. -/
lemma writeNumber_add_mul {digit q k bias : Nat} (hle : threshold k bias ≤ digit)
    (hlt : digit < base) (fuel : Nat) :
    writeNumber (fuel + 1) (digit + q * (base - threshold k bias)) k bias =
      digitChar digit :: writeNumber fuel q (k + base) bias := by
  have hpos : 0 < base - threshold k bias := by omega
  have hge : ¬ digit + q * (base - threshold k bias) < threshold k bias := by omega
  have hsub : digit + q * (base - threshold k bias) - threshold k bias =
      digit - threshold k bias + q * (base - threshold k bias) := by omega
  have hmod : threshold k bias + (digit - threshold k bias) % (base - threshold k bias) =
      digit := by
    rw [Nat.mod_eq_of_lt (by omega)]
    omega
  rw [writeNumber, if_neg hge, hsub, Nat.add_mul_mod_self_right, hmod,
    Nat.add_mul_div_right _ _ hpos, Nat.div_eq_of_lt (by omega), Nat.zero_add]

/-- A number that is read is spelled as it would be written. -/
lemma exists_of_readNumber {digits : List Char} {i weight k bias next : Nat} {rest : List Char}
    (hplain : ∀ c ∈ digits, c.isLower = true ∨ c.isDigit = true ∨ c = '-')
    (h : readNumber i weight k bias digits = some (next, rest)) :
    ∃ q, next = i + q * weight ∧ ∀ fuel, q ≤ fuel → digits = writeNumber fuel q k bias ++ rest := by
  induction digits generalizing i weight k with
  | nil => exact nomatch h
  | cons c more ih =>
    obtain ⟨hc, hmore⟩ := List.forall_mem_cons.mp hplain
    obtain ⟨digit, hdigit, hcases⟩ := readNumber_cons h
    obtain ⟨hbase, hchar⟩ := digitChar_of_digitValue? hc hdigit
    rcases hcases with ⟨hlt, hresult⟩ | ⟨hle, hread⟩
    · obtain ⟨rfl, rfl⟩ := Prod.mk.inj hresult
      refine ⟨digit, rfl, fun fuel _ => ?_⟩
      rw [writeNumber_of_lt hlt, hchar, List.singleton_append]
    · obtain ⟨q, hnext, hwritten⟩ := ih hmore hread
      refine ⟨digit + q * (base - threshold k bias), ?_, fun fuel hfuel => ?_⟩
      · rw [hnext]
        ring
      · have hbounds := threshold_bounds k bias
        have hq : q ≤ q * (base - threshold k bias) :=
          Nat.le_mul_of_pos_right q (by unfold base; omega)
        cases fuel with
        | zero => omega
        | succ fuel =>
          rw [writeNumber_add_mul hle hbase, hchar, List.cons_append,
            ← hwritten fuel (by omega)]

/-! ### Codes -/

/-- The codes of the characters outside ASCII of a label, in ascending order. -/
def codesOf (label : List Char) : List Nat :=
  ((label.map Char.toNat).filter (initialCode ≤ ·)).mergeSort.eraseReps

/-- Without the repetitions that stand side by side, a list in ascending order has none at all. -/
lemma eraseRepsBy_loop_eq {first : Nat} {rest : List Nat} (h : (first :: rest).Pairwise (· ≤ ·))
    (done : List Nat) :
    ∃ codes, List.eraseRepsBy.loop (· == ·) first rest done = done.reverse ++ codes ∧
      codes.Pairwise (· < ·) ∧ ∀ n, n ∈ codes ↔ n ∈ first :: rest := by
  induction rest generalizing first done with
  | nil =>
    refine ⟨[first], ?_, List.pairwise_singleton _ _, fun _ => Iff.rfl⟩
    rw [List.eraseRepsBy.loop, List.reverse_cons]
  | cons next more ih =>
    obtain ⟨hfirst, hmore⟩ := List.pairwise_cons.mp h
    rw [List.eraseRepsBy.loop]
    split
    · next heq =>
      obtain rfl := beq_iff_eq.mp heq
      obtain ⟨codes, hloop, hpairwise, hmem⟩ := ih hmore done
      refine ⟨codes, hloop, hpairwise, fun n => ?_⟩
      rw [hmem, List.mem_cons (a := n) (b := first) (l := first :: more), List.mem_cons]
      tauto
    · next hne =>
      obtain ⟨codes, hloop, hpairwise, hmem⟩ := ih hmore (first :: done)
      refine ⟨first :: codes, ?_, List.pairwise_cons.mpr ⟨fun n hn => ?_, hpairwise⟩, fun n => ?_⟩
      · rw [hloop, List.reverse_cons, List.append_assoc, List.singleton_append]
      · have hle : next ≤ n := by
          rcases List.mem_cons.mp ((hmem n).mp hn) with rfl | hn
          · exact Nat.le_refl n
          · exact (List.pairwise_cons.mp hmore).1 n hn
        have hnext := hfirst next List.mem_cons_self
        rw [beq_eq_false_iff_ne] at hne
        omega
      · simp only [List.mem_cons, hmem]

/-- The codes of a label are in ascending order, without repetitions, and are those of its
characters outside ASCII. -/
lemma codesOf_spec (label : List Char) :
    (codesOf label).Pairwise (· < ·) ∧
      ∀ n, n ∈ codesOf label ↔ initialCode ≤ n ∧ ∃ c ∈ label, c.toNat = n := by
  have hmem : ∀ n, n ∈ ((label.map Char.toNat).filter (initialCode ≤ ·)).mergeSort ↔
      initialCode ≤ n ∧ ∃ c ∈ label, c.toNat = n := by
    intro n
    rw [List.mem_mergeSort, List.mem_filter, List.mem_map, decide_eq_true_eq, and_comm]
  have hsorted := List.pairwise_mergeSort' (· ≤ ·)
    ((label.map Char.toNat).filter (initialCode ≤ ·))
  unfold codesOf List.eraseReps List.eraseRepsBy
  simp only [← hmem]
  generalize ((label.map Char.toNat).filter (initialCode ≤ ·)).mergeSort = sorted at hsorted ⊢
  cases sorted with
  | nil => exact ⟨List.Pairwise.nil, fun _ => Iff.rfl⟩
  | cons first rest =>
    obtain ⟨codes, hloop, hpairwise, hcodes⟩ := eraseRepsBy_loop_eq hsorted []
    rw [List.reverse_nil, List.nil_append] at hloop
    simp only [hloop]
    exact ⟨hpairwise, hcodes⟩

/-- A character outside ASCII adds its code. -/
lemma mem_codesOf_insert {c : Char} (hc : initialCode ≤ c.toNat) (front behind : List Char)
    (n : Nat) :
    n ∈ codesOf (front ++ c :: behind) ↔ n ∈ codesOf (front ++ behind) ∨ n = c.toNat := by
  rw [(codesOf_spec _).2, (codesOf_spec _).2]
  simp only [List.mem_append, List.mem_cons]
  constructor
  · rintro ⟨hn, d, hd | rfl | hd, rfl⟩
    · exact Or.inl ⟨hn, d, Or.inl hd, rfl⟩
    · exact Or.inr rfl
    · exact Or.inl ⟨hn, d, Or.inr hd, rfl⟩
  · rintro (⟨hn, d, hd, rfl⟩ | rfl)
    · exact ⟨hn, d, hd.imp_right Or.inr, rfl⟩
    · exact ⟨hc, c, Or.inr (Or.inl rfl), rfl⟩

/-- A code above all others comes last. -/
lemma codesOf_insert_of_lt {c : Char} (hc : initialCode ≤ c.toNat) {front behind : List Char}
    (hlt : ∀ d ∈ front ++ behind, d.toNat < c.toNat) :
    codesOf (front ++ c :: behind) = codesOf (front ++ behind) ++ [c.toNat] := by
  obtain ⟨hpairwise, hmem⟩ := codesOf_spec (front ++ behind)
  refine (codesOf_spec _).1.eq_of_mem_iff (List.pairwise_append.mpr
    ⟨hpairwise, List.pairwise_singleton _ _, fun n hn m hm => ?_⟩) fun n => ?_
  · obtain ⟨-, d, hd, rfl⟩ := (hmem n).mp hn
    rw [List.mem_singleton.mp hm]
    exact hlt d hd
  · rw [mem_codesOf_insert hc, List.mem_append, List.mem_singleton]

/-- A code that is there already adds nothing. -/
lemma codesOf_insert_of_mem {c : Char} {front behind : List Char}
    (hmem : c.toNat ∈ codesOf (front ++ behind)) :
    codesOf (front ++ c :: behind) = codesOf (front ++ behind) := by
  obtain ⟨hpairwise, hcodes⟩ := codesOf_spec (front ++ behind)
  refine (codesOf_spec _).1.eq_of_mem_iff hpairwise fun n => ?_
  rw [mem_codesOf_insert ((hcodes _).mp hmem).1]
  constructor
  · rintro (hn | rfl)
    · exact hn
    · exact hmem
  · exact Or.inl

/-! ### Walks of the encoder -/

/-- A walk over a label is a walk over its front and then over what stands behind. -/
lemma writeCode_append (code : Nat) (state : State) (front behind : List Char) :
    writeCode code state (front ++ behind) =
      ((writeCode code state front).1 ++ (writeCode code (writeCode code state front).2 behind).1,
        (writeCode code (writeCode code state front).2 behind).2) := by
  induction front generalizing state with
  | nil => rfl
  | cons c rest ih =>
    rw [List.cons_append, writeCode, writeCode]
    split
    · rw [ih]
    · split
      · simp only [ih, List.append_assoc]
      · rw [ih]

/-- Characters below the code are counted. -/
lemma writeCode_of_lt {code : Nat} {label : List Char} (h : ∀ c ∈ label, c.toNat < code)
    (state : State) :
    writeCode code state label = ([], { state with delta := state.delta + label.length }) := by
  induction label generalizing state with
  | nil => rfl
  | cons c rest ih =>
    obtain ⟨hc, hrest⟩ := List.forall_mem_cons.mp h
    rw [writeCode, if_pos hc, ih hrest, List.length_cons]
    simp only [Nat.add_assoc, Nat.add_comm 1]

/-- The character of the code is written. -/
lemma writeCode_singleton {code : Nat} {c : Char} (h : c.toNat = code) (state : State) :
    writeCode code state [c] = (writeNumber state.delta state.delta base state.bias,
      ⟨0, adapt state.delta (state.handled + 1) (!state.started), state.handled + 1, true⟩) := by
  rw [writeCode, if_neg (by omega), if_pos h]
  simp only [writeCode, List.append_nil]

/-- Characters above the code are passed over. -/
lemma writeCode_insert {code : Nat} {c : Char} (h : code < c.toNat) (state : State)
    (front behind : List Char) :
    writeCode code state (front ++ c :: behind) = writeCode code state (front ++ behind) := by
  have hskip : ∀ state, writeCode code state (c :: behind) = writeCode code state behind := by
    intro state
    rw [writeCode, if_neg (by omega), if_neg (by omega)]
  rw [writeCode_append, writeCode_append, hskip]

/-- How far the encoder is between two walks: what it has written, the least code that comes next
and its state. -/
structure Progress where
  written : List Char
  code : Nat
  state : State

namespace Progress

/-- Before the first walk. -/
def start (plain : List Char) : Progress :=
  ⟨[], initialCode, ⟨0, initialBias, plain.length, false⟩⟩

/-- The state in which the walk for a code begins. -/
def approach (progress : Progress) (next : Nat) : State :=
  { progress.state with
    delta := progress.state.delta + (next - progress.code) * (progress.state.handled + 1) }

/-- The walk for a code. -/
def walk (label : List Char) (progress : Progress) (next : Nat) : Progress :=
  let (written, last) := writeCode next (progress.approach next) label
  ⟨progress.written ++ written, next + 1, { last with delta := last.delta + 1 }⟩

/-- The encoder writes what its walks write. -/
lemma written_foldl_walk (label : List Char) (progress : Progress) (codes : List Nat) :
    (codes.foldl (walk label) progress).written =
      progress.written ++ writeCodes label progress.code progress.state codes := by
  induction codes generalizing progress with
  | nil => exact (List.append_nil _).symm
  | cons next later ih =>
    rw [List.foldl_cons, ih, writeCodes]
    exact List.append_assoc ..

/-- Walks for codes below that of a character are the same without it. -/
lemma foldl_walk_insert {codes : List Nat} {c : Char} (h : ∀ code ∈ codes, code < c.toNat)
    (front behind : List Char) (progress : Progress) :
    codes.foldl (walk (front ++ c :: behind)) progress =
      codes.foldl (walk (front ++ behind)) progress := by
  induction codes generalizing progress with
  | nil => rfl
  | cons next later ih =>
    obtain ⟨hnext, hlater⟩ := List.forall_mem_cons.mp h
    rw [List.foldl_cons, List.foldl_cons, ih hlater, walk, writeCode_insert hnext, walk]

end Progress

/-- What is encoded is the plain characters, a hyphen behind them, and what the walks for the codes
of the label write. -/
lemma encode_eq (label : List Char) :
    encode label =
      label.filter (·.toNat < initialCode) ++
        (if (label.filter (·.toNat < initialCode)).isEmpty then [] else ['-']) ++
        ((codesOf label).foldl (Progress.walk label)
          (.start (label.filter (·.toNat < initialCode)))).written := by
  rw [Progress.written_foldl_walk]
  rfl

/-! ### Insertions of the decoder -/

/-- What a decoder that begins with plain characters inserts, with the spelling of the numbers that
it reads and the code, place and bias that it arrives at. -/
inductive Inserts (plain : List Char) : List Char → List Char → Nat → Nat → Nat → Prop
  | start : Inserts plain plain [] initialCode 0 initialBias
  | insert {done written : List Char} {code i bias : Nat}
    (h : Inserts plain done written code i bias) (delta : Nat)
    (hvalid : (code + (i + delta) / (done.length + 1)).isValidChar) :
    Inserts plain
      (done.take ((i + delta) % (done.length + 1)) ++
        Char.ofNat (code + (i + delta) / (done.length + 1)) ::
          done.drop ((i + delta) % (done.length + 1)))
      (written ++ writeNumber delta delta base bias)
      (code + (i + delta) / (done.length + 1)) ((i + delta) % (done.length + 1) + 1)
      (adapt delta (done.length + 1) (i = 0))

/-- What the decoder gives is what it inserts for its digits. -/
lemma exists_inserts_of_insertAll {plain done written digits label : List Char}
    {fuel code i bias : Nat}
    (hplain : ∀ c ∈ digits, c.isLower = true ∨ c.isDigit = true ∨ c = '-')
    (hdone : Inserts plain done written code i bias)
    (h : insertAll fuel code i bias done digits = some label) :
    ∃ code i bias, Inserts plain label (written ++ digits) code i bias := by
  induction fuel generalizing done written digits code i bias with
  | zero =>
    cases digits with
    | nil =>
      obtain rfl : done = label := Option.some.inj h
      exact ⟨code, i, bias, (List.append_nil written).symm ▸ hdone⟩
    | cons c rest => exact nomatch h
  | succ fuel ih =>
    cases digits with
    | nil =>
      obtain rfl : done = label := Option.some.inj h
      exact ⟨code, i, bias, (List.append_nil written).symm ▸ hdone⟩
    | cons c rest =>
      unfold insertAll at h
      split at h
      · exact nomatch h
      · next next rest' hread =>
        obtain ⟨delta, rfl, hwritten⟩ := exists_of_readNumber hplain hread
        rw [Nat.mul_one] at h
        have hdigits := hwritten delta (Nat.le_refl delta)
        simp only [Nat.add_sub_cancel_left] at h
        split at h
        · next hvalid =>
          have hrest : ∀ d ∈ rest', d.isLower = true ∨ d.isDigit = true ∨ d = '-' :=
            fun d hd => hplain d (hdigits ▸ List.mem_append_right _ hd)
          rw [hdigits, ← List.append_assoc]
          exact ih hrest (hdone.insert delta hvalid) h
        · exact nomatch h

/-! ### The encoder follows the decoder -/

/-- The encoder has walked over what the decoder has inserted so far for all its codes: it has
written the numbers read so far, and is as far from the next place as the decoder. -/
structure Between (plain done written : List Char) (code i bias : Nat) (progress : Progress) :
    Prop where
  foldl_walk_eq : (codesOf done).foldl (Progress.walk done) (.start plain) = progress
  written_eq : progress.written = written
  bias_eq : progress.state.bias = bias
  handled_eq : progress.state.handled = done.length
  started_eq : (!progress.state.started) = decide (i = 0)
  delta_eq : progress.state.delta + i + code * (done.length + 1) =
    progress.code * (done.length + 1)
  lt_code : ∀ c ∈ done, c.toNat < progress.code
  le_code : initialCode ≤ progress.code

/-- On what the decoder has inserted so far, the encoder stands before its first walk, if nothing
is inserted yet, or else, in the walk for the greatest code, right behind the character inserted
last. -/
inductive Follows (plain done written : List Char) (code i bias : Nat) : Prop
  | start (hplain : ∀ c ∈ plain, c.toNat < initialCode) (hdone : done = plain)
    (hwritten : written = []) (hcode : code = initialCode) (hi : i = 0) (hbias : bias = initialBias)
  | behind (before after : List Char) (last : Char) (front : List Nat) (progress : Progress)
    (walked : List Char) (hdone : done = before ++ last :: after) (hcode : last.toNat = code)
    (hi : i = before.length + 1) (hbefore : ∀ c ∈ before, c.toNat ≤ code)
    (hafter : ∀ c ∈ after, c.toNat < code) (hcodes : codesOf done = front ++ [code])
    (hprogress : front.foldl (Progress.walk done) (.start plain) = progress)
    (hwalk : writeCode code (progress.approach code) (before ++ [last]) =
      (walked, ⟨0, bias, done.length, true⟩))
    (hwritten : written = progress.written ++ walked)

section Follow

variable {plain done written : List Char} {code i bias : Nat}

/-- The codes of a label are those of characters outside ASCII. -/
lemma codesOf_eq_nil (h : ∀ c ∈ plain, c.toNat < initialCode) : codesOf plain = [] := by
  refine List.eq_nil_iff_forall_not_mem.mpr fun n hn => ?_
  obtain ⟨hle, c, hc, rfl⟩ := ((codesOf_spec plain).2 n).mp hn
  exact absurd (h c hc) (Nat.not_lt.mpr hle)

/-- To finish the walk is to count the characters behind the one inserted last. -/
lemma Follows.exists_between (h : Follows plain done written code i bias) :
    ∃ progress, Between plain done written code i bias progress ∧
      (progress.code = code ∧ i = 0 ∨ progress.code = code + 1 ∧ i ≠ 0) := by
  cases h with
  | start hplain hdone hwritten hcode hi hbias =>
    subst hdone hwritten hcode hi hbias
    refine ⟨.start done, ⟨?_, rfl, rfl, rfl, rfl, ?_, hplain, Nat.le_refl _⟩, Or.inl ⟨rfl, rfl⟩⟩
    · rw [codesOf_eq_nil hplain]
      rfl
    · exact Nat.zero_add _
  | behind before after last front progress walked hdone hcode hi hbefore hafter hcodes hprogress
      hwalk hwritten =>
    have hle : initialCode ≤ code := by
      have hmem : code ∈ codesOf done := hcodes ▸ List.mem_append_right _ List.mem_cons_self
      exact ((codesOf_spec done).2 code).mp hmem |>.1
    have hsplit : done = (before ++ [last]) ++ after := by
      rw [hdone, List.append_assoc, List.singleton_append]
    have hlast : writeCode code (progress.approach code) done =
        (walked, ⟨0 + after.length, bias, done.length, true⟩) := by
      rw [hsplit, writeCode_append, hwalk, ← hsplit, writeCode_of_lt hafter, List.append_nil]
    refine ⟨_, ⟨rfl, ?_, ?_, ?_, ?_, ?_, ?_, ?_⟩, Or.inr ⟨?_, by omega⟩⟩
    all_goals rw [hcodes, List.foldl_append, hprogress, List.foldl_cons, List.foldl_nil]
    all_goals simp only [Progress.walk, hlast]
    · exact hwritten.symm
    · rw [hi]
      rfl
    · have hlength : done.length = before.length + (1 + after.length) := by
        rw [hsplit, List.append_assoc, List.length_append, List.length_append,
          List.length_singleton]
      rw [hi, Nat.add_mul code 1]
      omega
    · intro c hc
      rw [hdone, List.mem_append, List.mem_cons] at hc
      rcases hc with hc | rfl | hc
      · exact Nat.lt_succ_of_le (hbefore c hc)
      · exact Nat.lt_succ_of_le (Nat.le_of_eq hcode)
      · exact Nat.lt_succ_of_lt (hafter c hc)
    · exact Nat.le_succ_of_le hle

/-- The next number leads to a greater code: it is written in a walk of its own. -/
lemma Between.insert {progress : Progress}
    (h : Between plain done written code i bias progress) {front behind : List Char}
    (hdone : done = front ++ behind) {c : Char} {delta steps : Nat}
    (hdelta : i + delta = steps * (done.length + 1) + front.length)
    (hc : c.toNat = code + steps) (hle : progress.code ≤ c.toNat) :
    Follows plain (front ++ c :: behind) (written ++ writeNumber delta delta base bias) c.toNat
      (front.length + 1) (adapt delta (done.length + 1) (i = 0)) := by
  have hbelow : ∀ d ∈ done, d.toNat < c.toNat :=
    fun d hd => Nat.lt_of_lt_of_le (h.lt_code d hd) hle
  have hcodes : codesOf (front ++ c :: behind) = codesOf done ++ [c.toNat] := by
    rw [hdone] at hbelow ⊢
    exact codesOf_insert_of_lt (Nat.le_trans h.le_code hle) hbelow
  -- the distance that the encoder counts is the one that was read
  have hdistance : progress.state.delta + (c.toNat - progress.code) * (done.length + 1) +
      front.length = delta := by
    have hdelta' := h.delta_eq
    have hmul : (c.toNat - progress.code) * (done.length + 1) +
        progress.code * (done.length + 1) =
          code * (done.length + 1) + steps * (done.length + 1) := by
      rw [← Nat.add_mul, Nat.sub_add_cancel hle, hc, Nat.add_mul]
    omega
  have hwalk : writeCode c.toNat (progress.approach c.toNat) (front ++ [c]) =
      (writeNumber delta delta base bias,
        ⟨0, adapt delta (done.length + 1) (i = 0), (front ++ c :: behind).length, true⟩) := by
    have hfront : ∀ d ∈ front, d.toNat < c.toNat :=
      fun d hd => hbelow d (hdone ▸ List.mem_append_left _ hd)
    have hlength : (front ++ c :: behind).length = done.length + 1 := by
      rw [hdone, List.length_append, List.length_append, List.length_cons, Nat.add_assoc]
    rw [writeCode_append, writeCode_of_lt hfront, writeCode_singleton rfl, hlength]
    simp only [Progress.approach, h.handled_eq, h.bias_eq, h.started_eq, hdistance, List.nil_append]
  refine .behind front behind c (codesOf done) progress _ rfl rfl rfl ?_ ?_ hcodes ?_ hwalk ?_
  · exact fun d hd => Nat.le_of_lt (hbelow d (hdone ▸ List.mem_append_left _ hd))
  · exact fun d hd => hbelow d (hdone ▸ List.mem_append_right _ hd)
  · rw [Progress.foldl_walk_insert, ← hdone, h.foldl_walk_eq]
    intro n hn
    obtain ⟨-, d, hd, rfl⟩ := ((codesOf_spec done).2 n).mp hn
    exact hbelow d hd
  · rw [h.written_eq]

/-- The next number leads to the same code: it is written in the same walk. -/
lemma Follows.insert_behind (h : Follows plain done written code i bias) (hi : i ≠ 0)
    {front behind : List Char} (hdone : done = front ++ behind) {c : Char} {delta : Nat}
    (hdelta : i + delta = front.length) (hc : c.toNat = code) :
    Follows plain (front ++ c :: behind) (written ++ writeNumber delta delta base bias) c.toNat
      (front.length + 1) (adapt delta (done.length + 1) (i = 0)) := by
  cases h with
  | start _ _ _ _ hzero => exact absurd hzero hi
  | behind before after last codes progress walked hsplit hcode hplace hbefore hafter hcodes
      hprogress hwalk hwritten =>
    -- the characters between the one inserted last and the new one
    have hall : (before ++ [last]) ++ after = front ++ behind := by
      rw [← hdone, hsplit, List.append_assoc, List.singleton_append]
    obtain ⟨between, rfl⟩ : before ++ [last] <+: front := by
      refine List.prefix_of_prefix_length_le (hall ▸ List.prefix_append _ _)
        (List.prefix_append _ _) ?_
      rw [List.length_append, List.length_singleton]
      omega
    obtain rfl : after = between ++ behind := by
      rw [List.append_assoc (before ++ [last])] at hall
      exact List.append_cancel_left hall
    rw [List.forall_mem_append] at hafter
    have hlength : between.length = delta := by
      rw [List.length_append, List.length_append, List.length_singleton] at hdelta
      omega
    have hlength' : ((before ++ [last] ++ between) ++ c :: behind).length = done.length + 1 := by
      simp only [hdone, List.length_append, List.length_cons]
      omega
    have hcodes' : codesOf ((before ++ [last] ++ between) ++ c :: behind) = codes ++ [c.toNat] := by
      rw [hdone] at hcodes
      rw [hc, ← hcodes]
      refine codesOf_insert_of_mem ?_
      rw [hcodes, hc]
      exact List.mem_append_right _ (List.mem_singleton_self code)
    have hwalk' : writeCode c.toNat (progress.approach c.toNat)
        ((before ++ [last] ++ between) ++ [c]) =
          (walked ++ writeNumber delta delta base bias,
            ⟨0, adapt delta (done.length + 1) (i = 0),
              ((before ++ [last] ++ between) ++ c :: behind).length, true⟩) := by
      rw [hc, writeCode_append, writeCode_append, hwalk, writeCode_of_lt hafter.1,
        writeCode_singleton hc, hlength', hlength, decide_eq_false hi]
      simp only [List.append_nil, Nat.zero_add, Bool.not_true]
    refine .behind _ behind c codes progress _ rfl rfl rfl ?_ ?_ hcodes' ?_ hwalk' ?_
    · rw [hc]
      simp only [List.forall_mem_append, List.forall_mem_singleton]
      exact ⟨⟨hbefore, Nat.le_of_eq hcode⟩, fun d hd => Nat.le_of_lt (hafter.1 d hd)⟩
    · rw [hc]
      exact hafter.2
    · rw [Progress.foldl_walk_insert, ← hdone, hprogress]
      have hpairwise := (codesOf_spec done).1
      rw [hcodes, List.pairwise_append] at hpairwise
      exact fun n hn => hc.symm ▸ hpairwise.2.2 n hn code (List.mem_singleton_self code)
    · rw [hwritten, List.append_assoc]

/-- Wherever a character is inserted, the encoder follows. -/
lemma Follows.insert (h : Follows plain done written code i bias) (delta : Nat)
    (hvalid : (code + (i + delta) / (done.length + 1)).isValidChar) :
    Follows plain
      (done.take ((i + delta) % (done.length + 1)) ++
        Char.ofNat (code + (i + delta) / (done.length + 1)) ::
          done.drop ((i + delta) % (done.length + 1)))
      (written ++ writeNumber delta delta base bias)
      (code + (i + delta) / (done.length + 1)) ((i + delta) % (done.length + 1) + 1)
      (adapt delta (done.length + 1) (i = 0)) := by
  have hdone := (List.take_append_drop ((i + delta) % (done.length + 1)) done).symm
  have hc := toNat_ofNat hvalid
  have hlt : (i + delta) % (done.length + 1) < done.length + 1 :=
    Nat.mod_lt _ (Nat.succ_pos done.length)
  have hlength : (done.take ((i + delta) % (done.length + 1))).length =
      (i + delta) % (done.length + 1) := by
    rw [List.length_take]
    omega
  have hdiv := Nat.div_add_mod' (i + delta) (done.length + 1)
  generalize (i + delta) % (done.length + 1) = place at *
  generalize (i + delta) / (done.length + 1) = steps at *
  generalize done.take place = front at *
  generalize Char.ofNat (code + steps) = c at *
  subst hlength
  rw [← hc]
  obtain ⟨progress, hbetween, hcode⟩ := h.exists_between
  by_cases hsame : i ≠ 0 ∧ steps = 0
  · obtain ⟨hi, rfl⟩ := hsame
    have hplace : i + delta = front.length := by omega
    exact h.insert_behind hi hdone hplace hc
  · exact hbetween.insert hdone hdiv.symm hc (by omega)

end Follow

/-- The encoder follows the decoder through all its insertions. -/
lemma Inserts.follows {plain done written : List Char} {code i bias : Nat}
    (hplain : ∀ c ∈ plain, c.toNat < initialCode)
    (h : Inserts plain done written code i bias) : Follows plain done written code i bias := by
  induction h with
  | start => exact .start hplain rfl rfl rfl rfl rfl
  | insert h delta hvalid ih => exact ih.insert delta hvalid

/-- The plain characters are those that the decoder begins with. -/
lemma Inserts.filter_eq {plain done written : List Char} {code i bias : Nat}
    (hplain : ∀ c ∈ plain, c.toNat < initialCode)
    (h : Inserts plain done written code i bias) :
    done.filter (·.toNat < initialCode) = plain ∧ initialCode ≤ code := by
  induction h with
  | start =>
    exact ⟨List.filter_eq_self.mpr fun c hc => decide_eq_true (hplain c hc), Nat.le_refl _⟩
  | insert h delta hvalid ih =>
    obtain ⟨hfilter, hle⟩ := ih
    refine ⟨?_, Nat.le_add_right_of_le hle⟩
    rw [List.filter_append, List.filter_cons_of_neg, ← List.filter_append, List.take_append_drop,
      hfilter]
    rw [decide_eq_true_eq, toNat_ofNat hvalid, Nat.not_lt]
    exact Nat.le_add_right_of_le hle

/-- What was decoded is encoded as it was spelled. -/
lemma encode_of_inserts {plain label digits : List Char} {code i bias : Nat}
    (hplain : ∀ c ∈ plain, c.toNat < initialCode)
    (h : Inserts plain label digits code i bias) :
    encode label = plain ++ (if plain.isEmpty then [] else ['-']) ++ digits := by
  obtain ⟨progress, hbetween, -⟩ := (h.follows hplain).exists_between
  rw [encode_eq, (h.filter_eq hplain).1, hbetween.foldl_walk_eq, hbetween.written_eq]

/-- A label is split at a hyphen, unless there is nothing plain in front. -/
lemma eq_append_of_splitPlain {cs plain digits : List Char}
    (h : splitPlain cs = (plain, digits)) (hne : plain ≠ []) : cs = plain ++ '-' :: digits := by
  have hcut := List.takeWhile_append_dropWhile (p := (· != '-')) (l := cs.reverse)
  unfold splitPlain at h
  simp only at h
  split at h
  · exact absurd (Prod.mk.inj h).1.symm hne
  · next hlength =>
    obtain ⟨htake, rfl⟩ := Prod.mk.inj h
    cases hdrop : cs.reverse.dropWhile (· != '-') with
    | nil =>
      rw [hdrop, List.append_nil] at hcut
      rw [hcut, List.reverse_reverse] at hlength
      exact absurd rfl hlength
    | cons c before =>
      have hhyphen : c = '-' := by
        have hstop := List.head?_dropWhile_not (· != '-') cs.reverse
        rw [hdrop] at hstop
        simpa using hstop
      have hcs := congrArg List.reverse hcut
      rw [hdrop, hhyphen, List.reverse_append, List.reverse_cons, List.reverse_reverse,
        List.append_assoc, List.singleton_append] at hcs
      generalize (cs.reverse.takeWhile (· != '-')).reverse = tail at *
      subst hcs
      have hfront : (before.reverse ++ '-' :: tail).length - tail.length - 1 =
          before.reverse.length := by
        rw [List.length_append, List.length_cons]
        omega
      rw [← htake, hfront, List.take_left]

/-- A label in lower case is what the label that it stands for is encoded as. -/
theorem encode_of_decode? {part label : List Char}
    (hplain : ∀ c ∈ part, c.isLower = true ∨ c.isDigit = true ∨ c = '-')
    (h : decode? part = some label) : encode label = part := by
  unfold decode? at h
  split at h
  · obtain ⟨code, i, bias, hinserts⟩ := exists_inserts_of_insertAll hplain .start h
    exact encode_of_inserts (fun c hc => absurd hc List.not_mem_nil) hinserts
  · next plain digits hne hsplit =>
    split at h
    · next hascii =>
      have hpart := eq_append_of_splitPlain hsplit hne
      have hdigits : ∀ c ∈ digits, c.isLower = true ∨ c.isDigit = true ∨ c = '-' := by
        intro c hc
        exact hplain c (hpart ▸ List.mem_append_right _ (List.mem_cons_of_mem _ hc))
      have hplain' : ∀ c ∈ plain, c.toNat < initialCode :=
        fun c hc => of_decide_eq_true (List.all_eq_true.mp hascii c hc)
      obtain ⟨code, i, bias, hinserts⟩ := exists_inserts_of_insertAll hdigits .start h
      have hempty : ¬ plain.isEmpty = true := by
        rw [List.isEmpty_iff]
        exact hne
      rw [encode_of_inserts hplain' hinserts, if_neg hempty, hpart, List.append_assoc]
      rfl
    · exact nomatch h

end ScopedAuth.Idna.Punycode
