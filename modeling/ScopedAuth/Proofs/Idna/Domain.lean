import ScopedAuth.Proofs.Idna.Punycode
import ScopedAuth.Proofs.Unicode.Normalization
import ScopedAuth.Proofs.Url.HostName

/-!
# Names below a domain keep the domain

However the front of a name is written, a domain behind it, in lower case, comes out of the
conversion to ASCII as it went in (`exists_eq_append_of_toAscii?`).  Its characters are neither
mapped nor touched by normalisation, the dot in front of it separates its labels from those before,
and a label that is marked as encoded either is refused or is encoded the same way again.
-/

namespace ScopedAuth.Idna

open ScopedAuth.Unicode ScopedAuth.Text ScopedAuth.Url

/-! ### Characters -/

set_option maxRecDepth 20000 in
/-- No row of the mapping table holds a letter in lower case, a digit, a hyphen or a dot. -/
lemma mappingTable_nameChar : mappingTable.rows.toList.all (fun row =>
    (57 < row.first && row.last < 97) || 122 < row.first) = true := by
  simp only [mappingTable]
  rw [Packed.Spell.numbers_eq]
  rotate_left
  · repeat apply Packed.Spell.cons
    exact Packed.Spell.nil
  · decide +kernel

/-- A character that may occur in a host name as it stands is not mapped. -/
lemma mapped?_of_isNameChar {c : Char} (h : IsNameChar c) : mapped? c = some [c] := by
  have hrow : mappingTable.row? c.toNat = none := by
    refine RangeTable.row?_eq_none fun row hrow => ?_
    have hbounds := List.all_eq_true.mp mappingTable_nameChar row hrow
    rw [Bool.or_eq_true, Bool.and_eq_true, decide_eq_true_eq, decide_eq_true_eq,
      decide_eq_true_eq] at hbounds
    rw [isNameChar_iff] at h
    omega
  rw [mapped?, rule, hrow]
  rfl

/-- What comes of two lists is what comes of each. -/
lemma exists_of_mapM_append {α β : Type} {f : α → Option β} {front behind : List α} {both : List β}
    (h : (front ++ behind).mapM f = some both) :
    ∃ one other, front.mapM f = some one ∧ behind.mapM f = some other ∧ both = one ++ other := by
  rw [List.mapM_append] at h
  obtain ⟨one, hone, h⟩ := Option.bind_eq_some_iff.mp h
  obtain ⟨other, hother, h⟩ := Option.bind_eq_some_iff.mp h
  exact ⟨one, other, hone, hother, (Option.some.inj h).symm⟩

/-- What comes of each element of a list, put back, is the list. -/
lemma map_eq_of_mapM {α β : Type} {f : α → Option β} {g : β → α} {list : List α} {read : List β}
    (hg : ∀ a ∈ list, ∀ b, f a = some b → g b = a) (h : list.mapM f = some read) :
    read.map g = list := by
  induction list generalizing read with
  | nil =>
    obtain rfl : [] = read := Option.some.inj h
    rfl
  | cons a rest ih =>
    obtain ⟨hfirst, hrest⟩ := List.forall_mem_cons.mp hg
    rw [List.mapM_cons] at h
    obtain ⟨b, hb, h⟩ := Option.bind_eq_some_iff.mp h
    obtain ⟨more, hmore, h⟩ := Option.bind_eq_some_iff.mp h
    obtain rfl : b :: more = read := Option.some.inj h
    rw [List.map_cons, hfirst b hb, ih hrest hmore]

/-- Two lists that are not empty are joined like one. -/
lemma intercalate_append {α : Type} (separator : List α) {front behind : List (List α)}
    (hfront : front ≠ []) (hbehind : behind ≠ []) :
    List.intercalate separator (front ++ behind) =
      List.intercalate separator front ++ separator ++ List.intercalate separator behind := by
  induction front with
  | nil => exact absurd rfl hfront
  | cons first rest ih =>
    cases rest with
    | nil =>
      obtain ⟨next, more, rfl⟩ := List.exists_cons_of_ne_nil hbehind
      rw [List.singleton_append, List.intercalate_cons_cons, List.intercalate_singleton]
    | cons second later =>
      rw [List.cons_append, List.cons_append, List.intercalate_cons_cons,
        List.intercalate_cons_cons, ← List.cons_append, ih (List.cons_ne_nil _ _)]
      simp only [List.append_assoc]

/-- Characters that may occur in a host name as they stand are mapped to themselves. -/
lemma flatten_of_mapM_mapped? {text : List Char} {parts : List (List Char)}
    (htext : ∀ c ∈ text, IsNameChar c) (h : text.mapM mapped? = some parts) :
    parts.flatten = text := by
  induction text generalizing parts with
  | nil =>
    obtain rfl : [] = parts := Option.some.inj h
    rfl
  | cons c rest ih =>
    obtain ⟨hc, hrest⟩ := List.forall_mem_cons.mp htext
    rw [List.mapM_cons] at h
    obtain ⟨mapped, hmapped, h⟩ := Option.bind_eq_some_iff.mp h
    obtain rfl : [c] = mapped := Option.some.inj ((mapped?_of_isNameChar hc).symm.trans hmapped)
    obtain ⟨more, hmore, h⟩ := Option.bind_eq_some_iff.mp h
    obtain rfl : [c] :: more = parts := Option.some.inj h
    rw [List.flatten_cons, ih hrest hmore, List.singleton_append]

/-! ### Labels -/

/-- What follows the marker of a label stands behind the marker. -/
lemma eq_of_markedPart? {label part : List Char} (h : markedPart? label = some part) :
    label = 'x' :: 'n' :: '-' :: '-' :: part := by
  unfold markedPart? at h
  split at h
  · rw [Option.some.inj h]
  · exact nomatch h

/-- A label in lower case that is accepted is written as it was read. -/
lemma writeLabel_of_readLabel? {label read : List Char}
    (hplain : ∀ c ∈ label, c.isLower = true ∨ c.isDigit = true ∨ c = '-')
    (h : readLabel? label = some read) : writeLabel read = label := by
  unfold readLabel? at h
  split at h
  · next part hmarked =>
    obtain rfl := eq_of_markedPart? hmarked
    simp only [List.forall_mem_cons] at hplain
    split at h
    · rw [Option.filter_eq_some_iff, Bool.and_eq_true, isCanonical, Bool.and_eq_true,
        Bool.and_eq_true, Bool.and_eq_true, Bool.not_eq_true'] at h
      obtain ⟨hdecode, ⟨⟨⟨hascii, -⟩, -⟩, -⟩, -⟩ := h
      rw [writeLabel, hascii, Punycode.encode_of_decode? hplain.2.2.2.2 hdecode]
      rfl
    · exact nomatch h
  · have hascii : isAscii label = true := by
      rw [isAscii, List.all_eq_true]
      intro c hc
      have hname : IsNameChar c := (hplain c hc).imp_right fun hor => hor.imp_right Or.inl
      exact decide_eq_true hname.toNat_lt
    rw [hascii, Bool.true_or, if_pos rfl] at h
    obtain rfl := Option.some.inj h
    rw [writeLabel, if_pos hascii]

/-! ### Names -/

section Names

variable {labels : List (List Char)} (h : IsDomain labels)

include h

/-- A domain in lower case keeps to itself behind a dot when a name that is not plain is
converted. -/
lemma exists_eq_append_of_convert? {front name : List Char}
    (hname : convert? (front ++ '.' :: hostName labels) = some name) :
    ∃ before, name = before ++ '.' :: hostName labels := by
  have hchars : ∀ c ∈ '.' :: hostName labels, IsNameChar c :=
    List.forall_mem_cons.mpr ⟨by decide, fun _ => h.isNameChar⟩
  have hinert : ∀ c ∈ '.' :: hostName labels, Inert c :=
    fun c hc => inert_of_lt (hchars c hc).toNat_lt
  unfold convert? at hname
  obtain ⟨mapped, hmapped, hname⟩ := Option.bind_eq_some_iff.mp hname
  obtain ⟨one, other, -, hother, rfl⟩ := exists_of_mapM_append hmapped
  rw [List.flatten_append, flatten_of_mapM_mapped? hchars hother, normalize_append hinert] at hname
  simp only at hname
  split at hname
  · exact nomatch hname
  · obtain ⟨read, hread, hname⟩ := Option.bind_eq_some_iff.mp hname
    rw [List.splitOn_append_cons_self, h.splitOn_hostName] at hread
    obtain ⟨readFront, readLabels, hreadFront, hreadLabels, rfl⟩ := exists_of_mapM_append hread
    have hwritten : readLabels.map writeLabel = labels :=
      map_eq_of_mapM (fun label hlabel _ => writeLabel_of_readLabel? (h.plain label hlabel))
        hreadLabels
    split at hname
    · have hfront : readFront.map writeLabel ≠ [] := by
        obtain ⟨first, rest, hfirst⟩ :=
          List.exists_cons_of_ne_nil (List.splitOn_ne_nil '.' (normalize one.flatten))
        rw [hfirst, List.mapM_cons] at hreadFront
        obtain ⟨a, -, hreadFront⟩ := Option.bind_eq_some_iff.mp hreadFront
        obtain ⟨more, -, hreadFront⟩ := Option.bind_eq_some_iff.mp hreadFront
        rw [← Option.some.inj hreadFront]
        exact List.cons_ne_nil _ _
      rw [← Option.some.inj hname, List.map_append, hwritten, intercalate_append _ hfront h.ne_nil,
        List.append_assoc]
      exact ⟨_, rfl⟩
    · exact nomatch hname

/-- A domain in lower case keeps to itself behind a dot, whatever the front of the name is. -/
theorem exists_eq_append_of_toAscii? {front name : List Char}
    (hname : toAscii? (front ++ '.' :: hostName labels) = some name) :
    ∃ before, name = before ++ '.' :: hostName labels := by
  unfold toAscii? at hname
  split at hname
  · split at hname
    · exact nomatch hname
    · rw [← Option.some.inj hname, List.map_append, List.map_cons, h.map_toLower_hostName]
      exact ⟨_, rfl⟩
  · exact exists_eq_append_of_convert? h hname

end Names

end ScopedAuth.Idna
