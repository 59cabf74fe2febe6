import ScopedAuth.Proofs.Idna.Domain
import ScopedAuth.Proofs.Text.Decoding
import ScopedAuth.Proofs.Url.Authority

/-!
# Authorities that end with a domain

If an authority ends with a dot and a domain in lower case, so does its host
(`IsDomain.exists_host_of_parseAuthority`), whatever stands in front: a user ends at the last at
sign, which comes before the dot, and a port that began there would not be made of digits.
-/

namespace ScopedAuth.Url

open ScopedAuth.Text

/-! ### The parts of an authority -/

section Parts

variable (front : List Char) {tail : List Char}

/-- A user is split off in front of a text without an at sign. -/
lemma exists_splitUserinfo?_append (huser : '@' ∉ tail) :
    ∃ userinfo rest, (splitUserinfo? (front ++ tail)).getD ([], front ++ tail) =
      (userinfo, rest ++ tail) := by
  have hall : ∀ c ∈ tail.reverse, (c != '@') = true := by
    intro c hc
    rw [bne_iff_ne]
    rintro rfl
    exact huser (List.mem_reverse.mp hc)
  rw [splitUserinfo?, List.reverse_append, List.dropWhile_append_of_pos hall,
    List.takeWhile_append_of_pos hall]
  split
  · exact ⟨_, front, rfl⟩
  · next before _ =>
    refine ⟨before.reverse, (front.reverse.takeWhile (· != '@')).reverse, ?_⟩
    rw [Option.getD_some, List.reverse_append, List.reverse_reverse]

/-- A text without a colon ends the host or the port. -/
lemma splitPort_append (hcolon : ':' ∉ tail) (inside : Bool) :
    splitPort inside (front ++ tail) = (front ++ tail, none) ∨
      ∃ host digits, splitPort inside (front ++ tail) = (host, some (digits ++ tail)) := by
  induction front generalizing inside with
  | nil => exact Or.inl (splitPort_of_not_mem hcolon inside)
  | cons c rest ih =>
    rw [List.cons_append, splitPort]
    split
    · exact Or.inr ⟨[], rest, rfl⟩
    · simp only
      rcases ih (if c = '[' then true else if c = ']' then false else inside) with
        hnone | ⟨host, digits, hsome⟩
      · rw [hnone]
        exact Or.inl rfl
      · rw [hsome]
        exact Or.inr ⟨c :: host, digits, rfl⟩

/-- A port is made of digits. -/
lemma isDigit_of_parsePort {layout : Layout} {digits : List Char} {port : Option Port}
    (h : parsePort layout digits = .ok port) {c : Char} (hc : c ∈ digits) : c.isDigit = true := by
  unfold parsePort at h
  split at h
  · exact nomatch h
  · next hall =>
    rw [Bool.not_eq_true, Bool.not_eq_false'] at hall
    exact List.all_eq_true.mp hall c hc

/-- An authority that is read has the host and the port of what stands behind the user. -/
lemma parts_of_parseAuthority {layout : Layout} {text userinfo rest : List Char} {isLast : Bool}
    {authority : Authority} (hsplit : (splitUserinfo? text).getD ([], text) = (userinfo, rest))
    (h : parseAuthority layout text isLast = .ok authority) :
    parseHost layout (splitPort false rest).1 = .ok authority.host ∧
      parsePort layout ((splitPort false rest).2.getD []) = .ok authority.port := by
  unfold parseAuthority at h
  rw [hsplit] at h
  simp only at h
  split at h
  · exact nomatch h
  · obtain ⟨host, hhost, h⟩ := bind_eq_ok_iff.mp h
    split at h
    · exact nomatch h
    · obtain ⟨port, hport, h⟩ := bind_eq_ok_iff.mp h
      split at h
      · exact nomatch h
      · rw [← Except.ok.inj h]
        exact ⟨hhost, hport⟩

end Parts

/-! ### Domains -/

namespace IsDomain

variable {labels : List (List Char)} (h : IsDomain labels)

include h

/-- A domain with a dot in front is made of characters that may occur in a host name. -/
lemma isNameChar_of_mem_cons {c : Char} (hc : c ∈ '.' :: hostName labels) : IsNameChar c := by
  rcases List.mem_cons.mp hc with rfl | hc
  · decide
  · exact h.isNameChar hc

/-- Any other character is missing in it. -/
lemma not_mem_cons {c : Char} (hc : ¬ IsNameChar c) : c ∉ '.' :: hostName labels :=
  fun hmem => hc (h.isNameChar_of_mem_cons hmem)

/-- A text that ends with a domain is not bracketed. -/
lemma parseBracketed_eq_error (front : List Char) :
    Host.parseBracketed (front ++ '.' :: hostName labels) = .error .invalidIpv6 := by
  unfold Host.parseBracketed
  split
  · next inner hreverse =>
    have hlast := congrArg List.head? hreverse
    rw [List.head?_reverse, List.getLast?_append_of_ne_nil _ (List.cons_ne_nil _ _)] at hlast
    exact absurd (List.mem_of_getLast? hlast) (h.not_mem_cons (by decide))
  · rfl

/-- A name that ends with a domain is no address. -/
lemma ofAscii_append (front : List Char) :
    Host.ofAscii (front ++ '.' :: hostName labels) =
      .ok (.domain (String.ofList (front ++ '.' :: hostName labels))) := by
  have hempty : ¬ (front ++ '.' :: hostName labels).isEmpty = true := by
    rw [List.isEmpty_iff]
    exact List.append_ne_nil_of_right_ne_nil _ (List.cons_ne_nil _ _)
  have hnumber : ¬ Ipv4.endsInNumber (front ++ '.' :: hostName labels) = true := by
    obtain ⟨first, rest, hlast, hletter⟩ := h.last_letter
    have hlabel : ((front ++ '.' :: hostName labels).splitOn '.').getLast? =
        some (first :: rest) := by
      rw [List.splitOn_append_cons_self, h.splitOn_hostName,
        List.getLast?_append_of_ne_nil _ h.ne_nil, hlast]
    rw [endsInNumber_eq_false hlabel hletter]
    exact Bool.false_ne_true
  rw [Host.ofAscii, if_neg hempty, if_neg hnumber]

/-- If a text ends with a dot and a domain, so does the host that is read from it. -/
lemma exists_host_of_parse {front : List Char} {host : Host}
    (hhost : Host.parse (front ++ '.' :: hostName labels) = .ok host) :
    ∃ before, host = .domain (String.ofList (before ++ '.' :: hostName labels)) := by
  unfold Host.parse at hhost
  split at hhost
  · next rest hbracket =>
    cases front with
    | nil => exact absurd (List.cons.inj hbracket).1 (by decide)
    | cons c more =>
      obtain rfl : more ++ '.' :: hostName labels = rest := (List.cons.inj hbracket).2
      rw [h.parseBracketed_eq_error] at hhost
      exact nomatch hhost
  · split at hhost
    · next name hname =>
      obtain ⟨decoded, hdecoded, hascii⟩ := Option.bind_eq_some_iff.mp hname
      have hdot : ¬ Hexadecimal '.' := by
        rw [← isHexDigit_iff]
        decide
      obtain ⟨middle, rfl⟩ := Percent.exists_eq_append_of_decodeText? hdot
        (fun c hc => (h.isNameChar_of_mem_cons hc).toNat_lt) (h.not_mem_cons (by decide)) hdecoded
      obtain ⟨before, rfl⟩ := Idna.exists_eq_append_of_toAscii? h hascii
      rw [h.ofAscii_append] at hhost
      exact ⟨before, (Except.ok.inj hhost).symm⟩
    · exact nomatch hhost

/-- If an authority ends with a dot and a domain, so does its host. -/
lemma exists_host_of_parseAuthority {front : List Char} {port : Port} {isLast : Bool}
    {authority : Authority}
    (hok : parseAuthority (.web port) (front ++ '.' :: hostName labels) isLast = .ok authority) :
    ∃ before, authority.host =
      some (.domain (String.ofList (before ++ '.' :: hostName labels))) := by
  obtain ⟨userinfo, rest, hsplit⟩ :=
    exists_splitUserinfo?_append front (h.not_mem_cons (by decide))
  obtain ⟨hhost, hport⟩ := parts_of_parseAuthority hsplit hok
  rcases splitPort_append rest (h.not_mem_cons (by decide)) false with
    hnone | ⟨host, digits, hsome⟩
  · have hempty : ¬ (rest ++ '.' :: hostName labels).isEmpty = true := by
      rw [List.isEmpty_iff]
      exact List.append_ne_nil_of_right_ne_nil _ (List.cons_ne_nil _ _)
    simp only [hnone, parseHost, if_neg hempty] at hhost
    obtain ⟨host, hparse, hsome⟩ := map_eq_ok_iff.mp hhost
    obtain ⟨before, rfl⟩ := h.exists_host_of_parse hparse
    exact ⟨before, hsome.symm⟩
  · rw [hsome, Option.getD_some] at hport
    have hdot := isDigit_of_parsePort hport (List.mem_append_right digits List.mem_cons_self)
    exact absurd hdot (by decide)

end IsDomain

end ScopedAuth.Url
