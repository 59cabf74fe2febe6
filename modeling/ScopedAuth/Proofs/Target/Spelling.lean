import Mathlib.Data.Bool.AllAny
import ScopedAuth.Proofs.Provider.Application
import ScopedAuth.Proofs.Store.Batch
import ScopedAuth.Proofs.Target.Language
import ScopedAuth.Proofs.Text.Characters
import ScopedAuth.Proofs.Url.Authority

/-!
# Spellings of the same host and port

A target of a special scheme may name the port of the scheme or leave it out, and write the scheme
with letters of either case.  All these texts are targets, or none is, and they have the same scope
(`Target.scope_eq_of_spells`): a provider holds one credential for all of them, while a store has
an entry for each.  What makes a text a target is asked of the host and of what stands behind the
authority, and the URL that is read is the very same.
-/

namespace ScopedAuth

namespace Target

open ScopedAuth.Text

/-- The ways to write the port of a scheme behind a host: not at all, with a colon alone, or with
its number, in front of which there may be zeros. -/
inductive DefaultPort (port : Url.Port) : List Char → Prop
  | absent : DefaultPort port []
  | colon : DefaultPort port [':']
  | number (zeros : Nat) :
    DefaultPort port (':' :: (List.replicate zeros '0' ++ (toString port.toNat).toList))

/-- The texts that name a host at the port of a scheme, in front of the same rest. -/
inductive Spells (scheme : String) (port : Url.Port) (host rest : List Char) : List Char → Prop
  | intro {letters portText : List Char} (hletters : letters.map Char.toLower = scheme.toList)
    (hport : DefaultPort port portText) :
    Spells scheme port host rest (letters ++ ("://".toList ++ (host ++ portText ++ rest)))

/-- A host of at least one character, without what could end it or set a user apart, and a rest that
is empty or begins with a character that ends the host. -/
structure Delimited (host rest : List Char) : Prop where
  ne_nil : host ≠ []
  plain : ∀ c ∈ host, c ∉ "/?#@:[]".toList
  ends : ∀ c ∈ rest.head?, Url.endsAuthority c = true

/-! ### Characters -/

/-- Letters and digits may occur in a target. -/
lemma legal_of_isAlphanum {c : Char} (h : c.isAlphanum = true) : Legal c := by
  have hexcluded : c ∉ excluded := by
    have hall : ∀ d ∈ excluded, d.isAlphanum = false := List.all_iff_forall_prop.mp (by decide)
    intro hmem
    rw [hall c hmem] at h
    exact nomatch h
  rw [isAlphanum_iff] at h
  refine ⟨?_, ?_, hexcluded⟩
  · simp only [isBlank, Bool.or_eq_false_iff, Bool.and_eq_false_iff, decide_eq_false_iff_not]
    omega
  · simp only [isControl, Bool.or_eq_false_iff, Bool.and_eq_false_iff, decide_eq_false_iff_not]
    omega

/-- What ends an authority is no digit of an escape. -/
lemma not_hexadecimal_of_endsAuthority {c : Char} (h : Url.endsAuthority c = true) :
    ¬ Hexadecimal c := by
  simp only [Url.endsAuthority, Bool.or_eq_true, decide_eq_true_eq] at h
  rw [← isHexDigit_iff]
  rcases h with (rfl | rfl) | rfl
  · decide
  · decide
  · decide

/-! ### The port of a scheme -/

section Spelling

variable {scheme : String} {port : Url.Port} (hscheme : Url.IsSpecialScheme scheme port)

include hscheme

/-- The port of a scheme is left out, or it is a colon with digits behind it that count as no
port. -/
lemma DefaultPort.eq_nil_or_exists {portText : List Char} (h : DefaultPort port portText) :
    portText = [] ∨ ∃ digits, portText = ':' :: digits ∧ digits.all Char.isDigit = true ∧
      Url.parsePort (.web port) digits = .ok none := by
  have hnumber : (toString port.toNat).toList.all Char.isDigit = true ∧
      Url.Ipv4.valueOf 10 (toString port.toNat).toList = port.toNat := by
    have hall : ∀ item ∈ Url.specialSchemes,
        (toString item.2.toNat).toList.all Char.isDigit = true ∧
          Url.Ipv4.valueOf 10 (toString item.2.toNat).toList = item.2.toNat := by decide
    exact hall (scheme, port) hscheme
  cases h with
  | absent => exact Or.inl rfl
  | colon => exact Or.inr ⟨[], rfl, rfl, rfl⟩
  | number zeros =>
    have hdigits : (List.replicate zeros '0' ++ (toString port.toNat).toList).all Char.isDigit =
        true := by
      rw [List.all_append, hnumber.1, Bool.and_true, List.all_replicate]
      split
      · rfl
      · rfl
    refine Or.inr ⟨_, rfl, hdigits, Url.parsePort_eq_ok_none hdigits ?_⟩
    rw [Url.valueOf_replicate_append, hnumber.2]

/-- A port that is written out is a colon and digits. -/
lemma DefaultPort.eq_colon_or_isDigit {portText : List Char} (h : DefaultPort port portText)
    {c : Char} (hc : c ∈ portText) : c = ':' ∨ c.isDigit = true := by
  rcases h.eq_nil_or_exists hscheme with rfl | ⟨digits, rfl, hdigits, -⟩
  · exact nomatch hc
  · exact (List.mem_cons.mp hc).imp id fun hmem => List.all_eq_true.mp hdigits c hmem

end Spelling

/-! ### The host -/

namespace Delimited

variable {host rest : List Char} (h : Delimited host rest)

include h

/-- A character that could end the host is missing in it. -/
lemma not_mem {c : Char} (hc : c ∈ "/?#@:[]".toList) : c ∉ host :=
  fun hmem => h.plain c hmem hc

variable {scheme : String} {port : Url.Port} (hscheme : Url.IsSpecialScheme scheme port)

include hscheme

/-- A port behind the host does not end the authority either. -/
lemma endsAuthority_eq_false {portText : List Char} (hport : DefaultPort port portText) {c : Char}
    (hc : c ∈ host ++ portText) : Url.endsAuthority c = false := by
  rw [← Bool.not_eq_true]
  intro hends
  have hcases : (c = '/' ∨ c = '?') ∨ c = '#' := by
    simpa only [Url.endsAuthority, Bool.or_eq_true, decide_eq_true_eq] using hends
  rcases List.mem_append.mp hc with hc | hc
  · refine h.plain c hc ?_
    rcases hcases with (rfl | rfl) | rfl
    · decide
    · decide
    · decide
  · have hcolon := hport.eq_colon_or_isDigit hscheme hc
    rcases hcases with (rfl | rfl) | rfl
    · exact absurd hcolon (by decide)
    · exact absurd hcolon (by decide)
    · exact absurd hcolon (by decide)

/-- The host with or without the port of the scheme is an authority that names the host alone. -/
lemma parseAuthority_eq {portText : List Char} (hport : DefaultPort port portText)
    (isLast : Bool) :
    Url.parseAuthority (.web port) (host ++ portText) isLast =
      (Url.Host.parse host).map fun name => ⟨"", "", some name, none⟩ := by
  have huser : '@' ∉ host := h.not_mem (by decide)
  have hcolon : ':' ∉ host := h.not_mem (by decide)
  rcases hport.eq_nil_or_exists hscheme with rfl | ⟨digits, rfl, hdigits, hnone⟩
  · rw [List.append_nil, Url.parseAuthority_of_not_mem huser hcolon h.ne_nil]
  · rw [Url.parseAuthority_append_port huser hcolon (h.not_mem (by decide)) h.ne_nil hdigits hnone,
      Url.parseAuthority_of_not_mem huser hcolon h.ne_nil]

end Delimited

/-! ### Spelled texts -/

namespace Spells

variable {scheme : String} {port : Url.Port} {host rest text : List Char}
  (h : Spells scheme port host rest text) (hscheme : Url.IsSpecialScheme scheme port)

include h hscheme

/-- What is neither the host nor the rest may occur in a target. -/
lemma forall_legal_iff :
    (∀ c ∈ text, Legal c) ↔ (∀ c ∈ host, Legal c) ∧ ∀ c ∈ rest, Legal c := by
  obtain @⟨letters, portText, hletters, hport⟩ := h
  have hname : ∀ c ∈ letters, Legal c := by
    intro c hc
    refine legal_of_isAlphanum ?_
    rw [Char.isAlphanum, hscheme.isAlpha_of_mem hletters hc, Bool.true_or]
  have hcolon : Legal ':' := by
    unfold Legal
    decide
  have hslash : Legal '/' := by
    unfold Legal
    decide
  have hslashes : ∀ c ∈ "://".toList, Legal c := by
    change ∀ c ∈ [':', '/', '/'], Legal c
    rw [List.forall_mem_cons, List.forall_mem_cons, List.forall_mem_singleton]
    exact ⟨hcolon, hslash, hslash⟩
  have hbehind : ∀ c ∈ portText, Legal c := by
    intro c hc
    rcases hport.eq_colon_or_isDigit hscheme hc with rfl | hdigit
    · exact hcolon
    · refine legal_of_isAlphanum ?_
      rw [Char.isAlphanum, hdigit, Bool.or_true]
  simp only [List.forall_mem_append]
  constructor
  · rintro ⟨-, -, ⟨hlegal, -⟩, hrest⟩
    exact ⟨hlegal, hrest⟩
  · rintro ⟨hlegal, hrest⟩
    exact ⟨hname, hslashes, ⟨hlegal, hbehind⟩, hrest⟩

variable (hhost : Delimited host rest)

include hhost

/-- The URL of the text is made of its host and what stands behind. -/
lemma url_parse_eq :
    Url.parse text = (Url.Host.parse host).map fun name =>
      some (Url.withAuthority scheme (.web port) rest ⟨"", "", some name, none⟩) := by
  obtain ⟨hletters, hport⟩ := h
  rw [hscheme.parse_eq hletters (List.append_ne_nil_of_left_ne_nil hhost.ne_nil _)
    (fun _ => hhost.endsAuthority_eq_false hscheme hport) hhost.ends,
    hhost.parseAuthority_eq hscheme hport]
  cases Url.Host.parse host with
  | error error => rfl
  | ok name => rfl

/-- No escape reaches out of the host or into the rest. -/
lemma escaped_iff : Percent.Escaped text ↔ Percent.Escaped host ∧ Percent.Escaped rest := by
  obtain @⟨letters, portText, hletters, hport⟩ := h
  have hname : Percent.Escaped letters := by
    refine Percent.escaped_of_not_mem fun hmem => ?_
    exact absurd (hscheme.isAlpha_of_mem hletters hmem) (by decide)
  have hbehind : Percent.Escaped portText := by
    refine Percent.escaped_of_not_mem fun hmem => ?_
    exact absurd (hport.eq_colon_or_isDigit hscheme hmem) (by decide)
  have hcolon : ∀ c ∈ portText.head?, ¬ Hexadecimal c := by
    rcases hport.eq_nil_or_exists hscheme with rfl | ⟨digits, rfl, -, -⟩
    · exact nofun
    · intro c hc
      rw [← Option.some.inj hc, ← isHexDigit_iff]
      decide
  have hslashes : ∀ c ∈ ("://".toList ++ (host ++ portText ++ rest)).head?, ¬ Hexadecimal c := by
    intro c hc
    rw [← Option.some.inj hc, ← isHexDigit_iff]
    decide
  have hrest : ∀ c ∈ rest.head?, ¬ Hexadecimal c :=
    fun c hc => not_hexadecimal_of_endsAuthority (hhost.ends c hc)
  rw [Percent.escaped_append hslashes, and_iff_right hname]
  change Percent.Escaped (':' :: '/' :: '/' :: (host ++ portText ++ rest)) ↔ _
  rw [Percent.escaped_cons_of_ne (by decide), Percent.escaped_cons_of_ne (by decide),
    Percent.escaped_cons_of_ne (by decide), Percent.escaped_append hrest,
    Percent.escaped_append hcolon, and_iff_left hbehind]

/-- Whether the text is a URI reference is up to its host and its rest. -/
lemma isReference_iff : IsReference text ↔
    ((∀ c ∈ host, Legal c) ∧ ∀ c ∈ rest, Legal c) ∧
    (Percent.Escaped host ∧ Percent.Escaped rest) ∧ ∃ name, Url.Host.parse host = .ok name := by
  have hurl := h.url_parse_eq hscheme hhost
  constructor
  · intro href
    refine ⟨(h.forall_legal_iff hscheme).mp href.legal,
      (h.escaped_iff hscheme hhost).mp href.escaped, ?_⟩
    cases hname : Url.Host.parse host with
    | ok name => exact ⟨name, rfl⟩
    | error error =>
      rw [hname] at hurl
      rcases href.relative_or_url with hrelative | ⟨url, hok⟩
      · rw [Url.parse_eq_ok_none_iff.mpr hrelative] at hurl
        exact nomatch hurl
      · rw [hok] at hurl
        exact nomatch hurl
  · rintro ⟨hlegal, hescaped, name, hname⟩
    rw [hname] at hurl
    refine ⟨?_, (h.forall_legal_iff hscheme).mpr hlegal,
      (h.escaped_iff hscheme hhost).mpr hescaped, Or.inr ⟨_, hurl⟩⟩
    obtain ⟨-, -⟩ := h
    exact ⟨':', List.mem_append_right _ List.mem_cons_self, by decide⟩

end Spells

/-- The texts that are targets are the URI references. -/
lemma exists_parse_eq_ok_iff {text : String} :
    (∃ target, parse text = .ok target) ↔ IsReference text.toList := by
  constructor
  · rintro ⟨target, h⟩
    exact isReference_of_parse h
  · exact IsReference.exists_parse_eq_ok

/-- A target that names a host at the port of its scheme has this host and this port. -/
lemma host?_eq_of_spells {scheme : String} {port : Url.Port} {host rest : List Char}
    (hscheme : Url.IsSpecialScheme scheme port) (hhost : Delimited host rest) {target : Target}
    (h : Spells scheme port host rest target.text.toList) :
    ∃ name, Url.Host.parse host = .ok name ∧ target.host? = some name.text ∧
      target.port? = some port := by
  have hurl := h.url_parse_eq hscheme hhost
  rw [url_parse_text] at hurl
  cases hname : Url.Host.parse host with
  | error error =>
    rw [hname] at hurl
    exact nomatch hurl
  | ok name =>
    rw [hname] at hurl
    have htarget : target.url =
        some (Url.withAuthority scheme (.web port) rest ⟨"", "", some name, none⟩) :=
      Except.ok.inj hurl
    refine ⟨name, rfl, ?_, ?_⟩
    · rw [host?, htarget]
      rfl
    · rw [port?, htarget]
      change (Url.Layout.ofScheme scheme).defaultPort? = some port
      rw [hscheme.ofScheme_eq]
      rfl

end Target

/-- An application for a target that has a scope and resolves to a credential sets it. -/
lemma Authenticator.sets_apply {family : Family} (auth : Authenticator family)
    (provider : Provider) {target : Target} {scope : Scope} {credential : Credential}
    (hscope : Scope.ofTarget? target = some scope) (h : auth.resolve target = some credential) :
    Provider.Sets provider (auth.apply provider target).1 scope credential := by
  have happly : auth.apply provider target = (provider.set scope credential, true) := by
    rw [apply, hscope, h]
  rw [happly]
  exact provider.sets_set scope credential

/-- Of two texts that name the same host at the port of a scheme, in front of the same rest, both
are targets or neither is.  If they are, they have the same host and scope, with this port: of
two applications the later one sets its credential in place of that of the earlier.  A store still
keeps an entry for each of the texts. -/
theorem Target.scope_eq_of_spells {scheme : String} {port : Url.Port}
    (hscheme : Url.IsSpecialScheme scheme port) {host rest : List Char}
    (hhost : Delimited host rest) {text text' : String}
    (h : Spells scheme port host rest text.toList)
    (h' : Spells scheme port host rest text'.toList) :
    ((∃ target, parse text = .ok target) ↔ ∃ target, parse text' = .ok target) ∧
    ∀ one other, parse text = .ok one → parse text' = .ok other →
      ∃ name, one.host? = some name ∧ other.host? = some name ∧
        Scope.ofTarget? one = some (.make name (some port)) ∧
        Scope.ofTarget? other = some (.make name (some port)) ∧
        (∀ (family family' : Family) (first : Authenticator family)
          (second : Authenticator family') (provider : Provider) (earlier later : Credential),
          first.resolve one = some earlier → second.resolve other = some later →
            Provider.Sets provider (first.apply provider one).1 (.make name (some port)) earlier ∧
            Provider.Sets provider (second.apply (first.apply provider one).1 other).1
              (.make name (some port)) later ∧
            (second.apply (first.apply provider one).1 other).1.size =
              (first.apply provider one).1.size) ∧
        ∀ (family : Family) (store : Store family) (entry entry' : FullEntry family),
          text ≠ text' →
            ((store.put one entry).put other entry').get? one = some entry.val ∧
            ((store.put one entry).put other entry').get? other = some entry'.val := by
  refine ⟨?_, fun one other hone hother => ?_⟩
  · rw [exists_parse_eq_ok_iff, exists_parse_eq_ok_iff, h.isReference_iff hscheme hhost,
      h'.isReference_iff hscheme hhost]
  · have htext := text_of_parse hone
    have htext' := text_of_parse hother
    have hone : Spells scheme port host rest one.text.toList := htext.symm ▸ h
    have hother : Spells scheme port host rest other.text.toList := htext'.symm ▸ h'
    obtain ⟨name, hname, honeHost, honePort⟩ := host?_eq_of_spells hscheme hhost hone
    obtain ⟨name', hname', hotherHost, hotherPort⟩ := host?_eq_of_spells hscheme hhost hother
    obtain rfl : name = name' := Except.ok.inj (hname.symm.trans hname')
    have hscope : Scope.ofTarget? one = some (.make name.text (some port)) := by
      rw [Scope.ofTarget?, honeHost, honePort, Option.map_some]
    have hscope' : Scope.ofTarget? other = some (.make name.text (some port)) := by
      rw [Scope.ofTarget?, hotherHost, hotherPort, Option.map_some]
    refine ⟨name.text, honeHost, hotherHost, hscope, hscope', ?_, ?_⟩
    · intro family family' first second provider earlier later hearlier hlater
      have hfirst := first.sets_apply provider hscope hearlier
      have hsecond := second.sets_apply (first.apply provider one).1 hscope' hlater
      refine ⟨hfirst, hfirst.trans hsecond, ?_⟩
      rw [hsecond.size_eq, hfirst.registered?_eq, if_pos rfl]
      rfl
    · intro family store entry entry' hne
      rw [Store.get?_put, Store.get?_put, Store.get?_put, if_pos rfl, if_pos rfl,
        if_neg (by rwa [htext, htext'])]
      exact ⟨rfl, rfl⟩

/-- The texts `https://Wiki.example/a` and `HtTpS://Wiki.example:000443/a` are targets of the same
scope. -/
theorem Target.scope_eq_of_spells_wiki :
    Url.IsSpecialScheme "https" 443 ∧ Delimited "Wiki.example".toList "/a".toList ∧
    ∃ one other : Target, one.text = "https://Wiki.example/a" ∧
      other.text = "HtTpS://Wiki.example:000443/a" ∧
      Scope.ofTarget? one = some ⟨some "wiki.example", some 443⟩ ∧
      Scope.ofTarget? other = some ⟨some "wiki.example", some 443⟩ ∧
      Provider.Sets .empty
        ((⟨.empty, .always (.basic ⟨"alice", ⟨"pw"⟩⟩)⟩ : Authenticator .basic).apply
          (Authenticator.anywhere.apply .empty one).1 other).1
        ⟨some "wiki.example", some 443⟩ (.basic ⟨"alice", ⟨"pw"⟩⟩) := by
  have hscheme : Url.IsSpecialScheme "https" 443 := by
    unfold Url.IsSpecialScheme
    decide
  have hhost : Delimited "Wiki.example".toList "/a".toList :=
    ⟨by decide, List.all_iff_forall_prop.mp (by decide), fun c hc => Option.some.inj hc ▸ rfl⟩
  have hone : Spells "https" 443 "Wiki.example".toList "/a".toList
      "https://Wiki.example/a".toList :=
    @Spells.intro _ _ _ _ "https".toList _ (by decide) .absent
  have hother : Spells "https" 443 "Wiki.example".toList "/a".toList
      "HtTpS://Wiki.example:000443/a".toList :=
    @Spells.intro _ _ _ _ "HtTpS".toList _ (by decide) (.number 3)
  obtain ⟨hiff, hsame⟩ := Target.scope_eq_of_spells hscheme hhost hone hother
  have hok : (Target.parse "https://Wiki.example/a").map Target.host? =
      .ok (some "wiki.example") := by decide +kernel
  cases hparse : Target.parse "https://Wiki.example/a" with
  | error error =>
    rw [hparse] at hok
    exact nomatch hok
  | ok one =>
    rw [hparse] at hok
    obtain ⟨other, hparse'⟩ := hiff.mp ⟨one, hparse⟩
    obtain ⟨name, hname, -, hscope, hscope', hsets, -⟩ := hsame one other hparse hparse'
    obtain rfl : "wiki.example" = name :=
      Option.some.inj ((Except.ok.inj hok).symm.trans hname)
    have hlower : Scope.make "wiki.example" (some 443) = ⟨some "wiki.example", some 443⟩ := by
      decide
    rw [hlower] at hscope hscope' hsets
    exact ⟨hscheme, hhost, one, other, text_of_parse hparse, text_of_parse hparse', hscope, hscope',
      (hsets _ _ _ _ _ _ _ rfl rfl).2.1⟩

end ScopedAuth
