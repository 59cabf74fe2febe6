import ScopedAuth.Proofs.Fallback.Confinement
import ScopedAuth.Proofs.Fallback.Priority
import ScopedAuth.Proofs.Url.Subdomain

/-!
# Patterns for everything below a domain

The pattern `https://*.corp.example/*` matches the texts in which a dot, the domain and a slash
stand anywhere behind the scheme.  If no slash, question mark or hash comes before them, they are
the end of the authority, and the host is one below the domain, however it is written
(`PatternList.find?_add_subdomains`).  Else they are no part of the authority at all, and the host
is whatever comes first (`PatternList.find?_add_subdomains_elsewhere`).
-/

namespace ScopedAuth

/-- The pattern for everything below a domain. -/
def Glob.subdomains (scheme : String) (labels : List (List Char)) : String :=
  scheme ++ "://*." ++ String.ofList (Url.hostName labels) ++ "/*"

/-- A text spells a scheme, something below a domain and a slash behind it. -/
def Url.Below (scheme : String) (labels : List (List Char)) (below rest text : List Char) : Prop :=
  text = scheme.toList ++ ("://".toList ++ (below ++ '.' :: Url.hostName labels ++ '/' :: rest))

/-- A target has a host, and this ends with a dot and a domain. -/
def Target.IsBelow (labels : List (List Char)) (target : Target) : Prop :=
  ∃ host, target.host? = some host ∧ '.' :: Url.hostName labels <:+ host.toList

namespace Glob

variable {labels : List (List Char)} (h : Url.IsDomain labels) {scheme : String} {port : Url.Port}
  (hscheme : Url.IsWebScheme scheme port)

include h hscheme

/-- The pattern has plain characters in front of either asterisk. -/
lemma toList_subdomains :
    (subdomains scheme labels).toList =
        (scheme.toList ++ "://".toList) ++
          '*' :: (('.' :: Url.hostName labels ++ ['/']) ++ ['*']) ∧
      (∀ c ∈ scheme.toList ++ "://".toList, IsPlain c) ∧
      ∀ c ∈ '.' :: Url.hostName labels ++ ['/'], IsPlain c := by
  have hname : ∀ c ∈ '.' :: Url.hostName labels, IsPlain c := by
    intro c hc
    have hname := h.isNameChar_of_mem_cons hc
    exact ⟨hname.ne (by decide), hname.ne (by decide), hname.ne (by decide)⟩
  refine ⟨?_, ?_, ?_⟩
  · simp only [subdomains, String.toList_append, String.toList_ofList, List.append_assoc]
    rfl
  · rcases hscheme with ⟨rfl, -⟩ | ⟨rfl, -⟩
    · exact List.all_iff_forall_prop.mp (by decide)
    · exact List.all_iff_forall_prop.mp (by decide)
  · exact List.forall_mem_append.mpr ⟨hname, List.forall_mem_singleton.mpr (by decide)⟩

/-- The pattern opens no class, and its asterisks stand apart. -/
lemma isSimple_subdomains : IsSimple (subdomains scheme labels).toList := by
  obtain ⟨hpattern, hfront, hdomain⟩ := toList_subdomains h hscheme
  have hlast : IsSimple ['*'] := IsSimple.cons_asterisk ⟨List.not_mem_nil, by decide⟩ nofun
  rw [hpattern]
  exact .append hfront ((hlast.append hdomain).cons_asterisk (by simp))

/-- The pattern matches a dot, the domain and a slash anywhere behind the scheme. -/
lemma accepts_subdomains_iff (text : String) :
    accepts (subdomains scheme labels) text = true ↔
      ∃ below rest, Url.Below scheme labels below rest text.toList := by
  obtain ⟨hpattern, hfront, hdomain⟩ := toList_subdomains h hscheme
  rw [(isSimple_subdomains h hscheme).accepts_iff, hpattern, spells_append_iff hfront]
  simp only [spells_asterisk_iff, spells_append_iff hdomain]
  constructor
  · rintro ⟨_, htext, below, _, rfl, rest, rfl, -⟩
    refine ⟨below, rest, ?_⟩
    simp only [Url.Below, htext, List.append_assoc, List.cons_append, List.nil_append]
  · rintro ⟨below, rest, htext⟩
    refine ⟨_, ?_, below, _, rfl, rest, rfl, rest, [], (List.append_nil rest).symm, .nil⟩
    rw [htext]
    simp only [List.append_assoc, List.cons_append, List.nil_append]

end Glob

namespace Target

variable {labels : List (List Char)} {scheme : String} {port : Url.Port}
  (hscheme : Url.IsWebScheme scheme port) {target : Target} {below rest : List Char}
  (htext : Url.Below scheme labels below rest target.text.toList)

include hscheme htext

/-- A target with such a text is absolute. -/
lemma isAbsolute_of_below : target.isAbsolute = true := by
  obtain ⟨first, name, hname, hfirst, hrest⟩ :=
    hscheme.isSpecialScheme.exists_eq_cons hscheme.map_toLower
  rw [isAbsolute, Url.isSome_iff_hasScheme (url_parse_text target), htext, hname]
  exact ⟨first, name, _, rfl, hfirst, fun c hc => Url.isSchemeChar_iff.mp (hrest c hc)⟩

/-- If nothing in front of the dot ends the authority, the host is one below the domain. -/
lemma isBelow_of_below (h : Url.IsDomain labels)
    (hbelow : ∀ c ∈ below, Url.endsAuthority c = false) : target.IsBelow labels := by
  have hauthority : ∀ c ∈ below ++ '.' :: Url.hostName labels, Url.endsAuthority c = false := by
    intro c hc
    rcases List.mem_append.mp hc with hc | hc
    · exact hbelow c hc
    · exact (h.isNameChar_of_mem_cons hc).endsAuthority_eq_false
  have hslash : ∀ c ∈ ('/' :: rest).head?, Url.endsAuthority c = true := by
    intro c hc
    rw [← Option.some.inj hc]
    rfl
  have hne : below ++ '.' :: Url.hostName labels ≠ [] :=
    List.append_ne_nil_of_right_ne_nil _ (List.cons_ne_nil _ _)
  have hurl := hscheme.isSpecialScheme.parse_eq hscheme.map_toLower hne hauthority hslash
  rw [← htext, url_parse_text] at hurl
  cases hparse : Url.parseAuthority (.web port) (below ++ '.' :: Url.hostName labels)
      ('/' :: rest).isEmpty with
  | error error =>
    rw [hparse] at hurl
    exact nomatch hurl
  | ok authority =>
    obtain ⟨before, hhost⟩ := h.exists_host_of_parseAuthority hparse
    rw [hparse] at hurl
    refine ⟨String.ofList (before ++ '.' :: Url.hostName labels), ?_, before, ?_⟩
    · rw [host?, Except.ok.inj hurl, Option.bind_some]
      change Option.map _ authority.host = _
      rw [hhost]
      rfl
    · rw [String.toList_ofList]

end Target

/-- The pattern for everything below a domain is always accepted.  What it matches is absolute, and
has a host below the domain if the text can be read so that nothing in front of the dot ends the
authority.  So the credential of the pattern goes to another host only by a text that has a slash, a
question mark or a hash there, wherever the domain is found in it. -/
theorem PatternList.find?_add_subdomains {scheme : String} {port : Url.Port}
    (hscheme : Url.IsWebScheme scheme port) {labels : List (List Char)}
    (hlabels : Url.IsDomain labels) (list : PatternList) (credential : Credential) :
    ∃ longer, list.add (Glob.subdomains scheme labels) credential = .ok longer ∧
      ∀ target : Target,
        (Glob.accepts (Glob.subdomains scheme labels) target.text = true ↔
          ∃ below rest, Url.Below scheme labels below rest target.text.toList) ∧
        (Glob.accepts (Glob.subdomains scheme labels) target.text = true →
          target.isAbsolute = true) ∧
        (∀ below rest, Url.Below scheme labels below rest target.text.toList →
          '/' ∉ below → '?' ∉ below → '#' ∉ below → target.IsBelow labels) ∧
        (longer.find? target = (list.find? target).or
          (if Glob.accepts (Glob.subdomains scheme labels) target.text then some credential
            else none)) ∧
        (longer.find? target ≠ list.find? target → ¬ target.IsBelow labels →
          ∃ below rest, Url.Below scheme labels below rest target.text.toList ∧
            ('/' ∈ below ∨ '?' ∈ below ∨ '#' ∈ below)) := by
  have hadd := (list.add_eq (Glob.subdomains scheme labels) credential).trans
    (congrArg _ (Glob.isSimple_subdomains hlabels hscheme).parse_eq_ok)
  refine ⟨_, hadd, fun target => ?_⟩
  have haccepts := Glob.accepts_subdomains_iff hlabels hscheme target.text
  have hbelow : ∀ below rest, Url.Below scheme labels below rest target.text.toList →
      '/' ∉ below → '?' ∉ below → '#' ∉ below → target.IsBelow labels := by
    intro below rest htext hslash hquestion hhash
    refine Target.isBelow_of_below hscheme htext hlabels fun c hc => ?_
    rw [Url.endsAuthority, decide_eq_false (ne_of_mem_of_not_mem hc hslash),
      decide_eq_false (ne_of_mem_of_not_mem hc hquestion),
      decide_eq_false (ne_of_mem_of_not_mem hc hhash)]
    rfl
  refine ⟨haccepts, fun h => ?_, hbelow, find?_add hadd target, ?_⟩
  · obtain ⟨below, rest, htext⟩ := haccepts.mp h
    exact Target.isAbsolute_of_below hscheme htext
  · intro hchanged houtside
    have haccepted : Glob.accepts (Glob.subdomains scheme labels) target.text = true := by
      by_contra hrejects
      rw [find?_add hadd, if_neg hrejects, Option.or_none] at hchanged
      exact hchanged rfl
    obtain ⟨below, rest, htext⟩ := haccepts.mp haccepted
    refine ⟨below, rest, htext, ?_⟩
    by_contra hnone
    obtain ⟨hslash, hother⟩ := not_or.mp hnone
    obtain ⟨hquestion, hhash⟩ := not_or.mp hother
    exact houtside (hbelow below rest htext hslash hquestion hhash)

/-- The labels of `corp.example`. -/
def Url.corpLabels : List (List Char) :=
  ["corp".toList, "example".toList]

/-- They are those of a domain. -/
lemma Url.isDomain_corpLabels : IsDomain corpLabels := by
  refine ⟨?_, 'e', "xample".toList, rfl, by decide⟩
  rw [corpLabels, List.forall_mem_cons, List.forall_mem_singleton]
  exact ⟨List.all_iff_forall_prop.mp (by decide), List.all_iff_forall_prop.mp (by decide)⟩

/-- Another host in front of an at sign, escapes and capitals do not lead away from the domain. -/
theorem PatternList.find?_add_subdomains_wiki :
    Url.IsWebScheme "https" 443 ∧ Url.IsDomain Url.corpLabels ∧
    ∃ longer target, PatternList.empty.add (Glob.subdomains "https" Url.corpLabels)
        (.basic ⟨"svc", ⟨"pw"⟩⟩) = .ok longer ∧
      Target.parse "https://other.example@WI%4BI.corp.example/page" = .ok target ∧
      target.isAbsolute = true ∧ target.IsBelow Url.corpLabels ∧
      longer.find? target = some (.basic ⟨"svc", ⟨"pw"⟩⟩) := by
  have hscheme : Url.IsWebScheme "https" 443 := Or.inr ⟨rfl, rfl⟩
  have hok : (Target.parse "https://other.example@WI%4BI.corp.example/page").isOk = true := by
    decide +kernel
  obtain ⟨target, htarget⟩ := isOk_iff.mp hok
  obtain ⟨longer, hadd, hall⟩ := PatternList.find?_add_subdomains hscheme Url.isDomain_corpLabels
    PatternList.empty (.basic ⟨"svc", ⟨"pw"⟩⟩)
  obtain ⟨haccepts, habsolute, hbelow, hfind, -⟩ := hall target
  have htext : Url.Below "https" Url.corpLabels "other.example@WI%4BI".toList "page".toList
      target.text.toList := by
    rw [Target.text_of_parse htarget, Url.Below]
    decide
  have haccepted := haccepts.mpr ⟨_, _, htext⟩
  refine ⟨hscheme, Url.isDomain_corpLabels, longer, target, hadd, htarget, habsolute haccepted,
    hbelow _ _ htext (by decide) (by decide) (by decide), ?_⟩
  rw [hfind, if_pos haccepted]
  rfl

/-- A slash, a question mark or a hash in front of the domain does: the domain is then found in the
path, the query or the fragment, and the credential is that of a host elsewhere. -/
theorem PatternList.find?_add_subdomains_elsewhere :
    Url.IsWebScheme "https" 443 ∧ Url.IsDomain Url.corpLabels ∧
    ∃ longer, PatternList.empty.add (Glob.subdomains "https" Url.corpLabels)
        (.basic ⟨"svc", ⟨"pw"⟩⟩) = .ok longer ∧
      ∀ text ∈ ["https://evil.example/x.corp.example/y", "https://evil.example?x.corp.example/",
          "https://evil.example#x.corp.example/"],
        ∃ target, Target.parse text = .ok target ∧ target.host? = some "evil.example" ∧
          ¬ target.IsBelow Url.corpLabels ∧
          longer.find? target = some (.basic ⟨"svc", ⟨"pw"⟩⟩) := by
  have hscheme : Url.IsWebScheme "https" 443 := Or.inr ⟨rfl, rfl⟩
  have hok : (PatternList.empty.add (Glob.subdomains "https" Url.corpLabels)
      (.basic ⟨"svc", ⟨"pw"⟩⟩)).isOk = true := by
    decide +kernel
  obtain ⟨longer, hadd⟩ := isOk_iff.mp hok
  refine ⟨hscheme, Url.isDomain_corpLabels, longer, hadd, fun text htext => ?_⟩
  have hreads : (Target.parse text).toOption.map Target.host? = some (some "evil.example") ∧
      Glob.accepts (Glob.subdomains "https" Url.corpLabels) text = true := by
    revert text
    decide +kernel
  obtain ⟨hhost, haccepts⟩ := hreads
  cases hparse : Target.parse text with
  | error error =>
    rw [hparse] at hhost
    exact nomatch hhost
  | ok target =>
    rw [hparse] at hhost
    have helsewhere : target.host? = some "evil.example" := Option.some.inj hhost
    refine ⟨target, rfl, helsewhere, ?_, ?_⟩
    · rintro ⟨host, hhost, hsuffix⟩
      obtain rfl := Option.some.inj (helsewhere.symm.trans hhost)
      exact absurd hsuffix (by decide)
    · rw [PatternList.find?_add hadd, Target.text_of_parse hparse, if_pos haccepts]
      rfl

end ScopedAuth
