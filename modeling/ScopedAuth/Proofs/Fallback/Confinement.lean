import ScopedAuth.Proofs.Config.Resolution
import ScopedAuth.Proofs.Glob.Literal
import ScopedAuth.Proofs.Target.Language
import ScopedAuth.Proofs.Url.Authority
import ScopedAuth.Proofs.Url.HostName

/-!
# Patterns that spell out a host stay with it

A pattern that spells out a scheme of the web, a host and the slash behind it matches targets of
this host only, whatever wildcards follow (`PatternList.find?_add_spelled`).  The text of a target
is read twice, once by the pattern and once as a URL: the pattern forces the text to begin like
itself, and the authority of the URL ends at the slash, so that nothing behind it can move the host.
-/

namespace ScopedAuth

/-- The text of a pattern that spells out its scheme and its host. -/
def Glob.spelled (scheme : String) (labels : List (List Char)) (tail : String) : String :=
  scheme ++ "://" ++ String.ofList (Url.hostName labels) ++ "/" ++ tail

/-- A scheme of the web with its port. -/
def Url.IsWebScheme (scheme : String) (port : Port) : Prop :=
  scheme = "http" ∧ port = 80 ∨ scheme = "https" ∧ port = 443

namespace Url

variable {labels : List (List Char)}

/-- A host name is an authority without user and port. -/
lemma IsHostName.parseAuthority_hostName (h : IsHostName labels) (port : Port) (isLast : Bool) :
    parseAuthority (.web port) (hostName labels) isLast =
      .ok ⟨"", "", some (.domain (String.ofList (hostName labels))), none⟩ := by
  have huser : '@' ∉ hostName labels := h.not_mem_hostName (by decide)
  have hport : ':' ∉ hostName labels := h.not_mem_hostName (by decide)
  rw [parseAuthority_of_not_mem huser hport h.hostName_ne_nil, h.parse_hostName]
  rfl

/-- A character of a host name does not end an authority. -/
lemma IsNameChar.endsAuthority_eq_false {c : Char} (h : IsNameChar c) :
    endsAuthority c = false := by
  have hslash : c ≠ '/' := h.ne (by decide)
  have hquestion : c ≠ '?' := h.ne (by decide)
  have hhash : c ≠ '#' := h.ne (by decide)
  rw [endsAuthority, decide_eq_false hslash, decide_eq_false hquestion, decide_eq_false hhash]
  rfl

/-- The schemes of the web are special. -/
lemma IsWebScheme.isSpecialScheme {scheme : String} {port : Port}
    (h : IsWebScheme scheme port) : IsSpecialScheme scheme port := by
  rcases h with ⟨rfl, rfl⟩ | ⟨rfl, rfl⟩
  · unfold IsSpecialScheme
    decide
  · unfold IsSpecialScheme
    decide

/-- A scheme of the web is in lower case. -/
lemma IsWebScheme.map_toLower {scheme : String} {port : Port} (h : IsWebScheme scheme port) :
    scheme.toList.map Char.toLower = scheme.toList := by
  rcases h with ⟨rfl, -⟩ | ⟨rfl, -⟩
  · decide
  · decide

/-- A URL that begins with a scheme of the web and a host name has this host and the port of the
scheme. -/
lemma IsHostName.exists_parse_eq_ok (h : IsHostName labels) {scheme : String} {port : Port}
    (hscheme : IsWebScheme scheme port) (rest : List Char) :
    ∃ url, parse (scheme.toList ++ ("://".toList ++ (hostName labels ++ '/' :: rest))) =
        .ok (some url) ∧
      url.host? = some (.domain (String.ofList (hostName labels))) ∧ url.port? = some port := by
  have hslash : ∀ c ∈ ('/' :: rest).head?, endsAuthority c = true := by
    intro c hc
    rw [← Option.some.inj hc]
    rfl
  have hspecial := hscheme.isSpecialScheme
  have hurl := hspecial.parse_eq hscheme.map_toLower h.hostName_ne_nil
    (fun _ hc => (h.isNameChar hc).endsAuthority_eq_false) hslash
  rw [h.parseAuthority_hostName] at hurl
  refine ⟨_, hurl, rfl, ?_⟩
  change (Layout.ofScheme scheme).defaultPort? = some port
  rw [hspecial.ofScheme_eq]
  rfl

end Url

/-- A target whose text begins with a scheme of the web, a host name and a slash has this host, and
the port of the scheme. -/
lemma Target.host?_of_eq_append {labels : List (List Char)} (h : Url.IsHostName labels)
    {scheme : String} {port : Url.Port} (hscheme : Url.IsWebScheme scheme port) {target : Target}
    {rest : List Char}
    (htext : target.text.toList =
      scheme.toList ++ ("://".toList ++ (Url.hostName labels ++ '/' :: rest))) :
    target.isAbsolute = true ∧ target.host? = some (String.ofList (Url.hostName labels)) ∧
      target.port? = some port ∧
      Scope.ofTarget? target = some ⟨some (String.ofList (Url.hostName labels)), some port⟩ := by
  obtain ⟨url, hurl, hhost, hport⟩ := h.exists_parse_eq_ok hscheme rest
  have htarget : target.url = some url := by
    rw [← htext, url_parse_text] at hurl
    exact Except.ok.inj hurl
  have htargetHost : target.host? = some (String.ofList (Url.hostName labels)) := by
    rw [host?, htarget, Option.bind_some, hhost]
    rfl
  have htargetPort : target.port? = some port := by
    rw [port?, htarget, Option.bind_some, hport]
  have hlower : Scope.lower (String.ofList (Url.hostName labels)) =
      String.ofList (Url.hostName labels) := by
    rw [Scope.lower, String.toList_ofList, h.map_toLower_hostName]
  refine ⟨?_, htargetHost, htargetPort, ?_⟩
  · rw [isAbsolute, htarget]
    rfl
  · rw [Scope.ofTarget?, htargetHost, Option.map_some, Scope.make, hlower, htargetPort]

/-- What a pattern that spells out its host matches begins with that host. -/
lemma Glob.exists_eq_append_of_accepts_spelled {labels : List (List Char)}
    (h : Url.IsHostName labels) {scheme : String} {port : Url.Port}
    (hscheme : Url.IsWebScheme scheme port) {tail text : String}
    (haccepts : accepts (spelled scheme labels tail) text = true) :
    ∃ rest, text.toList =
      scheme.toList ++ ("://".toList ++ (Url.hostName labels ++ '/' :: rest)) := by
  have hsource : (spelled scheme labels tail).toList =
      (scheme.toList ++ ("://".toList ++ (Url.hostName labels ++ ['/']))) ++ tail.toList := by
    simp only [spelled, String.toList_append, String.toList_ofList, List.append_assoc]
    rfl
  have hplain : ∀ c ∈ scheme.toList ++ ("://".toList ++ (Url.hostName labels ++ ['/'])),
      IsPlain c := by
    have hscheme : ∀ c ∈ scheme.toList, IsPlain c := by
      rcases hscheme with ⟨rfl, -⟩ | ⟨rfl, -⟩
      · exact List.all_iff_forall_prop.mp (by decide)
      · exact List.all_iff_forall_prop.mp (by decide)
    have hhost : ∀ c ∈ Url.hostName labels, IsPlain c := by
      intro c hc
      have hname := h.isNameChar hc
      exact ⟨hname.ne (by decide), hname.ne (by decide), hname.ne (by decide)⟩
    have hslashes : ∀ c ∈ "://".toList, IsPlain c := List.all_iff_forall_prop.mp (by decide)
    simp only [List.forall_mem_append]
    exact ⟨hscheme, hslashes, hhost, List.forall_mem_singleton.mpr (by decide)⟩
  unfold accepts at haccepts
  split at haccepts
  · next pattern hparse =>
    obtain ⟨rest, hrest⟩ := Pattern.exists_eq_append_of_matches hplain hsource hparse haccepts
    refine ⟨rest, ?_⟩
    rw [hrest]
    simp only [List.append_assoc]
    rfl
  · exact nomatch haccepts

/-- A pattern that begins with a scheme of the web, a host name and a slash matches nothing but
absolute targets of this host, at the port of the scheme.  So wherever the pattern is added, the
answer for a target of any other host stays what it was. -/
theorem PatternList.find?_add_spelled {scheme : String} {port : Url.Port}
    (hscheme : Url.IsWebScheme scheme port) {labels : List (List Char)}
    (hlabels : Url.IsHostName labels) {tail : String} {list longer : PatternList}
    {credential : Credential}
    (hadd : list.add (Glob.spelled scheme labels tail) credential = .ok longer) (target : Target) :
    (Glob.accepts (Glob.spelled scheme labels tail) target.text = true →
      target.isAbsolute = true ∧ target.host? = some (String.ofList (Url.hostName labels)) ∧
        target.port? = some port ∧
        Scope.ofTarget? target = some ⟨some (String.ofList (Url.hostName labels)), some port⟩) ∧
    (target.host? ≠ some (String.ofList (Url.hostName labels)) →
      longer.find? target = list.find? target) := by
  have hconfined : Glob.accepts (Glob.spelled scheme labels tail) target.text = true →
      target.isAbsolute = true ∧ target.host? = some (String.ofList (Url.hostName labels)) ∧
        target.port? = some port ∧
        Scope.ofTarget? target =
          some ⟨some (String.ofList (Url.hostName labels)), some port⟩ := by
    intro haccepts
    obtain ⟨rest, htext⟩ := Glob.exists_eq_append_of_accepts_spelled hlabels hscheme haccepts
    exact Target.host?_of_eq_append hlabels hscheme htext
  refine ⟨hconfined, fun hother => ?_⟩
  have hrejects : ¬ Glob.accepts (Glob.spelled scheme labels tail) target.text = true :=
    fun haccepts => hother (hconfined haccepts).2.1
  rw [find?_add hadd, if_neg hrejects, Option.or_none]

/-- The labels of `wiki.corp.example`. -/
def Url.wikiLabels : List (List Char) :=
  ["wiki".toList, "corp".toList, "example".toList]

/-- Behind the slash the text may hold what would point elsewhere in front of it; the credential is
still that of the host which is spelled out. -/
theorem PatternList.find?_add_spelled_wiki :
    Url.IsWebScheme "https" 443 ∧ Url.IsHostName Url.wikiLabels ∧
    ∃ longer, PatternList.empty.add (Glob.spelled "https" Url.wikiLabels "*[@?]*/")
        (.basic ⟨"svc", ⟨"pw"⟩⟩) = .ok longer ∧
      (∀ target : Target, target.text = "https://wiki.corp.example/a:b@other.example/" →
        Scope.ofTarget? target = some ⟨some "wiki.corp.example", some 443⟩ ∧
        longer.find? target = some (.basic ⟨"svc", ⟨"pw"⟩⟩)) ∧
      ∀ target : Target, target.host? = some "other.example" → longer.find? target = none := by
  have hscheme : Url.IsWebScheme "https" 443 := Or.inr ⟨rfl, rfl⟩
  have hplain : ∀ label ∈ Url.wikiLabels, ∀ c ∈ label,
      c.isLower = true ∨ c.isDigit = true ∨ c = '-' := by
    rw [Url.wikiLabels, List.forall_mem_cons, List.forall_mem_cons, List.forall_mem_singleton]
    exact ⟨List.all_iff_forall_prop.mp (by decide), List.all_iff_forall_prop.mp (by decide),
      List.all_iff_forall_prop.mp (by decide)⟩
  have hlabels : Url.IsHostName Url.wikiLabels :=
    ⟨⟨hplain, 'e', "xample".toList, rfl, by decide⟩, by decide⟩
  have hhost : String.ofList (Url.hostName Url.wikiLabels) = "wiki.corp.example" := by decide
  have hok : (PatternList.empty.add (Glob.spelled "https" Url.wikiLabels "*[@?]*/")
      (.basic ⟨"svc", ⟨"pw"⟩⟩)).isOk = true := by decide +kernel
  obtain ⟨longer, hadd⟩ := isOk_iff.mp hok
  refine ⟨hscheme, hlabels, longer, hadd, fun target htext => ?_, fun target hother => ?_⟩
  · have haccepts : Glob.accepts (Glob.spelled "https" Url.wikiLabels "*[@?]*/") target.text =
        true := by
      rw [htext]
      decide +kernel
    obtain ⟨-, -, -, hscope⟩ :=
      (PatternList.find?_add_spelled hscheme hlabels hadd target).1 haccepts
    rw [hhost] at hscope
    exact ⟨hscope, by rw [find?_add hadd, if_pos haccepts]; rfl⟩
  · refine (PatternList.find?_add_spelled hscheme hlabels hadd target).2 ?_
    rw [hother, hhost]
    decide

end ScopedAuth
