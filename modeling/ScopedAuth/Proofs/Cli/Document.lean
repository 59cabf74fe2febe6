import ScopedAuth.Proofs.Cli.Agreement

/-!
# A listing as a JSON document

The output of `list --format json` can be read by whatever reads JSON: it is one document and the
end of its line, and what is read is an array with an object for every login of the configuration
(`isDocument_list_iff`).  This takes for granted that there is something to list.  Otherwise the
output says so in words, whatever the format, and no document is read from it
(`not_isDocument_list_default`).
-/

namespace ScopedAuth

namespace Cli

/-- The logins of a configuration for a family: each target that it has a login for, in ascending
order, with the user name. -/
structure Logins (config : Config) (family : Family) (logins : List (String × String)) : Prop where
  ascending : logins.Pairwise fun one other => one.1 < other.1
  mem_iff : ∀ target username, (target, username) ∈ logins ↔
    ∃ login, config.login? family target = some login ∧ login.username = username

/-! ### Rows -/

/-- The user name of a stored login is that of the login. -/
lemma username?_entry (family : Family) (login : Login) :
    (login.entry family).username? = some login.username := by
  cases family with
  | basic => rfl
  | ntlm => rfl

section Rows

variable {config : Config} {family : Family} {auth : Authenticator family} {fallback : Fallback}

/-- A row of an authenticator is a login of its family. -/
lemma exists_login_of_mem_rowsOf (hnodup : (config.credentials.map Config.key).Nodup)
    (h : auth.Matches (Config.entries family config.credentials) fallback) {row : Row}
    (hrow : row ∈ rowsOf auth) :
    ∃ login, config.login? family row.target = some login ∧
      row = ⟨row.target, family, some login.username⟩ := by
  have hlists := lists_rowsOf auth
  obtain ⟨entry, username, hentry, husername, hrowname⟩ := hlists.username_eq row hrow
  have hstored := h.store_follows row.target
  rw [hentry, Option.map_some, Config.last?_entries hnodup] at hstored
  obtain ⟨login, hlogin, hsame⟩ := Option.map_eq_some_iff.mp hstored.symm
  rw [← hsame, username?_entry] at husername
  refine ⟨login, hlogin, ?_⟩
  rw [husername, ← hrowname, ← hlists.family_eq row hrow]

/-- There is a row for every login of the family. -/
lemma mem_rowsOf_of_login? (hnodup : (config.credentials.map Config.key).Nodup)
    (h : auth.Matches (Config.entries family config.credentials) fallback) {target : String}
    {login : Login} (hlogin : config.login? family target = some login) :
    ⟨target, family, some login.username⟩ ∈ rowsOf auth := by
  have hstored := h.store_follows target
  rw [Config.last?_entries hnodup, hlogin, Option.map_some] at hstored
  obtain ⟨entry, hentry, -⟩ := Option.map_eq_some_iff.mp hstored
  obtain ⟨row, hrow, rfl⟩ := ((lists_rowsOf auth).exists_row_iff target).mpr
    (Option.isSome_iff_exists.mpr ⟨entry, hentry⟩)
  obtain ⟨other, hother, heq⟩ := exists_login_of_mem_rowsOf hnodup h hrow
  rw [hlogin] at hother
  rw [Option.some.inj hother, ← heq]
  exact hrow

/-- The rows of an authenticator are printed as the logins of its family. -/
lemma exists_logins (hnodup : (config.credentials.map Config.key).Nodup)
    (h : auth.Matches (Config.entries family config.credentials) fallback) :
    ∃ logins, Logins config family logins ∧
      (rowsOf auth).map Row.json = logins.map (listed family) := by
  refine ⟨(rowsOf auth).map fun row => (row.target, row.username.getD ""), ⟨?_, ?_⟩, ?_⟩
  · exact List.pairwise_map.mpr (lists_rowsOf auth).ascending
  · intro target username
    constructor
    · intro hmem
      obtain ⟨row, hrow, heq⟩ := List.mem_map.mp hmem
      obtain ⟨login, hlogin, hrowlogin⟩ := exists_login_of_mem_rowsOf hnodup h hrow
      rw [hrowlogin] at heq
      obtain ⟨rfl, rfl⟩ := Prod.mk.inj heq
      exact ⟨login, hlogin, rfl⟩
    · rintro ⟨login, hlogin, rfl⟩
      exact List.mem_map.mpr ⟨_, mem_rowsOf_of_login? hnodup h hlogin, rfl⟩
  · rw [List.map_map]
    refine List.map_congr_left fun row hrow => ?_
    obtain ⟨login, -, hrowlogin⟩ := exists_login_of_mem_rowsOf hnodup h hrow
    rw [hrowlogin]
    rfl

end Rows

/-! ### Documents -/

/-- On a configuration that can be carried out, `list --format json` prints one JSON document and
the end of its line, provided that there is a login: what is read is an array with an object for
each login of Basic and then one for each login of NTLM, in ascending order of the targets and with
the user names as they are in the configuration.  Without a login, what is printed is a sentence
that is no JSON document. -/
theorem isDocument_list_iff {config : Config} {auths : Authenticators}
    (h : config.authenticators = .ok auths) :
    ∃ (basic ntlm : List (String × String)) (output : String),
      Logins config .basic basic ∧ Logins config .ntlm ntlm ∧
      conclude (.ok config) (.list "json") = ⟨0, output, ""⟩ ∧
      (∀ document, IsDocument output document ↔ basic ++ ntlm ≠ [] ∧
        document = .array (basic.map (listed .basic) ++ ntlm.map (listed .ntlm))) ∧
      (basic ++ ntlm = [] → output = "No scoped credentials configured\n") := by
  obtain ⟨hnodup, _, -, hbasic, hntlm⟩ := Config.matches_of_authenticators h
  obtain ⟨basic, hbasicLogins, hbasicJson⟩ := exists_logins hnodup hbasic
  obtain ⟨ntlm, hntlmLogins, hntlmJson⟩ := exists_logins hnodup hntlm
  have hobjects : (rows auths).map Row.json =
      basic.map (listed .basic) ++ ntlm.map (listed .ntlm) := by
    rw [rows, List.map_append, hbasicJson, hntlmJson]
  have hnil : rows auths = [] ↔ basic ++ ntlm = [] := by
    rw [← List.map_eq_nil_iff (f := Row.json), hobjects, List.append_eq_nil_iff,
      List.map_eq_nil_iff, List.map_eq_nil_iff, List.append_eq_nil_iff]
  have hvalid : ∀ object ∈ basic.map (listed .basic) ++ ntlm.map (listed .ntlm), object.Valid := by
    intro object hobject
    rcases List.mem_append.mp hobject with hmem | hmem
    · obtain ⟨login, -, rfl⟩ := List.mem_map.mp hmem
      exact valid_listed .basic login
    · obtain ⟨login, -, rfl⟩ := List.mem_map.mp hmem
      exact valid_listed .ntlm login
  refine ⟨basic, ntlm, _, hbasicLogins, hntlmLogins, conclude_of_perform h rfl, fun document => ?_,
    fun hempty => ?_⟩
  · by_cases hrows : rows auths = []
    · rw [hrows]
      exact iff_of_false (not_isDocument_notice document) fun hboth => hboth.1 (hnil.mp hrows)
    · rw [isDocument_listing_iff hrows hobjects hvalid]
      exact ⟨fun hdocument => ⟨mt hnil.mpr hrows, hdocument⟩, fun hboth => hboth.2⟩
  · rw [hnil.mpr hempty]
    rfl

/-- A configuration with user names that do not stand in a document as they are: one with a quote, a
backslash, a line break, a control character and a letter outside ASCII, and one that is empty. -/
def awkwardNames : Config where
  logging := ⟨"info", .pretty⟩
  credentials :=
    [⟨"https://b.example/", .basic, some ⟨"\"a\\\n\x00é", ⟨"pw"⟩, none, none⟩⟩,
      ⟨"https://a.example/", .basic, none⟩,
      ⟨"https://a.example/", .ntlm, some ⟨"", ⟨"pw"⟩, none, none⟩⟩]
  fallback := .none

/-- The user names of the configuration `awkwardNames` are read from its listing. -/
theorem isDocument_list_iff_awkwardNames :
    (∃ auths, awkwardNames.authenticators = .ok auths) ∧
    ∃ (basic ntlm : List (String × String)) (output : String),
      ("https://b.example/", "\"a\\\n\x00é") ∈ basic ∧ ("https://a.example/", "") ∈ ntlm ∧
      conclude (.ok awkwardNames) (.list "json") = ⟨0, output, ""⟩ ∧
      IsDocument output (.array (basic.map (listed .basic) ++ ntlm.map (listed .ntlm))) := by
  have hok : awkwardNames.authenticators.isOk = true := by decide +kernel
  have hfirst : awkwardNames.login? .basic "https://b.example/" =
      some ⟨"\"a\\\n\x00é", ⟨"pw"⟩, none, none⟩ := by decide +kernel
  have hsecond : awkwardNames.login? .ntlm "https://a.example/" =
      some ⟨"", ⟨"pw"⟩, none, none⟩ := by decide +kernel
  obtain ⟨auths, hauths⟩ := isOk_iff.mp hok
  obtain ⟨basic, ntlm, output, hbasic, hntlm, hconclude, hdocument, -⟩ := isDocument_list_iff hauths
  have hmem := (hbasic.mem_iff _ _).mpr ⟨_, hfirst, rfl⟩
  have hne : basic ++ ntlm ≠ [] := List.append_ne_nil_of_left_ne_nil (List.ne_nil_of_mem hmem) _
  exact ⟨⟨auths, hauths⟩, basic, ntlm, output, hmem, (hntlm.mem_iff _ _).mpr ⟨_, hsecond, rfl⟩,
    hconclude, (hdocument _).mpr ⟨hne, rfl⟩⟩

/-- The configuration that says nothing can be carried out, but what `list --format json` prints on
it is no JSON document. -/
theorem not_isDocument_list_default :
    (∃ auths, Config.default.authenticators = .ok auths) ∧
    conclude (.ok .default) (.list "json") = ⟨0, "No scoped credentials configured\n", ""⟩ ∧
    ∀ document, ¬ IsDocument (conclude (.ok .default) (.list "json")).output document := by
  have hok : Config.default.authenticators.isOk = true := by decide +kernel
  have hconclude : conclude (.ok .default) (.list "json") =
      ⟨0, "No scoped credentials configured\n", ""⟩ := by decide +kernel
  refine ⟨isOk_iff.mp hok, hconclude, ?_⟩
  rw [hconclude]
  exact not_isDocument_notice

end Cli

end ScopedAuth
