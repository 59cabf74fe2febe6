import ScopedAuth.Proofs.Cli.Listing
import ScopedAuth.Proofs.Config.Refusal

/-!
# The commands agree with each other

The commands read the stores of a configuration in three ways: `check` counts the entries, `list`
goes through the targets and looks each of them up again, and `resolve` reads a text and asks one
store after the other.  They tell the same (`agree_of_authenticators`): there are as many rows as
entries counted, and what is told about the target of a row is what the row says, unless NTLM
answers in the place of Basic.

That a row never lacks its user name comes from the stores, which hold full entries only.  That its
target can be asked for again comes from the configuration, which is refused if a text in it is no
target.
-/

namespace ScopedAuth

/-! ### What is stored -/

namespace Authenticators

/-- The entry that is stored for a text in a family. -/
def stored? (auths : Authenticators) (family : Family) (text : String) : Option Entry :=
  match family with
  | .basic => (auths.basic.store.items.get? text).map (·.val)
  | .ntlm => (auths.ntlm.store.items.get? text).map (·.val)

variable {auths : Authenticators} {family : Family}

/-- Something is stored for the targets of a family, and for no other text. -/
lemma isSome_stored?_iff (text : String) :
    (auths.stored? family text).isSome = true ↔ text ∈ auths.targets family := by
  cases family with
  | basic =>
    rw [stored?, Option.isSome_map, ← TextMap.mem_keys_iff]
    rfl
  | ntlm =>
    rw [stored?, Option.isSome_map, ← TextMap.mem_keys_iff]
    rfl

/-- An entry of NTLM is presented, and one of Basic for which there is none of NTLM. -/
lemma resolve_of_stored?_eq_some {target : Target} {entry : Entry}
    (hentry : auths.stored? family target.text = some entry)
    (hfront : family = .ntlm ∨ auths.stored? .ntlm target.text = none) :
    auths.resolve target = entry.credential? family := by
  have hbasic : auths.basic.store.get? target = auths.stored? .basic target.text := rfl
  have hntlm : auths.ntlm.store.get? target = auths.stored? .ntlm target.text := rfl
  unfold resolve Store.contains Authenticator.resolve
  rw [hbasic, hntlm]
  cases family with
  | basic =>
    have hnone := hfront.resolve_left Family.noConfusion
    rw [hnone, hentry]
    rfl
  | ntlm =>
    rw [hentry]
    rfl

end Authenticators

namespace Config

variable {config : Config} {auths : Authenticators}

/-- The authenticators of a configuration store something for the targets that it enables. -/
lemma perm_targets_of_authenticators (h : config.authenticators = .ok auths) (family : Family) :
    (auths.targets family).Perm (config.enabled family) := by
  obtain ⟨hnodup, _, -, hbasic, hntlm⟩ := matches_of_authenticators h
  cases family with
  | basic => exact perm_targets hnodup hbasic.store_follows
  | ntlm => exact perm_targets hnodup hntlm.store_follows

/-- What is stored by the authenticators of a configuration is stored for texts that are targets. -/
lemma exists_parse_eq_ok_of_stored? (h : config.authenticators = .ok auths) {family : Family}
    {text : String} (hstored : (auths.stored? family text).isSome = true) :
    ∃ target, Target.parse text = .ok target := by
  have htext : text ∈ config.enabled family :=
    (perm_targets_of_authenticators h family).mem_iff.mp
      ((Authenticators.isSome_stored?_iff text).mp hstored)
  obtain ⟨item, hitem, rfl⟩ := List.mem_map.mp htext
  obtain ⟨-, hsound⟩ := (exists_authenticators_eq_ok_iff config).mp ⟨auths, h⟩
  exact isOk_iff.mp (hsound.1 item (List.mem_of_mem_filter hitem))

end Config

namespace Cli

/-! ### Rows -/

/-- Rows list a store: there is one for each entry, in ascending order of the targets, with the user
name of the entry. -/
structure Lists {family : Family} (rows : List Row) (store : Store family) : Prop where
  length_eq : rows.length = store.size
  family_eq : ∀ row ∈ rows, row.family = family
  ascending : rows.Pairwise fun one other => one.target < other.target
  exists_row_iff : ∀ text,
    (∃ row ∈ rows, row.target = text) ↔ (store.items.get? text).isSome = true
  username_eq : ∀ row ∈ rows, ∃ entry username, store.items.get? row.target = some entry ∧
    entry.val.username? = some username ∧ row.username = some username

section Rows

variable {family : Family}

/-- The rows of an authenticator are its targets, each looked up again. -/
lemma rowsOf_eq_map_targets (auth : Authenticator family) :
    rowsOf auth = auth.store.targets.map fun text =>
      ⟨text, family, (auth.store.items.get? text).bind (·.val.username?)⟩ := by
  rw [rowsOf, Store.targets, TextMap.keys, List.map_map]
  refine List.map_congr_left ?_
  rintro ⟨text, entry⟩ hmem
  have hget : auth.store.items.get? text = some entry := TextMap.get?_eq_some_of_mem hmem
  simp only [Function.comp_apply, hget, Option.bind_some]

/-- The rows of an authenticator list its store. -/
lemma lists_rowsOf (auth : Authenticator family) : Lists (rowsOf auth) auth.store := by
  rw [rowsOf_eq_map_targets]
  constructor
  · rw [List.length_map]
    exact TextMap.length_keys _
  · simp
  · exact List.pairwise_map.mpr auth.store.items.pairwise_keys
  · intro text
    rw [← TextMap.mem_keys_iff]
    simp [Store.targets]
  · intro row hrow
    obtain ⟨text, htext, rfl⟩ := List.mem_map.mp hrow
    obtain ⟨entry, hentry⟩ :=
      Option.isSome_iff_exists.mp ((TextMap.mem_keys_iff _ text).mp htext)
    obtain ⟨credential, -, hyields⟩ := Entry.exists_yields entry.property
    obtain ⟨-, husername⟩ := hyields.family_eq_and_username?_eq
    exact ⟨entry, credential.username, hentry, husername, by rw [hentry]; exact husername⟩

/-- A row of a store has the user name of the credential that the entry for its target gives. -/
lemma Lists.exists_yields {rows : List Row} {store : Store family} (h : Lists rows store)
    {row : Row} (hrow : row ∈ rows) :
    ∃ entry credential, store.items.get? row.target = some entry ∧
      Entry.Yields family entry.val credential ∧ row.username = some credential.username := by
  obtain ⟨entry, username, hentry, husername, hrowname⟩ := h.username_eq row hrow
  obtain ⟨credential, -, hyields⟩ := Entry.exists_yields entry.property
  obtain ⟨-, hcredential⟩ := hyields.family_eq_and_username?_eq
  refine ⟨entry, credential, hentry, hyields, ?_⟩
  rw [hrowname, ← husername, hcredential]

/-- A row stands for an entry of its family, and has the user name of its credential. -/
lemma exists_yields_of_mem_rows {auths : Authenticators} {row : Row} (h : row ∈ rows auths) :
    ∃ entry credential, auths.stored? row.family row.target = some entry ∧
      Entry.Yields row.family entry credential ∧ row.username = some credential.username := by
  rcases List.mem_append.mp h with hbasic | hntlm
  · have hlists := lists_rowsOf auths.basic
    obtain ⟨entry, credential, hentry, hyields, husername⟩ := hlists.exists_yields hbasic
    rw [hlists.family_eq row hbasic, Authenticators.stored?, hentry]
    exact ⟨entry.val, credential, rfl, hyields, husername⟩
  · have hlists := lists_rowsOf auths.ntlm
    obtain ⟨entry, credential, hentry, hyields, husername⟩ := hlists.exists_yields hntlm
    rw [hlists.family_eq row hntlm, Authenticators.stored?, hentry]
    exact ⟨entry.val, credential, rfl, hyields, husername⟩

/-- A row never lacks its user name. -/
lemma exists_username_of_mem_rows {auths : Authenticators} {row : Row} (h : row ∈ rows auths) :
    ∃ username, row.username = some username := by
  obtain ⟨-, credential, -, -, husername⟩ := exists_yields_of_mem_rows h
  exact ⟨credential.username, husername⟩

/-- There is a row of NTLM for every text that something is stored for there. -/
lemma exists_row_of_stored?_ntlm {auths : Authenticators} {text : String}
    (h : (auths.stored? .ntlm text).isSome = true) :
    ∃ row ∈ rows auths, row.family = .ntlm ∧ row.target = text := by
  have hlists := lists_rowsOf auths.ntlm
  rw [Authenticators.stored?, Option.isSome_map] at h
  obtain ⟨row, hrow, htarget⟩ := (hlists.exists_row_iff text).mpr h
  exact ⟨row, List.mem_append_right _ hrow, hlists.family_eq row hrow, htarget⟩

end Rows

/-! ### Commands -/

/-- A row is in front if it is of NTLM, or if no row of NTLM has the same target. -/
def InFront (rows : List Row) (row : Row) : Prop :=
  row.family = .ntlm ∨ ∀ other ∈ rows, other.family = .ntlm → other.target ≠ row.target

/-- A command ends well and tells about the entry of a row: scheme and user name are those of the
row, and whatever else is told is that of the credential of the entry. -/
def Shows (auths : Authenticators) (row : Row) (outcome : Outcome) : Prop :=
  ∃ entry credential username more, auths.stored? row.family row.target = some entry ∧
    Entry.Yields row.family entry credential ∧ row.username = some username ∧
    report credential =
      ("Scheme:      " ++ row.family.name) :: ("Username:    " ++ username) :: more ∧
    outcome = ⟨0, printed (report credential), ""⟩

/-- A command fails: it ends with exit code 1 and prints nothing. -/
def Fails (outcome : Outcome) : Prop :=
  outcome.code = 1 ∧ outcome.output = ""

/-- The commands agree on the authenticators of a configuration. -/
structure Agree (config : Config) (auths : Authenticators) : Prop where
  check_eq : conclude (.ok config) .check = ⟨0, printed ["Configuration OK: " ++
    toString auths.basic.store.size ++ " basic and " ++ toString auths.ntlm.store.size ++
      " ntlm targets"], ""⟩
  list_eq : ∀ format,
    conclude (.ok config) (.list format) = ⟨0, printed (listing format (rows auths)), ""⟩
  isListing : ∀ format, IsListing format (rows auths) (printed (listing format (rows auths)))
  lists_rows : ∃ basic ntlm, rows auths = basic ++ ntlm ∧ Lists basic auths.basic.store ∧
    Lists ntlm auths.ntlm.store
  shows_of_inFront : ∀ row ∈ rows auths, InFront (rows auths) row →
    Shows auths row (conclude (.ok config) (.resolve row.target))
  shows_ntlm : ∀ row ∈ rows auths, ∀ other ∈ rows auths, other.family = .ntlm →
    other.target = row.target → Shows auths other (conclude (.ok config) (.resolve row.target))

section Commands

variable {config : Config} {auths : Authenticators}

/-- A command that prints something on the authenticators of a configuration ends well. -/
lemma conclude_of_perform (h : config.authenticators = .ok auths) {command : Command}
    {lines : List String} (hlines : perform auths command = .ok lines) :
    conclude (.ok config) command = ⟨0, printed lines, ""⟩ := by
  simp only [conclude, h, hlines]

/-- A target that a credential is presented to has the credential told about. -/
lemma perform_resolve {target : Target} {text : String} {credential : Credential}
    (htarget : Target.parse text = .ok target) (h : auths.resolve target = some credential) :
    perform auths (.resolve text) = .ok (report credential) := by
  rw [perform, htarget]
  simp only [Except.mapError, bind, Except.bind, h]
  rfl

/-- Every command fails on a configuration that cannot be carried out. -/
lemma fails_of_authenticators_eq_error {error : SetupError}
    (h : config.authenticators = .error error) (command : Command) :
    Fails (conclude (.ok config) command) := by
  have hconclude : conclude (.ok config) command = ⟨1, "", error.message⟩ := by
    simp only [conclude, h]
  rw [hconclude]
  exact ⟨rfl, rfl⟩

/-- A text that is no target cannot be asked for. -/
lemma fails_of_parse_eq_error {text : String} {error : Target.Error}
    (h : Target.parse text = .error error) : Fails (conclude (.ok config) (.resolve text)) := by
  cases hauths : config.authenticators with
  | error other => exact fails_of_authenticators_eq_error hauths _
  | ok auths =>
    have hperform : perform auths (.resolve text) = .error (.target error) := by
      rw [perform, h]
      rfl
    have hconclude :
        conclude (.ok config) (.resolve text) = ⟨1, "", (StoreError.target error).message⟩ := by
      simp only [conclude, hauths, hperform]
    rw [hconclude]
    exact ⟨rfl, rfl⟩

/-- What is told about a credential begins with its scheme and its user name. -/
lemma exists_report_eq (credential : Credential) : ∃ more, report credential =
    ("Scheme:      " ++ credential.family.name) :: ("Username:    " ++ credential.username) ::
      more :=
  ⟨_, rfl⟩

/-- What is told about the target of a row in front is what the row says. -/
lemma shows_resolve (h : config.authenticators = .ok auths) {row : Row} (hrow : row ∈ rows auths)
    (hfront : InFront (rows auths) row) :
    Shows auths row (conclude (.ok config) (.resolve row.target)) := by
  obtain ⟨entry, credential, hentry, hyields, husername⟩ := exists_yields_of_mem_rows hrow
  obtain ⟨target, htarget⟩ :=
    Config.exists_parse_eq_ok_of_stored? h (Option.isSome_iff_exists.mpr ⟨entry, hentry⟩)
  have htext : target.text = row.target := Target.text_of_parse htarget
  have hfirst : row.family = .ntlm ∨ auths.stored? .ntlm target.text = none := by
    refine hfront.imp_right fun halone => ?_
    rw [htext, ← Option.not_isSome_iff_eq_none]
    intro hsome
    obtain ⟨other, hother, hfamily, hsame⟩ := exists_row_of_stored?_ntlm hsome
    exact halone other hother hfamily hsame
  have hresolve : auths.resolve target = some credential := by
    rw [Authenticators.resolve_of_stored?_eq_some (htext.symm ▸ hentry) hfirst,
      hyields.credential?_eq]
  obtain ⟨more, hreport⟩ := exists_report_eq credential
  rw [hyields.family_eq_and_username?_eq.1] at hreport
  exact ⟨entry, credential, credential.username, more, hentry, hyields, husername, hreport,
    conclude_of_perform h (perform_resolve htarget hresolve)⟩

/-- On a configuration that can be carried out the commands agree: `check` counts the entries of the
two stores, `list` gives one row for each entry of Basic and then one for each entry of NTLM, both
in ascending order of the targets and each with its user name, and `resolve` tells about the target
of each row what the row says, but what the row of NTLM says where there is one.  On any other
configuration every command fails, and on every configuration `resolve` fails for a text that is no
target; what fails has exit code 1 and prints nothing. -/
theorem agree_of_authenticators (config : Config) :
    (∀ auths, config.authenticators = .ok auths → Agree config auths) ∧
    (∀ error, config.authenticators = .error error →
      ∀ command, Fails (conclude (.ok config) command)) ∧
    ∀ text, ¬ (Target.parse text).isOk = true →
      Fails (conclude (.ok config) (.resolve text)) := by
  refine ⟨fun auths h => ?_, fun error => fails_of_authenticators_eq_error, fun text htext => ?_⟩
  · refine ⟨conclude_of_perform h rfl, fun format => conclude_of_perform h rfl,
      isListing_printed_listing fun row hrow => exists_username_of_mem_rows hrow,
      ⟨_, _, rfl, lists_rowsOf auths.basic, lists_rowsOf auths.ntlm⟩,
      fun row => shows_resolve h, fun row _ other hother hfamily htarget => ?_⟩
    rw [← htarget]
    exact shows_resolve h hother (Or.inl hfamily)
  · cases hparse : Target.parse text with
    | ok target => exact absurd (isOk_iff.mpr ⟨target, hparse⟩) htext
    | error error => exact fails_of_parse_eq_error hparse

/-- The configuration `bothFamilies` has two rows of Basic and one of NTLM, which answers for the
target that they share.  Its table has a line for each of them, and its document an object. -/
theorem agree_of_authenticators_bothFamilies :
    (∃ auths, Config.bothFamilies.authenticators = .ok auths ∧
      rows auths = [⟨"https://a.example/", .basic, some "bob"⟩,
        ⟨"https://b.example/", .basic, some "carol"⟩,
        ⟨"https://a.example/", .ntlm, some "alice"⟩] ∧
      conclude (.ok Config.bothFamilies) .check =
        ⟨0, "Configuration OK: 2 basic and 1 ntlm targets\n", ""⟩ ∧
      conclude (.ok Config.bothFamilies) (.list "table") = ⟨0, printed
        ["TARGET                                             SCHEME   USERNAME",
          "------------------------------------------------------------------------",
          "https://a.example/                                 basic    bob",
          "https://b.example/                                 basic    carol",
          "https://a.example/                                 ntlm     alice"], ""⟩ ∧
      (∃ output, conclude (.ok Config.bothFamilies) (.list "json") = ⟨0, output, ""⟩ ∧
        IsDocument output (.array [listed .basic ("https://a.example/", "bob"),
          listed .basic ("https://b.example/", "carol"),
          listed .ntlm ("https://a.example/", "alice")])) ∧
      Shows auths ⟨"https://a.example/", .ntlm, some "alice"⟩
        (conclude (.ok Config.bothFamilies) (.resolve "https://a.example/"))) ∧
    Fails (conclude (.ok Config.listedAgain) (.list "json")) ∧
    Fails (conclude (.ok Config.bothFamilies) (.resolve "https://[")) := by
  have hread : Config.bothFamilies.authenticators.map (fun auths =>
      (rows auths, auths.basic.store.size, auths.ntlm.store.size)) =
        .ok ([⟨"https://a.example/", .basic, some "bob"⟩,
          ⟨"https://b.example/", .basic, some "carol"⟩,
          ⟨"https://a.example/", .ntlm, some "alice"⟩], 2, 1) := by decide +kernel
  have hagain : Config.listedAgain.authenticators.isOk = false := by decide +kernel
  obtain ⟨hagree, -, hfails⟩ := agree_of_authenticators Config.bothFamilies
  obtain ⟨-, hrefused, -⟩ := agree_of_authenticators Config.listedAgain
  refine ⟨?_, ?_, hfails _ (by decide +kernel)⟩
  · cases hauths : Config.bothFamilies.authenticators with
    | error error =>
      rw [hauths] at hread
      cases hread
    | ok auths =>
      rw [hauths] at hread
      simp only [Except.map, Except.ok.injEq, Prod.mk.injEq] at hread
      obtain ⟨hrows, hbasic, hntlm⟩ := hread
      have hagree := hagree auths hauths
      refine ⟨auths, rfl, hrows, ?_, ?_, ⟨_, hagree.list_eq "json", ?_⟩, ?_⟩
      · rw [hagree.check_eq, hbasic, hntlm]
        decide
      · rw [hagree.list_eq, hrows]
        decide +kernel
      · have hnamed : ∀ row ∈ rows auths, ∃ username, row.username = some username :=
          fun row => exists_username_of_mem_rows
        have hne : rows auths ≠ [] := by
          rw [hrows]
          exact List.cons_ne_nil _ _
        rw [isDocument_listing_iff hne rfl fun _ => valid_of_mem_map_json hnamed, hrows]
        rfl
      · exact hagree.shows_of_inFront _ (by rw [hrows]; decide) (Or.inl rfl)
  · cases hauths : Config.listedAgain.authenticators with
    | error error => exact hrefused error hauths _
    | ok auths =>
      rw [hauths] at hagain
      cases hagain

end Commands

end Cli

end ScopedAuth
