import ScopedAuth.Cli.Run
import ScopedAuth.Proofs.Redaction.Config

/-!
# What is printed does not depend on the passwords

A command ends on a configuration as it ends on the redacted one (`conclude_redact`).  So it ends in
the same way on any two configurations that are the same but for their passwords: with the same exit
code, the same output and the same complaint, whatever the command.
-/

namespace ScopedAuth.Cli

/-- The rows of a redacted authenticator are those of the authenticator. -/
lemma rowsOf_redact {family : Family} (auth : Authenticator family) :
    rowsOf auth.redact = rowsOf auth := by
  rw [rowsOf, rowsOf]
  change (auth.store.items.entries.map _).map _ = _
  rw [List.map_map]
  rfl

/-- The rows of redacted authenticators are those of the authenticators. -/
lemma rows_redact (auths : Authenticators) : rows auths.redact = rows auths := by
  rw [rows, rows, ← rowsOf_redact auths.basic, ← rowsOf_redact auths.ntlm]
  rfl

/-- What is told about a redacted credential is told about the credential. -/
lemma report_redact (credential : Credential) : report credential.redact = report credential := by
  cases credential with
  | basic credential => rfl
  | ntlm credential => rfl

/-- A command prints for redacted authenticators what it prints for the authenticators. -/
lemma perform_redact (auths : Authenticators) (command : Command) :
    perform auths.redact command = perform auths command := by
  cases command with
  | check =>
    have hbasic : auths.redact.basic.store.size = auths.basic.store.size := Store.size_redact _
    have hntlm : auths.redact.ntlm.store.size = auths.ntlm.store.size := Store.size_redact _
    rw [perform, perform, hbasic, hntlm]
  | list format => rw [perform, perform, rows_redact]
  | resolve text =>
    rw [perform, perform]
    cases Target.parse text with
    | error error => rfl
    | ok target =>
      simp only [Except.mapError, bind, Except.bind, auths.resolve_redact]
      cases auths.resolve target with
      | none => rfl
      | some credential => exact congrArg Except.ok (report_redact credential)

/-- A command ends on a redacted configuration as on the configuration. -/
lemma conclude_redact (config : Config) (command : Command) :
    conclude (.ok config.redact) command = conclude (.ok config) command := by
  simp only [conclude, Config.authenticators_redact]
  cases config.authenticators with
  | error error => rfl
  | ok auths => simp only [Except.map, perform_redact]

/-- On configurations that are the same but for their passwords every command ends with the same
exit code, the same output and the same complaint. -/
theorem conclude_eq_of_redact_eq {one other : Config} (h : one.redact = other.redact)
    (command : Command) : conclude (.ok one) command = conclude (.ok other) command := by
  rw [← conclude_redact one, ← conclude_redact other, h]

/-- A configuration with a password in each of its parts. -/
def samplePasswords (first second third : String) : Config where
  logging := ⟨"info", .pretty⟩
  credentials :=
    [⟨"https://a.example/", .basic, some ⟨"bob", ⟨first⟩, none, none⟩⟩,
      ⟨"https://a.example/", .ntlm, some ⟨"alice", ⟨second⟩, some "ws1", some "corp"⟩⟩]
  fallback := .patterns [("https://*", .basic ⟨"guest", ⟨third⟩⟩)]

/-- Whatever the passwords, the user is shown with stars for the password. -/
theorem conclude_eq_of_redact_eq_samplePasswords :
    (samplePasswords "one" "two" "three").redact = (samplePasswords "" "xyz" "two").redact ∧
    samplePasswords "one" "two" "three" ≠ samplePasswords "" "xyz" "two" ∧
    conclude (.ok (samplePasswords "one" "two" "three")) (.resolve "https://a.example/") =
      conclude (.ok (samplePasswords "" "xyz" "two")) (.resolve "https://a.example/") ∧
    conclude (.ok (samplePasswords "" "xyz" "two")) (.resolve "https://a.example/") =
      ⟨0, "Scheme:      ntlm\nUsername:    alice\nPassword:    ********\n" ++
        "Workstation: WS1\nDomain:      CORP\nPrincipal:   CORP\\alice\n", ""⟩ := by
  have hredact : (samplePasswords "one" "two" "three").redact =
      (samplePasswords "" "xyz" "two").redact := rfl
  exact ⟨hredact, by decide, conclude_eq_of_redact_eq hredact _, by decide +kernel⟩

end ScopedAuth.Cli
