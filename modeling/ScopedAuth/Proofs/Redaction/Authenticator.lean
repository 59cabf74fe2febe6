import ScopedAuth.Proofs.Redaction.Store
import ScopedAuth.Config.Authenticators

/-!
# Authenticators without their passwords

A password has no say in which credential a target is given.  The redacted authenticators resolve
every target as the authenticators do, to the credential without its password
(`Authenticators.resolve_redact`).
-/

namespace ScopedAuth

/-- The credential without its password. -/
def Credential.redact : Credential → Credential
  | .basic credential => .basic { credential with password := ⟨""⟩ }
  | .ntlm credential => .ntlm { credential with password := ⟨""⟩ }

/-- A redacted entry gives the redacted credential. -/
lemma Entry.credential?_redact (family : Family) (entry : Entry) :
    entry.redact.credential? family = (entry.credential? family).map Credential.redact := by
  obtain ⟨⟨fields⟩, password⟩ := entry
  cases family with
  | basic =>
    match fields with
    | [] => rfl
    | username :: others => rfl
  | ntlm =>
    match fields with
    | [] => rfl
    | username :: others => rfl

/-! ### Fallbacks -/

/-- The patterns without their passwords. -/
def PatternList.redact (list : PatternList) : PatternList :=
  ⟨list.items.map fun item => (item.1, item.2.redact)⟩

/-- The same pattern is the first to match. -/
lemma PatternList.find?_redact (list : PatternList) (target : Target) :
    list.redact.find? target = (list.find? target).map Credential.redact := by
  rw [find?, find?, redact, List.find?_map, Option.map_map, Option.map_map]
  rfl

/-- A pattern is added with the redacted credential as with the credential itself. -/
lemma PatternList.add_redact (list : PatternList) (pattern : String) (credential : Credential) :
    list.redact.add pattern credential.redact =
      (list.add pattern credential).map PatternList.redact := by
  rw [add, add]
  cases Glob.Pattern.parse pattern with
  | error error => rfl
  | ok parsed =>
    have hitems : list.redact.items ++ [(parsed, credential.redact)] =
        (list.items ++ [(parsed, credential)]).map fun item => (item.1, item.2.redact) := by
      rw [List.map_append]
      rfl
    exact congrArg (fun items => Except.ok (PatternList.mk items)) hitems

/-- The fallback without its passwords. -/
def Fallback.redact : Fallback → Fallback
  | .none => .none
  | .always credential => .always credential.redact
  | .patterns list => .patterns list.redact
  | .custom answer => .custom fun target => (answer target).map Credential.redact

/-- The redacted fallback gives the redacted credential. -/
lemma Fallback.resolve_redact (fallback : Fallback) (target : Target) :
    fallback.redact.resolve target = (fallback.resolve target).map Credential.redact := by
  cases fallback with
  | none => rfl
  | always credential => rfl
  | patterns list => exact list.find?_redact target
  | custom answer => rfl

/-! ### Authenticators -/

namespace Authenticator

variable {family : Family}

/-- The authenticator without its passwords. -/
def redact (auth : Authenticator family) : Authenticator family :=
  ⟨auth.store.redact, auth.fallback.redact⟩

/-- The redacted authenticator gives the redacted credential. -/
lemma resolve_redact (auth : Authenticator family) (target : Target) :
    auth.redact.resolve target = (auth.resolve target).map Credential.redact := by
  rw [resolve, resolve, redact, Store.get?_redact]
  cases auth.store.get? target with
  | none => exact auth.fallback.resolve_redact target
  | some entry => exact entry.credential?_redact family

/-- The authenticator of a redacted batch is that of the batch, redacted; one that is refused is
refused with the same error. -/
lemma ofBatch_redact (batch : Batch) :
    (ofBatch batch.redact : Except SetupError (Authenticator family)) =
      (ofBatch batch).map redact := by
  rw [ofBatch, ofBatch, Store.ofBatch_redact]
  cases (Store.ofBatch batch : Except StoreError (Store family)) with
  | error error => rfl
  | ok store => rfl

end Authenticator

namespace Authenticators

/-- The authenticators without their passwords. -/
def redact (auths : Authenticators) : Authenticators :=
  ⟨auths.basic.redact, auths.ntlm.redact⟩

/-- The redacted authenticators give the redacted credential. -/
lemma resolve_redact (auths : Authenticators) (target : Target) :
    auths.redact.resolve target = (auths.resolve target).map Credential.redact := by
  have hcontains : auths.redact.ntlm.store.contains target = auths.ntlm.store.contains target :=
    Store.contains_redact _ target
  rw [resolve, resolve, hcontains]
  split
  · exact auths.ntlm.resolve_redact target
  · exact auths.basic.resolve_redact target

end Authenticators

end ScopedAuth
