import ScopedAuth.Proofs.Redaction.Config
import ScopedAuth.Proofs.Redaction.Provider
import ScopedAuth.Proofs.Workspace

/-!
# Passwords have no say in what happens

Whatever a program does with stores, authenticators, fallbacks and providers, the passwords in it
decide nothing.  Carried out without its passwords, a call gives back what it gives back with them,
without the passwords, and fails with the same error (`Call.perform_redact`).  So two sequences of
calls that differ in nothing but passwords go alike at every step, and all that can be seen of what
they give back is the same (`map_seen_outcomes_eq_of_redact_eq`).

What can be seen of an entry or a credential is all of it but the text of the password, and the
header that holds it: `Entry.view_eq_iff` and `Credential.view_eq_iff` say that nothing else is
left out.
-/

namespace ScopedAuth

/-! ### What can be seen -/

/-- What can be seen of an entry. -/
structure Entry.View where
  identity : Identity
  username : Option String
  /-- How the password is shown for inspection. -/
  password : String
  /-- How the entry is shown for inspection. -/
  inspected : String
  deriving DecidableEq

/-- An entry as it can be seen. -/
def Entry.view (entry : Entry) : Entry.View :=
  ⟨entry.identity, entry.username?, entry.password.inspect, entry.inspect⟩

/-- A redacted entry looks as the entry does. -/
lemma Entry.view_redact (entry : Entry) : entry.redact.view = entry.view :=
  rfl

/-- The same can be seen of two entries if they differ in their passwords at most. -/
lemma Entry.view_eq_iff {one other : Entry} :
    one.view = other.view ↔ one.redact = other.redact := by
  constructor
  · intro h
    have hidentity : one.identity = other.identity := congrArg View.identity h
    rw [redact, redact, hidentity]
    rfl
  · intro h
    rw [← one.view_redact, h, other.view_redact]

/-- What can be seen of a credential. -/
structure Credential.View where
  scheme : String
  username : String
  workstation : Option String
  domain : Option String
  principal : Option String
  /-- How the password is shown for inspection. -/
  password : String
  /-- How the credential is shown for inspection. -/
  inspected : String
  deriving DecidableEq

/-- A credential as it can be seen. -/
def Credential.view (credential : Credential) : Credential.View :=
  ⟨credential.family.name, credential.username, credential.workstation?, credential.domain?,
    credential.principal?, credential.password.inspect, credential.inspect⟩

/-- A redacted credential looks as the credential does. -/
lemma Credential.view_redact (credential : Credential) :
    credential.redact.view = credential.view := by
  cases credential with
  | basic credential => rfl
  | ntlm credential => rfl

/-- The same can be seen of two credentials if they differ in their passwords at most. -/
lemma Credential.view_eq_iff {one other : Credential} :
    one.view = other.view ↔ one.redact = other.redact := by
  constructor
  · intro h
    have hscheme : one.family.name = other.family.name := congrArg View.scheme h
    have husername : one.username = other.username := congrArg View.username h
    have hworkstation : one.workstation? = other.workstation? := congrArg View.workstation h
    have hdomain : one.domain? = other.domain? := congrArg View.domain h
    cases one with
    | basic one =>
      cases other with
      | basic other => simp_all [redact, username]
      | ntlm other => simp [family, Family.name] at hscheme
    | ntlm one =>
      cases other with
      | basic other => simp [family, Family.name] at hscheme
      | ntlm other => simp_all [redact, username, workstation?, domain?]
  · intro h
    rw [← one.view_redact, h, other.view_redact]

namespace Answer

/-- The answer without passwords. -/
def redact : Answer Entry Credential → Answer Entry Credential :=
  map Entry.redact Credential.redact

/-- An answer as it can be seen. -/
def view : Answer Entry Credential → Answer Entry.View Credential.View :=
  map Entry.view Credential.view

/-- A redacted answer looks as the answer does. -/
lemma view_redact (answer : Answer Entry Credential) : answer.redact.view = answer.view := by
  cases answer with
  | entry found =>
    cases found with
    | none => rfl
    | some entry => rfl
  | credential found =>
    cases found with
    | none => rfl
    | some found => exact congrArg (fun view => credential (some view)) found.view_redact
  | done | count | truth | text | texts | position => rfl

end Answer

/-! ### Stores -/

namespace Store

variable {family : Family}

/-- The operation without its passwords. -/
def Operation.redact : Operation → Operation
  | .new => .new
  | .single target entry => .single target entry.redact
  | .ofBatch batch => .ofBatch batch.redact
  | .insert target entry => .insert target entry.redact
  | .extend batch => .extend batch.redact

/-- A redacted operation does with the redacted store what the operation does with the store. -/
lemma Operation.perform_redact (store : Store family) (op : Operation) :
    op.redact.perform store.redact =
      (op.perform store).map fun (next, answer) => (next.redact, answer.redact) := by
  cases op with
  | new => rfl
  | single target entry =>
    simp only [redact, perform, singleton_redact]
    cases (Store.singleton target entry : Except StoreError (Store family)) with
    | error error => rfl
    | ok next => rfl
  | ofBatch batch =>
    simp only [redact, perform, ofBatch_redact]
    cases (Store.ofBatch batch : Except StoreError (Store family)) with
    | error error => rfl
    | ok next => rfl
  | insert target entry =>
    simp only [redact, perform, insert_redact]
    cases store.insert target entry with
    | error error => rfl
    | ok result => rfl
  | extend batch =>
    simp only [redact, perform, extend_redact]
    cases store.extend batch with
    | error error => rfl
    | ok result => rfl

/-- The redacted store gives the redacted answer. -/
lemma Query.answer_redact (store : Store family) (query : Query) :
    query.answer store.redact = (query.answer store).redact := by
  cases query with
  | get target => exact congrArg Answer.entry (store.get?_redact target)
  | contains target => exact congrArg Answer.truth (store.contains_redact target)
  | targets => exact congrArg Answer.texts store.targets_redact
  | size => exact congrArg Answer.count store.size_redact
  | isEmpty => exact congrArg Answer.truth store.isEmpty_redact
  | inspect => exact congrArg Answer.text store.inspect_redact

end Store

/-! ### Patterns and providers -/

/-- The same pattern is the first to match, and it stands at the same position. -/
lemma PatternList.position?_redact (list : PatternList) (target : Target) :
    list.redact.position? target = list.position? target := by
  rw [position?, position?, redact, List.findIdx?_map]
  rfl

/-- The redacted list gives the redacted answer. -/
lemma PatternList.Query.answer_redact (list : PatternList) (query : PatternList.Query) :
    query.answer list.redact = (query.answer list).redact := by
  cases query with
  | find target => exact congrArg Answer.credential (list.find?_redact target)
  | position target => exact congrArg Answer.position (list.position?_redact target)
  | size => exact congrArg Answer.count (List.length_map _)
  | isEmpty => exact congrArg Answer.truth List.isEmpty_map

/-- The redacted provider gives the redacted answer. -/
lemma Provider.Query.answer_redact (provider : Provider) (query : Provider.Query) :
    query.answer provider.redact = (query.answer provider).redact := by
  cases query with
  | get scope => exact congrArg Answer.credential (provider.get?_redact scope)
  | size => exact congrArg Answer.count provider.size_redact
  | isEmpty => exact congrArg Answer.truth provider.isEmpty_redact

/-! ### Authenticators -/

namespace Authenticator

variable {family : Family}

/-- The authenticator of a redacted login is that of the login, redacted. -/
lemma single_redact (text : String) (login : Login) :
    (single text login.redact : Except SetupError (Authenticator family)) =
      (single text login).map redact := by
  unfold single
  cases readTarget text with
  | error error => rfl
  | ok target =>
    simp only [bind, Except.bind, Login.entry_redact, Store.singleton_redact]
    cases (Store.singleton target (login.entry family) : Except StoreError (Store family)) with
    | error error => rfl
    | ok store => rfl

/-- A redacted login is added to the redacted authenticator as the login to the authenticator. -/
lemma add_redact (auth : Authenticator family) (text : String) (login : Login) :
    auth.redact.add text login.redact = (auth.add text login).map redact := by
  unfold add
  cases readTarget text with
  | error error => rfl
  | ok target =>
    have hinsert : auth.redact.store.insert target (login.redact.entry family) =
        (auth.store.insert target (login.entry family)).map fun result =>
          (result.1.redact, result.2.map Entry.redact) := by
      rw [Login.entry_redact]
      exact auth.store.insert_redact target (login.entry family)
    simp only [bind, Except.bind, hinsert]
    cases auth.store.insert target (login.entry family) with
    | error error => rfl
    | ok result => rfl

/-- The operation without its passwords. -/
def Operation.redact : Operation → Operation
  | .single text login => .single text login.redact
  | .ofBatch batch => .ofBatch batch.redact
  | .add text login => .add text login.redact
  | .withFallback fallback => .withFallback fallback.redact

/-- A redacted operation does with the redacted authenticator what the operation does with the
authenticator. -/
lemma Operation.step_redact (auth : Authenticator family) (op : Operation) :
    op.redact.step auth.redact = (op.step auth).map Authenticator.redact := by
  cases op with
  | single text login => exact single_redact text login
  | ofBatch batch => exact ofBatch_redact batch
  | add text login => exact auth.add_redact text login
  | withFallback fallback => rfl

end Authenticator

/-! ### Workspaces -/

namespace Workspace

/-- The workspace without its passwords. -/
def redact (ws : Workspace) : Workspace where
  stores family index := (ws.stores family index).redact
  authenticators family index := (ws.authenticators family index).redact
  patterns index := (ws.patterns index).redact
  providers index := (ws.providers index).redact

/-- The redacted workspace has the redacted authenticator under a number. -/
lemma authenticators_redact (ws : Workspace) (family : Family) (index : Nat) :
    ws.redact.authenticators family index = (ws.authenticators family index).redact :=
  rfl

/-- The redacted workspace has the redacted list of patterns under a number. -/
lemma patterns_redact (ws : Workspace) (index : Nat) :
    ws.redact.patterns index = (ws.patterns index).redact :=
  rfl

/-- The redacted workspace has the redacted provider under a number. -/
lemma providers_redact (ws : Workspace) (index : Nat) :
    ws.redact.providers index = (ws.providers index).redact :=
  rfl

/-- The redacted workspace has the redacted store at a place. -/
lemma store_redact (ws : Workspace) (family : Family) (place : StorePlace) :
    ws.redact.store family place = (ws.store family place).redact := by
  cases place with
  | alone index => rfl
  | inside index => rfl

/-- What is put under a number is passed through a function with all else. -/
lemma setAt_map {α β : Family → Type} (f : (family : Family) → α family → β family)
    (items : (family : Family) → Nat → α family) (family : Family) (index : Nat)
    (value : α family) :
    setAt (fun other n => f other (items other n)) family index (f family value) =
      fun other n => f other (setAt items family index value other n) := by
  funext other n
  by_cases hfamily : other = family
  · subst hfamily
    by_cases hindex : n = index
    · subst hindex
      simp [setAt]
    · simp [setAt, hindex]
  · simp [setAt, hfamily]

/-- An authenticator is redacted with the workspace that it is put into. -/
lemma setAuthenticator_redact (ws : Workspace) (family : Family) (index : Nat)
    (auth : Authenticator family) :
    ws.redact.setAuthenticator family index auth.redact =
      (ws.setAuthenticator family index auth).redact := by
  have hset := setAt_map (fun _ => Authenticator.redact) ws.authenticators family index auth
  simp only [setAuthenticator, redact, hset]

/-- A store is redacted with the workspace that it is put into. -/
lemma setStore_redact (ws : Workspace) (family : Family) (place : StorePlace)
    (store : Store family) :
    ws.redact.setStore family place store.redact = (ws.setStore family place store).redact := by
  cases place with
  | alone index =>
    have hset := setAt_map (fun _ => Store.redact) ws.stores family index store
    simp only [setStore, redact, hset]
  | inside index =>
    exact ws.setAuthenticator_redact family index { ws.authenticators family index with store }

/-- A list of patterns is redacted with the workspace that it is put into. -/
lemma setPatterns_redact (ws : Workspace) (index : Nat) (list : PatternList) :
    ws.redact.setPatterns index list.redact = (ws.setPatterns index list).redact := by
  have hset := Function.comp_update PatternList.redact ws.patterns index list
  simp only [setPatterns, redact, Function.comp_def] at hset ⊢
  rw [hset]

/-- A provider is redacted with the workspace that it is put into. -/
lemma setProvider_redact (ws : Workspace) (index : Nat) (provider : Provider) :
    ws.redact.setProvider index provider.redact = (ws.setProvider index provider).redact := by
  have hset := Function.comp_update Provider.redact ws.providers index provider
  simp only [setProvider, redact, Function.comp_def] at hset ⊢
  rw [hset]

/-! ### Calls -/

namespace Call

/-- The call without its passwords. -/
def redact : Call → Call
  | .store family place op => .store family place op.redact
  | .authenticator family index op => .authenticator family index op.redact
  | .create family entry => .create family entry.redact
  | .addPattern index pattern credential => .addPattern index pattern credential.redact
  | .provide index scope credential => .provide index scope credential.redact
  | .askStore family place query => .askStore family place query
  | .wrap family index place => .wrap family index place
  | .install family index list => .install family index list
  | .resolve family index target => .resolve family index target
  | .fallBack family index target => .fallBack family index target
  | .newPatterns index => .newPatterns index
  | .askPatterns index query => .askPatterns index query
  | .clear index => .clear index
  | .askProvider index query => .askProvider index query
  | .apply family index provider target => .apply family index provider target

/-- A redacted call does with the redacted workspace what the call does with the workspace: it gives
back the redacted answer, or fails with the same error. -/
lemma perform_redact (ws : Workspace) (call : Call) :
    call.redact.perform ws.redact =
      (call.perform ws).map fun (next, answer) => (next.redact, answer.redact) := by
  cases call with
  | store family place op =>
    simp only [redact, perform, store_redact, Store.Operation.perform_redact]
    cases op.perform (ws.store family place) with
    | error error => rfl
    | ok result => simp only [Except.map, setStore_redact]
  | askStore family place query =>
    simp only [redact, perform, store_redact, Store.Query.answer_redact, Except.map]
  | authenticator family index op =>
    simp only [redact, perform, authenticators_redact, Authenticator.Operation.step_redact]
    cases op.step (ws.authenticators family index) with
    | error error => rfl
    | ok next =>
      simp only [Except.map, setAuthenticator_redact]
      rfl
  | wrap family index place =>
    have hput := ws.setAuthenticator_redact family index (.ofStore (ws.store family place))
    simp only [redact, perform, store_redact, Except.map, ← hput]
    rfl
  | install family index list =>
    have hput := ws.setAuthenticator_redact family index
      ((ws.authenticators family index).withFallback (.patterns (ws.patterns list)))
    simp only [redact, perform, Except.map, ← hput]
    rfl
  | resolve family index target =>
    simp only [redact, perform, authenticators_redact, Authenticator.resolve_redact]
    rfl
  | fallBack family index target =>
    have hanswer := (ws.authenticators family index).fallback.resolve_redact target
    simp only [redact, perform, authenticators_redact, Authenticator.redact, hanswer]
    rfl
  | create family entry =>
    simp only [redact, perform, Entry.credential?_redact]
    rfl
  | newPatterns index =>
    have hput := ws.setPatterns_redact index .empty
    simp only [redact, perform, Except.map, ← hput]
    rfl
  | addPattern index pattern credential =>
    simp only [redact, perform, patterns_redact, PatternList.add_redact]
    cases (ws.patterns index).add pattern credential with
    | error error => rfl
    | ok next =>
      simp only [Except.map, setPatterns_redact]
      rfl
  | askPatterns index query =>
    simp only [redact, perform, patterns_redact, PatternList.Query.answer_redact, Except.map]
  | provide index scope credential =>
    simp only [redact, perform, providers_redact, Provider.set_redact, setProvider_redact]
    rfl
  | clear index =>
    have hput := ws.setProvider_redact index (ws.providers index).clear
    simp only [redact, perform, Except.map, ← hput]
    rfl
  | askProvider index query =>
    simp only [redact, perform, providers_redact, Provider.Query.answer_redact, Except.map]
  | apply family index provider target =>
    simp only [redact, perform, authenticators_redact, providers_redact,
      Authenticator.apply_redact, setProvider_redact]
    rfl

/-- What a redacted call gives back is what the call gives back, redacted. -/
lemma outcome_redact (ws : Workspace) (call : Call) :
    call.redact.outcome ws.redact = (call.outcome ws).map Answer.redact := by
  rw [outcome, outcome, perform_redact]
  cases call.perform ws with
  | error error => rfl
  | ok result => rfl

/-- A redacted call leaves the redacted workspace as the call leaves the workspace. -/
lemma after_redact (ws : Workspace) (call : Call) :
    call.redact.after ws.redact = (call.after ws).redact := by
  rw [after, after, perform_redact]
  cases call.perform ws with
  | error error => rfl
  | ok result => rfl

end Call

/-- A sequence of redacted calls leaves the redacted workspace as the calls leave the workspace. -/
lemma run_redact (ws : Workspace) (calls : List Call) :
    ws.redact.run (calls.map Call.redact) = (ws.run calls).redact := by
  induction calls generalizing ws with
  | nil => rfl
  | cons call rest ih =>
    rw [run, run, List.map_cons, List.foldl_cons, List.foldl_cons, Call.after_redact]
    exact ih (call.after ws)

/-- What redacted calls give back is what the calls give back, redacted, one after the other. -/
lemma outcomes_redact (ws : Workspace) (calls : List Call) :
    ws.redact.outcomes (calls.map Call.redact) =
      (ws.outcomes calls).map (Except.map Answer.redact) := by
  induction calls generalizing ws with
  | nil => rfl
  | cons call rest ih =>
    rw [List.map_cons, outcomes, outcomes, List.map_cons, Call.outcome_redact, Call.after_redact,
      ih]

/-- What can be seen of what a call gives back; a failure can be seen as it is. -/
def seen (outcome : Except Failure (Answer Entry Credential)) :
    Except Failure (Answer Entry.View Credential.View) :=
  outcome.map Answer.view

/-- Of what redacted calls give back the same can be seen. -/
lemma map_seen_outcomes_redact (ws : Workspace) (calls : List Call) :
    (ws.redact.outcomes (calls.map Call.redact)).map seen = (ws.outcomes calls).map seen := by
  rw [outcomes_redact, List.map_map]
  refine List.map_congr_left fun outcome _ => ?_
  cases outcome with
  | error error => rfl
  | ok answer => exact congrArg Except.ok answer.view_redact

/-- Two sequences of calls that differ in nothing but passwords, in workspaces that do so, go alike
at every step: a call of one fails if that of the other does, with the same error, and otherwise all
that can be seen of what the two give back is the same.  The workspaces that they leave differ in
nothing but passwords again. -/
theorem map_seen_outcomes_eq_of_redact_eq {one other : Workspace} (h : one.redact = other.redact)
    {calls calls' : List Call} (hcalls : calls.map Call.redact = calls'.map Call.redact) :
    (one.outcomes calls).map seen = (other.outcomes calls').map seen ∧
      (one.run calls).redact = (other.run calls').redact := by
  constructor
  · rw [← one.map_seen_outcomes_redact, h, hcalls, other.map_seen_outcomes_redact]
  · rw [← run_redact, h, hcalls, run_redact]

/-- Calls with three passwords among them, two of which fail: an entry with too few fields and a
pattern that cannot be read. -/
def sampleCalls (first second third : String) : List Call :=
  let target := (Target.parse "https://a.example/").toOption.get (by decide +kernel)
  [.store .ntlm (.alone 0) (.insert target ⟨⟨["alice"]⟩, ⟨first⟩⟩),
    .store .ntlm (.alone 0) (.insert target ⟨⟨["alice", "ws1", "corp"]⟩, ⟨first⟩⟩),
    .store .ntlm (.alone 0) (.insert target ⟨⟨["bob", "ws2", "corp"]⟩, ⟨second⟩⟩),
    .wrap .ntlm 0 (.alone 0),
    .addPattern 0 "https://[" (.basic ⟨"guest", ⟨third⟩⟩),
    .addPattern 0 "https://*" (.basic ⟨"guest", ⟨third⟩⟩),
    .askPatterns 0 (.find target),
    .apply .ntlm 0 0 target,
    .askProvider 0 (.get (.make "a.example" (some 443)))]

/-- What is given back tells the passwords, and nothing else that differs with them. -/
theorem map_seen_outcomes_eq_of_redact_eq_sampleCalls :
    (sampleCalls "one" "two" "three").map Call.redact =
      (sampleCalls "" "xyz" "two").map Call.redact ∧
    empty.outcomes (sampleCalls "one" "two" "three") ≠
      empty.outcomes (sampleCalls "" "xyz" "two") ∧
    (empty.outcomes (sampleCalls "one" "two" "three")).map seen =
      (empty.outcomes (sampleCalls "" "xyz" "two")).map seen ∧
    (empty.outcomes (sampleCalls "" "xyz" "two")).map Except.isOk =
      [false, true, true, true, false, true, true, true, true] := by
  have hcalls : (sampleCalls "one" "two" "three").map Call.redact =
      (sampleCalls "" "xyz" "two").map Call.redact := rfl
  obtain ⟨hseen, -⟩ := map_seen_outcomes_eq_of_redact_eq (Eq.refl empty.redact) hcalls
  exact ⟨hcalls, by decide +kernel, hseen, by decide +kernel⟩

end Workspace

end ScopedAuth
