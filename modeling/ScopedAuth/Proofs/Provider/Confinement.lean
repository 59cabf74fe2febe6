import Mathlib.Data.List.Induction
import Mathlib.Logic.Function.Basic
import ScopedAuth.Proofs.Authenticator.History
import ScopedAuth.Proofs.Provider.Lookup

/-!
# Credentials stay with their host

A session is a provider, empty at first, and any number of authenticators of either family.  The
authenticators change, they are applied to the provider, and the provider is cleared, in any order.
What the provider answers for a host then comes from an application to a target of that very host,
after the provider was cleared for the last time (`exists_apply_of_get?_run`).

A scope with an open host would cover every other one.  What carries the proof is that none is ever
registered: the scope of a target has a host, and a target without a host has no scope.
-/

namespace ScopedAuth

/-- The scope of a target is made from its host and its port. -/
lemma Scope.ofTarget?_eq_some_iff {target : Target} {scope : Scope} :
    Scope.ofTarget? target = some scope ↔
      ∃ host, target.host? = some host ∧ Scope.make host target.port? = scope := by
  rw [Scope.ofTarget?, Option.map_eq_some_iff]

/-- A scope with a host covers that of another host and port if the hosts are the same but for
their case and its port is open or the other one. -/
lemma Scope.covers_make_iff {host other : String} {port port' : Option Url.Port} :
    (Scope.make host port).Covers (Scope.make other port') ↔
      Scope.lower host = Scope.lower other ∧ (port = none ∨ port = port') := by
  simp [Scope.make, Scope.Covers]

/-- A scope with a host does not cover all hosts. -/
lemma Scope.not_covers_any (host : String) (port : Option Url.Port) :
    ¬ (Scope.make host port).Covers Scope.any := by
  simp [Scope.make, Scope.any, Scope.Covers]

/-- An application sets the credential that the target resolves to, under the scope of the target;
if there is no credential or no scope, it leaves the provider alone. -/
lemma Authenticator.apply_cases {family : Family} (auth : Authenticator family)
    (provider : Provider) (target : Target) :
    (∃ scope credential, Scope.ofTarget? target = some scope ∧
      auth.resolve target = some credential ∧
      auth.apply provider target = (provider.set scope credential, true)) ∨
    ((Scope.ofTarget? target = none ∨ auth.resolve target = none) ∧
      auth.apply provider target = (provider, false)) := by
  cases hscope : Scope.ofTarget? target with
  | none =>
    refine Or.inr ⟨Or.inl rfl, ?_⟩
    rw [apply, hscope]
  | some scope =>
    cases hcredential : auth.resolve target with
    | none =>
      refine Or.inr ⟨Or.inr rfl, ?_⟩
      rw [apply, hscope, hcredential]
    | some credential =>
      refine Or.inl ⟨scope, credential, rfl, rfl, ?_⟩
      rw [apply, hscope, hcredential]

/-- A provider and the authenticators that are applied to it. -/
structure Session where
  authenticators : Nat → (family : Family) × Authenticator family
  provider : Provider

namespace Session

/-- What happens in a session. -/
inductive Event where
  /-- Carries an operation out on an authenticator. -/
  | change (index : Nat) (op : Authenticator.Operation)
  /-- Applies an authenticator to the provider, for a target. -/
  | apply (index : Nat) (target : Target)
  /-- Clears the provider. -/
  | clear

/-- The session with these authenticators in which nothing has happened yet. -/
def start (authenticators : Nat → (family : Family) × Authenticator family) : Session :=
  ⟨authenticators, .empty⟩

/-- What an authenticator resolves a target to. -/
def resolve (session : Session) (index : Nat) (target : Target) : Option Credential :=
  (session.authenticators index).2.resolve target

/-- The outcome of applying an authenticator for a target. -/
def apply (session : Session) (index : Nat) (target : Target) : Provider × Bool :=
  (session.authenticators index).2.apply session.provider target

/-- The session after an event. -/
def Event.after (session : Session) : Event → Session
  | .change index op =>
    let auth := session.authenticators index
    { session with
      authenticators := Function.update session.authenticators index ⟨auth.1, op.after auth.2⟩ }
  | .apply index target => { session with provider := (session.apply index target).1 }
  | .clear => { session with provider := session.provider.clear }

/-- The session after a sequence of events. -/
def run (session : Session) (events : List Event) : Session :=
  events.foldl Event.after session

/-- The events of a sequence, each with the session in which it happens. -/
def trace (session : Session) : List Event → List (Session × Event)
  | [] => []
  | event :: rest => (session, event) :: trace (event.after session) rest

/-- A last event happens in the session after all others. -/
lemma trace_append_singleton (session : Session) (events : List Event) (event : Event) :
    session.trace (events ++ [event]) = session.trace events ++ [(session.run events, event)] := by
  induction events generalizing session with
  | nil => rfl
  | cons first rest ih =>
    rw [List.cons_append, trace, trace, ih, List.cons_append]
    rfl

/-! ### Where a credential comes from -/

/-- In a session an authenticator registers a credential for a scope when it is applied for a
target. -/
structure Registers (session : Session) (index : Nat) (target : Target) (scope : Scope)
    (credential : Credential) : Prop where
  ofTarget?_eq : Scope.ofTarget? target = some scope
  apply_snd : (session.apply index target).2 = true
  resolve_eq : session.resolve index target = some credential

/-- An event in a session spares a scope if it keeps what is registered for it: it does not clear
the provider, and it is not a successful application for the scope. -/
def Spares (scope : Scope) : Session × Event → Prop
  | (_, .change _ _) => True
  | (session, .apply index target) =>
    Scope.ofTarget? target = some scope → (session.apply index target).2 = false
  | (_, .clear) => False

/-- A credential is registered for a scope by some step, and all later ones spare the scope. -/
def Sourced (steps : List (Session × Event)) (scope : Scope) (credential : Credential) : Prop :=
  ∃ before session index target after,
    steps = before ++ (session, .apply index target) :: after ∧
    session.Registers index target scope credential ∧ ∀ step ∈ after, Spares scope step

/-- What a step registers has a source. -/
lemma Registers.sourced {session : Session} {index : Nat} {target : Target} {scope : Scope}
    {credential : Credential} (h : session.Registers index target scope credential)
    (steps : List (Session × Event)) :
    Sourced (steps ++ [(session, .apply index target)]) scope credential :=
  ⟨steps, session, index, target, [], rfl, h, List.forall_mem_nil _⟩

/-- A source remains one as long as the scope is spared. -/
lemma Sourced.append_singleton {steps : List (Session × Event)} {scope : Scope}
    {credential : Credential} (h : Sourced steps scope credential) {step : Session × Event}
    (hstep : Spares scope step) : Sourced (steps ++ [step]) scope credential := by
  obtain ⟨before, session, index, target, after, rfl, hregisters, hafter⟩ := h
  refine ⟨before, session, index, target, after ++ [step], ?_, hregisters, ?_⟩
  · rw [List.append_assoc, List.cons_append]
  · exact List.forall_mem_append.mpr ⟨hafter, List.forall_mem_singleton.mpr hstep⟩

/-- What is registered for a scope after an event was registered by the event itself, or it was
there before and the event spares the scope. -/
lemma registered?_after {session : Session} {event : Event} {scope : Scope}
    {credential : Credential}
    (h : (event.after session).provider.registered? scope = some credential) :
    (∃ index target, event = .apply index target ∧
      session.Registers index target scope credential) ∨
    (session.provider.registered? scope = some credential ∧ Spares scope (session, event)) := by
  cases event with
  | change index op => exact Or.inr ⟨h, trivial⟩
  | clear => exact nomatch h
  | apply index target =>
    have happly := (session.authenticators index).2.apply_cases session.provider target
    rw [← Session.apply, ← Session.resolve] at happly
    change (session.apply index target).1.registered? scope = some credential at h
    rcases happly with ⟨key, found, hkey, hfound, happly⟩ | ⟨-, happly⟩
    · rw [happly, Provider.registered?_set] at h
      by_cases hscope : scope = key
      · rw [if_pos hscope] at h
        refine Or.inl ⟨index, target, rfl, ?_, ?_, ?_⟩
        · rw [hkey, hscope]
        · rw [happly]
        · rw [hfound, h]
      · rw [if_neg hscope] at h
        refine Or.inr ⟨h, fun heq => ?_⟩
        rw [hkey] at heq
        exact absurd (Option.some.inj heq).symm hscope
    · rw [happly] at h
      refine Or.inr ⟨h, fun _ => ?_⟩
      rw [happly]

/-- Whatever is registered after a sequence of events has a source among them. -/
lemma sourced_of_registered?_run (authenticators : Nat → (family : Family) × Authenticator family)
    (events : List Event) {scope : Scope} {credential : Credential}
    (h : ((start authenticators).run events).provider.registered? scope = some credential) :
    Sourced ((start authenticators).trace events) scope credential := by
  induction events using List.reverseRecOn with
  | nil => exact nomatch h
  | append_singleton events event ih =>
    rw [run, List.foldl_append] at h
    rw [trace_append_singleton]
    rcases registered?_after h with ⟨index, target, rfl, hregisters⟩ | ⟨hbefore, hspares⟩
    · exact hregisters.sourced _
    · exact (ih hbefore).append_singleton hspares

/-- If a provider that only applications fill answers with a credential for a host and a port, then
an authenticator was applied for a target with this host, in any case, and with this port or none.
The application succeeded, it resolved to the credential, and after it the provider was not cleared
and no other application for the same scope succeeded.  There is never an answer for all hosts. -/
theorem exists_apply_of_get?_run (authenticators : Nat → (family : Family) × Authenticator family)
    (events : List Event) :
    (∀ host port credential,
      ((start authenticators).run events).provider.get? (.make host port) = some credential →
      ∃ before session index target after,
        (start authenticators).trace events =
          before ++ (session, .apply index target) :: after ∧
        (session.apply index target).2 = true ∧
        session.resolve index target = some credential ∧
        (∃ name, target.host? = some name ∧ Scope.lower name = Scope.lower host) ∧
        (target.port? = none ∨ target.port? = port) ∧
        ∀ step ∈ after, step.2 ≠ .clear ∧ ∀ index' target', step.2 = .apply index' target' →
          Scope.ofTarget? target' = Scope.ofTarget? target →
          (step.1.apply index' target').2 = false) ∧
    ((start authenticators).run events).provider.get? .any = none := by
  constructor
  · intro host port credential h
    obtain ⟨key, hcovers, hkey⟩ := Provider.exists_covers_of_get?_eq_some h
    obtain ⟨before, session, index, target, after, htrace, hregisters, hafter⟩ :=
      sourced_of_registered?_run authenticators events hkey
    obtain ⟨name, hname, rfl⟩ := Scope.ofTarget?_eq_some_iff.mp hregisters.ofTarget?_eq
    obtain ⟨hhost, hport⟩ := Scope.covers_make_iff.mp hcovers
    refine ⟨before, session, index, target, after, htrace, hregisters.apply_snd,
      hregisters.resolve_eq, ⟨name, hname, hhost⟩, hport, ?_⟩
    rintro ⟨later, event⟩ hstep
    have hspares := hafter _ hstep
    constructor
    · rintro rfl
      exact hspares
    · rintro index' target' rfl hscope
      exact hspares (hscope.trans hregisters.ofTarget?_eq)
  · refine Option.eq_none_iff_forall_ne_some.mpr fun credential h => ?_
    obtain ⟨key, hcovers, hkey⟩ := Provider.exists_covers_of_get?_eq_some h
    obtain ⟨-, session, index, target, -, -, hregisters, -⟩ :=
      sourced_of_registered?_run authenticators events hkey
    obtain ⟨name, -, rfl⟩ := Scope.ofTarget?_eq_some_iff.mp hregisters.ofTarget?_eq
    exact Scope.not_covers_any name target.port? hcovers

/-- A session in which `https://A.example/ds` is applied twice, with its password changed and the
provider cleared in between. -/
def changedPassword : List Event :=
  let target := (Target.parse "https://A.example/ds").toOption.get (by decide +kernel)
  [.change 0 (.single target.text ⟨"bob", ⟨"one"⟩, none, none⟩), .apply 0 target,
    .change 0 (.add target.text ⟨"bob", ⟨"two"⟩, none, none⟩), .clear, .apply 0 target]

/-- The host is asked for in another case, and the answer has the password applied last. -/
theorem exists_apply_of_get?_run_changedPassword :
    ((start fun _ => ⟨.basic, .ofStore .empty⟩).run changedPassword).provider.get?
      (.make "a.EXAMPLE" (some 443)) = some (.basic ⟨"bob", ⟨"two"⟩⟩) ∧
    ∃ before session index target after,
      (start fun _ => ⟨.basic, .ofStore .empty⟩).trace changedPassword =
        before ++ (session, .apply index target) :: after ∧
      session.resolve index target = some (.basic ⟨"bob", ⟨"two"⟩⟩) ∧
      ∃ name, target.host? = some name ∧ Scope.lower name = Scope.lower "a.EXAMPLE" := by
  have hget : ((start fun _ => ⟨.basic, .ofStore .empty⟩).run changedPassword).provider.get?
      (.make "a.EXAMPLE" (some 443)) = some (.basic ⟨"bob", ⟨"two"⟩⟩) := by decide +kernel
  obtain ⟨before, session, index, target, after, htrace, -, hresolve, hhost, -, -⟩ :=
    (exists_apply_of_get?_run _ changedPassword).1 _ _ _ hget
  exact ⟨hget, before, session, index, target, after, htrace, hresolve, hhost⟩

end Session

end ScopedAuth
