import ScopedAuth.Authenticator
import ScopedAuth.Proofs.Store.History

/-!
# Histories of an authenticator

An authenticator is set up anew, added to and given another fallback, and each of these operations
may be refused.  What it presents to a target depends on nothing but the entry written last under
the text of the target and the fallback installed last, both since the last time it was set up anew.

The point to settle is that an entry in the store never fails to give a credential: the fallback is
left aside once there is an entry, so an entry without a user name would leave the target with
nothing.  A store holds full entries only, and `exists_yields` says that those are enough.
-/

namespace ScopedAuth

/-- The credential that an entry gives in a family.  The user name is the first field and the
password is the stored one; NTLM sets workstation and domain to the next two fields in upper case.
What fields there are beyond these does not matter. -/
inductive Entry.Yields : Family → Entry → Credential → Prop
  | basic (username : String) (others : List String) (password : String) :
    Yields .basic ⟨⟨username :: others⟩, ⟨password⟩⟩ (.basic ⟨username, ⟨password⟩⟩)
  | ntlm (username workstation domain : String) (others : List String) (password : String) :
    Yields .ntlm ⟨⟨username :: workstation :: domain :: others⟩, ⟨password⟩⟩
      (.ntlm ⟨username, ⟨password⟩, some (Unicode.upper workstation), some (Unicode.upper domain)⟩)

/-- An entry with enough fields gives a credential. -/
lemma Entry.exists_yields {family : Family} {entry : Entry}
    (h : family.arity ≤ entry.identity.size) :
    ∃ credential, entry.credential? family = some credential ∧
      Entry.Yields family entry credential := by
  obtain ⟨⟨fields⟩, ⟨password⟩⟩ := entry
  cases family with
  | basic =>
    match fields, h with
    | username :: others, _ => exact ⟨_, rfl, .basic username others password⟩
  | ntlm =>
    match fields, h with
    | username :: workstation :: domain :: others, _ =>
      exact ⟨_, rfl, .ntlm username workstation domain others password⟩

/-- The credential of an entry is the one that the entry stands for. -/
lemma Entry.Yields.credential?_eq {family : Family} {entry : Entry} {credential : Credential}
    (h : Entry.Yields family entry credential) : entry.credential? family = some credential := by
  cases h with
  | basic => rfl
  | ntlm => rfl

/-- The credential of an entry belongs to the family and has the user name of the entry. -/
lemma Entry.Yields.family_eq_and_username?_eq {family : Family} {entry : Entry}
    {credential : Credential} (h : Entry.Yields family entry credential) :
    credential.family = family ∧ entry.username? = some credential.username := by
  cases h with
  | basic => exact ⟨rfl, rfl⟩
  | ntlm => exact ⟨rfl, rfl⟩

namespace Authenticator

/-- The operations that set an authenticator up or change it. -/
inductive Operation where
  /-- Sets up anew with a login for one target. -/
  | single (target : String) (login : Login)
  /-- Sets up anew with a batch of entries. -/
  | ofBatch (batch : Batch)
  /-- Adds a login for a target. -/
  | add (target : String) (login : Login)
  /-- Puts another fallback behind the store. -/
  | withFallback (fallback : Fallback)

namespace Operation

/-- Carries an operation out on an authenticator, or refuses it. -/
def step {family : Family} (auth : Authenticator family) :
    Operation → Except SetupError (Authenticator family)
  | .single target login => Authenticator.single target login
  | .ofBatch batch => Authenticator.ofBatch batch
  | .add target login => auth.add target login
  | .withFallback fallback => .ok (auth.withFallback fallback)

/-- The authenticator after an operation; one that is refused leaves it as it is. -/
def after {family : Family} (auth : Authenticator family) (op : Operation) :
    Authenticator family :=
  match op.step auth with
  | .ok next => next
  | .error _ => auth

/-- Whether an operation makes sense: a text has to be a target, and the entries of a batch need
enough fields. -/
def Accepted (family : Family) : Operation → Prop
  | .single target _ | .add target _ => (Target.parse target).isOk = true
  | .ofBatch batch => batch.Full family
  | .withFallback _ => True

instance (family : Family) : (op : Operation) → Decidable (op.Accepted family)
  | .single _ _ | .add _ _ => inferInstanceAs (Decidable (_ = true))
  | .ofBatch batch => inferInstanceAs (Decidable (batch.Full family))
  | .withFallback _ => inferInstanceAs (Decidable True)

/-- The log of what is stored, after an operation. -/
def record (family : Family) (log : WriteLog Entry) (op : Operation) : WriteLog Entry :=
  if op.Accepted family then
    match op with
    | .single target login => [(target, login.entry family)]
    | .ofBatch batch => batch.writes
    | .add target login => log ++ [(target, login.entry family)]
    | .withFallback _ => log
  else log

/-- The fallback after an operation. -/
def fallback (family : Family) (current : Fallback) (op : Operation) : Fallback :=
  if op.Accepted family then
    match op with
    | .single _ _ | .ofBatch _ => .none
    | .add _ _ => current
    | .withFallback fallback => fallback
  else current

end Operation

/-- The authenticator that a sequence of operations ends with, starting from one that has neither
entries nor a fallback. -/
def run (family : Family) (ops : List Operation) : Authenticator family :=
  ops.foldl Operation.after (ofStore .empty)

/-- The log of what a sequence of operations stores, since the last time it sets up anew. -/
def written (family : Family) (ops : List Operation) : WriteLog Entry :=
  ops.foldl (Operation.record family) []

/-- The fallback that a sequence of operations installs last, since it last sets up anew. -/
def lastFallback (family : Family) (ops : List Operation) : Fallback :=
  ops.foldl (Operation.fallback family) .none

/-! ### One operation -/

variable {family : Family}

/-- A text that is a target is read as one with this text. -/
lemma readTarget_of_isOk {text : String} (h : (Target.parse text).isOk = true) :
    ∃ target, readTarget text = .ok target ∧ target.text = text := by
  cases hparse : Target.parse text with
  | ok target =>
    refine ⟨target, ?_, Target.text_of_parse hparse⟩
    rw [readTarget, hparse]
    rfl
  | error error =>
    rw [hparse] at h
    cases h

/-- A text that is no target is not read. -/
lemma readTarget_of_not_isOk {text : String} (h : ¬ (Target.parse text).isOk = true) :
    ∃ error, readTarget text = .error error := by
  cases hparse : Target.parse text with
  | ok target =>
    rw [hparse] at h
    exact absurd rfl h
  | error error =>
    rw [readTarget, hparse]
    exact ⟨_, rfl⟩

/-- The authenticator of a batch whose entries all have enough fields. -/
lemma ofBatch_of_full {batch : Batch} (h : batch.Full family) :
    ∃ store : Store family, ofBatch batch = .ok (ofStore store) ∧ store.Follows batch.writes := by
  obtain ⟨store, hstore, hfollows⟩ := Store.ofBatch_of_full h
  refine ⟨store, ?_, hfollows⟩
  rw [ofBatch, hstore]
  rfl

/-- An operation that makes sense is carried out: its entries reach the log, and its fallback is
installed. -/
lemma step_of_accepted {op : Operation} (h : op.Accepted family) (auth : Authenticator family) :
    ∃ next, op.step auth = .ok next ∧ next.fallback = op.fallback family auth.fallback ∧
      ∀ log, auth.store.Follows log → next.store.Follows (op.record family log) := by
  simp only [Operation.fallback, Operation.record, if_pos h]
  cases op with
  | single text login =>
    obtain ⟨target, htarget, rfl⟩ := readTarget_of_isOk h
    have hfields := Nat.le_of_eq (login.size_entry family).symm
    refine ⟨ofStore (Store.empty.put target ⟨_, hfields⟩), ?_, rfl,
      fun _ _ => Store.follows_empty.put target _⟩
    rw [Operation.step, single, htarget]
    simp only [bind, Except.bind, Store.singleton_of_le hfields]
    rfl
  | ofBatch batch =>
    have hbatch : batch.Full family := h
    obtain ⟨store, hstore, hfollows⟩ := ofBatch_of_full hbatch
    exact ⟨ofStore store, hstore, rfl, fun _ _ => hfollows⟩
  | add text login =>
    obtain ⟨target, htarget, rfl⟩ := readTarget_of_isOk h
    have hfields := Nat.le_of_eq (login.size_entry family).symm
    refine ⟨{ auth with store := auth.store.put target ⟨_, hfields⟩ }, ?_, rfl,
      fun log hlog => hlog.put target _⟩
    rw [Operation.step, add, htarget]
    simp only [bind, Except.bind, Store.insert_of_le hfields]
    rfl
  | withFallback fallback => exact ⟨auth.withFallback fallback, rfl, rfl, fun _ hlog => hlog⟩

/-- An operation that does not make sense is refused. -/
lemma step_of_not_accepted {op : Operation} (h : ¬ op.Accepted family)
    (auth : Authenticator family) : ∃ error, op.step auth = .error error := by
  cases op with
  | single text login =>
    obtain ⟨error, herror⟩ := readTarget_of_not_isOk h
    rw [Operation.step, single, herror]
    exact ⟨error, rfl⟩
  | ofBatch batch =>
    have hbatch : ¬ batch.Full family := h
    obtain ⟨error, herror⟩ := Store.ofBatch_of_not_full hbatch
    rw [Operation.step, Authenticator.ofBatch, herror]
    exact ⟨_, rfl⟩
  | add text login =>
    obtain ⟨error, herror⟩ := readTarget_of_not_isOk h
    rw [Operation.step, add, herror]
    exact ⟨error, rfl⟩
  | withFallback fallback => exact absurd trivial h

/-- An operation is carried out exactly if it makes sense. -/
lemma exists_step_eq_ok_iff (op : Operation) (auth : Authenticator family) :
    (∃ next, op.step auth = .ok next) ↔ op.Accepted family := by
  refine exists_eq_ok_iff (fun haccepted => ?_) fun haccepted => step_of_not_accepted haccepted auth
  obtain ⟨next, hnext, -⟩ := step_of_accepted haccepted auth
  exact ⟨next, hnext⟩

/-! ### A sequence of operations -/

/-- An authenticator is as a history leaves it: its store follows the log, and its fallback is the
one installed. -/
structure Matches (auth : Authenticator family) (log : WriteLog Entry) (fallback : Fallback) :
    Prop where
  store_follows : auth.store.Follows log
  fallback_eq : auth.fallback = fallback

/-- The authenticator of a batch holds the writes of the batch and has no fallback. -/
lemma matches_of_ofBatch {batch : Batch} {auth : Authenticator family}
    (h : ofBatch batch = .ok auth) : auth.Matches batch.writes .none := by
  obtain ⟨store, hstore, h⟩ := bind_eq_ok_iff.mp h
  rw [mapError_eq_ok_iff] at hstore
  rw [← Except.ok.inj h]
  by_cases hfull : batch.Full family
  · obtain ⟨other, hother, hfollows⟩ := Store.ofBatch_of_full hfull
    rw [hstore] at hother
    exact ⟨Except.ok.inj hother ▸ hfollows, rfl⟩
  · obtain ⟨error, herror⟩ := Store.ofBatch_of_not_full hfull
    rw [hstore] at herror
    exact nomatch herror

/-- An operation keeps an authenticator in step with its history, whether it is refused or not. -/
lemma Matches.after {auth : Authenticator family} {log : WriteLog Entry} {fallback : Fallback}
    (h : auth.Matches log fallback) (op : Operation) :
    (op.after auth).Matches (op.record family log) (op.fallback family fallback) := by
  by_cases haccepted : op.Accepted family
  · obtain ⟨next, hnext, hfallback, hfollows⟩ := step_of_accepted haccepted auth
    rw [Operation.after, hnext]
    refine ⟨hfollows log h.store_follows, ?_⟩
    rw [hfallback, h.fallback_eq]
  · obtain ⟨error, herror⟩ := step_of_not_accepted haccepted auth
    simp only [Operation.after, herror, Operation.record, Operation.fallback, if_neg haccepted]
    exact h

/-- Every sequence of operations leaves the authenticator as its history says. -/
lemma matches_run (ops : List Operation) :
    (run family ops).Matches (written family ops) (lastFallback family ops) := by
  induction ops using List.reverseRecOn with
  | nil => exact ⟨Store.follows_empty, rfl⟩
  | append_singleton ops op ih =>
    rw [run, written, lastFallback, List.foldl_append, List.foldl_append, List.foldl_append]
    exact ih.after op

/-- What counts in the log of a store gives a credential, which is the one that is presented. -/
lemma resolve_of_last?_eq_some {auth : Authenticator family} {log : WriteLog Entry}
    (h : auth.store.Follows log) {target : Target} {entry : Entry}
    (hentry : log.last? target.text = some entry) :
    ∃ credential, auth.resolve target = some credential ∧
      Entry.Yields family entry credential := by
  have hget : auth.store.get? target = some entry := (h.get?_eq target).trans hentry
  obtain ⟨full, -, rfl⟩ := Option.map_eq_some_iff.mp hget
  obtain ⟨credential, hcredential, hyields⟩ := Entry.exists_yields full.property
  refine ⟨credential, ?_, hyields⟩
  rw [resolve, hget]
  exact hcredential

/-- Where nothing in the log of the store counts, the fallback answers. -/
lemma resolve_of_last?_eq_none {auth : Authenticator family} {log : WriteLog Entry}
    (h : auth.store.Follows log) {target : Target} (hnone : log.last? target.text = none) :
    auth.resolve target = auth.fallback.resolve target := by
  rw [resolve, h.get?_eq, hnone]

/-- After every sequence of operations, refused ones among them, a target is presented the
credential of the entry written last under its text since the authenticator was last set up anew;
if there is none, the answer is that of the fallback installed last since then.  An operation is
refused only if it does not make sense. -/
theorem resolve_run (family : Family) (ops : List Operation) (target : Target) :
    (match (written family ops).last? target.text with
      | some entry => ∃ credential, (run family ops).resolve target = some credential ∧
          Entry.Yields family entry credential
      | none =>
        (run family ops).resolve target = (lastFallback family ops).resolve target) ∧
    ∀ op : Operation, (∃ next, op.step (run family ops) = .ok next) ↔ op.Accepted family := by
  have hrun : (run family ops).Matches _ _ := matches_run ops
  refine ⟨?_, fun op => exists_step_eq_ok_iff op _⟩
  split
  · next entry hentry => exact resolve_of_last?_eq_some hrun.store_follows hentry
  · next hnone =>
    rw [resolve_of_last?_eq_none hrun.store_follows hnone, hrun.fallback_eq]

end Authenticator

end ScopedAuth
