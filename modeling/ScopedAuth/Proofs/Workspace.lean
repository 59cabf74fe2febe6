import Mathlib.Logic.Function.Basic
import ScopedAuth.Proofs.Authenticator.History

/-!
# Working with stores, authenticators, fallbacks and providers

A workspace holds any number of stores and authenticators of each family, of lists of patterns and
of providers.  A program works with it by calls: it sets these up, changes them and asks them
questions, in any order, and each call either gives something back or fails and changes nothing.

`Workspace.outcomes` lists what a sequence of calls gives back.  Entries and credentials are handed
out whole, with their passwords; `Answer.map` says how else they may be looked at.
-/

namespace ScopedAuth

/-! ### Answers -/

/-- What a call gives back, with entries handed out as `ε` and credentials as `κ`. -/
inductive Answer (ε κ : Type) where
  /-- The call is carried out, and there is no more to say. -/
  | done
  | count (n : Nat)
  | truth (b : Bool)
  | text (s : String)
  | texts (list : List String)
  | entry (found : Option ε)
  | credential (found : Option κ)
  /-- The position of the first pattern that matches. -/
  | position (found : Option Nat)
  deriving DecidableEq

/-- The answer with its entry or credential handed out in another form. -/
def Answer.map {ε ε' κ κ' : Type} (f : ε → ε') (g : κ → κ') : Answer ε κ → Answer ε' κ'
  | .done => .done
  | .count n => .count n
  | .truth b => .truth b
  | .text s => .text s
  | .texts list => .texts list
  | .entry found => .entry (found.map f)
  | .credential found => .credential (found.map g)
  | .position found => .position found

/-- Why a call fails. -/
inductive Failure where
  | store (error : StoreError)
  | setup (error : SetupError)
  | pattern (error : Glob.PatternError)
  deriving DecidableEq

/-! ### Stores -/

namespace Store

variable {family : Family}

/-- Carries an operation out on a store.  An insertion gives back the entry that was there, and an
addition the number of entries. -/
def Operation.perform (store : Store family) :
    Operation → Except StoreError (Store family × Answer Entry Credential)
  | .new => .ok (.empty, .done)
  | .single target entry => (Store.singleton target entry).map (·, .done)
  | .ofBatch batch => (Store.ofBatch batch).map (·, .done)
  | .insert target entry =>
    (store.insert target entry).map fun (next, previous) => (next, .entry previous)
  | .extend batch => (store.extend batch).map fun (next, n) => (next, .count n)

/-- What a store is asked. -/
inductive Query where
  | get (target : Target)
  | contains (target : Target)
  | targets
  | size
  | isEmpty
  | inspect

/-- What a store answers. -/
def Query.answer (store : Store family) : Query → Answer Entry Credential
  | .get target => .entry (store.get? target)
  | .contains target => .truth (store.contains target)
  | .targets => .texts store.targets
  | .size => .count store.size
  | .isEmpty => .truth store.isEmpty
  | .inspect => .text store.inspect

end Store

/-! ### Patterns and providers -/

/-- The position of the first pattern that matches. -/
def PatternList.position? (list : PatternList) (target : Target) : Option Nat :=
  list.items.findIdx? (·.1.matches target.text)

/-- What a list of patterns is asked. -/
inductive PatternList.Query where
  | find (target : Target)
  | position (target : Target)
  | size
  | isEmpty

/-- What a list of patterns answers. -/
def PatternList.Query.answer (list : PatternList) : PatternList.Query → Answer Entry Credential
  | .find target => .credential (list.find? target)
  | .position target => .position (list.position? target)
  | .size => .count list.size
  | .isEmpty => .truth list.isEmpty

/-- What a provider is asked. -/
inductive Provider.Query where
  | get (scope : Scope)
  | size
  | isEmpty

/-- What a provider answers. -/
def Provider.Query.answer (provider : Provider) : Provider.Query → Answer Entry Credential
  | .get scope => .credential (provider.get? scope)
  | .size => .count provider.size
  | .isEmpty => .truth provider.isEmpty

/-! ### Workspaces -/

/-- Stores, authenticators, lists of patterns and providers, all of them numbered. -/
structure Workspace where
  stores : (family : Family) → Nat → Store family
  authenticators : (family : Family) → Nat → Authenticator family
  patterns : Nat → PatternList
  providers : Nat → Provider

/-- Where a store is kept: by itself, or in an authenticator. -/
inductive StorePlace where
  | alone (index : Nat)
  | inside (index : Nat)

namespace Workspace

open Function (update)

/-- The workspace in which nothing is stored, listed or provided yet. -/
def empty : Workspace :=
  ⟨fun _ _ => .empty, fun _ _ => .ofStore .empty, fun _ => .empty, fun _ => .empty⟩

/-- The store at a place. -/
def store (ws : Workspace) (family : Family) : StorePlace → Store family
  | .alone index => ws.stores family index
  | .inside index => (ws.authenticators family index).store

/-- Puts something of a family under a number. -/
def setAt {α : Family → Type} (items : (family : Family) → Nat → α family) (family : Family)
    (index : Nat) (value : α family) : (family : Family) → Nat → α family :=
  update items family (update (items family) index value)

/-- Puts an authenticator under a number. -/
def setAuthenticator (ws : Workspace) (family : Family) (index : Nat)
    (auth : Authenticator family) : Workspace :=
  { ws with authenticators := setAt ws.authenticators family index auth }

/-- Puts a store into a place. -/
def setStore (ws : Workspace) (family : Family) (place : StorePlace) (store : Store family) :
    Workspace :=
  match place with
  | .alone index => { ws with stores := setAt ws.stores family index store }
  | .inside index =>
    ws.setAuthenticator family index { ws.authenticators family index with store }

/-- Puts a list of patterns under a number. -/
def setPatterns (ws : Workspace) (index : Nat) (list : PatternList) : Workspace :=
  { ws with patterns := update ws.patterns index list }

/-- Puts a provider under a number. -/
def setProvider (ws : Workspace) (index : Nat) (provider : Provider) : Workspace :=
  { ws with providers := update ws.providers index provider }

/-- What a program asks of a workspace. -/
inductive Call where
  /-- Sets a store up or writes to it. -/
  | store (family : Family) (place : StorePlace) (op : Store.Operation)
  | askStore (family : Family) (place : StorePlace) (query : Store.Query)
  /-- Sets an authenticator up, adds to it or gives it another fallback. -/
  | authenticator (family : Family) (index : Nat) (op : Authenticator.Operation)
  /-- Sets an authenticator up with a store that is there. -/
  | wrap (family : Family) (index : Nat) (place : StorePlace)
  /-- Gives an authenticator a list of patterns that is there as its fallback. -/
  | install (family : Family) (index : Nat) (list : Nat)
  | resolve (family : Family) (index : Nat) (target : Target)
  /-- Asks the fallback of an authenticator alone. -/
  | fallBack (family : Family) (index : Nat) (target : Target)
  /-- Makes the credential of an entry, which need not be stored. -/
  | create (family : Family) (entry : Entry)
  | newPatterns (index : Nat)
  | addPattern (index : Nat) (pattern : String) (credential : Credential)
  | askPatterns (index : Nat) (query : PatternList.Query)
  /-- Sets or replaces the credential of a provider for a scope. -/
  | provide (index : Nat) (scope : Scope) (credential : Credential)
  | clear (index : Nat)
  | askProvider (index : Nat) (query : Provider.Query)
  /-- Applies an authenticator to a provider. -/
  | apply (family : Family) (index : Nat) (provider : Nat) (target : Target)

namespace Call

/-- Carries a call out, or fails. -/
def perform (ws : Workspace) : Call → Except Failure (Workspace × Answer Entry Credential)
  | .store family place op =>
    match op.perform (ws.store family place) with
    | .ok (next, answer) => .ok (ws.setStore family place next, answer)
    | .error error => .error (.store error)
  | .askStore family place query => .ok (ws, query.answer (ws.store family place))
  | .authenticator family index op =>
    match op.step (ws.authenticators family index) with
    | .ok next => .ok (ws.setAuthenticator family index next, .done)
    | .error error => .error (.setup error)
  | .wrap family index place =>
    .ok (ws.setAuthenticator family index (.ofStore (ws.store family place)), .done)
  | .install family index list =>
    .ok (ws.setAuthenticator family index
      ((ws.authenticators family index).withFallback (.patterns (ws.patterns list))), .done)
  | .resolve family index target =>
    .ok (ws, .credential ((ws.authenticators family index).resolve target))
  | .fallBack family index target =>
    .ok (ws, .credential ((ws.authenticators family index).fallback.resolve target))
  | .create family entry => .ok (ws, .credential (entry.credential? family))
  | .newPatterns index => .ok (ws.setPatterns index .empty, .done)
  | .addPattern index pattern credential =>
    match (ws.patterns index).add pattern credential with
    | .ok next => .ok (ws.setPatterns index next, .done)
    | .error error => .error (.pattern error)
  | .askPatterns index query => .ok (ws, query.answer (ws.patterns index))
  | .provide index scope credential =>
    .ok (ws.setProvider index ((ws.providers index).set scope credential), .done)
  | .clear index => .ok (ws.setProvider index (ws.providers index).clear, .done)
  | .askProvider index query => .ok (ws, query.answer (ws.providers index))
  | .apply family index provider target =>
    let applied := (ws.authenticators family index).apply (ws.providers provider) target
    .ok (ws.setProvider provider applied.1, .truth applied.2)

/-- The workspace after a call; one that fails leaves it as it is. -/
def after (ws : Workspace) (call : Call) : Workspace :=
  match call.perform ws with
  | .ok (next, _) => next
  | .error _ => ws

/-- What a call gives back, or why it fails. -/
def outcome (ws : Workspace) (call : Call) : Except Failure (Answer Entry Credential) :=
  (call.perform ws).map (·.2)

end Call

/-- The workspace after a sequence of calls. -/
def run (ws : Workspace) (calls : List Call) : Workspace :=
  calls.foldl Call.after ws

/-- What the calls of a sequence give back, one after the other. -/
def outcomes (ws : Workspace) : List Call → List (Except Failure (Answer Entry Credential))
  | [] => []
  | call :: rest => call.outcome ws :: outcomes (call.after ws) rest

end Workspace

end ScopedAuth
