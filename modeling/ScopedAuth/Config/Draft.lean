import ScopedAuth.Toml.Document

/-!
# Drafts

What a configuration file says, before it is asked whether that makes sense.  A value of the wrong
kind makes the whole file unreadable; keys that mean nothing are passed over, whatever their values.
-/

namespace ScopedAuth

open Toml (Entries Value)

/-- How to log. -/
structure LoggingDraft where
  level : Option String
  format : Option String
  deriving DecidableEq

/-- Who to log in as. -/
structure LoginDraft where
  scheme : Option String
  username : Option String
  password : Option String
  passwordVariable : Option String
  workstation : Option String
  domain : Option String
  deriving DecidableEq

/-- A target with its login. -/
structure CredentialDraft where
  target : String
  disabled : Bool
  login : LoginDraft
  deriving DecidableEq

/-- A pattern with its login. -/
structure PatternDraft where
  pattern : String
  login : LoginDraft
  deriving DecidableEq

/-- What to do about the other targets. -/
structure FallbackDraft where
  kind : Option String
  login : LoginDraft
  patterns : List PatternDraft
  deriving DecidableEq

/-- A whole configuration. -/
structure ConfigDraft where
  logging : LoggingDraft
  credentials : List CredentialDraft
  fallback : FallbackDraft
  deriving DecidableEq

/-! ### Reading drafts

The readers give `none` where a value is of the wrong kind. -/

namespace Draft

/-- The text under a key that need not be there. -/
def text? (entries : Entries) (key : String) : Option (Option String) :=
  match entries.lookup key with
  | none => some none
  | some (.string text) => some (some text)
  | some _ => none

/-- The texts or other items under a key that need not be there. -/
def list? {α : Type} (item : Value → Option α) (entries : Entries) (key : String) :
    Option (List α) :=
  match entries.lookup key with
  | none => some []
  | some (.array _ elements) => elements.mapM item
  | some _ => none

/-- Reads a login among other entries. -/
def login? (entries : Entries) : Option LoginDraft := do
  return ⟨← text? entries "scheme", ← text? entries "username", ← text? entries "password",
    ← text? entries "password_env", ← text? entries "workstation", ← text? entries "domain"⟩

/-- Reads a target with its login. -/
def credential? : Value → Option CredentialDraft
  | .table _ entries => do
    let disabled ← match entries.lookup "disabled" with
      | none => some false
      | some (.boolean value) => some value
      | some _ => none
    return ⟨← (← text? entries "target"), disabled, ← login? entries⟩
  | _ => none

/-- Reads a pattern with its login. -/
def pattern? : Value → Option PatternDraft
  | .table _ entries => do return ⟨← (← text? entries "pattern"), ← login? entries⟩
  | _ => none

/-- Reads how to log: a table, or the level and the format in an array.  A date says nothing, and
says nothing wrong either. -/
def logging? : Option Value → Option LoggingDraft
  | none | some .moment => some ⟨none, none⟩
  | some (.table _ entries) => do return ⟨← text? entries "level", ← text? entries "format"⟩
  | some (.array _ (.string level :: .string format :: _)) => some ⟨some level, some format⟩
  | some _ => none

/-- Reads what to do about the other targets.  A date says nothing here either. -/
def fallback? : Option Value → Option FallbackDraft
  | none | some .moment => do return ⟨none, ← login? [], []⟩
  | some (.table _ entries) =>
    do return ⟨← text? entries "kind", ← login? entries, ← list? pattern? entries "patterns"⟩
  | some _ => none

/-- Reads a configuration from the entries of a document. -/
def config? (entries : Entries) : Option ConfigDraft := do
  return ⟨← logging? (entries.lookup "logging"), ← list? credential? entries "credentials",
    ← fallback? (entries.lookup "fallback")⟩

end Draft

end ScopedAuth
