import ScopedAuth.Main
import ScopedAuth.Proofs.Cli.Document
import ScopedAuth.Proofs.Cli.Secrecy
import ScopedAuth.Proofs.Config.Login
import ScopedAuth.Proofs.Config.Order
import ScopedAuth.Proofs.Config.Validation
import ScopedAuth.Proofs.Credential.Header
import ScopedAuth.Proofs.Credential.Stability
import ScopedAuth.Proofs.Fallback.Subdomains
import ScopedAuth.Proofs.Path.Home
import ScopedAuth.Proofs.Redaction.Workspace
import ScopedAuth.Proofs.Target.Spelling
