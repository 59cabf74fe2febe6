import Mathlib.Data.List.TakeWhile
import ScopedAuth.Credential
import ScopedAuth.Proofs.Text.Base64

/-!
# The header of Basic can be undone

The header of a user and a password is the Base64 of the two with a colon in between.  Since the
first colon is the one that was put there, as long as the user name has none, both can be read off
again (`BasicCredential.ofAuthorization?`), and the headers of different credentials differ
(`BasicCredential.authorization_eq_iff`).  The password may have as many colons as it likes.
-/

namespace ScopedAuth

/-- The parts of a text in front of and behind the first occurrence of a separator. -/
def Text.cut? (separator : Char) (text : List Char) : Option (List Char × List Char) :=
  match text.dropWhile (· != separator) with
  | [] => none
  | _ :: behind => some (text.takeWhile (· != separator), behind)

/-- A separator cuts a text where it comes for the first time. -/
lemma Text.cut?_append {separator : Char} {front : List Char} (hfront : separator ∉ front)
    (behind : List Char) :
    cut? separator (front ++ separator :: behind) = some (front, behind) := by
  have hall : ∀ c ∈ front, (c != separator) = true := by
    intro c hc
    rw [bne_iff_ne]
    rintro rfl
    exact hfront hc
  have hstop : (separator != separator) = false := bne_self_eq_false separator
  rw [cut?, List.dropWhile_append_of_pos hall, List.takeWhile_append_of_pos hall,
    List.dropWhile_cons, List.takeWhile_cons, hstop]
  simp only [Bool.false_eq_true, if_false, List.append_nil]

/-- A text can be read from its UTF-8. -/
lemma Text.fromUTF8?_toUTF8 (text : String) : String.fromUTF8? text.toUTF8 = some text := by
  rw [String.fromUTF8?, String.toUTF8_eq_toByteArray, dif_pos text.isValidUTF8]
  rfl

namespace BasicCredential

/-- Reads a credential from the header that answers a Basic challenge with it. -/
def ofAuthorization? (header : Secret) : Option BasicCredential := do
  let encoded ← if header.text.toList.take 6 = "Basic ".toList
    then some (header.text.toList.drop 6) else none
  let text ← String.fromUTF8? (← Text.Base64.decode? encoded).toByteArray
  let (username, password) ← Text.cut? ':' text.toList
  return ⟨String.ofList username, ⟨String.ofList password⟩⟩

/-- The text that a header is the Base64 of. -/
def pair (credential : BasicCredential) : String :=
  credential.username ++ ":" ++ credential.password.text

/-- The pair of a user and a password is cut between them. -/
lemma cut?_pair {credential : BasicCredential} (h : ':' ∉ credential.username.toList) :
    Text.cut? ':' credential.pair.toList =
      some (credential.username.toList, credential.password.text.toList) := by
  have hpair : credential.pair.toList =
      credential.username.toList ++ ':' :: credential.password.text.toList := by
    rw [pair, String.toList_append, String.toList_append, List.append_assoc]
    rfl
  rw [hpair, Text.cut?_append h]

/-- A header with the Base64 of a text is read as the credential that the text is cut into. -/
lemma ofAuthorization?_basic (text : String) :
    ofAuthorization? ⟨"Basic " ++ Text.Base64.encodeText text⟩ =
      (Text.cut? ':' text.toList).map fun parts =>
        ⟨String.ofList parts.1, ⟨String.ofList parts.2⟩⟩ := by
  have hheader : ("Basic " ++ Text.Base64.encodeText text).toList =
      "Basic ".toList ++ (Text.Base64.encodeText text).toList := String.toList_append
  have htake : ("Basic ".toList ++ (Text.Base64.encodeText text).toList).take 6 =
      "Basic ".toList := rfl
  have hdrop : ("Basic ".toList ++ (Text.Base64.encodeText text).toList).drop 6 =
      (Text.Base64.encodeText text).toList := rfl
  have hbytes : text.toUTF8.data.toList.toByteArray = text.toUTF8 := by
    refine ByteArray.ext ?_
    rw [List.data_toByteArray, Array.toArray_toList]
  rw [ofAuthorization?, hheader, htake, hdrop, if_pos rfl]
  simp only [Option.bind_eq_bind, Option.bind_some, Text.Base64.decode?_encodeText, hbytes,
    Text.fromUTF8?_toUTF8]
  cases Text.cut? ':' text.toList with
  | none => rfl
  | some parts => rfl

/-- A credential whose user name has no colon can be read from its header. -/
lemma ofAuthorization?_authorization {credential : BasicCredential}
    (h : ':' ∉ credential.username.toList) :
    ofAuthorization? credential.authorization = some credential := by
  change ofAuthorization? ⟨"Basic " ++ Text.Base64.encodeText credential.pair⟩ = some credential
  rw [ofAuthorization?_basic, cut?_pair h, Option.map_some, String.ofList_toList,
    String.ofList_toList]

/-- The header of a user whose name has no colon, and of any password, holds padded Base64, which is
decoded to the UTF-8 of the two with a colon in between.  Cutting this at its first colon gives both
back, so that two such headers are equal only if user and password are. -/
theorem authorization_eq_iff (credential : BasicCredential)
    (husername : ':' ∉ credential.username.toList) :
    (∃ encoded : String, credential.authorization.text = "Basic " ++ encoded ∧
      Text.Base64.IsPadded encoded.toList ∧
      Text.Base64.decode? encoded.toList = some
        (credential.username ++ ":" ++ credential.password.text).toUTF8.data.toList) ∧
    Text.cut? ':' (credential.username ++ ":" ++ credential.password.text).toList =
      some (credential.username.toList, credential.password.text.toList) ∧
    ofAuthorization? credential.authorization = some credential ∧
    ∀ other : BasicCredential, ':' ∉ other.username.toList →
      (credential.authorization = other.authorization ↔
        credential.username = other.username ∧ credential.password = other.password) := by
  have hread := ofAuthorization?_authorization husername
  refine ⟨⟨Text.Base64.encodeText credential.pair, rfl, Text.Base64.isPadded_encodeText _,
    Text.Base64.decode?_encodeText _⟩, cut?_pair husername, hread, fun other hother => ?_⟩
  constructor
  · intro h
    rw [h, ofAuthorization?_authorization hother] at hread
    rw [Option.some.inj hread]
    exact ⟨rfl, rfl⟩
  · rintro ⟨hname, hpassword⟩
    rw [authorization, authorization, hname, hpassword]

/-- Letters outside ASCII, and a password that begins with a colon: the header is that of no other
user, although the same letters and colons could be divided otherwise. -/
theorem authorization_eq_iff_jose :
    ':' ∉ "José".toList ∧
    ofAuthorization? (authorization ⟨"José", ⟨":s:"⟩⟩) = some ⟨"José", ⟨":s:"⟩⟩ ∧
    ':' ∉ "".toList ∧
    authorization ⟨"José", ⟨":s:"⟩⟩ ≠ authorization ⟨"", ⟨"José::s:"⟩⟩ := by
  have husername : ':' ∉ "José".toList := by decide
  have hempty : ':' ∉ "".toList := by decide
  obtain ⟨-, -, hread, hiff⟩ := authorization_eq_iff ⟨"José", ⟨":s:"⟩⟩ husername
  refine ⟨husername, hread, hempty, ?_⟩
  rw [ne_eq, hiff _ hempty]
  decide

end BasicCredential

end ScopedAuth
