import ScopedAuth.Idna.Label
import ScopedAuth.Idna.Punycode
import ScopedAuth.Unicode.Normalization

/-!
# Host names in ASCII

Each host name that people write is brought to one form in ASCII: characters are mapped and
normalised, the name is cut into labels, and a label with characters outside ASCII is written in
Punycode behind the marker `xn--`.  A plain name is only lower-cased, which `toAscii?` decides
before it looks at any table.
-/

namespace ScopedAuth.Idna

open ScopedAuth.Unicode

/-- Whether a character may not occur in a host name: controls, the space, and what delimits the
parts of a URL. -/
def isForbidden (c : Char) : Bool :=
  c.toNat ≤ 0x20 || c.toNat = 0x7F || "%#/:<>?@[\\]^|".toList.contains c

/-- Whether all characters are in ASCII. -/
def isAscii (cs : List Char) : Bool :=
  cs.all (·.toNat < 128)

/-- What follows the marker of an encoded label. -/
def markedPart? : List Char → Option (List Char)
  | 'x' :: 'n' :: '-' :: '-' :: rest => some rest
  | _ => none

/-- The longest encoded part that is decoded. -/
def decodeLimit : Nat := 2000

/-- The longest label outside ASCII that is encoded. -/
def encodeLimit : Nat := 1000

/-- What a rule makes of a character. -/
def Rule.replacement? (c : Char) : Rule → Option (List Char)
  | .valid => some [c]
  | .ignored => some []
  | .disallowed => none
  | .mapped codes => some (codes.map Char.ofNat)

/-- What a character of a name is replaced by. -/
def mapped? (c : Char) : Option (List Char) :=
  (rule c).replacement? c

/-- Whether decoding a label gave one that encoding would have led to: not plain, made of characters
that stay as they are, and normalised. -/
def isCanonical (label : List Char) : Bool :=
  !isAscii label && label.all (rule · = .valid) && normalize label = label &&
    (markedPart? label).isNone

/-- The characters that a label of a mapped name stands for. -/
def readLabel? (label : List Char) : Option (List Char) :=
  match markedPart? label with
  | some part =>
    if part.length ≤ decodeLimit then
      (Punycode.decode? part).filter fun label => isCanonical label && labelAllowed label
    else none
  | none =>
    if isAscii label || label.length ≤ encodeLimit && labelAllowed label then some label else none

/-- The form of a label in ASCII. -/
def writeLabel (label : List Char) : List Char :=
  if isAscii label then label else 'x' :: 'n' :: '-' :: '-' :: Punycode.encode label

/-- Whether the labels of a name may stand side by side. -/
def directionsAllowed (labels : List (List Char)) : Bool :=
  !labels.any (·.any runsLeft) || labels.all fun label => bidiAllowed (label.map bidiClass)

/-- The form in ASCII of a name that is not plain. -/
def convert? (name : List Char) : Option (List Char) := do
  let text := normalize (← name.mapM mapped?).flatten
  if text.any isForbidden then none
  let labels ← (text.splitOn '.').mapM readLabel?
  if directionsAllowed labels then
    some (List.intercalate ['.'] (labels.map writeLabel))
  else none

/-- Whether a name needs no more than lower-casing: it is in ASCII and no label is marked as
encoded. -/
def isPlain (name : List Char) : Bool :=
  isAscii name && ((name.map Char.toLower).splitOn '.').all fun label => (markedPart? label).isNone

/-- The form of a host name in ASCII, if the name is allowed. -/
def toAscii? (name : List Char) : Option (List Char) :=
  if isPlain name then
    if name.any isForbidden then none else some (name.map Char.toLower)
  else convert? name

end ScopedAuth.Idna
