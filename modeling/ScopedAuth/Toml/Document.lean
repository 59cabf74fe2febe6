import ScopedAuth.Toml.Moment
import ScopedAuth.Toml.Text
import ScopedAuth.Toml.Value

/-!
# Documents

A document consists of assignments, then of sections: a header, which names a table or a further
element of an array of tables, and assignments to it.
-/

namespace ScopedAuth.Toml

/-- A value for a dotted key. -/
structure Assignment where
  key : List String
  value : Value

/-- What the assignments of a section belong to. -/
inductive Header where
  | table (key : List String)
  | element (key : List String)

/-- A header with the assignments behind it. -/
structure Section where
  header : Header
  body : List Assignment

namespace Reader

/-- Keys have fewer parts than this, and values nest less deeply. -/
def depthLimit : Nat :=
  80

/-- Takes a part of a key. -/
def simpleKey : Reader String :=
  quoted <|> literal <|> String.ofList <$> run1 fun c => c.isAlphanum || c = '_' || c = '-'

/-- Takes a key of parts between dots. -/
def key : Reader (List String) := do
  let parts ← separated (char '.') (spaces *> simpleKey <* spaces)
  if parts.length < depthLimit then return parts else failure

/-- Takes a key, an equals sign and a value. -/
def assignment (value : Reader Value) : Reader Assignment := do
  let key ← key
  char '='
  spaces
  return ⟨key, ← value⟩

/-- Takes an array, whose elements may stand on lines of their own. -/
def array (value : Reader Value) : Reader Value := do
  char '['
  let elements ← (do
    let elements ← separated (char ',') (gap *> value <* gap)
    let _ ← optional (char ',')
    return elements) <|> pure []
  gap
  char ']'
  return .array .inline elements

/-- Takes a table between braces. -/
def table (value : Reader Value) : Reader Value := do
  char '{'
  let assignments ← separated (char ',') (assignment value <* spaces) <|> pure []
  spaces
  char '}'
  match assignments.foldlM (fun entries a => assign a.value true a.key entries) [] with
  | some entries => return .table .inline entries
  | none => failure

/-- Takes a value that holds no others. -/
def scalar : Reader Value :=
  Value.string <$> string <|> word "true" *> pure (.boolean true)
    <|> word "false" *> pure (.boolean false) <|> moment *> pure .moment <|> float *> pure .float
    <|> Value.integer <$> integer

/-- Takes a value in which arrays and tables nest no deeper than given. -/
def value : Nat → Reader Value
  | 0 => scalar
  | depth + 1 => array (value depth) <|> table (value depth) <|> scalar

/-- Takes the line ends, comments and assignments up to the next header or the end. -/
def body : Reader (List Assignment) := do
  spaces
  let lines ← many ((newline *> pure none <|> comment *> lineEnd *> pure none
    <|> some <$> assignment (value (depthLimit - 1)) <* restOfLine) <* spaces)
  return lines.filterMap id

/-- Takes a header. -/
def header : Reader Header :=
  (do
    word "[["
    let key ← key
    word "]]"
    return .element key)
  <|> (do
    char '['
    let key ← key
    char ']'
    return .table key)

/-- Takes a section. -/
def headed : Reader Section := do
  let header ← header
  restOfLine
  return ⟨header, ← body⟩

/-- Takes a whole document, which a byte order mark may precede. -/
def document : Reader (List Assignment × List Section) := do
  let _ ← optional (char '\uFEFF')
  let root ← body
  let sections ← many headed
  done
  return (root, sections)

end Reader

/-- Adds assignments to a table that takes values. -/
def assignAll (body : List Assignment) (entries : Entries) : Option Entries :=
  body.foldlM (fun entries a => assign a.value true a.key entries) entries

/-- Adds a section to a document.  A table that a longer header has implied may still be opened,
once; every other table and every value is there only once. -/
def addSection (root : Entries) (s : Section) : Option Entries :=
  match s.header with
  | .table key =>
    atHeader (fun
      | none => .table .header <$> assignAll s.body []
      | some (.table .implied entries) => .table .header <$> assignAll s.body entries
      | some _ => none) key root
  | .element key =>
    atHeader (fun
      | none => do return .array .header [.table .header (← assignAll s.body [])]
      | some (.array .header elements) =>
        do return .array .header (elements ++ [.table .header (← assignAll s.body [])])
      | some _ => none) key root

/-- The entries of a document, unless its text breaks the rules. -/
def read? (text : String) : Option Entries := do
  let ((root, sections), _) ← Reader.document text.toList
  sections.foldlM addSection (← assignAll root [])

end ScopedAuth.Toml
