import Mathlib.Data.List.Forall2
import ScopedAuth.Cli.Run
import ScopedAuth.Proofs.Json.RoundTrip

/-!
# What a listing prints

Every format shows the same rows, in the same order (`isListing_printed_listing`).  In a table each
row has a line, with the target and the scheme in columns of their own (`IsTableLine`).  As JSON
each row has an object in an array, which can be read from the output as from any document
(`IsDocument`).  Where there is nothing to list, the output says so in words whatever the format is,
and no document is read from it (`not_isDocument_notice`).
-/

namespace ScopedAuth.Cli

/-! ### Tables -/

/-- A text stands in a column: blanks fill the column up, and a text that is wider is not cut. -/
def InColumn (width : Nat) (text cell : String) : Prop :=
  ∃ blanks, cell = text ++ String.ofList (List.replicate blanks ' ') ∧
    cell.length = max width text.length

/-- A line shows a target and a scheme in columns of fifty and of eight characters, and behind them
a user name. -/
def IsTableLine (target scheme username line : String) : Prop :=
  ∃ first second, InColumn 50 target first ∧ InColumn 8 scheme second ∧
    line = first ++ " " ++ second ++ " " ++ username

/-- A text that is filled up stands in its column. -/
lemma inColumn_padded (width : Nat) (text : String) : InColumn width text (padded width text) := by
  refine ⟨width - text.length, rfl, ?_⟩
  rw [padded, String.length_append, String.length_ofList, List.length_replicate]
  omega

/-- The lines of a table have columns. -/
lemma isTableLine_tableLine (target scheme username : String) :
    IsTableLine target scheme username (tableLine target scheme username) :=
  ⟨_, _, inColumn_padded 50 target, inColumn_padded 8 scheme, rfl⟩

/-! ### Documents -/

/-- An output is a JSON document and the end of its line. -/
def IsDocument (output : String) (document : Json) : Prop :=
  ∃ text, output = text ++ "\n" ∧ Json.read? text = some document

/-- The object for a login of a family. -/
def listed (family : Family) (login : String × String) : Json :=
  .object [("target", .string login.1), ("scheme", .string family.name),
    ("username", .string login.2)]

/-- The object of a login has no number. -/
lemma valid_listed (family : Family) (login : String × String) : (listed family login).Valid := by
  refine .object fun entry hentry => ?_
  simp only [List.mem_cons, List.not_mem_nil, or_false] at hentry
  rcases hentry with rfl | rfl | rfl <;> exact .string _

/-- What is read from a line is read from the text in front of its end. -/
lemma isDocument_line_iff {text : String} {document : Json} :
    IsDocument (text ++ "\n") document ↔ Json.read? text = some document := by
  constructor
  · rintro ⟨other, hsame, hread⟩
    rwa [(String.append_left_inj _).mp hsame]
  · exact fun hread => ⟨text, rfl, hread⟩

/-- One line as it is printed. -/
lemma printed_singleton (line : String) : printed [line] = line ++ "\n" := by
  change "" ++ (line ++ "\n") = line ++ "\n"
  rw [String.empty_append]

/-- From the listing of some rows their objects are read. -/
lemma isDocument_listing_iff {rows : List Row} {objects : List Json} (hrows : rows ≠ [])
    (hobjects : rows.map Row.json = objects) (hvalid : ∀ object ∈ objects, object.Valid)
    (document : Json) :
    IsDocument (printed (listing "json" rows)) document ↔ document = .array objects := by
  have hread := Json.read?_pretty (.array hvalid)
  rw [listing, if_neg (by simpa using hrows), if_pos rfl, hobjects, printed_singleton,
    isDocument_line_iff, hread, Option.some.injEq, eq_comm]

/-- The sentence that stands for an empty listing is no document. -/
lemma not_isDocument_notice (document : Json) :
    ¬ IsDocument "No scoped credentials configured\n" document := by
  have hread : Json.read? "No scoped credentials configured" = none := rfl
  have hline : "No scoped credentials configured\n" =
      "No scoped credentials configured" ++ "\n" := rfl
  rw [hline, isDocument_line_iff, hread]
  exact nofun

/-! ### Listings -/

/-- An output lists rows in a format: each row is shown with its user name, by an object of a JSON
document or by a line of a table below its head. -/
inductive IsListing : String → List Row → String → Prop
  | empty (format : String) : IsListing format [] "No scoped credentials configured\n"
  | document {rows : List Row} {objects : List Json} {output : String} (hrows : rows ≠ [])
    (hobjects : List.Forall₂ (fun row object => ∃ username, row.username = some username ∧
      object = listed row.family (row.target, username)) rows objects)
    (houtput : ∀ document, IsDocument output document ↔ document = .array objects) :
    IsListing "json" rows output
  | table {format head : String} {rows : List Row} {lines : List String}
    (hformat : format ≠ "json") (hrows : rows ≠ [])
    (hhead : IsTableLine "TARGET" "SCHEME" "USERNAME" head)
    (hlines : List.Forall₂ (fun row line => ∃ username, row.username = some username ∧
      IsTableLine row.target row.family.name username line) rows lines) :
    IsListing format rows (printed (head :: String.ofList (List.replicate 72 '-') :: lines))

/-- The object of a row with a user name is that of a login. -/
lemma Row.json_eq {row : Row} {username : String} (h : row.username = some username) :
    row.json = listed row.family (row.target, username) := by
  rw [json, h]
  rfl

section Rows

variable {rows : List Row} (hnamed : ∀ row ∈ rows, ∃ username, row.username = some username)

include hnamed

/-- The objects of rows with user names show these. -/
lemma forall₂_map_json : List.Forall₂ (fun row object => ∃ username,
    row.username = some username ∧ object = listed row.family (row.target, username))
      rows (rows.map Row.json) := by
  rw [List.forall₂_map_right_iff, List.forall₂_same]
  intro row hrow
  obtain ⟨username, husername⟩ := hnamed row hrow
  exact ⟨username, husername, Row.json_eq husername⟩

/-- The lines of rows with user names show these. -/
lemma forall₂_map_tableLine : List.Forall₂ (fun row line => ∃ username,
    row.username = some username ∧ IsTableLine row.target row.family.name username line)
      rows (rows.map fun row => tableLine row.target row.family.name (row.username.getD "-")) := by
  rw [List.forall₂_map_right_iff, List.forall₂_same]
  intro row hrow
  obtain ⟨username, husername⟩ := hnamed row hrow
  refine ⟨username, husername, ?_⟩
  rw [husername]
  exact isTableLine_tableLine _ _ username

/-- The objects of rows with user names have no number. -/
lemma valid_of_mem_map_json {object : Json} (h : object ∈ rows.map Row.json) : object.Valid := by
  obtain ⟨row, hrow, rfl⟩ := List.mem_map.mp h
  obtain ⟨username, husername⟩ := hnamed row hrow
  rw [Row.json_eq husername]
  exact valid_listed row.family (row.target, username)

/-- What is printed for rows with user names lists them, in every format. -/
lemma isListing_printed_listing (format : String) :
    IsListing format rows (printed (listing format rows)) := by
  by_cases hrows : rows = []
  · subst hrows
    exact .empty format
  by_cases hformat : format = "json"
  · subst hformat
    exact .document hrows (forall₂_map_json hnamed)
      (isDocument_listing_iff hrows rfl fun _ => valid_of_mem_map_json hnamed)
  · have hlisting : listing format rows = table rows := by
      rw [listing, if_neg (by simpa using hrows), if_neg hformat]
    rw [hlisting]
    exact .table hformat hrows (isTableLine_tableLine _ _ _) (forall₂_map_tableLine hnamed)

end Rows

end ScopedAuth.Cli
