/-!
# Maps from texts

Values by text, kept in ascending order of the texts, so that two maps with the same content are
equal.

Main statements: `get?_insert` says what is found after an insertion, `ext_get?` that maps in which
the same is found are equal.
-/

namespace ScopedAuth

/-- Values by text, in ascending order of the texts. -/
structure TextMap (α : Type) where
  entries : List (String × α)
  ascending : entries.Pairwise fun a b => a.1 < b.1

namespace TextMap

variable {α : Type}

/-- The map without entries. -/
def empty : TextMap α :=
  ⟨[], List.Pairwise.nil⟩

/-- The value for a text. -/
def get? (map : TextMap α) (text : String) : Option α :=
  map.entries.lookup text

/-- The texts, in ascending order. -/
def keys (map : TextMap α) : List String :=
  map.entries.map (·.1)

/-- How many entries there are. -/
def size (map : TextMap α) : Nat :=
  map.entries.length

/-- Puts a value into its place among entries, instead of one for the same text. -/
def place (text : String) (value : α) : List (String × α) → List (String × α)
  | [] => [(text, value)]
  | (key, old) :: rest =>
    if text = key then (text, value) :: rest
    else if text < key then (text, value) :: (key, old) :: rest
    else (key, old) :: place text value rest

/-- Of two texts that differ the one that is not less is greater. -/
theorem lt_of_not_lt {s t : String} (hne : s ≠ t) (hlt : ¬ s < t) : t < s := by
  rcases String.le_total t s with h | h
  · exact Std.lt_of_le_of_ne h hne.symm
  · exact absurd (String.le_antisymm h (String.not_lt.mp hlt)) hne

theorem mem_place {text : String} {value : α} {entries : List (String × α)} {item : String × α}
    (h : item ∈ place text value entries) : item = (text, value) ∨ item ∈ entries := by
  induction entries with
  | nil => exact Or.inl (List.mem_singleton.mp h)
  | cons first rest ih =>
    obtain ⟨key, old⟩ := first
    unfold place at h
    split at h
    · rcases List.mem_cons.mp h with h | h
      · exact Or.inl h
      · exact Or.inr (List.mem_cons_of_mem _ h)
    · split at h
      · exact List.mem_cons.mp h
      · rcases List.mem_cons.mp h with h | h
        · exact Or.inr (h ▸ List.mem_cons_self)
        · exact (ih h).imp id (List.mem_cons_of_mem _)

/-- An insertion keeps the order. -/
theorem pairwise_place (text : String) (value : α) {entries : List (String × α)}
    (h : entries.Pairwise fun a b => a.1 < b.1) :
    (place text value entries).Pairwise fun a b => a.1 < b.1 := by
  induction entries with
  | nil => exact List.pairwise_singleton _ _
  | cons first rest ih =>
    obtain ⟨key, old⟩ := first
    obtain ⟨hfirst, hrest⟩ := List.pairwise_cons.mp h
    unfold place
    split
    · next heq => exact List.pairwise_cons.mpr ⟨fun b hb => heq ▸ hfirst b hb, hrest⟩
    · next hne =>
      split
      · next hlt =>
        refine List.pairwise_cons.mpr ⟨fun b hb => ?_, h⟩
        rcases List.mem_cons.mp hb with hb | hb
        · exact hb ▸ hlt
        · exact String.lt_trans hlt (hfirst b hb)
      · next hlt =>
        refine List.pairwise_cons.mpr ⟨fun b hb => ?_, ih hrest⟩
        rcases mem_place hb with hb | hb
        · exact hb ▸ lt_of_not_lt hne hlt
        · exact hfirst b hb

/-- Adds a value for a text, or replaces the one that is there. -/
def insert (map : TextMap α) (text : String) (value : α) : TextMap α :=
  ⟨place text value map.entries, pairwise_place text value map.ascending⟩

@[simp] theorem get?_empty (text : String) : (empty : TextMap α).get? text = none := rfl

theorem lookup_cons (key text : String) (value : α) (rest : List (String × α)) :
    ((key, value) :: rest).lookup text = if text = key then some value else rest.lookup text := by
  rw [List.lookup_cons]
  by_cases h : text = key
  · rw [beq_iff_eq.mpr h, if_pos h]
  · rw [beq_false_of_ne h, if_neg h]

theorem lookup_place (text other : String) (value : α) (entries : List (String × α)) :
    (place text value entries).lookup other =
      if other = text then some value else entries.lookup other := by
  induction entries with
  | nil => exact lookup_cons text other value []
  | cons first rest ih =>
    obtain ⟨key, old⟩ := first
    unfold place
    split
    · next heq =>
      subst heq
      by_cases h : other = text <;> simp only [lookup_cons, h, if_true, if_false]
    · next hne =>
      split
      · rw [lookup_cons]
      · by_cases h : other = key
        · subst h
          simp only [lookup_cons, if_true, if_neg (Ne.symm hne)]
        · simp only [lookup_cons, if_neg h, ih]

/-- After an insertion the new value is found under its text, and all else as before. -/
theorem get?_insert (map : TextMap α) (text other : String) (value : α) :
    (map.insert text value).get? other = if other = text then some value else map.get? other :=
  lookup_place text other value map.entries

/-- A text before all others is not found. -/
theorem lookup_eq_none_of_lt {text : String} {entries : List (String × α)}
    (h : ∀ item ∈ entries, text < item.1) : entries.lookup text = none := by
  induction entries with
  | nil => rfl
  | cons first rest ih =>
    obtain ⟨key, value⟩ := first
    have hkey : text < key := h (key, value) List.mem_cons_self
    rw [lookup_cons, if_neg fun heq : text = key => String.lt_irrefl key (heq ▸ hkey)]
    exact ih fun item hitem => h item (List.mem_cons_of_mem _ hitem)

theorem not_lt_of_lookup_eq {key key' : String} {value value' : α} {rest rest' : List (String × α)}
    (hbelow : ∀ item ∈ rest', key' < item.1)
    (h : ((key, value) :: rest).lookup key = ((key', value') :: rest').lookup key) :
    ¬ key < key' := by
  intro hlt
  have hnone : ((key', value') :: rest').lookup key = none := by
    refine lookup_eq_none_of_lt fun item hitem => ?_
    rcases List.mem_cons.mp hitem with hitem | hitem
    · exact hitem ▸ hlt
    · exact String.lt_trans hlt (hbelow item hitem)
  rw [hnone, lookup_cons, if_pos rfl] at h
  exact Option.some_ne_none _ h

/-- Entries in ascending order are fixed by what is found in them. -/
theorem eq_of_lookup_eq {one other : List (String × α)}
    (hone : one.Pairwise fun a b => a.1 < b.1) (hother : other.Pairwise fun a b => a.1 < b.1)
    (h : ∀ text, one.lookup text = other.lookup text) : one = other := by
  induction one generalizing other with
  | nil =>
    cases other with
    | nil => rfl
    | cons first rest =>
      have hfirst := h first.1
      rw [lookup_cons, if_pos rfl] at hfirst
      exact absurd hfirst.symm (Option.some_ne_none _)
  | cons first rest ih =>
    obtain ⟨key, value⟩ := first
    cases other with
    | nil =>
      have hfirst := h key
      rw [lookup_cons, if_pos rfl] at hfirst
      exact absurd hfirst (Option.some_ne_none _)
    | cons first' rest' =>
      obtain ⟨key', value'⟩ := first'
      obtain ⟨hbelow, hrest⟩ := List.pairwise_cons.mp hone
      obtain ⟨hbelow', hrest'⟩ := List.pairwise_cons.mp hother
      have hkey : key = key' := by
        by_cases heq : key = key'
        · exact heq
        · have hlt := lt_of_not_lt heq (not_lt_of_lookup_eq hbelow' (h key))
          exact absurd hlt (not_lt_of_lookup_eq hbelow (h key').symm)
      subst hkey
      have hvalue := h key
      rw [lookup_cons, if_pos rfl, lookup_cons, if_pos rfl] at hvalue
      have htail : rest = rest' := by
        refine ih hrest hrest' fun text => ?_
        have htext := h text
        rw [lookup_cons, lookup_cons] at htext
        by_cases heq : text = key
        · rw [heq, lookup_eq_none_of_lt hbelow, lookup_eq_none_of_lt hbelow']
        · rwa [if_neg heq, if_neg heq] at htext
      rw [htail, Option.some.inj hvalue]

/-- Maps in which the same is found are equal. -/
theorem ext_get? {one other : TextMap α} (h : ∀ text, one.get? text = other.get? text) :
    one = other := by
  cases one with
  | mk entries ascending =>
    cases other with
    | mk entries' ascending' =>
      have heq : entries = entries' := eq_of_lookup_eq ascending ascending' h
      subst heq
      rfl

end TextMap

end ScopedAuth
