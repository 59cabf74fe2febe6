import Mathlib.Data.List.Dedup
import ScopedAuth.TextMap

/-!
# Logs of writes

What a sequence of writes under texts leaves behind can be said without a map: under each text
stands what was written there last.  A log lists the writes, the oldest first, and `last?` reads off
what counts.

A map *follows* a log if under every text it holds what the log says.  `Follows` fixes all that can
be observed of a map: its keys are the texts of the log in ascending order (`mem_keys_of_follows`,
`pairwise_keys`), and there are as many as the log has different texts (`size_of_follows`).
-/

namespace ScopedAuth

/-- Something is found under the keys of a list of entries, and only there. -/
lemma TextMap.isSome_lookup_iff {α : Type} (entries : List (String × α)) (text : String) :
    (entries.lookup text).isSome = true ↔ text ∈ entries.map (·.1) := by
  rw [List.lookup_isSome_iff, List.mem_map]
  constructor
  · rintro ⟨entry, hmem, hkey⟩
    exact ⟨entry, hmem, (beq_iff_eq.mp hkey).symm⟩
  · rintro ⟨entry, hmem, hkey⟩
    exact ⟨entry, hmem, beq_iff_eq.mpr hkey.symm⟩

/-- What is found under a text is an entry. -/
lemma TextMap.mem_of_lookup_eq_some {α : Type} {entries : List (String × α)} {text : String}
    {value : α} (h : entries.lookup text = some value) : (text, value) ∈ entries := by
  obtain ⟨before, after, hsplit, -⟩ := List.lookup_eq_some_iff.mp h
  rw [hsplit]
  exact List.mem_append_right before List.mem_cons_self

/-- Where no key occurs twice, every entry is found. -/
lemma TextMap.lookup_eq_some_of_mem {α : Type} {entries : List (String × α)}
    (hnodup : (entries.map (·.1)).Nodup) {text : String} {value : α}
    (h : (text, value) ∈ entries) : entries.lookup text = some value := by
  have hmem : text ∈ entries.map (·.1) := List.mem_map.mpr ⟨(text, value), h, rfl⟩
  obtain ⟨other, hother⟩ := Option.isSome_iff_exists.mp ((isSome_lookup_iff entries text).mpr hmem)
  have hsame : (text, other) = (text, value) :=
    List.inj_on_of_nodup_map hnodup (mem_of_lookup_eq_some hother) h rfl
  rw [hother, (Prod.mk.inj hsame).2]

/-- Writes under texts, the oldest first. -/
abbrev WriteLog (α : Type) := List (String × α)

namespace WriteLog

variable {α : Type}

/-- What was written last under a text. -/
def last? (log : WriteLog α) (text : String) : Option α :=
  log.reverse.lookup text

/-- The texts that something was written under. -/
def texts (log : WriteLog α) : List String :=
  log.map (·.1)

/-- A log of one write holds that write under its text and nothing elsewhere. -/
lemma last?_singleton (text other : String) (value : α) :
    WriteLog.last? [(text, value)] other = if other = text then some value else none :=
  TextMap.lookup_cons text other value []

/-- The later of two logs decides wherever it has a write. -/
lemma last?_append (log later : WriteLog α) (text : String) :
    (log ++ later).last? text = (later.last? text).or (log.last? text) := by
  rw [last?, last?, last?, List.reverse_append, List.lookup_append]

/-- Something counts under a text exactly if something was written there. -/
lemma isSome_last?_iff (log : WriteLog α) (text : String) :
    (log.last? text).isSome = true ↔ text ∈ log.texts := by
  rw [last?, TextMap.isSome_lookup_iff, List.map_reverse, List.mem_reverse, texts]

/-- What counts under a text is one of the writes under it. -/
lemma mem_of_last?_eq_some {log : WriteLog α} {text : String} {value : α}
    (h : log.last? text = some value) : (text, value) ∈ log :=
  List.mem_reverse.mp (TextMap.mem_of_lookup_eq_some h)

/-- Where no text is written under twice, every write counts. -/
lemma last?_eq_some_of_mem {log : WriteLog α} (hnodup : log.texts.Nodup) {text : String} {value : α}
    (h : (text, value) ∈ log) : log.last? text = some value := by
  refine TextMap.lookup_eq_some_of_mem ?_ (List.mem_reverse.mpr h)
  rw [List.map_reverse]
  exact List.nodup_reverse.mpr hnodup

end WriteLog

namespace TextMap

variable {α β : Type}

/-- The keys of a map are in ascending order. -/
lemma pairwise_keys (map : TextMap α) : map.keys.Pairwise (· < ·) :=
  List.pairwise_map.mpr map.ascending

/-- No key occurs twice. -/
lemma nodup_keys (map : TextMap α) : map.keys.Nodup := by
  refine map.pairwise_keys.imp ?_
  rintro key other hlt rfl
  exact String.lt_irrefl key hlt

/-- There are as many keys as entries. -/
lemma length_keys (map : TextMap α) : map.keys.length = map.size :=
  List.length_map _

/-- A text is a key exactly if something is found under it. -/
lemma mem_keys_iff (map : TextMap α) (text : String) :
    text ∈ map.keys ↔ (map.get? text).isSome = true :=
  (isSome_lookup_iff map.entries text).symm

/-- What is found under the key of an entry is its value. -/
lemma get?_eq_some_of_mem {map : TextMap α} {text : String} {value : α}
    (h : (text, value) ∈ map.entries) : map.get? text = some value :=
  lookup_eq_some_of_mem map.nodup_keys h

/-- A map, seen through `view`, holds under every text what a log says. -/
def Follows (view : α → β) (map : TextMap α) (log : WriteLog β) : Prop :=
  ∀ text, (map.get? text).map view = log.last? text

/-- The empty map follows the empty log. -/
lemma follows_empty (view : α → β) : Follows view empty [] :=
  fun _ => rfl

variable {view : α → β} {map : TextMap α} {log : WriteLog β}

/-- An insertion is one more write. -/
lemma Follows.insert (h : Follows view map log) (text : String) (value : α) :
    Follows view (map.insert text value) (log ++ [(text, view value)]) := by
  intro other
  rw [get?_insert, WriteLog.last?_append, WriteLog.last?_singleton, ← h other]
  by_cases heq : other = text
  · rw [if_pos heq, if_pos heq]
    rfl
  · rw [if_neg heq, if_neg heq]
    rfl

/-- The keys of a map are the texts of the log that it follows. -/
lemma mem_keys_of_follows (h : Follows view map log) (text : String) :
    text ∈ map.keys ↔ text ∈ log.texts := by
  rw [mem_keys_iff, ← WriteLog.isSome_last?_iff, ← h text, Option.isSome_map]

/-- A map has as many entries as the log that it follows has different texts. -/
lemma size_of_follows (h : Follows view map log) : map.size = log.texts.dedup.length := by
  have hperm : map.keys.Perm log.texts.dedup := by
    refine (List.perm_ext_iff_of_nodup map.nodup_keys (List.nodup_dedup _)).mpr fun text => ?_
    rw [List.mem_dedup]
    exact mem_keys_of_follows h text
  rw [← length_keys, hperm.length_eq]

end TextMap

end ScopedAuth
