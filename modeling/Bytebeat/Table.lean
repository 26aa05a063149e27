import Bytebeat.Text.Basic

namespace Bytebeat

structure Table (α : Type) where
  entries : List (Text × α) := []
  distinct : (entries.map Prod.fst).Nodup := by simp

namespace Table

variable {α : Type}

def empty : Table α := {}

instance : Inhabited (Table α) := ⟨empty⟩

def names (t : Table α) : List Text := t.entries.map Prod.fst

def get? (t : Table α) (name : Text) : Option α := t.entries.lookup name

def contains (t : Table α) (name : Text) : Bool := (t.get? name).isSome

def replace (name : Text) (value : α) (entries : List (Text × α)) : List (Text × α) :=
  entries.map fun entry => if entry.1 = name then (entry.1, value) else entry

theorem names_replace (name : Text) (value : α) (entries : List (Text × α)) :
    (replace name value entries).map Prod.fst = entries.map Prod.fst := by
  simp only [replace, List.map_map]
  apply List.map_congr_left
  intro entry _
  by_cases h : entry.1 = name <;> simp [h]

theorem lookup_eq_none_iff {entries : List (Text × α)} {name : Text} :
    entries.lookup name = none ↔ name ∉ entries.map Prod.fst := by
  induction entries with
  | nil => simp
  | cons entry entries ih =>
    obtain ⟨key, value⟩ := entry
    by_cases h : name = key
    · subst h
      simp
    · have : (name == key) = false := by simpa using h
      simp only [List.lookup_cons, this, ih, List.map_cons, List.mem_cons, not_or, h, not_false_eq_true, true_and]

theorem get?_eq_none_iff {t : Table α} {name : Text} : t.get? name = none ↔ name ∉ t.names := lookup_eq_none_iff

theorem contains_iff {t : Table α} {name : Text} : t.contains name = true ↔ name ∈ t.names := by
  have := @get?_eq_none_iff _ t name
  cases h : t.get? name <;> simp_all [contains]

theorem distinct_append {entries : List (Text × α)} {name : Text} (value : α)
    (h : (entries.map Prod.fst).Nodup) (new : name ∉ entries.map Prod.fst) :
    ((entries ++ [(name, value)]).map Prod.fst).Nodup := by
  rw [List.map_append, List.nodup_append]
  refine ⟨h, by simp, ?_⟩
  rintro a ha b hb rfl
  simp only [List.map_cons, List.map_nil, List.mem_singleton] at hb
  exact new (hb ▸ ha)

def insert (t : Table α) (name : Text) (value : α) : Table α :=
  if h : t.contains name then
    { entries := replace name value t.entries, distinct := by rw [names_replace]; exact t.distinct }
  else
    { entries := t.entries ++ [(name, value)]
      distinct := distinct_append value t.distinct fun mem => h (contains_iff.mpr mem) }

def ofList (entries : List (Text × α)) : Table α :=
  entries.foldl (fun t entry => t.insert entry.1 entry.2) empty

theorem lookup_replace (name : Text) (value : α) (entries : List (Text × α)) (other : Text) :
    (replace name value entries).lookup other =
      if other = name then (entries.lookup other).map fun _ => value else entries.lookup other := by
  induction entries with
  | nil => simp [replace]
  | cons entry entries ih =>
    obtain ⟨key, old⟩ := entry
    rw [replace, List.map_cons]
    rw [replace] at ih
    by_cases h : other = key
    · subst h
      by_cases hk : other = name <;> simp [hk]
    · have hb : (other == key) = false := by simpa using h
      by_cases hk : key = name
      · subst hk
        simp only [if_true, List.lookup_cons, hb, ih]
      · simp only [hk, if_false, List.lookup_cons, hb, ih]

theorem lookup_append_singleton (entries : List (Text × α)) (name : Text) (value : α) (other : Text) :
    (entries ++ [(name, value)]).lookup other =
      (entries.lookup other).or (if other = name then some value else none) := by
  rw [List.lookup_append]
  by_cases h : other = name
  · simp [h]
  · have : (other == name) = false := by simpa using h
    simp [List.lookup_cons, this, h]

theorem get?_insert (t : Table α) (name : Text) (value : α) (other : Text) :
    (t.insert name value).get? other = if other = name then some value else t.get? other := by
  unfold insert
  split
  · rename_i h
    simp only [get?, lookup_replace]
    by_cases ho : other = name
    · subst ho
      obtain ⟨v, hv⟩ := Option.isSome_iff_exists.mp h
      rw [get?] at hv
      simp [hv]
    · simp [ho]
  · rename_i h
    simp only [get?, lookup_append_singleton]
    by_cases ho : other = name
    · subst ho
      have : t.entries.lookup other = none := Option.not_isSome_iff_eq_none.mp h
      simp [this]
    · simp [ho]

theorem names_insert (t : Table α) (name : Text) (value : α) :
    (t.insert name value).names = if name ∈ t.names then t.names else t.names ++ [name] := by
  unfold insert
  split
  · rename_i h
    rw [if_pos (contains_iff.mp h), names, names_replace]
    rfl
  · rename_i h
    rw [if_neg fun mem => h (contains_iff.mpr mem)]
    simp [names]

end Table
end Bytebeat
