import HolderInjection.Proofs.FieldLookup
import Mathlib.Data.List.Nodup

/-!
# The search for a field

The tables of a consumer are indices of its fields. They list every key once, where it is declared
first, and of the last names those that one field declares. Whatever is looked up in them is found
by a search of the fields in three stages.
-/

namespace HolderInjection

section Entries

variable {α β κ : Type} [DecidableEq κ]

/-- If no two entries share a key, an entry is listed exactly if it is found. -/
theorem mem_iff_lookup_eq_some {entries : List (κ × β)} (h : (entries.map (·.1)).Nodup) {key : κ}
    {value : β} : (key, value) ∈ entries ↔ entries.lookup key = some value := by
  induction entries with
  | nil => simp
  | cons entry entries ih =>
    obtain ⟨own, first⟩ := entry
    rw [List.map_cons, List.nodup_cons] at h
    by_cases hkey : key = own
    · rw [hkey, List.lookup_cons_self, List.mem_cons, Option.some_inj]
      refine ⟨fun hmem => ?_, fun heq => .inl (by rw [heq])⟩
      rcases hmem with heq | hmem
      · exact (congrArg Prod.snd heq).symm
      · exact absurd (List.mem_map_of_mem hmem) h.1
    · rw [lookup_cons_of_ne hkey, List.mem_cons, ← ih h.2]
      exact or_iff_right fun heq => hkey (congrArg Prod.fst heq)

/-- The keys of the kept entries are the keys without repetitions. -/
theorem map_distinctOn (key : α → κ) (entries : List α) :
    (distinctOn key entries).map key = distinct (entries.map key) := by
  induction entries with
  | nil => rfl
  | cons entry entries ih =>
    change key entry :: ((distinctOn key entries).filter _).map key =
      key entry :: (distinct (entries.map key)).filter _
    rw [← ih, List.filter_map]
    rfl

end Entries

namespace FieldTable

open TypeExpr (key parse?)

/-- The name of the first field whose type has a key. -/
def firstOfKey (fields : List SharedField) (typeKey : String) : Option String :=
  (fields.find? fun field => key field.signature = typeKey).map (·.name)

/-- The fields that declare a last name: those of a simple type of that name. -/
def declaring (fields : List SharedField) (name : String) : List SharedField :=
  fields.filter fun field => lastName? field = some name

/-- The name of the only field that declares a last name. -/
def onlyOfName (fields : List SharedField) (name : String) : Option String :=
  match declaring fields name with
  | [field] => some field.name
  | _ => none

/-- The name of the first field of a nullable type without its question mark. -/
def firstNonNull (fields : List SharedField) (signature : String) : Option String :=
  match parse? signature with
  | some (.nullable inner) => firstOfKey fields inner.render
  | _ => none

/-- The name of the only field that declares the last name of a simple type, question mark aside. -/
def onlyOfSimple (fields : List SharedField) (signature : String) : Option String :=
  match (parse? signature).map TypeExpr.nonNull with
  | some (.simple name) => onlyOfName fields (Name.simple name)
  | _ => none

/-- The search for the field of a type. A later stage counts if the earlier ones find nothing. -/
def search (fields : List SharedField) (signature : String) : Option String :=
  firstOfKey fields (key signature) <|> firstNonNull fields signature <|>
    onlyOfSimple fields signature

/-- A table as an index of fields. -/
structure Indexes (table : FieldTable) (fields : List SharedField) : Prop where
  /-- The keys are in the order of their first fields. -/
  keys : table.byKey.map (·.1) = (fields.map fun field => key field.signature).eraseDups
  keys_nodup : (table.byKey.map (·.1)).Nodup
  ofKey : ∀ typeKey field, (typeKey, field) ∈ table.byKey ↔ firstOfKey fields typeKey = some field
  /-- The names are in the order of their fields, of which each has but one. -/
  names : table.bySimpleName.map (·.1) =
    (fields.filterMap lastName?).filter fun name => (declaring fields name).length = 1
  names_nodup : (table.bySimpleName.map (·.1)).Nodup
  ofName : ∀ name field,
    (name, field) ∈ table.bySimpleName ↔ onlyOfName fields name = some field

variable (exposure : Exposure)

theorem lookup_bySimpleName_eq_onlyOfName (name : String) :
    (ofExposure exposure).bySimpleName.lookup name = onlyOfName exposure.fields name := by
  rw [lookup_bySimpleName, ← List.head?_filter, onlyOfName, declaring]
  cases exposure.fields.filter fun field => lastName? field = some name with
  | nil => rfl
  | cons field others =>
    cases others with
    | nil => rfl
    | cons other others => exact if_neg (by simp)

theorem map_fst_unique (entries : List (String × String)) :
    (unique entries).map (·.1) =
      (entries.map (·.1)).filter fun name => (entries.map (·.1)).count name = 1 := by
  rw [unique, List.filter_map]
  rfl

theorem nodup_map_fst_unique (entries : List (String × String)) :
    ((unique entries).map (·.1)).Nodup := by
  rw [map_fst_unique, List.nodup_iff_count_le_one]
  intro name
  by_cases hone : (entries.map (·.1)).count name = 1
  · exact hone ▸ List.filter_sublist.count_le name
  · have hnone : name ∉ (entries.map (·.1)).filter fun name => (entries.map (·.1)).count name = 1 :=
      fun hmem => hone (of_decide_eq_true (List.mem_filter.mp hmem).2)
    rw [List.count_eq_zero_of_not_mem hnone]
    exact Nat.zero_le 1

theorem nodup_byKey : ((ofExposure exposure).byKey.map (·.1)).Nodup :=
  nodup_map_distinctOn _ _

theorem nodup_bySimpleName : ((ofExposure exposure).bySimpleName.map (·.1)).Nodup :=
  nodup_map_fst_unique _

theorem indexes_ofExposure : (ofExposure exposure).Indexes exposure.fields where
  keys := by
    change (distinctOn (·.1) (keyed exposure.fields)).map (·.1) = _
    rw [map_distinctOn, distinct_eq_eraseDups, keyed, List.map_map]
    rfl
  keys_nodup := nodup_byKey exposure
  ofKey typeKey field := by
    rw [mem_iff_lookup_eq_some (nodup_byKey exposure), lookup_byKey]
    rfl
  names := by
    change (unique (named exposure.fields)).map (·.1) = _
    rw [map_fst_unique, map_fst_named]
    refine List.filter_congr fun name _ => ?_
    rw [← map_fst_named, count_named]
    rfl
  names_nodup := nodup_bySimpleName exposure
  ofName name field := by
    rw [mem_iff_lookup_eq_some (nodup_bySimpleName exposure),
      lookup_bySimpleName_eq_onlyOfName]

theorem lookup_byKey_eq_firstOfKey (typeKey : String) :
    (ofExposure exposure).byKey.lookup typeKey = firstOfKey exposure.fields typeKey :=
  lookup_byKey exposure typeKey

theorem findNonNull_eq_firstNonNull (signature : String) :
    (ofExposure exposure).findNonNull signature = firstNonNull exposure.fields signature := by
  unfold findNonNull firstNonNull
  cases parse? signature with
  | none => rfl
  | some type =>
    cases type with
    | nullable inner => exact lookup_byKey_eq_firstOfKey exposure inner.render
    | _ => rfl

theorem findBySimpleName_eq_onlyOfSimple (signature : String) :
    (ofExposure exposure).findBySimpleName signature = onlyOfSimple exposure.fields signature := by
  have hstages : (ofExposure exposure).findBySimpleName signature =
      ((parse? signature).map TypeExpr.nonNull).bind fun type =>
        type.simpleName?.bind fun name => (ofExposure exposure).bySimpleName.lookup name := by
    unfold findBySimpleName
    cases parse? signature <;> rfl
  rw [hstages, onlyOfSimple]
  cases (parse? signature).map TypeExpr.nonNull with
  | none => rfl
  | some type =>
    cases type with
    | simple name => exact lookup_bySimpleName_eq_onlyOfName exposure (Name.simple name)
    | _ => rfl

/-- The table of a consumer indexes its fields, and what it finds for a type is what a search of the
fields finds. -/
theorem find_eq_search :
    (ofExposure exposure).Indexes exposure.fields ∧
      ∀ signature, (ofExposure exposure).find signature = search exposure.fields signature := by
  refine ⟨indexes_ofExposure exposure, fun signature => ?_⟩
  rw [find, findExact, lookup_byKey_eq_firstOfKey, findNonNull_eq_firstNonNull,
    findBySimpleName_eq_onlyOfSimple, search]

end FieldTable

end HolderInjection
