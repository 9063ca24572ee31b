import HolderInjection.Consumer.FieldTable
import HolderInjection.Proofs.CanonicalText

/-!
# Looking up fields

A look-up in the table of a consumer is a search among its fields: for the first field of a key, or
for the only field of a simple type of a last name. What is found has the type of the parameter,
that type without its question mark, or a simple type of the same last name that no other field has.
-/

namespace HolderInjection

section Lookup

variable {α β κ : Type} [DecidableEq κ]

theorem lookup_cons_of_ne {key own : κ} (h : key ≠ own) (value : β) (entries : List (κ × β)) :
    ((own, value) :: entries).lookup key = entries.lookup key := by
  rw [List.lookup_cons, beq_false_of_ne h]

theorem lookup_filter_fst (p : κ → Bool) (key : κ) (entries : List (κ × β)) :
    (entries.filter fun entry => p entry.1).lookup key =
      if p key then entries.lookup key else none := by
  induction entries with
  | nil => simp
  | cons entry entries ih =>
    obtain ⟨own, value⟩ := entry
    rw [List.filter_cons]
    by_cases hkey : key = own
    · subst hkey
      by_cases hp : p key = true
      · rw [if_pos hp, if_pos hp, List.lookup_cons_self, List.lookup_cons_self]
      · rw [if_neg hp, ih, if_neg hp, if_neg hp]
    · rw [lookup_cons_of_ne hkey, ← ih]
      by_cases hp : p own = true
      · rw [if_pos hp, lookup_cons_of_ne hkey]
      · rw [if_neg hp]

/-- Later entries of a key are never found. -/
theorem lookup_distinctOn (key : κ) (entries : List (κ × β)) :
    (distinctOn (·.1) entries).lookup key = entries.lookup key := by
  induction entries with
  | nil => rfl
  | cons entry entries ih =>
    obtain ⟨own, value⟩ := entry
    rw [distinctOn]
    by_cases hkey : key = own
    · rw [hkey, List.lookup_cons_self, List.lookup_cons_self]
    · have hfilter := lookup_filter_fst (fun other => decide (other ≠ own)) key
        (distinctOn (·.1) entries)
      rw [lookup_cons_of_ne hkey, lookup_cons_of_ne hkey, hfilter, if_pos (by simpa using hkey), ih]

theorem lookup_map_pair (f : α → κ) (g : α → β) (key : κ) (items : List α) :
    (items.map fun item => (f item, g item)).lookup key =
      (items.find? fun item => f item = key).map g := by
  induction items with
  | nil => rfl
  | cons item items ih =>
    rw [List.map_cons]
    by_cases hkey : key = f item
    · rw [hkey, List.lookup_cons_self, List.find?_cons_of_pos (by simp), Option.map_some]
    · rw [lookup_cons_of_ne hkey, List.find?_cons_of_neg (by simpa using Ne.symm hkey), ih]

theorem lookup_filterMap_pair (f : α → Option κ) (g : α → β) (key : κ) (items : List α) :
    (items.filterMap fun item => (f item).map (·, g item)).lookup key =
      (items.find? fun item => f item = some key).map g := by
  induction items with
  | nil => rfl
  | cons item items ih =>
    rw [List.filterMap_cons]
    cases hitem : f item with
    | none =>
      rw [List.find?_cons_of_neg (by simp [hitem])]
      exact ih
    | some own =>
      simp only [Option.map_some]
      by_cases hkey : key = own
      · rw [hkey, List.lookup_cons_self, List.find?_cons_of_pos (by simp [hitem]), Option.map_some]
      · have hother : f item ≠ some key := by simpa [hitem] using Ne.symm hkey
        rw [lookup_cons_of_ne hkey, List.find?_cons_of_neg (by simpa using hother), ih]

end Lookup

namespace FieldTable

open TypeExpr (key key_eq_render parse parse? parse_name parse?_eq_some_iff)

variable {exposure : Exposure} {signature : String}

/-- The last name of the type of a field, for a simple type. -/
def lastName? (field : SharedField) : Option String :=
  (parse? field.signature).bind TypeExpr.simpleName?

theorem lookup_byKey (exposure : Exposure) (typeKey : String) :
    (ofExposure exposure).byKey.lookup typeKey =
      (exposure.fields.find? fun field => key field.signature = typeKey).map (·.name) := by
  change (distinctOn (·.1) (keyed exposure.fields)).lookup typeKey = _
  rw [lookup_distinctOn]
  exact lookup_map_pair (fun field : SharedField => key field.signature) _ _ _

theorem map_fst_named (fields : List SharedField) :
    (named fields).map (·.1) = fields.filterMap lastName? := by
  induction fields with
  | nil => rfl
  | cons field fields ih =>
    have hnamed : named (field :: fields) =
        ((lastName? field).map (·, field.name)).toList ++ named fields := by
      unfold named lastName?
      rw [List.filterMap_cons]
      cases (parse? field.signature).bind TypeExpr.simpleName? <;> rfl
    rw [hnamed, List.map_append, ih, List.filterMap_cons]
    cases lastName? field <;> rfl

theorem count_named (fields : List SharedField) (name : String) :
    ((named fields).map (·.1)).count name =
      (fields.filter fun field => lastName? field = some name).length := by
  have hbeq : (fun field => lastName? field == some name) =
      fun field => decide (lastName? field = some name) := by
    funext field
    by_cases h : lastName? field = some name <;> simp [h]
  rw [map_fst_named, List.count_filterMap, List.countP_eq_length_filter, hbeq]

/-- By its last name a simple type finds the only field of that name. -/
theorem lookup_bySimpleName (exposure : Exposure) (name : String) :
    (ofExposure exposure).bySimpleName.lookup name =
      if (exposure.fields.filter fun field => lastName? field = some name).length = 1 then
        (exposure.fields.find? fun field => lastName? field = some name).map (·.name)
      else none := by
  change (unique (named exposure.fields)).lookup name = _
  have hlookup : (named exposure.fields).lookup name =
      (exposure.fields.find? fun field => lastName? field = some name).map (·.name) :=
    lookup_filterMap_pair lastName? _ _ _
  have hfilter := lookup_filter_fst
    (fun own => decide (((named exposure.fields).map (·.1)).count own = 1)) name
    (named exposure.fields)
  unfold unique
  rw [hfilter, hlookup, count_named]
  simp

theorem lastName?_eq_some {field : SharedField} {name : String} (h : lastName? field = some name) :
    ∃ own, parse field.signature = .ok (.simple own) ∧ Name.simple own = name := by
  obtain ⟨type, htype, hname⟩ := Option.bind_eq_some_iff.mp h
  cases type with
  | simple own => exact ⟨own, parse?_eq_some_iff.mp htype, Option.some.inj hname⟩
  | _ => cases hname

/-- How a field serves a parameter of a type. -/
inductive Serves (fields : List SharedField) (signature : String) (type : TypeExpr)
    (field : SharedField) : Prop where
  /-- The field has the key of the parameter. -/
  | exact (hkey : key field.signature = key signature)
  /-- The parameter is nullable, and the field has the key of its type without the question mark. -/
  | nonNull {inner : TypeExpr} (htype : type = .nullable inner)
      (hkey : key field.signature = inner.render)
      (hexact : ∀ other ∈ fields, key other.signature ≠ key signature)
  /-- The field is the only one of a simple type with the last name of the parameter's. -/
  | lastName {name own : String} (htype : type.nonNull = .simple name)
      (hfield : parse field.signature = .ok (.simple own))
      (hsame : Name.simple own = Name.simple name)
      (honly : fields.filter (fun other => lastName? other = some (Name.simple name)) = [field])
      (hexact : ∀ other ∈ fields, key other.signature ≠ key signature)
      (hnonNull : ∀ inner, type = .nullable inner →
        ∀ other ∈ fields, key other.signature ≠ inner.render)

theorem exists_of_lookup_byKey {typeKey field : String}
    (h : (ofExposure exposure).byKey.lookup typeKey = some field) :
    ∃ shared ∈ exposure.fields, shared.name = field ∧ key shared.signature = typeKey := by
  rw [lookup_byKey] at h
  obtain ⟨shared, hfind, hname⟩ := Option.map_eq_some_iff.mp h
  have hkey := List.find?_some hfind
  exact ⟨shared, List.mem_of_find?_eq_some hfind, hname, of_decide_eq_true hkey⟩

theorem ne_of_lookup_byKey {typeKey : String}
    (h : (ofExposure exposure).byKey.lookup typeKey = none) :
    ∀ shared ∈ exposure.fields, key shared.signature ≠ typeKey := by
  rw [lookup_byKey, Option.map_eq_none_iff, List.find?_eq_none] at h
  intro shared hshared hkey
  exact h shared hshared (decide_eq_true hkey)

theorem findNonNull_eq {type : TypeExpr} (hparse : parse signature = .ok type)
    (table : FieldTable) :
    table.findNonNull signature =
      match type with
      | .nullable inner => table.byKey.lookup inner.render
      | _ => none := by
  unfold findNonNull
  rw [parse?_eq_some_iff.mpr hparse]
  cases type <;> rfl

theorem findBySimpleName_eq {type : TypeExpr} (hparse : parse signature = .ok type)
    (table : FieldTable) :
    table.findBySimpleName signature =
      type.nonNull.simpleName?.bind fun name => table.bySimpleName.lookup name := by
  unfold findBySimpleName
  rw [parse?_eq_some_iff.mpr hparse]
  rfl

/-- A look-up by the last name finds the only field of a simple type of that name. -/
theorem exists_of_lookup_bySimpleName {name field : String}
    (h : (ofExposure exposure).bySimpleName.lookup name = some field) :
    ∃ shared ∈ exposure.fields, shared.name = field ∧ lastName? shared = some name ∧
      exposure.fields.filter (fun other => lastName? other = some name) = [shared] := by
  rw [lookup_bySimpleName] at h
  split at h
  · rename_i hlength
    obtain ⟨shared, honly⟩ := List.length_eq_one_iff.mp hlength
    rw [← List.head?_filter, honly, List.head?_cons, Option.map_some, Option.some_inj] at h
    have hmem : shared ∈ exposure.fields.filter fun other => lastName? other = some name := by
      rw [honly]
      exact List.mem_singleton_self shared
    obtain ⟨hshared, hlast⟩ := List.mem_filter.mp hmem
    exact ⟨shared, hshared, h, of_decide_eq_true hlast, honly⟩
  · cases h

theorem exists_of_findBySimpleName {type : TypeExpr} {field : String}
    (hparse : parse signature = .ok type)
    (h : (ofExposure exposure).findBySimpleName signature = some field) :
    ∃ shared ∈ exposure.fields, shared.name = field ∧ ∃ name own,
      type.nonNull = .simple name ∧ parse shared.signature = .ok (.simple own) ∧
        Name.simple own = Name.simple name ∧
        exposure.fields.filter (fun other => lastName? other = some (Name.simple name)) =
          [shared] := by
  rw [findBySimpleName_eq hparse] at h
  obtain ⟨last, htype, hlookup⟩ := Option.bind_eq_some_iff.mp h
  obtain ⟨shared, hmem, hname, hlast, honly⟩ := exists_of_lookup_bySimpleName hlookup
  obtain ⟨own, hown, hsame⟩ := lastName?_eq_some hlast
  cases hnonNull : type.nonNull with
  | simple name =>
    rw [hnonNull] at htype
    cases htype
    exact ⟨shared, hmem, hname, name, own, rfl, hown, hsame, honly⟩
  | _ =>
    rw [hnonNull] at htype
    cases htype

/-- Whatever is found serves the parameter. -/
theorem exists_serves_of_find {type : TypeExpr} {field : String}
    (hparse : parse signature = .ok type)
    (h : (ofExposure exposure).find signature = some field) :
    ∃ shared ∈ exposure.fields, shared.name = field ∧
      Serves exposure.fields signature type shared := by
  unfold find at h
  cases hfirst : (ofExposure exposure).findExact signature with
  | some found =>
    rw [hfirst] at h
    cases h
    obtain ⟨shared, hmem, hname, hkey⟩ := exists_of_lookup_byKey hfirst
    exact ⟨shared, hmem, hname, .exact hkey⟩
  | none =>
    have hexact := ne_of_lookup_byKey hfirst
    rw [hfirst] at h
    cases hsecond : (ofExposure exposure).findNonNull signature with
    | some found =>
      rw [hsecond] at h
      cases h
      rw [findNonNull_eq hparse] at hsecond
      cases type with
      | nullable inner =>
        obtain ⟨shared, hmem, hname, hkey⟩ := exists_of_lookup_byKey hsecond
        exact ⟨shared, hmem, hname, .nonNull rfl hkey hexact⟩
      | _ => cases hsecond
    | none =>
      rw [hsecond] at h
      obtain ⟨shared, hmem, hname, name, own, htype, hown, hsame, honly⟩ :=
        exists_of_findBySimpleName hparse h
      refine ⟨shared, hmem, hname, .lastName htype hown hsame honly hexact ?_⟩
      rintro inner rfl
      rw [findNonNull_eq hparse] at hsecond
      exact ne_of_lookup_byKey hsecond

theorem Serves.not_isNullable {fields : List SharedField} {type other : TypeExpr}
    {field : SharedField} (h : Serves fields signature type field)
    (hparse : parse signature = .ok type) (hmark : ¬type.isNullable)
    (hother : parse field.signature = .ok other) : ¬other.isNullable := by
  cases h with
  | exact hkey =>
    rw [key_eq_render hparse, key_eq_render hother] at hkey
    have hnormal := (TypeExpr.wellFormed_of_parse hother).parse_render_normalize
    rw [hkey, (TypeExpr.wellFormed_of_parse hparse).parse_render_normalize] at hnormal
    rw [← TypeExpr.isNullable_normalize, ← Except.ok.inj hnormal, TypeExpr.isNullable_normalize]
    exact hmark
  | nonNull htype _ _ =>
    rw [htype] at hmark
    exact absurd rfl hmark
  | lastName _ hfield _ _ _ _ =>
    rw [hfield] at hother
    cases hother
    exact Bool.false_ne_true

/-- A field that is found is one of the consumer's and serves the parameter: it has the key of the
parameter, or that of its type without the question mark, or it is the only field of a simple type
of the same last name. A field of a nullable type is found for nullable parameters only. -/
theorem find_sound (exposure : Exposure) (signature field : String) (type : TypeExpr)
    (hparse : parse signature = .ok type)
    (hfind : (ofExposure exposure).find signature = some field) :
    ∃ shared ∈ exposure.fields, shared.name = field ∧
      Serves exposure.fields signature type shared ∧
      (¬type.isNullable → ∀ other, parse shared.signature = .ok other → ¬other.isNullable) := by
  obtain ⟨shared, hmem, hname, hserves⟩ := exists_serves_of_find hparse hfind
  exact ⟨shared, hmem, hname, hserves, fun hmark other hother =>
    hserves.not_isNullable hparse hmark hother⟩

theorem find_of_same_last_name :
    (ofExposure ⟨"app.Screen", [⟨"user", "com.a.User", false⟩]⟩).find "com.b.User" =
      some "user" := by
  have hfield : parse "com.a.User" = .ok (.simple "com.a.User") := parse_name (by decide)
  have hparse : parse "com.b.User" = .ok (.simple "com.b.User") := parse_name (by decide)
  have hlast : lastName? ⟨"user", "com.a.User", false⟩ = some "User" := by
    rw [lastName?, parse?_eq_some_iff.mpr hfield]
    decide
  have hname : (TypeExpr.simple "com.b.User").nonNull.simpleName? = some "User" := by decide
  unfold find findExact
  rw [lookup_byKey, key_eq_render hparse, findNonNull_eq hparse, findBySimpleName_eq hparse,
    hname, Option.bind_some, lookup_bySimpleName]
  simp [key_eq_render hfield, hlast, TypeExpr.render]

/-- A field of another package is found by the last name. -/
theorem find_not_sound_by_package :
    ¬∀ (exposure : Exposure) (signature field : String) (type : TypeExpr),
      parse signature = .ok type → (ofExposure exposure).find signature = some field →
      ∃ shared ∈ exposure.fields, shared.name = field ∧
        (key shared.signature = key signature ∨
          (∃ inner, type = .nullable inner ∧ key shared.signature = inner.render) ∨
          ∃ name own, type.nonNull = .simple name ∧ parse shared.signature = .ok (.simple own) ∧
            Name.simple own = Name.simple name ∧ ('.' ∉ name.toList ∨ '.' ∉ own.toList)) := by
  intro h
  have hfield : parse "com.a.User" = .ok (.simple "com.a.User") := parse_name (by decide)
  have hparse : parse "com.b.User" = .ok (.simple "com.b.User") := parse_name (by decide)
  obtain ⟨shared, hmem, -, hserves⟩ := h _ _ _ _ hparse find_of_same_last_name
  cases List.mem_singleton.mp hmem
  rcases hserves with hkey | ⟨inner, htype, -⟩ | ⟨name, own, htype, hown, -, hpackage⟩
  · rw [key_eq_render hparse, key_eq_render hfield] at hkey
    exact absurd hkey (by decide)
  · cases htype
  · rw [hfield] at hown
    cases htype
    cases hown
    exact absurd hpackage (by decide)

theorem find_sound_of_same_last_name :
    ∃ shared ∈ [(⟨"user", "com.a.User", false⟩ : SharedField)], shared.name = "user" ∧
      Serves [⟨"user", "com.a.User", false⟩] "com.b.User" (.simple "com.b.User") shared ∧
      ∀ other, parse shared.signature = .ok other → ¬other.isNullable := by
  obtain ⟨shared, hmem, hname, hserves, hmark⟩ :=
    find_sound ⟨"app.Screen", [⟨"user", "com.a.User", false⟩]⟩ "com.b.User" "user" _
      (parse_name (by decide)) find_of_same_last_name
  exact ⟨shared, hmem, hname, hserves, hmark (by decide)⟩

end FieldTable

end HolderInjection
