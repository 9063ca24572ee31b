import HolderInjection.Consumer.Usage
import HolderInjection.Proofs.FieldLookup

/-!
# Which consumers use a holder

A property refers to a holder by the name of its type or of the first argument of its type. The
usage lists, for every enabled holder, the consumers with such a property, each of them once for
every time that it is given, however many of its properties refer to the holder.
-/

namespace HolderInjection

namespace TypeExpr

/-- Whether a type, question marks aside, is a name or a generic type whose first argument is. -/
def RefersTo (type : TypeExpr) (name : String) : Prop :=
  type.nonNull = .simple name ∨
    ∃ base first rest, type.nonNull = .generic base (first :: rest) ∧ first.nonNull = .simple name

theorem reference?_eq_some_iff {type : TypeExpr} (h : ¬type.nonNull.isNullable) (name : String) :
    type.reference? = some name ↔ type.nonNull = .simple name := by
  have hplain (type : TypeExpr) (h : ¬type.isNullable) :
      type.reference? = some name ↔ type = .simple name := by
    cases type with
    | nullable _ => exact absurd rfl h
    | _ => simp [reference?]
  cases type with
  | nullable inner => exact hplain inner h
  | simple own => exact hplain (.simple own) h
  | _ => simp [reference?, nonNull]

theorem WellFormed.not_isNullable_nonNull {type : TypeExpr} (h : WellFormed type) :
    ¬type.nonNull.isNullable := by
  cases h with
  | nullable _ hmark => exact hmark
  | _ => exact Bool.false_ne_true

theorem WellFormed.mentions_iff {type : TypeExpr} (h : WellFormed type) (name : String) :
    type.mentions name ↔ type.RefersTo name := by
  have hnested : WellFormed type.nonNull := by
    cases h with
    | nullable hinner _ => exact hinner
    | simple hname => exact .simple hname
    | generic hbase hne hargs => exact .generic hbase hne hargs
    | function hparams hresult => exact .function hparams hresult
  rw [mentions, RefersTo, Bool.or_eq_true, decide_eq_true_iff,
    reference?_eq_some_iff h.not_isNullable_nonNull]
  refine or_congr Iff.rfl ?_
  cases hbare : type.nonNull with
  | generic base args =>
    rw [hbare] at hnested
    cases hnested with
    | generic _ hne hargs =>
      cases args with
      | nil => exact absurd rfl hne
      | cons first rest =>
        have hfirst : ¬first.nonNull.isNullable := by
          by_cases hstar : first = wildcard
          · rw [hstar]
            exact Bool.false_ne_true
          · exact (hargs first List.mem_cons_self hstar).not_isNullable_nonNull
        rw [decide_eq_true_iff, reference?_eq_some_iff hfirst]
        constructor
        · exact fun hname => ⟨base, first, rest, rfl, hname⟩
        · rintro ⟨_, _, _, heq, hname⟩
          cases heq
          exact hname
  | _ => exact iff_of_false Bool.false_ne_true (by rintro ⟨_, _, _, heq, -⟩; cases heq)

end TypeExpr

namespace Consumer

/-- Whether a property of a consumer is of the type of a holder, or of a generic type that is given
it first; a question mark makes no difference at either place. -/
def RefersTo (consumer : Consumer) (holder : String) : Prop :=
  ∃ signature ∈ consumer.propertyTypes, ∃ type,
    TypeExpr.parse signature = .ok type ∧ type.RefersTo holder

theorem uses_iff (consumer : Consumer) (holder : String) :
    consumer.uses holder ↔ consumer.RefersTo holder := by
  unfold uses RefersTo
  simp only [List.any_eq_true, Option.any_eq_true, TypeExpr.parse?_eq_some_iff]
  constructor
  · rintro ⟨signature, hmem, type, hparse, hmentions⟩
    have hwell := TypeExpr.wellFormed_of_parse hparse
    exact ⟨signature, hmem, type, hparse, (hwell.mentions_iff holder).mp hmentions⟩
  · rintro ⟨signature, hmem, type, hparse, hrefers⟩
    have hwell := TypeExpr.wellFormed_of_parse hparse
    exact ⟨signature, hmem, type, hparse, (hwell.mentions_iff holder).mpr hrefers⟩

instance (consumer : Consumer) (holder : String) : Decidable (consumer.RefersTo holder) :=
  decidable_of_iff _ (uses_iff consumer holder)

end Consumer

namespace Usage

theorem search_eq (consumers : List Consumer) (holder : String) :
    search consumers holder =
      (consumers.filter (·.RefersTo holder)).map (·.exposure) := by
  unfold search
  congr 2
  funext consumer
  rw [Bool.eq_iff_iff, decide_eq_true_iff, Consumer.uses_iff]

theorem value_entry (consumers : List Consumer) (holder : String) :
    (entry consumers holder).value = (holder, search consumers holder) :=
  rfl

/-- An enabled holder has the consumers that refer to it, though another has the same name. -/
theorem consumersOf_ofHolders {holders : List Holder} (consumers : List Consumer) {holder : Holder}
    (hmem : holder ∈ holders) (henabled : holder.enabled) :
    (ofHolders holders consumers).value.consumersOf holder.qualifiedName =
      search consumers holder.qualifiedName := by
  let names := (holders.filter (·.enabled)).map (·.qualifiedName)
  have hvalue : (ofHolders holders consumers).value =
      distinctOn (·.1) (names.map fun name => (name, search consumers name)) := by
    unfold ofHolders
    rw [Logged.value_bind, Logged.value_pure, Logged.value_mapM]
    simp only [value_entry, names]
  have hname : holder.qualifiedName ∈ names :=
    List.mem_map_of_mem (List.mem_filter.mpr ⟨hmem, henabled⟩)
  have hfind : names.find? (fun name => name = holder.qualifiedName) =
      some holder.qualifiedName := by
    cases hfirst : names.find? (fun name => decide (name = holder.qualifiedName)) with
    | none => exact absurd (decide_eq_true rfl) (List.find?_eq_none.mp hfirst _ hname)
    | some name =>
      have hsame := List.find?_some hfirst
      rw [of_decide_eq_true hsame]
  have hlookup := lookup_map_pair (fun name : String => name) (search consumers)
    holder.qualifiedName names
  rw [hfind, Option.map_some] at hlookup
  rw [consumersOf, hvalue, lookup_distinctOn, hlookup, Option.getD_some]

end Usage

end HolderInjection
