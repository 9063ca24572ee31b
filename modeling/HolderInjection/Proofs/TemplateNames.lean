import HolderInjection.Proofs.TemplateParts

/-!
# The names that a template reads

What a template is filled in with depends on the values of its free names only, down to the first
problem. An item is a name of the body of its loop: what follows the loop is filled in as it would
be without it, and an outer value of that name is not read in the body.
-/

namespace HolderInjection.Template

variable {V : Type}

namespace Tree

/-- The names that a template reads from outside. -/
def freeNames : Tree → List String
  | done => []
  | text _ next => next.freeNames
  | insertion name next => name :: next.freeNames
  | choice condition yes no next =>
    condition :: (yes.freeNames ++ no.freeNames ++ next.freeNames)
  | loop item items body next => items :: (body.freeNames.filter (· ≠ item) ++ next.freeNames)

end Tree

/-- Whether two contexts give names the same values, or none. -/
def AgreeOn (names : List String) (first second : Context V) : Prop :=
  ∀ name ∈ names, first.lookup name = second.lookup name

namespace AgreeOn

variable {names others : List String} {first second : Context V} {name : String}

theorem of_subset (h : AgreeOn names first second) (hsubset : others ⊆ names) :
    AgreeOn others first second :=
  fun name hname => h name (hsubset hname)

theorem find_eq (h : AgreeOn names first second) (hname : name ∈ names) :
    first.find name = second.find name := by
  rw [Context.find, Context.find, h name hname]

/-- Contexts need not agree on a name that both of them are given. -/
theorem cons {item : String} (h : AgreeOn (names.filter (· ≠ item)) first second)
    (value : V) : AgreeOn names ((item, value) :: first) ((item, value) :: second) := by
  intro name hname
  by_cases hitem : name = item
  · rw [hitem, List.lookup_cons_self, List.lookup_cons_self]
  · rw [List.lookup_cons, List.lookup_cons, beq_false_of_ne hitem]
    exact h name (List.mem_filter.mpr ⟨hname, by simpa using hitem⟩)

end AgreeOn

namespace Tree

/-- A template reads nothing but its free names. -/
theorem render_eq_of_agreeOn [Fillable V] {tree : Tree} {first second : Context V}
    (h : AgreeOn tree.freeNames first second) : tree.render first = tree.render second := by
  induction tree generalizing first second with
  | done => rfl
  | text content next ih => rw [render_text_eq, render_text_eq, ih h]
  | insertion name next ih =>
    have hnext := ih (h.of_subset (List.subset_cons_self _ _))
    rw [render_insertion_eq, render_insertion_eq, h.find_eq List.mem_cons_self, hnext]
  | choice condition yes no next ihYes ihNo ihNext =>
    have hyes := ihYes (h.of_subset fun name hname => by simp [freeNames, hname])
    have hno := ihNo (h.of_subset fun name hname => by simp [freeNames, hname])
    have hnext := ihNext (h.of_subset fun name hname => by simp [freeNames, hname])
    rw [render_choice_eq, render_choice_eq, h.find_eq List.mem_cons_self, hyes, hno, hnext]
  | loop item items body next ihBody ihNext =>
    have hbody : AgreeOn (body.freeNames.filter (· ≠ item)) first second :=
      h.of_subset fun name hname => List.mem_cons_of_mem items (List.mem_append_left _ hname)
    have hnext := ihNext (h.of_subset fun name hname => by simp [freeNames, hname])
    -- inside the loop the contexts agree on the item too, whatever they say about it outside
    have hrender : (fun value => body.render ((item, value) :: first)) =
        fun value => body.render ((item, value) :: second) :=
      funext fun value => ihBody (hbody.cons value)
    rw [render_loop_eq, render_loop_eq, h.find_eq List.mem_cons_self, hrender, hnext]

/-- What a template is filled in with is settled by the values of its free names, whatever values
there are. What precedes a part, a loop with an item of whatever name among it, makes no difference
to what the part is filled in with. -/
theorem render_by_free_names (V : Type) [Fillable V] (tree : Tree) :
    (∀ first second : Context V, AgreeOn tree.freeNames first second →
      tree.render first = tree.render second) ∧
    ∀ (context : Context V) (rest : Tree),
      (tree ++ rest).render context = printBoth (tree.render context) (rest.render context) :=
  ⟨fun _ _ => render_eq_of_agreeOn, fun context rest => render_append context tree rest⟩

/-- An item inside a loop over items of that name, and the outer value of that name behind both. -/
theorem render_by_free_names_shadowed :
    let tree := loop "x" "xs" (loop "x" "ys" (insertion "x" done) (insertion "x" done))
      (insertion "x" (insertion "xs" done))
    let first : Context := [("xs", .list [.text "a", .text "b"]), ("ys", .list [.integer 1]),
      ("x", .text "z")]
    let second : Context := [("x", .text "z"), ("y", .absent), ("ys", .list [.integer 1]),
      ("xs", .list [.text "a", .text "b"]), ("x", .text "w")]
    AgreeOn tree.freeNames first second ∧ tree.render first = tree.render second ∧
      tree.render first = .ok "1a1bz['a', 'b']" := by
  intro tree first second
  have hagree : AgreeOn tree.freeNames first second := by
    intro name hname
    have hnames : tree.freeNames = ["xs", "ys", "x", "xs"] := by decide
    rw [hnames] at hname
    simp only [List.mem_cons, List.not_mem_nil, or_false] at hname
    rcases hname with rfl | rfl | rfl | rfl <;> rfl
  exact ⟨hagree, (render_by_free_names Value tree).1 first second hagree, rfl⟩

end Tree

end HolderInjection.Template
