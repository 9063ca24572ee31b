import HolderInjection.Proofs.TemplateCuts
import HolderInjection.Proofs.TemplateParts

/-!
# Templates up to blanks

The spacing of a template decides about blanks only. A template is read, or is malformed in the same
way, whatever the spacing, and what it is filled in with differs in blanks.
-/

namespace HolderInjection.Template

/-- The characters of a text that are not blank. -/
def visible (text : List Char) : List Char :=
  text.filter (!Text.isBlankChar ·)

theorem visible_append (front rest : List Char) :
    visible (front ++ rest) = visible front ++ visible rest :=
  List.filter_append front rest

theorem visible_of_isBlank {text : List Char} (h : Text.isBlank text) : visible text = [] := by
  rw [visible, List.filter_eq_nil_iff]
  intro c hc
  simpa using List.all_eq_true.mp h c hc

theorem visible_visible (text : List Char) : visible (visible text) = visible text := by
  simp [visible]

theorem visible_keptStretch (spacing : Spacing) (before after : Option TagKind)
    (stretch : List Char) : visible (keptStretch spacing before after stretch) = visible stretch := by
  obtain ⟨hfront, hback⟩ := isBlank_dropped spacing before stretch after
  have hstretch := congrArg visible (dropped_append_kept spacing before stretch after)
  rw [visible_append, visible_append, visible_of_isBlank hfront, visible_of_isBlank hback,
    List.nil_append, List.append_nil] at hstretch
  exact hstretch

/-! Without its blanks, a template does not depend on the spacing. -/

/-- A token without blanks in text; text that is blank is nothing. -/
def Token.unspaced : Token → List Token
  | .text chars => textToken (visible chars)
  | token => [token]

namespace Tree

/-- A tree without blanks in text. -/
def unspaced : Tree → Tree
  | done => done
  | text content next =>
    if visible content.toList = [] then next.unspaced
    else text (String.ofList (visible content.toList)) next.unspaced
  | insertion name next => insertion name next.unspaced
  | choice condition yes no next => choice condition yes.unspaced no.unspaced next.unspaced
  | loop item items body next => loop item items body.unspaced next.unspaced

theorem unspaced_append (first second : Tree) :
    (first ++ second).unspaced = first.unspaced ++ second.unspaced := by
  induction first with
  | done => rfl
  | text content next ih =>
    change (text content (next ++ second)).unspaced = _
    rw [unspaced, unspaced, ih]
    split <;> rfl
  | insertion name next ih => exact congrArg (insertion name) ih
  | choice condition yes no next _ _ ih => exact congrArg (choice condition _ _) ih
  | loop item items body next _ ih => exact congrArg (loop item items _) ih

end Tree

theorem flatMap_unspaced_textToken (chars : List Char) :
    (textToken chars).flatMap Token.unspaced = textToken (visible chars) := by
  unfold textToken
  split
  · rename_i hchars
    subst hchars
    rfl
  · rw [List.flatMap_singleton]
    rfl

theorem Slices.flatMap_unspaced_tokens (slices : Slices) (spacing other : Spacing)
    (before otherBefore : Option TagKind) :
    (slices.tokens spacing before).flatMap Token.unspaced =
      (slices.tokens other otherBefore).flatMap Token.unspaced := by
  induction slices generalizing before otherBefore with
  | last stretch =>
    rw [tokens, tokens, flatMap_unspaced_textToken, flatMap_unspaced_textToken,
      visible_keptStretch, visible_keptStretch]
  | tag stretch kind expression rest ih =>
    rw [tokens, tokens, List.flatMap_append, List.flatMap_append, flatMap_unspaced_textToken,
      flatMap_unspaced_textToken, visible_keptStretch, visible_keptStretch, List.flatMap_cons,
      List.flatMap_cons, ih]

def OpenBlock.unspaced : OpenBlock → OpenBlock
  | choice condition outer => choice condition outer.unspaced
  | otherwise condition yes outer => otherwise condition yes.unspaced outer.unspaced
  | loop item items outer => loop item items outer.unspaced

namespace Progress

def unspaced (progress : Progress) : Progress :=
  ⟨progress.blocks.map OpenBlock.unspaced, progress.current.unspaced⟩

theorem unspaced_extend (progress : Progress) (part : Tree) :
    (progress.extend part).unspaced = progress.unspaced.extend part.unspaced := by
  simp only [unspaced, extend, Tree.unspaced_append]

theorem follow_unspaced (progress : Progress) (tag : List Char) (directive : Directive) :
    (progress.follow tag directive).map unspaced = progress.unspaced.follow tag directive := by
  obtain ⟨blocks, current⟩ := progress
  cases directive with
  | choice | loop => rfl
  | otherwise =>
    cases blocks with
    | nil => rfl
    | cons block blocks => cases block <;> rfl
  | endChoice | endLoop =>
    cases blocks with
    | nil => rfl
    | cons block blocks =>
      cases block <;>
        simp [follow, unspaced, OpenBlock.unspaced, Except.map, Tree.unspaced_append, Tree.unspaced]

theorem foldlM_singleton (progress : Progress) (token : Token) :
    [token].foldlM step progress = progress.step token := by
  rw [List.foldlM_cons]
  exact bind_pure _

theorem step_unspaced (progress : Progress) (token : Token) :
    (progress.step token).map unspaced = token.unspaced.foldlM step progress.unspaced := by
  -- Blank text is a step on one side and none on the other.
  cases token with
  | text chars =>
    change Except.ok (progress.extend (.text (String.ofList chars) .done)).unspaced = _
    rw [unspaced_extend, Tree.unspaced, String.toList_ofList, Token.unspaced, textToken]
    split
    · change Except.ok (progress.unspaced.extend .done) = .ok progress.unspaced
      rw [extend, Tree.append_done]
    · rw [foldlM_singleton]
      rfl
  | insertion expression =>
    change _ = [Token.insertion expression].foldlM step progress.unspaced
    rw [foldlM_singleton]
    simp only [step]
    split
    · exact congrArg Except.ok (unspaced_extend progress _)
    · rfl
  | block tag =>
    change _ = [Token.block tag].foldlM step progress.unspaced
    rw [foldlM_singleton]
    simp only [step]
    cases Directive.read tag with
    | error problem => rfl
    | ok directive => exact follow_unspaced progress tag directive

theorem foldlM_unspaced (progress : Progress) (tokens : List Token) :
    (tokens.foldlM step progress).map unspaced =
      (tokens.flatMap Token.unspaced).foldlM step progress.unspaced := by
  induction tokens generalizing progress with
  | nil => rfl
  | cons token tokens ih =>
    rw [List.foldlM_cons, List.flatMap_cons, List.foldlM_append, ← step_unspaced]
    cases progress.step token with
    | error problem => rfl
    | ok next => exact ih next

theorem finish_unspaced (progress : Progress) :
    progress.finish.map Tree.unspaced = progress.unspaced.finish := by
  obtain ⟨blocks, current⟩ := progress
  cases blocks with
  | nil => rfl
  | cons block blocks => cases block <;> rfl

end Progress

theorem Tree.ofTokens_unspaced (tokens : List Token) :
    (ofTokens tokens).map unspaced = ofTokens (tokens.flatMap Token.unspaced) := by
  have hrun := Progress.foldlM_unspaced {} tokens
  change _ = (tokens.flatMap Token.unspaced).foldlM Progress.step {} at hrun
  unfold ofTokens
  rw [← hrun]
  cases tokens.foldlM Progress.step {} with
  | error problem => rfl
  | ok progress => exact progress.finish_unspaced

/-- Without its blanks, a template is read as one tree, or is malformed in one way. -/
theorem compile_unspaced (spacing other : Spacing) (source : String) :
    (compile spacing source).map Tree.unspaced = (compile other source).map Tree.unspaced := by
  obtain ⟨slices, hslices⟩ := exists_slices_tokens source.toList
  unfold compile
  rw [hslices, hslices]
  cases slices with
  | error problem => rfl
  | ok slices =>
    change (Tree.ofTokens (slices.tokens spacing none)).map _ =
      (Tree.ofTokens (slices.tokens other none)).map _
    rw [Tree.ofTokens_unspaced, Tree.ofTokens_unspaced, slices.flatMap_unspaced_tokens spacing other]

/-! What a template is filled in with does not depend on the blanks in it, up to blanks. -/

/-- What is printed, without its blanks. -/
def shown (result : Except Problem String) : Except Problem (List Char) :=
  result.map fun text => visible text.toList

theorem shown_printBoth (first second : Except Problem String) :
    shown (printBoth first second) = do return (← shown first) ++ (← shown second) := by
  cases first with
  | error problem => rfl
  | ok front =>
    cases second with
    | error problem => rfl
    | ok rest =>
      change Except.ok (visible (front ++ rest).toList) = .ok _
      rw [String.toList_append, visible_append]

theorem shown_printBoth_congr {first second other otherSecond : Except Problem String}
    (h : shown first = shown other) (hsecond : shown second = shown otherSecond) :
    shown (printBoth first second) = shown (printBoth other otherSecond) := by
  rw [shown_printBoth, shown_printBoth, h, hsecond]

variable {V : Type}

theorem shown_printEach {work other : V → Except Problem String}
    (h : ∀ value, shown (work value) = shown (other value)) (values : List V) :
    shown (printEach work values) = shown (printEach other values) := by
  induction values with
  | nil => rfl
  | cons value values ih =>
    rw [printEach_cons, printEach_cons]
    exact shown_printBoth_congr (h value) ih

theorem shown_printItems [Fillable V] {work other : V → Except Problem String}
    (h : ∀ value, shown (work value) = shown (other value)) (items : String) (value : V) :
    shown (printItems items work value) = shown (printItems items other value) := by
  unfold printItems
  cases Fillable.items? value with
  | some values => exact shown_printEach h values
  | none => rfl

namespace Tree

theorem shown_render_unspaced [Fillable V] (tree : Tree) (context : Context V) :
    shown (tree.unspaced.render context) = shown (tree.render context) := by
  induction tree generalizing context with
  | done => rfl
  | text content next ih =>
    rw [unspaced]
    split
    · rename_i hblank
      rw [ih, render_text_eq, shown_printBoth]
      change _ = shown (next.render context) >>= fun rest => .ok (visible content.toList ++ rest)
      rw [hblank]
      exact (bind_pure _).symm
    · have hvisible : shown (.ok (String.ofList (visible content.toList))) = shown (.ok content) := by
        simp [shown, Except.map, visible_visible]
      exact shown_printBoth_congr hvisible (ih context)
  | insertion name next ih =>
    rw [unspaced, render_insertion_eq, render_insertion_eq]
    exact shown_printBoth_congr rfl (ih context)
  | choice condition yes no next ihYes ihNo ihNext =>
    rw [unspaced, render_choice_eq, render_choice_eq]
    refine shown_printBoth_congr ?_ (ihNext context)
    cases context.find condition with
    | error problem => rfl
    | ok value =>
      change shown (if Fillable.isTruthy value then _ else _) =
        shown (if Fillable.isTruthy value then _ else _)
      split
      · exact ihYes context
      · exact ihNo context
  | loop item items body next ihBody ihNext =>
    rw [unspaced, render_loop_eq, render_loop_eq]
    refine shown_printBoth_congr ?_ (ihNext context)
    cases context.find items with
    | error problem => rfl
    | ok value => exact shown_printItems (fun value => ihBody _) items value

end Tree

theorem filter_isTag_textToken (chars : List Char) : (textToken chars).filter Token.isTag = [] := by
  unfold textToken
  split <;> rfl

/-- The tags are the same with any spacing. -/
theorem Slices.filter_isTag_tokens (slices : Slices) (spacing other : Spacing)
    (before otherBefore : Option TagKind) :
    (slices.tokens spacing before).filter Token.isTag =
      (slices.tokens other otherBefore).filter Token.isTag := by
  induction slices generalizing before otherBefore with
  | last stretch => rw [tokens, tokens, filter_isTag_textToken, filter_isTag_textToken]
  | tag stretch kind expression rest ih =>
    rw [tokens, tokens, List.filter_append, List.filter_append, filter_isTag_textToken,
      filter_isTag_textToken, List.filter_cons, List.filter_cons, ih (some kind) (some kind)]

end HolderInjection.Template
