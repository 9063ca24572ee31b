import HolderInjection.Proofs.TemplateDerivations

/-!
# What a template is read as

Tokens have one derivation at most, since every block ends at the first tag that can end it. Nothing
gets lost: the tokens of the tree are those that were read, up to the blanks in the tags and to an
empty other side of a choice.
-/

namespace HolderInjection.Template

/-- Whether a sequence that is followed by these tokens is over. -/
inductive Closes : List Token → Prop where
  | end : Closes []
  | otherwise (rest : List Token) : Closes (.otherwise :: rest)
  | endChoice (rest : List Token) : Closes (.endChoice :: rest)
  | endLoop (rest : List Token) : Closes (.endLoop :: rest)

theorem IsChoice.unique {tag condition other : List Char} (h : IsChoice tag condition)
    (hother : IsChoice tag other) : condition = other := by
  have hwords := hother.words_eq
  rw [h.words_eq] at hwords
  cases hwords
  rfl

theorem IsLoop.unique {tag item items other others : List Char} (h : IsLoop tag item items)
    (hother : IsLoop tag other others) : item = other ∧ items = others := by
  have hwords := hother.words_eq
  rw [h.words_eq] at hwords
  cases hwords
  exact ⟨rfl, rfl⟩

/-- A tag that opens a choice opens no loop. -/
theorem IsChoice.not_isLoop {tag condition item items : List Char} (h : IsChoice tag condition) :
    ¬IsLoop tag item items := by
  intro hloop
  have hwords := hloop.words_eq
  rw [h.words_eq] at hwords
  cases hwords

theorem IsChoice.not_closes {tag condition : List Char} (h : IsChoice tag condition)
    (rest : List Token) : ¬Closes (.block tag :: rest) := by
  have hspelled := Directive.Spelled.choice h
  intro hcloses
  cases hcloses with
  | otherwise => cases hspelled.unique .otherwise
  | endChoice => cases hspelled.unique .endChoice
  | endLoop => cases hspelled.unique .endLoop

theorem IsLoop.not_closes {tag item items : List Char} (h : IsLoop tag item items)
    (rest : List Token) : ¬Closes (.block tag :: rest) := by
  have hspelled := Directive.Spelled.loop h
  intro hcloses
  cases hcloses with
  | otherwise => cases hspelled.unique .otherwise
  | endChoice => cases hspelled.unique .endChoice
  | endLoop => cases hspelled.unique .endLoop

namespace Derivation

/-- A sequence does not begin with a tag that ends it. -/
theorem eq_done_of_closes {d : Derivation} {rest : List Token} (h : Closes (d.tokens ++ rest)) :
    d = done := by
  cases d with
  | done => rfl
  | text | insertion => cases h
  | choice htag | divided htag => exact absurd h (htag.not_closes _)
  | loop htag => exact absurd h (htag.not_closes _)

/-! The first token of a sequence tells how the sequence is made up. -/

section

variable {e : Derivation} {rest others : List Token} (hothers : Closes others)
include hothers

theorem eq_text_of_tokens {chars : List Char} (h : e.tokens ++ others = .text chars :: rest) :
    ∃ next, e = text chars next ∧ next.tokens ++ others = rest := by
  cases e with
  | done =>
    obtain rfl : others = _ := h
    cases hothers
  | text =>
    simp only [tokens, List.cons_append, List.cons.injEq, Token.text.injEq] at h
    obtain ⟨rfl, hnext⟩ := h
    exact ⟨_, rfl, hnext⟩
  | _ => simp [tokens] at h

theorem eq_insertion_of_tokens {name : List Char} (hname : isName name)
    (h : e.tokens ++ others = .insertion name :: rest) :
    ∃ next, e = insertion name hname next ∧ next.tokens ++ others = rest := by
  cases e with
  | done =>
    obtain rfl : others = _ := h
    cases hothers
  | insertion =>
    simp only [tokens, List.cons_append, List.cons.injEq, Token.insertion.injEq] at h
    obtain ⟨rfl, hnext⟩ := h
    exact ⟨_, rfl, hnext⟩
  | _ => simp [tokens] at h

theorem eq_choice_of_tokens {tag condition : List Char} (htag : IsChoice tag condition)
    (h : e.tokens ++ others = .block tag :: rest) :
    (∃ yes next, e = choice htag yes next ∧
      yes.tokens ++ .endChoice :: (next.tokens ++ others) = rest) ∨
    ∃ yes no next, e = divided htag yes no next ∧
      yes.tokens ++ .otherwise :: (no.tokens ++ .endChoice :: (next.tokens ++ others)) = rest := by
  cases e with
  | done =>
    obtain rfl : others = _ := h
    exact absurd hothers (htag.not_closes rest)
  | text | insertion => simp [tokens] at h
  | choice hother =>
    rw [choice_append, List.cons.injEq, Token.block.injEq] at h
    obtain ⟨rfl, hyes⟩ := h
    obtain rfl := htag.unique hother
    exact .inl ⟨_, _, rfl, hyes⟩
  | divided hother =>
    rw [divided_append, List.cons.injEq, Token.block.injEq] at h
    obtain ⟨rfl, hyes⟩ := h
    obtain rfl := htag.unique hother
    exact .inr ⟨_, _, _, rfl, hyes⟩
  | loop hother =>
    rw [loop_append, List.cons.injEq, Token.block.injEq] at h
    exact absurd (h.1 ▸ hother) htag.not_isLoop

theorem eq_loop_of_tokens {tag item items : List Char} (htag : IsLoop tag item items)
    (h : e.tokens ++ others = .block tag :: rest) :
    ∃ body next, e = loop htag body next ∧
      body.tokens ++ .endLoop :: (next.tokens ++ others) = rest := by
  cases e with
  | done =>
    obtain rfl : others = _ := h
    exact absurd hothers (htag.not_closes rest)
  | text | insertion => simp [tokens] at h
  | choice hother =>
    rw [choice_append, List.cons.injEq, Token.block.injEq] at h
    exact absurd (h.1 ▸ htag) hother.not_isLoop
  | divided hother =>
    rw [divided_append, List.cons.injEq, Token.block.injEq] at h
    exact absurd (h.1 ▸ htag) hother.not_isLoop
  | loop hother =>
    rw [loop_append, List.cons.injEq, Token.block.injEq] at h
    obtain ⟨rfl, hbody⟩ := h
    obtain ⟨rfl, rfl⟩ := htag.unique hother
    exact ⟨_, _, rfl, hbody⟩

end

/-- A sequence that is over at some place is over at no other. -/
theorem tokens_append_inj {d e : Derivation} {rest others : List Token}
    (h : d.tokens ++ rest = e.tokens ++ others) (hrest : Closes rest) (hothers : Closes others) :
    d = e ∧ rest = others := by
  induction d generalizing e rest others with
  | done =>
    change rest = _ at h
    obtain rfl : e = done := eq_done_of_closes (h ▸ hrest)
    exact ⟨rfl, h⟩
  | text chars next ih =>
    obtain ⟨next', rfl, hnext⟩ := eq_text_of_tokens hothers h.symm
    obtain ⟨rfl, hend⟩ := ih hnext.symm hrest hothers
    exact ⟨rfl, hend⟩
  | insertion name hname next ih =>
    obtain ⟨next', rfl, hnext⟩ := eq_insertion_of_tokens hothers hname h.symm
    obtain ⟨rfl, hend⟩ := ih hnext.symm hrest hothers
    exact ⟨rfl, hend⟩
  | choice htag yes next ihYes ihNext =>
    rw [choice_append] at h
    -- Of two choices the first sides are over at the same tag, so both have another side or none.
    rcases eq_choice_of_tokens hothers htag h.symm with
      ⟨yes', next', rfl, hyes⟩ | ⟨yes', no', next', rfl, hyes⟩
    · obtain ⟨rfl, hclose⟩ := ihYes hyes.symm (.endChoice _) (.endChoice _)
      obtain ⟨rfl, hend⟩ := ihNext (List.cons.inj hclose).2 hrest hothers
      exact ⟨rfl, hend⟩
    · cases (ihYes hyes.symm (.endChoice _) (.otherwise _)).2
  | divided htag yes no next ihYes ihNo ihNext =>
    rw [divided_append] at h
    rcases eq_choice_of_tokens hothers htag h.symm with
      ⟨yes', next', rfl, hyes⟩ | ⟨yes', no', next', rfl, hyes⟩
    · cases (ihYes hyes.symm (.otherwise _) (.endChoice _)).2
    · obtain ⟨rfl, hdivide⟩ := ihYes hyes.symm (.otherwise _) (.otherwise _)
      obtain ⟨rfl, hclose⟩ := ihNo (List.cons.inj hdivide).2 (.endChoice _) (.endChoice _)
      obtain ⟨rfl, hend⟩ := ihNext (List.cons.inj hclose).2 hrest hothers
      exact ⟨rfl, hend⟩
  | loop htag body next ihBody ihNext =>
    rw [loop_append] at h
    obtain ⟨body', next', rfl, hbody⟩ := eq_loop_of_tokens hothers htag h.symm
    obtain ⟨rfl, hclose⟩ := ihBody hbody.symm (.endLoop _) (.endLoop _)
    obtain ⟨rfl, hend⟩ := ihNext (List.cons.inj hclose).2 hrest hothers
    exact ⟨rfl, hend⟩

theorem tokens_injective {d e : Derivation} (h : d.tokens = e.tokens) : d = e := by
  have happend : d.tokens ++ [] = e.tokens ++ [] := by rw [h]
  exact (tokens_append_inj happend .end .end).1

end Derivation

/-- The tokens that a tree stands for, its tags with single spaces. -/
def Tree.tokens : Tree → List Token
  | done => []
  | text content next => .text content.toList :: next.tokens
  | insertion name next => .insertion name.toList :: next.tokens
  | choice condition yes no next =>
    .block ("if ".toList ++ condition.toList) :: yes.tokens ++
      (if no = done then [] else .otherwise :: no.tokens) ++ .endChoice :: next.tokens
  | loop item items body next =>
    .block ("for ".toList ++ item.toList ++ " in ".toList ++ items.toList) :: body.tokens ++
      .endLoop :: next.tokens

/-- A block tag with single spaces. -/
def Token.tidy : Token → Token
  | .block tag => .block ([' '].intercalate (Text.words tag))
  | token => token

/-- Leaves out the other side of a choice where there is nothing on it. -/
def dropEmptySides : List Token → List Token
  | [] => []
  | token :: rest =>
    if token = .otherwise ∧ rest.head? = some .endChoice then dropEmptySides rest
    else token :: dropEmptySides rest

theorem dropEmptySides_cons {token : Token} (h : token ≠ .otherwise) (rest : List Token) :
    dropEmptySides (token :: rest) = token :: dropEmptySides rest :=
  if_neg fun hside => h hside.1

theorem IsChoice.tidy_eq {tag condition : List Char} (h : IsChoice tag condition) :
    (Token.block tag).tidy = .block ("if ".toList ++ condition) := by
  rw [Token.tidy, h.words_eq]
  simp [List.intercalate]

theorem IsLoop.tidy_eq {tag item items : List Char} (h : IsLoop tag item items) :
    (Token.block tag).tidy = .block ("for ".toList ++ item ++ " in ".toList ++ items) := by
  rw [Token.tidy, h.words_eq]
  simp [List.intercalate]

namespace Derivation

theorem tree_eq_done_iff {d : Derivation} : d.tree = .done ↔ d = done := by
  cases d <;> simp [tree]

theorem head?_tidy_ne_endChoice {d : Derivation} (h : d ≠ done) (rest : List Token) :
    (d.tokens.map Token.tidy ++ rest).head? ≠ some .endChoice := by
  cases d with
  | done => exact absurd rfl h
  | text | insertion => simp [tokens, Token.tidy, Token.endChoice]
  | choice htag | divided htag => simp [tokens, htag.tidy_eq, Token.endChoice]
  | loop htag => simp [tokens, htag.tidy_eq, Token.endChoice]

@[simp] theorem tidy_otherwise : Token.otherwise.tidy = .otherwise := by decide

@[simp] theorem tidy_endChoice : Token.endChoice.tidy = .endChoice := by decide

@[simp] theorem tidy_endLoop : Token.endLoop.tidy = .endLoop := by decide

/-- The tree of a derivation holds its tokens, tidied. -/
theorem dropEmptySides_tokens (d : Derivation) (rest : List Token) :
    dropEmptySides (d.tokens.map Token.tidy ++ rest) = d.tree.tokens ++ dropEmptySides rest := by
  induction d generalizing rest with
  | done => rfl
  | text chars next ih =>
    simp only [tokens, List.map_cons, Token.tidy, List.cons_append]
    rw [dropEmptySides_cons (by simp [Token.otherwise]), ih, tree, Tree.tokens,
      String.toList_ofList, List.cons_append]
  | insertion name h next ih =>
    simp only [tokens, List.map_cons, Token.tidy, List.cons_append]
    rw [dropEmptySides_cons (by simp [Token.otherwise]), ih, tree, Tree.tokens,
      String.toList_ofList, List.cons_append]
  | @choice tag condition h yes next ihYes ihNext =>
    have hopen : Token.block ("if ".toList ++ condition) ≠ .otherwise := by simp [Token.otherwise]
    simp only [tokens, List.map_append, List.map_cons, h.tidy_eq, tidy_endChoice,
      List.append_assoc, List.cons_append]
    rw [dropEmptySides_cons hopen, ihYes, dropEmptySides_cons (by decide), ihNext]
    simp [tree, Tree.tokens]
  | @divided tag condition h yes no next ihYes ihNo ihNext =>
    have hopen : Token.block ("if ".toList ++ condition) ≠ .otherwise := by simp [Token.otherwise]
    simp only [tokens, List.map_append, List.map_cons, h.tidy_eq, tidy_otherwise, tidy_endChoice,
      List.append_assoc, List.cons_append]
    rw [dropEmptySides_cons hopen, ihYes]
    -- The dividing tag goes exactly if the closing tag comes right after it.
    by_cases hno : no = done
    · subst hno
      rw [dropEmptySides, if_pos ⟨rfl, rfl⟩, ihNo, dropEmptySides_cons (by decide), ihNext]
      simp [tree, Tree.tokens]
    · rw [dropEmptySides, if_neg fun hside => head?_tidy_ne_endChoice hno _ hside.2, ihNo,
        dropEmptySides_cons (by decide), ihNext]
      simp [tree, Tree.tokens, tree_eq_done_iff, hno]
  | @loop tag item items h body next ihBody ihNext =>
    have hopen : Token.block ("for ".toList ++ item ++ " in ".toList ++ items) ≠ .otherwise := by
      simp [Token.otherwise]
    simp only [tokens, List.map_append, List.map_cons, h.tidy_eq, tidy_endLoop, List.append_assoc,
      List.cons_append]
    simp only [List.append_assoc] at hopen
    rw [dropEmptySides_cons hopen, ihBody, dropEmptySides_cons (by decide), ihNext]
    simp [tree, Tree.tokens]

end Derivation

/-- Exactly the sequences of tokens that are properly nested are read. Each has one derivation, the
tree is that of the derivation, and it holds all tokens, up to the blanks within tags and to other
sides without anything on them. -/
theorem Tree.ofTokens_derives (tokens : List Token) :
    (∀ tree, ofTokens tokens = .ok tree ↔ ∃! d : Derivation, d.tokens = tokens ∧ d.tree = tree) ∧
      (∀ d e : Derivation, d.tokens = tokens → e.tokens = tokens → d = e) ∧
      (∀ tree, ofTokens tokens = .ok tree →
        tree.tokens = dropEmptySides (tokens.map Token.tidy)) ∧
      ((¬∃ d : Derivation, d.tokens = tokens) ↔ ∃ problem, ofTokens tokens = .error problem) := by
  have hunique (d e : Derivation) (hd : d.tokens = tokens) (he : e.tokens = tokens) : d = e :=
    Derivation.tokens_injective (hd.trans he.symm)
  refine ⟨fun tree => ?_, hunique, fun tree htree => ?_, ?_⟩
  · rw [ofTokens_eq_ok_iff]
    constructor
    · rintro ⟨d, htokens, htree⟩
      exact ⟨d, ⟨htokens, htree⟩, fun e he => hunique e d he.1 htokens⟩
    · rintro ⟨d, hd, -⟩
      exact ⟨d, hd⟩
  · obtain ⟨d, rfl, rfl⟩ := ofTokens_eq_ok_iff.mp htree
    have hheld := d.dropEmptySides_tokens []
    rw [List.append_nil] at hheld
    exact (hheld.trans (List.append_nil _)).symm
  · cases hread : ofTokens tokens with
    | ok tree =>
      obtain ⟨d, htokens, -⟩ := ofTokens_eq_ok_iff.mp hread
      exact iff_of_false (fun hnone => hnone ⟨d, htokens⟩) (by rintro ⟨_, herror⟩; cases herror)
    | error problem =>
      refine iff_of_true ?_ ⟨problem, rfl⟩
      rintro ⟨d, htokens⟩
      rw [ofTokens_eq_ok_iff.mpr ⟨d, htokens, rfl⟩] at hread
      cases hread

end HolderInjection.Template
