import HolderInjection.Proofs.TemplateTags

/-!
# Derivations of templates

A template derives from a sequence of text, insertions, choices and loops that are properly nested.
The tokens that are read are exactly those of a derivation, there is one derivation only, and the
tree is that of the derivation.
-/

namespace HolderInjection.Template

/-- How a sequence of tokens is made up. -/
inductive Derivation where
  | done
  | text (chars : List Char) (next : Derivation)
  | insertion (name : List Char) (h : isName name) (next : Derivation)
  /-- A choice of one side. -/
  | choice {tag condition : List Char} (h : IsChoice tag condition) (yes next : Derivation)
  | divided {tag condition : List Char} (h : IsChoice tag condition) (yes no next : Derivation)
  | loop {tag item items : List Char} (h : IsLoop tag item items) (body next : Derivation)

namespace Token

def otherwise : Token := .block "else".toList

def endChoice : Token := .block "endif".toList

def endLoop : Token := .block "endfor".toList

end Token

namespace Derivation

def tokens : Derivation → List Token
  | done => []
  | text chars next => .text chars :: next.tokens
  | insertion name _ next => .insertion name :: next.tokens
  | @choice tag _ _ yes next => .block tag :: yes.tokens ++ .endChoice :: next.tokens
  | @divided tag _ _ yes no next =>
    .block tag :: yes.tokens ++ .otherwise :: no.tokens ++ .endChoice :: next.tokens
  | @loop tag _ _ _ body next => .block tag :: body.tokens ++ .endLoop :: next.tokens

def tree : Derivation → Tree
  | done => .done
  | text chars next => .text (String.ofList chars) next.tree
  | insertion name _ next => .insertion (String.ofList name) next.tree
  | @choice _ condition _ yes next =>
    .choice (String.ofList condition) yes.tree .done next.tree
  | @divided _ condition _ yes no next =>
    .choice (String.ofList condition) yes.tree no.tree next.tree
  | @loop _ item items _ body next =>
    .loop (String.ofList item) (String.ofList items) body.tree next.tree

/-- A sequence followed by another. -/
def append : Derivation → Derivation → Derivation
  | done, rest => rest
  | text chars next, rest => text chars (next.append rest)
  | insertion name h next, rest => insertion name h (next.append rest)
  | choice h yes next, rest => choice h yes (next.append rest)
  | divided h yes no next, rest => divided h yes no (next.append rest)
  | loop h body next, rest => loop h body (next.append rest)

section

variable {tag condition item items : List Char} (rest : List Token)

theorem choice_append (h : IsChoice tag condition) (yes next : Derivation) :
    (choice h yes next).tokens ++ rest =
      .block tag :: (yes.tokens ++ .endChoice :: (next.tokens ++ rest)) := by
  simp [tokens]

theorem divided_append (h : IsChoice tag condition) (yes no next : Derivation) :
    (divided h yes no next).tokens ++ rest = .block tag ::
      (yes.tokens ++ .otherwise :: (no.tokens ++ .endChoice :: (next.tokens ++ rest))) := by
  simp [tokens]

theorem loop_append (h : IsLoop tag item items) (body next : Derivation) :
    (loop h body next).tokens ++ rest =
      .block tag :: (body.tokens ++ .endLoop :: (next.tokens ++ rest)) := by
  simp [tokens]

end

theorem tokens_append (d e : Derivation) : (d.append e).tokens = d.tokens ++ e.tokens := by
  induction d with
  | done => rfl
  | text _ _ ih | insertion _ _ _ ih => simp [append, tokens, ih]
  | choice _ _ _ _ ih | loop _ _ _ _ ih => simp [append, tokens, ih]
  | divided _ _ _ _ _ _ ih => simp [append, tokens, ih]

theorem tree_append (d e : Derivation) : (d.append e).tree = d.tree ++ e.tree := by
  induction d with
  | done => rfl
  | text _ _ ih | insertion _ _ _ ih => rw [append, tree, ih]; rfl
  | choice _ _ _ _ ih | loop _ _ _ _ ih => rw [append, tree, ih]; rfl
  | divided _ _ _ _ _ _ ih => rw [append, tree, ih]; rfl

end Derivation

/-! What has been read is known at every token: the open blocks are the tags that have not been
closed, and the trees in between have derivations. -/

/-- Which tokens lead to the open blocks and the sequence at hand. -/
inductive Reads : List Token → Progress → Prop where
  | top (d : Derivation) : Reads d.tokens ⟨[], d.tree⟩
  | choice {consumed : List Token} {blocks : List OpenBlock} {outer : Tree}
      {tag condition : List Char} (h : Reads consumed ⟨blocks, outer⟩)
      (htag : IsChoice tag condition) (d : Derivation) :
      Reads (consumed ++ .block tag :: d.tokens)
        ⟨.choice (String.ofList condition) outer :: blocks, d.tree⟩
  | otherwise {consumed : List Token} {blocks : List OpenBlock} {outer : Tree}
      {tag condition : List Char} (h : Reads consumed ⟨blocks, outer⟩)
      (htag : IsChoice tag condition) (yes no : Derivation) :
      Reads (consumed ++ .block tag :: yes.tokens ++ .otherwise :: no.tokens)
        ⟨.otherwise (String.ofList condition) yes.tree outer :: blocks, no.tree⟩
  | loop {consumed : List Token} {blocks : List OpenBlock} {outer : Tree}
      {tag item items : List Char} (h : Reads consumed ⟨blocks, outer⟩)
      (htag : IsLoop tag item items) (d : Derivation) :
      Reads (consumed ++ .block tag :: d.tokens)
        ⟨.loop (String.ofList item) (String.ofList items) outer :: blocks, d.tree⟩

namespace Reads

variable {consumed : List Token} {progress next : Progress}

/-- Whatever is derived extends the sequence at hand. -/
theorem extend (h : Reads consumed progress) (d : Derivation) :
    Reads (consumed ++ d.tokens) (progress.extend d.tree) := by
  cases h with
  | top e =>
    have htop := Reads.top (e.append d)
    rw [Derivation.tokens_append, Derivation.tree_append] at htop
    exact htop
  | choice h htag e =>
    have hchoice := Reads.choice h htag (e.append d)
    rw [Derivation.tokens_append, Derivation.tree_append] at hchoice
    simpa [Progress.extend] using hchoice
  | otherwise h htag yes no =>
    have hotherwise := Reads.otherwise h htag yes (no.append d)
    rw [Derivation.tokens_append, Derivation.tree_append] at hotherwise
    simpa [Progress.extend] using hotherwise
  | loop h htag e =>
    have hloop := Reads.loop h htag (e.append d)
    rw [Derivation.tokens_append, Derivation.tree_append] at hloop
    simpa [Progress.extend] using hloop

theorem follow {tag : List Char} {directive : Directive} (h : Reads consumed progress)
    (hspelled : directive.Spelled tag) (hnext : progress.follow tag directive = .ok next) :
    Reads (consumed ++ [.block tag]) next := by
  -- A closing tag makes the innermost block a part of the sequence that it interrupted.
  cases hspelled with
  | choice htag =>
    cases hnext
    exact .choice h htag .done
  | loop htag =>
    cases hnext
    exact .loop h htag .done
  | otherwise =>
    unfold Progress.follow at hnext
    cases h with
    | choice h htag yes =>
      cases hnext
      exact .otherwise h htag yes .done
    | top | otherwise | loop => cases hnext
  | endChoice =>
    unfold Progress.follow at hnext
    cases h with
    | choice h htag yes =>
      cases hnext
      rw [List.append_assoc]
      exact h.extend (.choice htag yes .done)
    | otherwise h htag yes no =>
      cases hnext
      rw [List.append_assoc, List.append_assoc, ← List.append_assoc (.block _ :: yes.tokens)]
      exact h.extend (.divided htag yes no .done)
    | top | loop => cases hnext
  | endLoop =>
    unfold Progress.follow at hnext
    cases h with
    | loop h htag body =>
      cases hnext
      rw [List.append_assoc]
      exact h.extend (.loop htag body .done)
    | top | choice | otherwise => cases hnext

theorem step {token : Token} (h : Reads consumed progress) (hstep : progress.step token = .ok next) :
    Reads (consumed ++ [token]) next := by
  cases token with
  | text chars =>
    cases hstep
    exact h.extend (.text chars .done)
  | insertion expression =>
    simp only [Progress.step] at hstep
    split at hstep
    case isTrue hname =>
      cases hstep
      exact h.extend (.insertion expression hname .done)
    case isFalse => cases hstep
  | block tag =>
    simp only [Progress.step] at hstep
    cases hread : Directive.read tag with
    | error problem =>
      rw [hread] at hstep
      cases hstep
    | ok directive =>
      rw [hread] at hstep
      exact h.follow (Directive.read_eq_ok_iff.mp hread) hstep

theorem run {tokens : List Token} (h : Reads consumed progress)
    (hrun : tokens.foldlM Progress.step progress = .ok next) : Reads (consumed ++ tokens) next := by
  induction tokens generalizing consumed progress with
  | nil =>
    cases hrun
    rwa [List.append_nil]
  | cons token tokens ih =>
    rw [List.foldlM_cons] at hrun
    cases hstep : progress.step token with
    | error problem =>
      rw [hstep] at hrun
      cases hrun
    | ok middle =>
      rw [hstep] at hrun
      have hrest := ih (h.step hstep) hrun
      rwa [List.append_assoc] at hrest

/-- At the end no block is open. -/
theorem exists_of_finish {tree : Tree} (h : Reads consumed progress)
    (hfinish : progress.finish = .ok tree) :
    ∃ d : Derivation, d.tokens = consumed ∧ d.tree = tree := by
  cases h with
  | top d =>
    cases hfinish
    exact ⟨d, rfl, rfl⟩
  | choice | otherwise | loop => cases hfinish

end Reads

/-! The tokens of a derivation are read whatever is open and whatever follows. -/

namespace Progress

theorem extend_done (progress : Progress) : progress.extend .done = progress := by
  rw [extend, Tree.append_done]

theorem extend_extend (progress : Progress) (first second : Tree) :
    (progress.extend first).extend second = progress.extend (first ++ second) := by
  simp only [extend, Tree.append_assoc]

theorem step_block {tag : List Char} {directive : Directive} (h : directive.Spelled tag)
    (progress : Progress) : progress.step (.block tag) = progress.follow tag directive := by
  simp only [step]
  rw [Directive.read_eq_ok_iff.mpr h]
  rfl

theorem foldlM_cons_of_step {progress next : Progress} {token : Token}
    (h : progress.step token = .ok next) (rest : List Token) :
    (token :: rest).foldlM step progress = rest.foldlM step next := by
  rw [List.foldlM_cons, h]
  rfl

end Progress

namespace Derivation

/-- Reading a derivation extends the sequence at hand by its tree. -/
theorem foldlM_tokens (d : Derivation) (progress : Progress) (rest : List Token) :
    (d.tokens ++ rest).foldlM Progress.step progress =
      rest.foldlM Progress.step (progress.extend d.tree) := by
  -- The open blocks are any, since the sides of a choice are read while it is open.
  induction d generalizing progress rest with
  | done => rw [tree, Progress.extend_done]; rfl
  | text chars next ih =>
    have hstep : progress.step (.text chars) =
      .ok (progress.extend (.text (String.ofList chars) .done)) := rfl
    rw [tokens, List.cons_append, Progress.foldlM_cons_of_step hstep, ih, Progress.extend_extend]
    rfl
  | insertion name h next ih =>
    have hstep : progress.step (.insertion name) =
      .ok (progress.extend (.insertion (String.ofList name) .done)) := if_pos h
    rw [tokens, List.cons_append, Progress.foldlM_cons_of_step hstep, ih, Progress.extend_extend]
    rfl
  | @choice tag condition h yes next ihYes ihNext =>
    let block := OpenBlock.choice (String.ofList condition) progress.current
    have hopen : progress.step (.block tag) = .ok (progress.push block) :=
      Progress.step_block (.choice h) progress
    have hclose : ((progress.push block).extend yes.tree).step .endChoice =
        .ok (progress.extend (.choice (String.ofList condition) yes.tree .done .done)) :=
      Progress.step_block .endChoice _
    rw [choice_append, Progress.foldlM_cons_of_step hopen, ihYes,
      Progress.foldlM_cons_of_step hclose, ihNext, Progress.extend_extend]
    rfl
  | @divided tag condition h yes no next ihYes ihNo ihNext =>
    let block := OpenBlock.choice (String.ofList condition) progress.current
    let other := OpenBlock.otherwise (String.ofList condition) yes.tree progress.current
    have hopen : progress.step (.block tag) = .ok (progress.push block) :=
      Progress.step_block (.choice h) progress
    have hdivide : ((progress.push block).extend yes.tree).step .otherwise =
        .ok (progress.push other) :=
      Progress.step_block .otherwise _
    have hclose : ((progress.push other).extend no.tree).step .endChoice =
        .ok (progress.extend (.choice (String.ofList condition) yes.tree no.tree .done)) :=
      Progress.step_block .endChoice _
    rw [divided_append, Progress.foldlM_cons_of_step hopen, ihYes,
      Progress.foldlM_cons_of_step hdivide, ihNo, Progress.foldlM_cons_of_step hclose, ihNext,
      Progress.extend_extend]
    rfl
  | @loop tag item items h body next ihBody ihNext =>
    let block := OpenBlock.loop (String.ofList item) (String.ofList items) progress.current
    have hopen : progress.step (.block tag) = .ok (progress.push block) :=
      Progress.step_block (.loop h) progress
    have hclose : ((progress.push block).extend body.tree).step .endLoop =
        .ok (progress.extend
          (.loop (String.ofList item) (String.ofList items) body.tree .done)) :=
      Progress.step_block .endLoop _
    rw [loop_append, Progress.foldlM_cons_of_step hopen, ihBody,
      Progress.foldlM_cons_of_step hclose, ihNext, Progress.extend_extend]
    rfl

end Derivation

/-- Exactly the tokens of derivations are read, and come to the tree of a derivation. -/
theorem Tree.ofTokens_eq_ok_iff {tokens : List Token} {tree : Tree} :
    ofTokens tokens = .ok tree ↔ ∃ d : Derivation, d.tokens = tokens ∧ d.tree = tree := by
  constructor
  · intro h
    unfold ofTokens at h
    cases hrun : tokens.foldlM Progress.step {} with
    | error problem =>
      rw [hrun] at h
      cases h
    | ok progress =>
      rw [hrun] at h
      exact ((Reads.top .done).run hrun).exists_of_finish h
  · rintro ⟨d, rfl, rfl⟩
    have hrun := d.foldlM_tokens {} []
    rw [List.append_nil] at hrun
    unfold ofTokens
    rw [hrun]
    rfl

end HolderInjection.Template
