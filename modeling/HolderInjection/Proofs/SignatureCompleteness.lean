import HolderInjection.Proofs.SignatureCuts
import HolderInjection.Proofs.SignatureSoundness

/-!
# Every text of the grammar is read as its type

A text of the grammar is cut where its rule put the tokens, so its parts are read as the types they
derive. Together with soundness, a signature is read as a type exactly if it derives that type.
-/

namespace HolderInjection.TypeExpr

open Lexeme (ofText text spell trim plain arrow opener closer comma Balanced Guarded Sealed
  isPlainChar_append isPlainChar_of_isBlank isPlainChar_of_isQualified)

theorem read_ne_ok_nil (type : TypeExpr) : read [] ≠ .ok type := by
  rw [read_eq_ofShape]
  exact nofun

theorem readArgument_ne_ok_nil (type : TypeExpr) : readArgument [] ≠ .ok type := by
  rw [readArgument, if_neg (by decide)]
  exact read_ne_ok_nil type

theorem read_trim (signature : List Lexeme) : read (trim signature) = read signature := by
  rw [read_eq_ofShape, Lexeme.trim_trim, ← read_eq_ofShape]

/-- The question mark after a primary, if there is one. -/
def markOf (marked : Bool) : List Char :=
  if marked then ['?'] else []

/-- The type of a primary with or without a question mark. -/
def markedType (marked : Bool) (type : TypeExpr) : TypeExpr :=
  if marked then nullable type else type

/-- How the text of a phrase is read where the phrase stands. -/
def Reads : Phrase → List Char → TypeExpr → Prop
  | .type, text, type => read (ofText text) = .ok type
  | .primary, text, type =>
    ∀ (marked : Bool) tail, Text.isBlank tail → (marked → ¬type.isNullable) →
      read (ofText (text ++ markOf marked ++ tail)) = .ok (markedType marked type)
  | .argument, text, type => readArgument (trim (ofText text)) = .ok type
  | .result, text, type =>
      (if spell (trim (ofText text)) ∈ unitNames then .ok unit
        else read (trim (ofText text))) = .ok type ∧ trim (ofText text) ≠ []

theorem isPlainChar_markOf (marked : Bool) : ∀ c ∈ markOf marked, Lexeme.isPlainChar c := by
  apply List.all_eq_true.mp
  cases marked <;> decide

theorem trim_mark (marked : Bool) {front tail : List Char} (hfront : Text.isBlank front)
    (htail : Text.isBlank tail) :
    trim ((front ++ markOf marked ++ tail).map plain) = (markOf marked).map plain := by
  rw [List.map_append, List.map_append, Lexeme.trim_pad (Lexeme.isBlank_of_mem_map_plain hfront)
    (Lexeme.isBlank_of_mem_map_plain htail)]
  cases marked <;> rfl

theorem ofText_marked {characters tail : List Char} (marked : Bool)
    (h : ∀ c ∈ characters, Lexeme.isPlainChar c) (htail : Text.isBlank tail) :
    ofText (characters ++ markOf marked ++ tail) =
      (characters ++ markOf marked ++ tail).map plain :=
  Lexeme.ofText_plain (Lexeme.isPlainChar_append
    (Lexeme.isPlainChar_append h (isPlainChar_markOf marked)) (Lexeme.isPlainChar_of_isBlank htail))

theorem trim_name {name : List Char} (h : Name.isQualified name) :
    trim (name.map plain) = name.map plain := by
  apply Text.trimWhile_eq_self_of_forall
  intro x hx
  obtain ⟨c, hc, rfl⟩ := List.mem_map.mp hx
  exact Name.not_isBlankChar_of_isNameChar (Name.isNameChar_of_mem h c hc)

theorem trim_name_append {name gap : List Char} (h : Name.isQualified name)
    (hgap : Text.isBlank gap) : trim ((name ++ gap).map plain) = name.map plain := by
  have hpad : trim ([] ++ name.map plain ++ gap.map plain) = _ :=
    Lexeme.trim_pad (by simp) (Lexeme.isBlank_of_mem_map_plain hgap)
  rwa [List.nil_append, trim_name h, ← List.map_append] at hpad

theorem read_name {name front tail : List Char} (h : Name.isQualified name)
    (hfront : Text.isBlank front) (htail : Text.isBlank tail) :
    read ((front ++ name ++ tail).map plain) = .ok (simple (String.ofList name)) := by
  have hlast : (name.map plain).getLast? ≠ some Shape.questionMark := by
    intro hlast
    obtain ⟨c, hc, hquestion⟩ := List.mem_map.mp (List.mem_of_getLast? hlast)
    cases hquestion
    exact absurd (Name.isNameChar_of_mem h '?' hc) (by decide)
  rw [read_eq_ofShape, List.map_append, List.map_append,
    Lexeme.trim_pad (Lexeme.isBlank_of_mem_map_plain hfront)
      (Lexeme.isBlank_of_mem_map_plain htail),
    trim_name h, Shape.of_plain (Name.ne_nil_of_isQualified h), Shape.ofSuffix, if_neg hlast]
  change ofName (name.map plain) = _
  rw [ofName, spell, text_map_plain, if_pos h]

theorem reads_name {name : String} {front gap : List Char} (h : Name.isQualified name.toList)
    (hfront : Text.isBlank front) (hgap : Text.isBlank gap) :
    Reads .primary (front ++ name.toList ++ gap) (simple name) := by
  intro marked tail htail _
  have hplain := isPlainChar_append (isPlainChar_append (isPlainChar_of_isBlank hfront)
    (isPlainChar_of_isQualified h)) (isPlainChar_of_isBlank hgap)
  rw [ofText_marked marked hplain htail]
  cases marked with
  | false =>
    have hread := read_name h hfront (Text.isBlank_append hgap htail)
    rw [String.ofList_toList] at hread
    simpa [markOf, markedType] using hread
  | true =>
    have hread : read (([] ++ name.toList ++ gap).map plain) = _ := read_name h rfl hgap
    rw [String.ofList_toList, List.nil_append] at hread
    have htrim : trim ((front ++ name.toList ++ gap ++ markOf true ++ tail).map plain) =
        (name.toList ++ gap ++ ['?']).map plain := by
      have hne : name.toList.map plain ≠ [] := by simpa using Name.ne_nil_of_isQualified h
      have hfirst : ∀ x ∈ (name.toList.map plain ++ gap.map plain).head?, ¬Lexeme.isBlank x := by
        rw [List.head?_append_of_ne_nil _ hne, ← trim_name h]
        exact Text.not_of_mem_head?_trimWhile
      have hmark : ¬Lexeme.isBlank Shape.questionMark := by decide
      have hcore := Text.trimWhile_core (Lexeme.isBlank_of_mem_map_plain hfront) hfirst hmark
        (tail.map plain)
      rw [Text.dropEndWhile_eq_nil (Lexeme.isBlank_of_mem_map_plain htail)] at hcore
      simpa [trim, markOf, Shape.questionMark] using hcore
    rw [read_eq_ofShape, htrim, Shape.of_plain (by simp), Shape.ofSuffix, if_pos (by simp; rfl)]
    change read _ >>= mark _ = _
    rw [← List.map_dropLast, List.dropLast_concat, hread]
    rfl

/-- Blanks around a bracketed text and a question mark behind it are all that trimming removes. -/
theorem exists_trim_enclosed (bracket : Bracket) {front content gap tail : List Char}
    (before : List Char) (marked : Bool) (hfront : Text.isBlank front)
    (hbefore : ∀ c ∈ before, Lexeme.isPlainChar c)
    (hfirst : ∀ c ∈ before.head?, ¬Text.isBlankChar c) (hcontent : content.getLast? ≠ some '-')
    (hgap : Text.isBlank gap) (htail : Text.isBlank tail) :
    ∃ after : List Char, trim (ofText (front ++ before ++ bracket.opening :: content ++
        bracket.closing :: (gap ++ markOf marked ++ tail))) =
          before.map plain ++ opener bracket :: ofText content ++
            closer bracket :: after.map plain ∧
      trim (after.map plain) = (markOf marked).map plain := by
  have hsplit : ofText (front ++ before ++ bracket.opening :: content ++
      bracket.closing :: (gap ++ markOf marked ++ tail)) =
        front.map plain ++ (before.map plain ++ opener bracket :: ofText content) ++
          closer bracket :: (gap ++ markOf marked ++ tail).map plain := by
    rw [Lexeme.ofText_enclosed bracket _
      (isPlainChar_append (isPlainChar_of_isBlank hfront) hbefore) hcontent,
      ofText_marked marked (isPlainChar_of_isBlank hgap) htail]
    simp
  have hhead : ∀ x ∈ (before.map plain ++ opener bracket :: ofText content).head?,
      ¬Lexeme.isBlank x := by
    cases before with
    | nil => simp [Lexeme.isBlank]
    | cons c before => simpa [Lexeme.isBlank] using hfirst c rfl
  have hcore := Text.trimWhile_core (x := closer bracket) (Lexeme.isBlank_of_mem_map_plain hfront)
    hhead (by simp [Lexeme.isBlank]) ((gap ++ markOf marked ++ tail).map plain)
  obtain ⟨blank, hafter, -⟩ :=
    Text.exists_dropEndWhile Lexeme.isBlank ((gap ++ markOf marked ++ tail).map plain)
  obtain ⟨after, -, -, hplain, -⟩ := List.map_eq_append_iff.mp hafter
  refine ⟨after, ?_, ?_⟩
  · rw [hsplit, trim, hcore, hplain]
  · rw [hplain, trim, Text.trimWhile_dropEndWhile]
    exact trim_mark marked hgap htail

/-- A base that begins with the word before a function is that word, before a space. -/
theorem eq_of_word_prefix {base gap : List Char} (hbase : Name.isQualified base)
    (hgap : Text.isBlank gap) (h : "suspend ".toList <+: base ++ gap) :
    base = "suspend".toList ∧ gap.head? = some ' ' := by
  obtain ⟨tail, htail⟩ := h
  have hsplit : "suspend".toList ++ ' ' :: tail = base ++ gap := htail
  rcases List.append_eq_append_iff.mp hsplit with ⟨more, hmore, hrest⟩ | ⟨more, hmore, hrest⟩
  · cases more with
    | nil =>
      rw [List.append_nil] at hmore
      rw [List.nil_append] at hrest
      exact ⟨hmore, by rw [← hrest]; rfl⟩
    | cons c more =>
      obtain ⟨rfl, -⟩ := List.cons_eq_cons.mp hrest
      have hmem : ' ' ∈ base := by rw [hmore]; simp
      exact absurd (Name.isNameChar_of_mem hbase ' ' hmem) (by decide)
  · cases more with
    | nil =>
      rw [List.append_nil] at hmore
      rw [List.nil_append] at hrest
      exact ⟨hmore.symm, by rw [hrest]; rfl⟩
    | cons c more =>
      have hmem : c ∈ "suspend".toList := by rw [hmore]; simp
      have hblank : Text.isBlankChar c := List.all_eq_true.mp hgap c (by rw [hrest]; simp)
      have hnone : "suspend".toList.all (fun d => Text.isBlankChar d = false) = true := by decide
      have hword := of_decide_eq_true (List.all_eq_true.mp hnone c hmem)
      rw [hword] at hblank
      cases hblank

theorem reads_enclosed {front inner gap : List Char} {type : TypeExpr} (hfront : Text.isBlank front)
    (hgap : Text.isBlank gap) (hsealed : Sealed inner) (h : Reads .type inner type) :
    Reads .primary (front ++ '(' :: inner ++ ')' :: gap) type := by
  intro marked tail htail hmark
  have hread : read (ofText inner) = .ok type := h
  obtain ⟨after, htrim, hafter⟩ := exists_trim_enclosed .round [] marked hfront (by simp) (by simp)
    hsealed.whole hgap htail
  have hshape := Shape.of_bracketed .round [] after hsealed.balanced <| by
    intro _ hword
    rw [List.append_assoc] at hword
    exact absurd (Shape.word_prefix hword) (by decide)
  rw [List.map_nil, List.nil_append] at hshape htrim
  have htext : front ++ '(' :: inner ++ ')' :: gap ++ markOf marked ++ tail =
      front ++ [] ++ Bracket.round.opening :: inner ++
        Bracket.round.closing :: (gap ++ markOf marked ++ tail) := by
    simp [Bracket.opening, Bracket.closing]
  rw [htext, read_eq_ofShape, htrim, hshape, Shape.ofValue_enclosed hsealed.balanced, hafter]
  change read (ofText inner) >>= ofRemainder _ _ = _
  rw [hread]
  change ofRemainder _ _ type = _
  cases marked with
  | false => rfl
  | true =>
    change mark _ type = _
    rw [mark, if_neg (hmark rfl)]
    rfl

/-- The items of a list that is not empty are found and read one by one. -/
theorem exists_items {f : List Lexeme → Except Problem TypeExpr} {content : List Char}
    {args : List (List Char × TypeExpr)} (hnil : ∀ type, f [] ≠ .ok type) (hne : args ≠ [])
    (hlisted : Listed (args.map (·.1)) content) (hsealed : ∀ arg ∈ args, Sealed arg.1)
    (hargs : ∀ arg ∈ args, f (trim (ofText arg.1)) = .ok arg.2) :
    ∃ items, Shape.listItems (trim (ofText content)) = .ok items ∧ trim (ofText content) ≠ [] ∧
      items.mapM f = .ok (args.map (·.2)) := by
  have hlist := Shape.listItems_of_listed hlisted (by simpa using hne) (sealed_fst hsealed)
  rw [List.map_map] at hlist
  refine ⟨_, hlist, Shape.listItems_ne_nil hlist ?_, ?_⟩
  · intro item hitem hempty
    obtain ⟨arg, harg, rfl⟩ := List.mem_map.mp hitem
    have hread := hargs arg harg
    rw [Function.comp_apply] at hempty
    rw [hempty] at hread
    exact hnil arg.2 hread
  · have hpairs : ∀ pair ∈ args.map fun arg => (trim (ofText arg.1), arg.2),
        f pair.1 = .ok pair.2 := by
      intro pair hpair
      obtain ⟨arg, harg, rfl⟩ := List.mem_map.mp hpair
      exact hargs arg harg
    have hmap := mapM_of_pairs hpairs
    rw [List.map_map, List.map_map] at hmap
    exact hmap

theorem reads_generic {base : String} {front space content gap : List Char}
    {args : List (List Char × TypeExpr)} (hbase : Name.isQualified base.toList)
    (hfront : Text.isBlank front) (hspace : Text.isBlank space) (hgap : Text.isBlank gap)
    (hne : args ≠ []) (hlisted : Listed (args.map (·.1)) content)
    (hsealed : ∀ arg ∈ args, Sealed arg.1) (hargs : ∀ arg ∈ args, Reads .argument arg.1 arg.2)
    (hword : base = "suspend" → space.head? = some ' ' → ¬['-', '>'] <:+: content) :
    Reads .primary (front ++ base.toList ++ space ++ '<' :: content ++ '>' :: gap)
      (generic base (args.map (·.2))) := by
  intro marked tail htail _
  obtain ⟨items, hitems, hinside, hmap⟩ :=
    exists_items readArgument_ne_ok_nil hne hlisted hsealed hargs
  have hbalanced := balanced_listed hlisted (sealed_fst hsealed)
  have hne := Name.ne_nil_of_isQualified hbase
  obtain ⟨after, htrim, hafter⟩ := exists_trim_enclosed .angle (base.toList ++ space) marked
    hfront (isPlainChar_append (isPlainChar_of_isQualified hbase) (isPlainChar_of_isBlank hspace))
    (Name.not_isBlankChar_of_mem_head? hbase space) (whole_listed hlisted (sealed_fst hsealed)) hgap
    htail
  have htrimBase := trim_name_append hbase hspace
  have hshape := Shape.of_bracketed .angle (base.toList ++ space) after hbalanced <| by
    intro harrow hprefix
    rw [List.append_assoc] at hprefix
    obtain ⟨hsuspend, hblank⟩ := eq_of_word_prefix hbase hspace (Shape.word_prefix hprefix)
    exact hword (String.toList_inj.mp hsuspend) hblank (Lexeme.arrow_mem_ofText_iff.mp harrow)
  have hvalue := Shape.ofValue_generic (base.toList ++ space) (after.map plain) (by simp [hne])
    (by rwa [htrimBase, text_map_plain]) hbalanced hitems hinside
    (by rw [hafter]; cases marked <;> simp [markOf, Shape.questionMark])
  have htext :
      front ++ base.toList ++ space ++ '<' :: content ++ '>' :: gap ++ markOf marked ++ tail =
      front ++ (base.toList ++ space) ++ Bracket.angle.opening :: content ++
        Bracket.angle.closing :: (gap ++ markOf marked ++ tail) := by
    simp [Bracket.opening, Bracket.closing]
  rw [htext, read_eq_ofShape, htrim, hshape, hvalue, hafter, htrimBase]
  change items.mapM readArgument >>= _ = _
  rw [hmap, spell, text_map_plain, String.ofList_toList]
  cases marked <;> rfl

theorem exists_params {content : List Char} {params : List (List Char × TypeExpr)}
    (hlisted : Listed (params.map (·.1)) content) (hsealed : ∀ param ∈ params, Sealed param.1)
    (hparams : ∀ param ∈ params, Reads .type param.1 param.2) :
    ∃ items, (if trim (ofText content) = [] then .ok [] else
        Shape.listItems (trim (ofText content))) = .ok items ∧
      items.mapM read = .ok (params.map (·.2)) := by
  by_cases hempty : params = []
  · subst hempty
    obtain ⟨front, tail, hfront, htail, rfl⟩ := hlisted
    have hblank : Text.isBlank (front ++ [','].intercalate [] ++ tail) := by
      rw [List.intercalate_nil, List.append_nil]
      exact Text.isBlank_append hfront htail
    have htrim : trim (ofText (front ++ [','].intercalate [] ++ tail)) = [] := by
      have hpad : trim ((front ++ [','].intercalate [] ++ tail).map plain ++ [] ++ []) = trim [] :=
        Lexeme.trim_pad (Lexeme.isBlank_of_mem_map_plain hblank) (by simp)
      rw [List.append_nil, List.append_nil, ← Lexeme.ofText_blank hblank] at hpad
      exact hpad
    exact ⟨[], if_pos htrim, rfl⟩
  · obtain ⟨items, hitems, hne, hmap⟩ := exists_items (f := read) read_ne_ok_nil hempty hlisted
      hsealed fun param hparam => (read_trim _).trans (hparams param hparam)
    exact ⟨items, by rw [if_neg hne, hitems], hmap⟩

/-- A function keeps its word and loses the blanks around it. -/
theorem exists_trim_function (suspending : Bool) {front space : List Char}
    (core rest : List Lexeme) (hfront : Text.isBlank front) (hspace : Text.isBlank space)
    (hcore : core.head? = some (opener .round)) :
    ∃ blank : List Lexeme, (∀ x ∈ blank, Lexeme.isBlank x) ∧ (suspending = false → blank = []) ∧
      trim ((front ++ wordOf suspending ++ space).map plain ++ core ++ arrow :: rest) =
        ofText (wordOf suspending) ++ blank ++
          (core ++ arrow :: Text.dropEndWhile Lexeme.isBlank rest) := by
  cases suspending with
  | false =>
    refine ⟨[], by simp, fun _ => rfl, ?_⟩
    have hfirst : ∀ x ∈ core.head?, ¬Lexeme.isBlank x := by
      rw [hcore]
      simp [Lexeme.isBlank]
    have hblank := Lexeme.isBlank_of_mem_map_plain (Text.isBlank_append hfront hspace)
    have htrim := Text.trimWhile_core (x := arrow) hblank hfirst (by simp [Lexeme.isBlank]) rest
    simpa [trim, wordOf, ofText] using htrim
  | true =>
    refine ⟨space.map plain, Lexeme.isBlank_of_mem_map_plain hspace, ?_, ?_⟩
    · simp
    · have hword : (wordOf true).map plain = ofText (wordOf true) := rfl
      have hhead : (ofText (wordOf true) ++ space.map plain ++ core).head? = some (plain 's') := rfl
      have hfirst : ∀ x ∈ (ofText (wordOf true) ++ space.map plain ++ core).head?,
          ¬Lexeme.isBlank x := by
        intro x hx
        rw [hhead, Option.mem_some_iff] at hx
        rw [← hx]
        decide
      have htrim := Text.trimWhile_core (x := arrow) (Lexeme.isBlank_of_mem_map_plain hfront) hfirst
        (by simp [Lexeme.isBlank]) rest
      rw [List.map_append, List.map_append, hword]
      simpa [trim] using htrim

theorem ofText_function (suspending : Bool) {front space content gap : List Char}
    (text : List Char) (hfront : Text.isBlank front) (hspace : Text.isBlank space)
    (hgap : Text.isBlank gap) (hcontent : content.getLast? ≠ some '-') :
    ofText (front ++ wordOf suspending ++ space ++ '(' :: content ++ ')' :: gap ++
        '-' :: '>' :: text) =
      (front ++ wordOf suspending ++ space).map plain ++ (opener .round :: ofText content ++
        closer .round :: gap.map plain) ++ arrow :: ofText text := by
  have hhead : ∀ c ∈ front ++ wordOf suspending ++ space, Lexeme.isPlainChar c :=
    isPlainChar_append (isPlainChar_append (isPlainChar_of_isBlank hfront)
      (isPlainChar_wordOf suspending)) (isPlainChar_of_isBlank hspace)
  have henclosed := Lexeme.ofText_enclosed .round (gap ++ '-' :: '>' :: text) hhead hcontent
  rw [Lexeme.ofText_blank_append hgap, ofText] at henclosed
  simpa [Bracket.opening, Bracket.closing] using henclosed

theorem trim_function {core : List Lexeme} (result : List Lexeme)
    (hcore : core.head? = some (opener .round)) :
    trim (core ++ arrow :: Text.dropEndWhile Lexeme.isBlank result) =
      core ++ arrow :: Text.dropEndWhile Lexeme.isBlank result := by
  have hcut : trim ([] ++ core ++ arrow :: result) = _ :=
    Text.trimWhile_core (by simp) (by simp [hcore, Lexeme.isBlank]) (by simp [Lexeme.isBlank])
      result
  rw [← hcut]
  exact Lexeme.trim_trim _

/-- The type of a function is put together from its parts. -/
theorem ofShape_function {signature result : List Lexeme} {items : List (List Lexeme)}
    {types : List TypeExpr} {type : TypeExpr} (suspending : Bool)
    (hitems : items.mapM read = .ok types) (hne : result ≠ [])
    (hresult : (if spell result ∈ unitNames then .ok unit else read result) = .ok type) :
    ofShape signature (.function suspending items result) =
      .ok (function suspending types type) := by
  change (items.mapM read >>= _) = _
  rw [hitems]
  change (if _ then _ else if _ then _ else _) = _
  rw [if_neg hne]
  split at hresult
  · rename_i hunit
    cases hresult
    rw [if_pos hunit]
  · rename_i hunit
    rw [if_neg hunit, hresult]
    rfl

theorem reads_function {suspending : Bool} {front space content gap text : List Char}
    {params : List (List Char × TypeExpr)} {result : TypeExpr} (hfront : Text.isBlank front)
    (hspace : Text.isBlank space) (hgap : Text.isBlank gap)
    (hlisted : Listed (params.map (·.1)) content) (hsealed : ∀ param ∈ params, Sealed param.1)
    (hparams : ∀ param ∈ params, Reads .type param.1 param.2)
    (hresult : Reads .result text result) :
    Reads .type
      (front ++ wordOf suspending ++ space ++ '(' :: content ++ ')' :: gap ++ '-' :: '>' :: text)
      (function suspending (params.map (·.2)) result) := by
  obtain ⟨hvalue, hne⟩ := hresult
  obtain ⟨items, hitems, hmap⟩ := exists_params hlisted hsealed hparams
  have htext := ofText_function suspending text hfront hspace hgap
    (whole_listed hlisted (sealed_fst hsealed))
  obtain ⟨blank, hblank, hplain, htrim⟩ := exists_trim_function suspending
    (opener .round :: ofText content ++ closer .round :: gap.map plain) (ofText text) hfront hspace
    rfl
  have hshape := Shape.of_function hblank hplain (Lexeme.isBlank_of_mem_map_plain hgap)
    (balanced_listed hlisted (sealed_fst hsealed)) hitems (trim_function (ofText text) rfl)
  have hresult : trim (Text.dropEndWhile Lexeme.isBlank (ofText text)) = trim (ofText text) :=
    Text.trimWhile_dropEndWhile _
  change read _ = _
  rw [htext, read_eq_ofShape, htrim, hshape, hresult]
  exact ofShape_function suspending hmap hne hvalue

theorem reads_star {front tail : List Char} (hfront : Text.isBlank front)
    (htail : Text.isBlank tail) :
    Reads .argument (front ++ '*' :: tail) wildcard := by
  have hstar : ∀ c ∈ ['*'], Lexeme.isPlainChar c := List.all_eq_true.mp (by decide)
  have hplain : ∀ c ∈ front ++ ['*'] ++ tail, Lexeme.isPlainChar c :=
    isPlainChar_append (isPlainChar_append (isPlainChar_of_isBlank hfront) hstar)
      (isPlainChar_of_isBlank htail)
  have htrim : trim ((front ++ ['*'] ++ tail).map plain) = star := by
    rw [List.map_append, List.map_append, Lexeme.trim_pad (Lexeme.isBlank_of_mem_map_plain hfront)
      (Lexeme.isBlank_of_mem_map_plain htail)]
    rfl
  change readArgument (trim (ofText _)) = _
  rw [List.append_cons, Lexeme.ofText_plain hplain, htrim]
  rfl

theorem reads_item {text : List Char} {type : TypeExpr} (h : Reads .type text type) :
    Reads .argument text type := by
  have hread : read (ofText text) = .ok type := h
  rw [← read_trim] at hread
  have hstar : trim (ofText text) ≠ star := by
    intro hstar
    rw [hstar, read_eq_ofShape] at hread
    cases hread
  change readArgument (trim (ofText text)) = _
  rw [readArgument, if_neg hstar, hread]

theorem spell_trim (text : List Char) :
    spell (trim (ofText text)) = String.ofList (Text.trim text) := by
  rw [spell, Lexeme.text_trim, Lexeme.text_ofText]

theorem reads_unit {text : List Char} (h : String.ofList (Text.trim text) ∈ unitNames) :
    Reads .result text unit := by
  rw [← spell_trim] at h
  refine ⟨if_pos h, ?_⟩
  intro hempty
  rw [hempty] at h
  exact absurd h (by decide)

theorem reads_value {text : List Char} {type : TypeExpr}
    (hname : String.ofList (Text.trim text) ∉ unitNames) (h : Reads .type text type) :
    Reads .result text type := by
  have hread : read (trim (ofText text)) = .ok type := (read_trim _).trans h
  rw [← spell_trim] at hname
  refine ⟨by rw [if_neg hname, hread], ?_⟩
  intro hempty
  rw [hempty] at hread
  exact read_ne_ok_nil type hread

/-- The text of a phrase is read as the type that it derives. -/
theorem Derives.reads {phrase : Phrase} {text : List Char} {type : TypeExpr}
    (h : Derives phrase text type) : Reads phrase text type := by
  induction h with
  | name hname hfront htail => exact reads_name hname hfront htail
  | generic hbase hfront hgap htail hne hlisted hargs hword ih =>
    exact reads_generic hbase hfront hgap htail hne hlisted
      (fun arg harg => (hargs arg harg).nested.1) ih hword
  | enclosed hfront htail hinner ih => exact reads_enclosed hfront htail hinner.nested.1 ih
  -- A primary is read together with the mark behind it, so both rules use its hypothesis.
  | @plain text type _ ih =>
    have hread := ih false [] rfl (by simp)
    rwa [markOf, if_neg (by decide), List.append_nil, List.append_nil] at hread
  | @nullable text tail type _ hmark htail ih =>
    have hread := ih true tail htail fun _ => hmark
    rwa [markOf, if_pos rfl, List.append_assoc] at hread
  | function hfront hspace hgap hlisted hparams _ ihParams ihResult =>
    exact reads_function hfront hspace hgap hlisted
      (fun param hparam => (hparams param hparam).nested.1) ihParams ihResult
  | star hfront htail => exact reads_star hfront htail
  | item _ ih => exact reads_item ih
  | unit hname => exact reads_unit hname
  | value hname _ ih => exact reads_value hname ih

theorem parse_eq_ok_iff_read {signature : String} {type : TypeExpr} :
    parse signature = .ok type ↔ read (ofText signature.toList) = .ok type := by
  unfold parse
  cases read (ofText signature.toList) <;> simp

theorem parse?_eq_some_iff {signature : String} {type : TypeExpr} :
    parse? signature = some type ↔ parse signature = .ok type := by
  unfold parse?
  cases parse signature <;> simp [Except.toOption]

theorem derives_of_parse {signature : String} {type : TypeExpr} (h : parse signature = .ok type) :
    Derives .type signature.toList type := by
  have hread := derives_of_read (Lexeme.canonical_ofText _) (parse_eq_ok_iff_read.mp h)
  rwa [Lexeme.text_ofText] at hread

theorem parse_of_derives {signature : String} {type : TypeExpr}
    (h : Derives .type signature.toList type) : parse signature = .ok type :=
  parse_eq_ok_iff_read.mpr h.reads

/-- The parser accepts exactly the texts of the grammar and returns the type that they derive. -/
theorem parse_eq_ok_iff_derives (signature : String) (type : TypeExpr) :
    parse signature = .ok type ↔ Derives .type signature.toList type :=
  ⟨derives_of_parse, parse_of_derives⟩

end HolderInjection.TypeExpr
