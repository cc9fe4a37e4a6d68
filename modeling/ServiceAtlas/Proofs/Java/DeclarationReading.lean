/-
Type declarations are read back.

The head of a type names its supertypes, and its body holds constants and members.  Each part
ends at a mark that cannot belong to it: supertypes at the opening brace, constants at a
semicolon or the closing brace.
-/
import ServiceAtlas.Proofs.Nesting
import ServiceAtlas.Proofs.Java.MemberReading

namespace ServiceAtlas.Java

open Reader Grammar
open Written (Modifier documentationOf)

/-! ### Supertypes -/

/-- A keyword follows, or the brace that opens a body. -/
def EndsSupertypes (rest : Tokens) : Prop :=
  ∃ t more, rest = t :: more ∧ (t.kind = .word ∨ t.isMark '\x7b' = true)

theorem EndsSupertypes.not_mark {t : Token} {more : Tokens} (h : EndsSupertypes (t :: more))
    {c : Char} (hc : '\x7b' ≠ c) : t.isMark c = false := by
  obtain ⟨u, us, heq, hu⟩ := h
  obtain ⟨rfl, rfl⟩ := List.cons.inj heq
  rcases hu with hword | hbrace
  · exact isMark_of_kind hword c
  · exact isMark_false_of_ne hbrace hc

theorem EndsSupertypes.endsType {rest : Tokens} (h : EndsSupertypes rest) : EndsType rest := by
  obtain ⟨t, more, rfl, -⟩ := id h
  refine ⟨⟨fun u hu => ?_, fun u v more' heq => ?_⟩, fun u hu => ?_⟩
  · cases hu
    exact h.not_mark (by decide)
  · obtain ⟨rfl, -⟩ := List.cons.inj heq
    rw [h.not_mark (by decide), Bool.false_and]
  · cases hu
    exact ⟨h.not_mark (by decide), h.not_mark (by decide)⟩

/-- Types between commas are read back. -/
theorem typeList_reads {rest : Tokens} (hrest : EndsSupertypes rest) (ts : List TypeUse) :
    ∀ (t : TypeUse) {front : Tokens} {budget : Nat},
      Reads (separated (.of .comma) ((t :: ts).map TypeUse.pieces)) front →
      2 * front.length < budget →
      ∃ trees, typeList budget (front ++ rest) = (trees, rest)
        ∧ trees.map TypeTree.written = (t :: ts).map TypeUse.written := by
  induction ts with
  | nil =>
      intro t front budget h hbudget
      obtain ⟨budget, rfl⟩ : ∃ b, budget = b + 1 := ⟨budget - 1, by omega⟩
      have htype : 2 * front.length ≤ budget := by omega
      obtain ⟨tree, htree, hwritten⟩ := type?_reads t h htype hrest.endsType
      refine ⟨[tree], ?_, by simp [hwritten]⟩
      obtain ⟨u, more, rfl, -⟩ := id hrest
      rw [typeList, htree]
      simp [hrest.not_mark (by decide : '\x7b' ≠ ',')]
  | cons u ts ih =>
      intro t front budget h hbudget
      obtain ⟨first, more, hfirst, hmore, rfl⟩ := Reads.append h
      obtain ⟨g, us, hus, rfl⟩ := reads_mark_iff.mp hmore
      rw [List.length_append, List.length_cons] at hbudget
      obtain ⟨budget, rfl⟩ : ∃ b, budget = b + 1 := ⟨budget - 1, by omega⟩
      have htype : 2 * first.length ≤ budget := by omega
      have hothers : 2 * us.length < budget := by omega
      have hends : EndsArgument (Lexeme.comma.token g :: (us ++ rest)) :=
        ⟨_, _, rfl, .inl (by simp)⟩
      obtain ⟨tree, htree, hwritten⟩ := type?_reads t hfirst htype hends.endsType
      obtain ⟨trees, htrees, hwrittenAll⟩ := ih u hus.reads hothers
      refine ⟨tree :: trees, ?_, by rw [List.map_cons, hwritten, hwrittenAll]; rfl⟩
      rw [List.append_assoc, List.cons_append, typeList, htree]
      simp [htrees]

/-- The types behind a keyword are read back; without types there is no keyword. -/
theorem keywordTypes_reads {w : String} {hw : isName w.toList = true} (ts : List TypeUse)
    {front rest : Tokens} {budget : Nat} (h : Reads (supertypePieces (.word w hw) ts) front)
    (hbudget : 2 * front.length ≤ budget) (hrest : EndsSupertypes rest) :
    (front = [] ∧ ts = []) ∨ ∃ g types trees, front = (Lexeme.word w hw).token g :: types
      ∧ typeList (budget - 1) (types ++ rest) = (trees, rest)
      ∧ trees.map TypeTree.written = ts.map TypeUse.written := by
  cases ts with
  | nil =>
      cases h
      exact .inl ⟨rfl, rfl⟩
  | cons t ts =>
      obtain ⟨g, types, htypes, rfl⟩ := reads_word_iff.mp h
      rw [List.length_cons] at hbudget
      have hlist : 2 * types.length < budget - 1 := by omega
      obtain ⟨trees, htrees, hwritten⟩ := typeList_reads hrest ts t htypes.reads hlist
      exact .inr ⟨g, types, trees, rfl, htrees, hwritten⟩

/-! ### Heads -/

/-- The components of a record are read back, and other types have none. -/
theorem components_reads (s : Shape) {front : Tokens} {budget : Nat}
    (h : Reads s.componentPieces front) (hbudget : 2 * front.length ≤ budget) {rest : Tokens}
    (hrest : EndsSupertypes rest) :
    (∀ t ∈ (front ++ rest).head?, t.isMark '<' = false ∧ t.isMark '@' = false)
      ∧ ∃ trees, (if s.kind = .record then components budget (front ++ rest)
          else ([], front ++ rest)) = (trees, rest)
        ∧ trees.map ParameterTree.toField = s.components.map Parameter.component := by
  have hnone : s.kind ≠ .record → s.componentPieces = [] ∧ s.components = [] := by
    cases s with
    | record generics ps implemented => exact fun hne => absurd rfl hne
    | _ => exact fun _ => ⟨rfl, rfl⟩
  by_cases hkind : s.kind = .record
  · cases s with
    | record generics ps implemented =>
        obtain ⟨g, inner, ts, heq, hinner, hdeclared⟩ := parentheses_reads ps h hbudget rest
        rw [heq]
        refine ⟨fun t ht => by cases ht; simp, parameters budget inner, ?_, ?_⟩
        · simp [components, hinner, Shape.kind]
        · -- A component is a field with the name, the type and the annotations of a parameter.
          have hfields := congrArg (List.map fun p : ServiceAtlas.Parameter =>
            ({ name := p.name, type := p.type, marks := p.marks, documentation := .none,
               modifiers := [] } : ServiceAtlas.Field)) hdeclared
          rw [List.map_map, List.map_map] at hfields
          exact hfields
    | plainClass => cases hkind
    | interface => cases hkind
    | enumeration => cases hkind
    | annotationType => cases hkind
  · obtain ⟨hpieces, hcomponents⟩ := hnone hkind
    rw [hpieces] at h
    cases h
    obtain ⟨u, us, rfl, -⟩ := id hrest
    refine ⟨fun t ht => ?_, [], by rw [if_neg hkind]; rfl, by rw [hcomponents]; rfl⟩
    cases ht
    exact ⟨hrest.not_mark (by decide), hrest.not_mark (by decide)⟩

section Head

variable {t : Token} (ht : t.isMark '\x7b' = true) (rest : Tokens)
include ht

theorem endsSupertypes_brace : EndsSupertypes (t :: rest) :=
  ⟨t, rest, rfl, .inr ht⟩

theorem supertypes_brace (budget : Nat) :
    supertypes (budget + 1) (t :: rest) = ([], [], t :: rest) := by
  simp [supertypes, ht]

/-- The interfaces of a type are read back. -/
theorem implemented_reads (ts : List TypeUse) {front : Tokens} {budget : Nat}
    (h : Reads (supertypePieces (.word "implements" (by decide)) ts) front)
    (hbudget : 2 * front.length < budget) :
    EndsSupertypes (front ++ t :: rest)
      ∧ ∃ trees, supertypes budget (front ++ t :: rest) = ([], trees, t :: rest)
        ∧ trees.map TypeTree.written = ts.map TypeUse.written := by
  obtain ⟨budget, rfl⟩ : ∃ b, budget = b + 1 := ⟨budget - 1, by omega⟩
  have hlist : 2 * front.length ≤ budget + 1 := by omega
  rcases keywordTypes_reads ts h hlist (endsSupertypes_brace ht rest) with
    ⟨rfl, rfl⟩ | ⟨g', types, trees, rfl, htrees, hwritten⟩
  · exact ⟨endsSupertypes_brace ht rest, [], supertypes_brace ht rest budget, rfl⟩
  · obtain ⟨budget, rfl⟩ : ∃ b, budget = b + 1 := ⟨budget - 1, by
      rw [List.length_cons] at hbudget
      omega⟩
    rw [Nat.add_sub_cancel] at htrees
    refine ⟨⟨_, _, rfl, .inl rfl⟩, trees, ?_, hwritten⟩
    rw [List.cons_append, supertypes]
    simp [htrees, supertypes_brace ht]

/-- The supertypes of a type are read back, up to the body. -/
theorem supertypes_reads (s : Shape) {front : Tokens} {budget : Nat}
    (h : Reads s.supertypePieces front) (hbudget : 2 * front.length < budget) :
    EndsSupertypes (front ++ t :: rest)
      ∧ ∃ extended implemented,
        supertypes budget (front ++ t :: rest) = (extended, implemented, t :: rest)
        ∧ extended.map TypeTree.written = s.extended.map TypeUse.written
        ∧ implemented.map TypeTree.written = s.implemented.map TypeUse.written := by
  obtain ⟨first, more, hfirst, hmore, rfl⟩ := Reads.append h
  rw [List.length_append] at hbudget
  obtain ⟨budget, rfl⟩ : ∃ b, budget = b + 1 := ⟨budget - 1, by omega⟩
  have hextended : 2 * first.length ≤ budget + 1 := by omega
  have hmoreBudget : 2 * more.length < budget + 1 := by omega
  obtain ⟨hends, implemented, himplemented, hwritten⟩ := implemented_reads ht rest s.implemented
    hmore hmoreBudget
  rw [List.append_assoc]
  rcases keywordTypes_reads s.extended hfirst hextended hends with
    ⟨rfl, hnil⟩ | ⟨g', types, trees, rfl, htrees, hwrittenExtended⟩
  · exact ⟨hends, [], implemented, himplemented, by rw [hnil]; rfl, hwritten⟩
  · rw [List.length_cons] at hbudget
    have hbehind : 2 * more.length < budget := by omega
    obtain ⟨-, others, hothers, hwrittenOthers⟩ := implemented_reads ht rest s.implemented
      hmore hbehind
    rw [Nat.add_sub_cancel] at htrees
    refine ⟨⟨_, _, rfl, .inl rfl⟩, trees, others, ?_, hwrittenExtended, hwrittenOthers⟩
    rw [List.cons_append, supertypes]
    simp [htrees, hothers]

/-- A head is read back, up to the body. -/
theorem head_reads (s : Shape) {front : Tokens} {budget : Nat}
    (h : Reads s.signaturePieces front) (hbudget : 2 * front.length < budget)
    (comments : List String) (ms : List ModifierTree) (name : String) :
    ∃ superclass interfaces parts,
      head budget comments ms s.kind name (front ++ t :: rest)
        = (⟨comments, ms, s.kind, name, superclass, interfaces, parts⟩, t :: rest)
      ∧ superclass.map TypeTree.written = s.superclass.map TypeUse.written
      ∧ interfaces.map TypeTree.written = s.interfaces.map TypeUse.written
      ∧ parts.map ParameterTree.toField = s.components.map Parameter.component := by
  obtain ⟨generics, behind, hgenerics, hbehind, rfl⟩ := Reads.append h
  obtain ⟨first, more, hfirst, hmore, rfl⟩ := Reads.append hbehind
  simp only [List.length_append] at hbudget
  have hfirstBudget : 2 * first.length ≤ budget := by omega
  have hmoreBudget : 2 * more.length < budget := by omega
  obtain ⟨hends, extended, implemented, hread, hextended, himplemented⟩ :=
    supertypes_reads ht rest s hmore hmoreBudget
  obtain ⟨hplain, parts, hparts, hcomponents⟩ := components_reads s hfirst hfirstBudget hends
  refine ⟨if s.kind = .plainClass then extended.head? else none,
    if s.kind = .interface then extended else implemented, parts, ?_, ?_, ?_, hcomponents⟩
  · rw [List.append_assoc, List.append_assoc, head,
      typeParameters_reads s.typeParameters hgenerics hplain]
    simp only [hparts, hread]
  · cases s with
    | plainClass ps superclass ts =>
        have hhead := congrArg List.head? hextended
        rw [List.head?_map, List.head?_map] at hhead
        cases superclass <;> exact hhead
    | interface ps extended => rfl
    | enumeration ts cs => rfl
    | record generics ps ts => rfl
    | annotationType => rfl
  · cases s with
    | plainClass ps superclass ts => exact himplemented
    | interface ps extended => exact hextended
    | enumeration ts cs => exact himplemented
    | record generics ps ts => exact himplemented
    | annotationType => exact himplemented

end Head

/-! ### Constants -/

/-- White space holds no comment. -/
theorem comments_spaces (l : Lexeme) (s : Spaces) : (l.token s.gaps).comments = [] :=
  comments_spacing (s := ⟨s, none⟩) rfl l

/-- What may follow a constant: a comma, a semicolon or the brace that closes the body. -/
def EndsConstant (t : Token) : Prop :=
  ∃ c ∈ [',', ';', '\x7d'], t.isMark c = true

theorem EndsConstant.not_mark {t : Token} (h : EndsConstant t) {c : Char}
    (hc : c ∉ [',', ';', '\x7d']) : t.isMark c = false := by
  obtain ⟨d, hd, hmark⟩ := h
  exact isMark_false_of_ne hmark fun heq => hc (heq ▸ hd)

/-- What stands behind the arguments of a constant. -/
def afterArguments : Tokens → Tokens
  | t :: ts => if t.isMark '(' then (insideBrackets 0 ts).2 else t :: ts
  | [] => []

/-- What stands behind the body of a constant. -/
def afterBody : Tokens → Tokens
  | t :: ts => if t.isMark '\x7b' then afterBraces 0 ts else t :: ts
  | [] => []

/-- The body of a constant is passed over, if it has one. -/
theorem constantBody_reads (b : Option Block) {front : Tokens}
    (h : Reads (Constant.bodyPieces b) front) {t : Token} (ht : EndsConstant t) (more : Tokens) :
    afterBody (front ++ t :: more) = t :: more
      ∧ ∃ u us, front ++ t :: more = u :: us ∧ (u.isMark '\x7b' = true ∨ EndsConstant u) := by
  cases b with
  | none =>
      cases h
      refine ⟨?_, t, more, rfl, .inr ht⟩
      rw [List.nil_append, afterBody, ht.not_mark (by decide)]
      rfl
  | some b =>
      obtain ⟨u, us, heq, hu, hafter⟩ := block_reads b h (t :: more)
      refine ⟨?_, u, us, heq, .inl hu⟩
      rw [heq, afterBody, hu]
      exact hafter

/-- The arguments of a constant are passed over, if it has any. -/
theorem constantArguments_reads (a : Option CallArguments) {front : Tokens}
    (h : Reads (callPieces a) front) {t : Token} (ht : t.isMark '\x7b' = true ∨ EndsConstant t)
    (more : Tokens) :
    afterArguments (front ++ t :: more) = t :: more
      ∧ ∃ u us, front ++ t :: more = u :: us
        ∧ ∃ c ∈ ['(', '\x7b', ',', ';', '\x7d'], u.isMark c = true := by
  cases a with
  | none =>
      obtain ⟨c, hc, hmark⟩ : ∃ c ∈ ['\x7b', ',', ';', '\x7d'], t.isMark c = true := by
        rcases ht with hbrace | ⟨c, hc, hmark⟩
        · exact ⟨_, List.mem_cons_self, hbrace⟩
        · exact ⟨c, List.mem_cons_of_mem _ hc, hmark⟩
      have hparen : t.isMark '(' = false :=
        isMark_false_of_ne hmark fun heq => absurd (heq ▸ hc) (by decide)
      cases h
      refine ⟨?_, t, more, rfl, c, List.mem_cons_of_mem _ hc, hmark⟩
      rw [List.nil_append, afterArguments, hparen]
      rfl
  | some a =>
      obtain ⟨opener, us, hopener, hus, rfl⟩ := h.mark
      obtain ⟨inner, vs, hinner, hvs, rfl⟩ := spells_append_iff.mp hus
      obtain ⟨g, ws, ⟨⟩, rfl⟩ := reads_mark_iff.mp hvs.reads
      have hbalanced := a.isBalanced.balanced hinner.reads
      refine ⟨?_, opener, _, rfl, '(', List.mem_cons_self, hopener⟩
      rw [List.cons_append, List.append_assoc, List.singleton_append, afterArguments, hopener]
      exact congrArg Prod.snd (parenthesized_reads hbalanced g)

/-- A constant is read behind its modifiers, and what follows it is read on. -/
theorem constants_named {t name : Token} {ts rest : Tokens} {budget : Nat}
    {trees : List ModifierTree} (ht : ∀ c ∈ [',', ';', '\x7d'], t.isMark c = false)
    (hread : modifiers budget (t :: ts) = (trees, name :: rest)) (hname : name.kind = .word) :
    constants (budget + 1) [] (t :: ts)
      = (.constant ⟨t.comments, trees, name.text⟩
          :: (constants budget [] (afterBody (afterArguments rest))).1,
        (constants budget [] (afterBody (afterArguments rest))).2) := by
  rw [constants]
  simp only [ht ',' (by decide), ht ';' (by decide), ht '\x7d' (by decide), hread, hname,
    Bool.or_self, Bool.false_eq_true, ↓reduceIte, List.nil_append]
  rfl

/-- The tree of a constant declares what the written constant does. -/
def DeclaresConstant (c : Constant) (m : Member) : Prop :=
  ∃ trees, m = .constant ⟨commentTexts c.comment, trees, c.name.text⟩
    ∧ marksOf trees = Modifier.marks c.modifiers

/-- A constant is read back, and what follows it is read on. -/
theorem constants_constant (c : Constant) {front : Tokens} {budget : Nat}
    (h : Spells c.pieces front) (hbudget : front.length ≤ budget) {t : Token} (ht : EndsConstant t)
    (more : Tokens) :
    ∃ m, constants (budget + 1) [] (front ++ t :: more)
        = (m :: (constants budget [] (t :: more)).1, (constants budget [] (t :: more)).2)
      ∧ DeclaresConstant c m := by
  obtain ⟨hreads, hcomments⟩ := h.headed
  obtain ⟨mods, named, hmods, hnamed, rfl⟩ := Reads.append hreads
  obtain ⟨g, behind, hbehind, rfl⟩ := reads_word_iff.mp hnamed
  obtain ⟨args, body, hargs, hbody, rfl⟩ := spells_append_iff.mp hbehind
  rw [List.length_append] at hbudget
  have hmodsBudget : mods.length ≤ budget := by omega
  obtain ⟨hafterBody, u, us, hu, hbegins⟩ := constantBody_reads c.body hbody.reads ht more
  obtain ⟨hafterArguments, v, vs, hv, d, hd, hmark⟩ :=
    constantArguments_reads c.arguments hargs.reads hbegins us
  have hmarks : ∀ d ∈ ['(', '\x7b', ',', ';', '\x7d'], d ≠ '@' ∧ d ≠ '-' :=
    forall_mem_of_all (by decide)
  have hplain : StartsPlain (c.name.lexeme.token g :: v :: vs) :=
    BeginsMember.startsPlain ⟨_, v, vs, rfl, rfl, c.name.not_declaring,
      fun _ => ⟨kind_ne_word_of_isMark hmark, isMark_false_of_ne hmark (hmarks d hd).1⟩,
      isMark_false_of_ne hmark (hmarks d hd).2⟩
  obtain ⟨trees, hread, hwritten, -⟩ :=
    modifiers_reads c.modifiers (.word hplain) hmods hmodsBudget
  obtain ⟨first, second, others, heq, hfirst⟩ := goesOn_modifiers hmods hplain.goesOn
  have hplainFirst : ∀ e ∈ [',', ';', '\x7d'], first.isMark e = false := by
    have hseparators : ∀ e ∈ [',', ';', '\x7d'], '@' ≠ e := forall_mem_of_all (by decide)
    intro e he
    rcases hfirst with hword | hat
    · exact isMark_of_kind hword e
    · exact isMark_false_of_ne hat (hseparators e he)
  have hcomment : first.comments = commentTexts c.comment := by
    refine hcomments first ?_
    have hhead := congrArg List.head? heq
    cases mods with
    | nil => exact hhead
    | cons w ws => exact hhead
  rw [heq] at hread
  refine ⟨_, ?_, trees, rfl, hwritten⟩
  have hassoc : mods ++ c.name.lexeme.token g :: (args ++ body) ++ t :: more
      = first :: second :: others := by
    rw [← heq, ← hv, ← hu]
    simp
  rw [hassoc, constants_named hplainFirst hread rfl, hcomment, ← hv, hafterArguments, ← hu,
    hafterBody]
  rfl

theorem length_pos_of_constant (c : Constant) {front : Tokens} (h : Spells c.pieces front) :
    0 < front.length := by
  obtain ⟨mods, named, -, hnamed, rfl⟩ := Reads.append h.headed.1
  obtain ⟨g, us, -, rfl⟩ := reads_word_iff.mp hnamed
  rw [List.length_append, List.length_cons]
  omega

theorem constants_end {t : Token} (ht : t.isMark ';' = true ∨ t.isMark '\x7d' = true)
    (more : Tokens) (budget : Nat) :
    constants (budget + 1) [] (t :: more) = ([], t :: more) := by
  rw [constants]
  rcases ht with ht | ht
  all_goals
    simp [ht]

/-- A comma between constants holds no comment, and is passed over. -/
theorem constants_comma (s : Spaces) (more : Tokens) (budget : Nat) :
    constants (budget + 1) [] (Lexeme.comma.token s.gaps :: more)
      = constants budget [] more := by
  rw [constants, comments_spaces]
  simp

/-- Constants are read back, up to a semicolon or the closing brace. -/
theorem constants_reads {t : Token} (ht : t.isMark ';' = true ∨ t.isMark '\x7d' = true)
    (more : Tokens) (cs : List Constant) :
    ∀ {front : Tokens} {budget : Nat},
      Spells (separated (.of .comma) (cs.map Constant.pieces)) front → front.length < budget →
      ∃ ms, constants budget [] (front ++ t :: more) = (ms, t :: more)
        ∧ List.Forall₂ DeclaresConstant cs ms := by
  induction cs with
  | nil =>
      intro front budget h hbudget
      cases h
      obtain ⟨budget, rfl⟩ : ∃ b, budget = b + 1 := ⟨budget - 1, by omega⟩
      exact ⟨[], constants_end ht more budget, .nil⟩
  | cons c cs ih =>
      intro front budget h hbudget
      cases cs with
      | nil =>
          have hends : EndsConstant t := by
            rcases ht with ht | ht
            · exact ⟨';', by decide, ht⟩
            · exact ⟨'\x7d', by decide, ht⟩
          have hpositive := length_pos_of_constant c h
          obtain ⟨budget, rfl⟩ : ∃ b, budget = b + 1 + 1 := ⟨budget - 2, by omega⟩
          have hconstant : front.length ≤ budget + 1 := by omega
          obtain ⟨m, hm, hdeclares⟩ := constants_constant c h hconstant hends more
          refine ⟨[m], ?_, .cons hdeclares .nil⟩
          rw [hm, constants_end ht]
      | cons d cs =>
          obtain ⟨first, others, hfirst, hothers, rfl⟩ := spells_append_iff.mp h
          obtain ⟨s, us, hus, rfl⟩ := spells_of_iff.mp hothers
          have hpositive := length_pos_of_constant c hfirst
          rw [List.length_append, List.length_cons] at hbudget
          obtain ⟨budget, rfl⟩ : ∃ b, budget = b + 1 + 1 := ⟨budget - 2, by omega⟩
          have hconstant : first.length ≤ budget + 1 := by omega
          have hbehind : us.length < budget := by omega
          have hends : EndsConstant (Lexeme.comma.token s.gaps) := ⟨',', by decide, by simp⟩
          obtain ⟨m, hm, hdeclares⟩ := constants_constant c hfirst hconstant hends (us ++ t :: more)
          obtain ⟨ms, hms, hall⟩ := ih hus hbehind
          refine ⟨m :: ms, ?_, .cons hdeclares hall⟩
          rw [List.append_assoc, List.cons_append]
          rw [hm, constants_comma, hms]

/-! ### Bodies -/

/-- The trees of members declare what the written members and constants do. -/
structure DeclaresAll (kind : TypeKind) (cs : List Constant) (ws : List Grammar.Member)
    (ms : List Member) : Prop where
  fields : ms.flatMap Member.fields = ws.flatMap (Grammar.Member.fields kind)
  constructors : ms.filterMap Member.constructor? = ws.filterMap Grammar.Member.constructor?
  methods : ms.filterMap Member.method? = ws.filterMap (Grammar.Member.method? kind)
  constants : ms.filterMap Member.constant? = cs.map Constant.declared
  types : ∀ scope origin,
    declarationsOf scope origin ms = Grammar.declarationsOf scope origin ws

theorem declaresAll_members {kind : TypeKind} {ws : List Grammar.Member} {ms : List Member}
    (h : List.Forall₂ (Declares kind) ws ms) : DeclaresAll kind [] ws ms := by
  induction h with
  | nil => exact ⟨rfl, rfl, rfl, rfl, fun _ _ => rfl⟩
  | @cons w m ws ms hm _ ih =>
      refine ⟨?_, ?_, ?_, ?_, fun scope origin => ?_⟩
      · rw [List.flatMap_cons, List.flatMap_cons, hm.fields, ih.fields]
      · rw [List.filterMap_cons, List.filterMap_cons, hm.constructors, ih.constructors]
      · rw [List.filterMap_cons, List.filterMap_cons, hm.methods, ih.methods]
      · rw [List.filterMap_cons, hm.constants, ih.constants]
      · rw [declarationsOf, hm.types, ih.types, Grammar.declarationsOf]

theorem declaresAll_constants {kind : TypeKind} {cs : List Constant} {ms : List Member}
    (h : List.Forall₂ DeclaresConstant cs ms) : DeclaresAll kind cs [] ms := by
  induction h with
  | nil => exact ⟨rfl, rfl, rfl, rfl, fun _ _ => rfl⟩
  | @cons c m cs ms hm _ ih =>
      obtain ⟨trees, rfl, hmarks⟩ := hm
      refine ⟨ih.fields, ih.constructors, ih.methods, ?_, ih.types⟩
      have hconstant : (Member.constant ⟨commentTexts c.comment, trees, c.name.text⟩).constant?
          = some c.declared := by
        rw [Member.constant?, ConstantTree.toConstant, Constant.declared]
        simp only [hmarks, nearest_commentTexts]
      rw [List.filterMap_cons, hconstant, ih.constants]
      rfl

theorem DeclaresAll.append {kind : TypeKind} {cs : List Constant} {ws : List Grammar.Member}
    {ms ns : List Member} (hms : DeclaresAll kind cs [] ms) (hns : DeclaresAll kind [] ws ns) :
    DeclaresAll kind cs ws (ms ++ ns) := by
  refine ⟨?_, ?_, ?_, ?_, fun scope origin => ?_⟩
  · rw [List.flatMap_append, hms.fields, hns.fields]
    rfl
  · rw [List.filterMap_append, hms.constructors, hns.constructors]
    rfl
  · rw [List.filterMap_append, hms.methods, hns.methods]
    rfl
  · rw [List.filterMap_append, hms.constants, hns.constants, List.map_nil, List.append_nil]
  · rw [declarationsOf_append, hms.types, hns.types]
    rfl

section Body

variable {t : Token} (ht : t.isMark '\x7d' = true) (rest : Tokens) {front : Tokens} {budget : Nat}
include ht

/-- The body of a type without constants is read back. -/
theorem body_plain {kind : TypeKind} (hplain : kind ≠ .enumeration) (ws : List Grammar.Member)
    (hws : ∀ w ∈ ws, ReadsMember kind w) (h : Spells (memberPieces ws) front)
    (hbudget : 2 * front.length + 2 < budget) :
    ∃ inside behind, body budget kind (front ++ t :: rest) = (inside, behind, rest)
      ∧ DeclaresAll kind [] ws (inside ++ behind) := by
  obtain ⟨budget, rfl⟩ : ∃ b, budget = b + 1 := ⟨budget - 1, by omega⟩
  obtain ⟨ms, hms, hall⟩ := members_reads ht rest ws hws h (Nat.le_of_lt_succ hbudget)
  refine ⟨ms, [], ?_, ?_⟩
  · rw [body]
    simp only [hplain, ↓reduceIte, hms]
  · rw [List.append_nil]
    exact declaresAll_members hall

/-- The body of an enumeration without members is read back. -/
theorem body_constants (cs : List Constant)
    (h : Spells (separated (.of .comma) (cs.map Constant.pieces)) front)
    (hbudget : 2 * front.length + 2 < budget) :
    ∃ inside behind, body budget .enumeration (front ++ t :: rest) = (inside, behind, rest)
      ∧ DeclaresAll .enumeration cs [] (inside ++ behind) := by
  obtain ⟨budget, rfl⟩ : ∃ b, budget = b + 1 := ⟨budget - 1, by omega⟩
  have hconstants : front.length < budget := by omega
  obtain ⟨ms, hms, hall⟩ := constants_reads (.inr ht) rest cs h hconstants
  refine ⟨ms, [], ?_, (declaresAll_constants hall).append (declaresAll_members .nil)⟩
  rw [body]
  simp only [↓reduceIte, hms, isMark_false_of_ne ht (by decide : '\x7d' ≠ ';'), Bool.false_eq_true]

/-- The body of an enumeration with members is read back. -/
theorem body_enumeration (cs : List Constant) (ws : List Grammar.Member)
    (hws : ∀ w ∈ ws, ReadsMember .enumeration w)
    (h : Spells (separated (.of .comma) (cs.map Constant.pieces)
      ++ .of .semicolon :: memberPieces ws) front)
    (hbudget : 2 * front.length + 2 < budget) :
    ∃ inside behind, body budget .enumeration (front ++ t :: rest) = (inside, behind, rest)
      ∧ DeclaresAll .enumeration cs ws (inside ++ behind) := by
  obtain ⟨constants, more, hconstants, hmore, rfl⟩ := spells_append_iff.mp h
  obtain ⟨g, members, hmembers, rfl⟩ := reads_mark_iff.mp hmore.reads
  rw [List.length_append, List.length_cons] at hbudget
  obtain ⟨budget, rfl⟩ : ∃ b, budget = b + 1 := ⟨budget - 1, by omega⟩
  have hconstantsBudget : constants.length < budget := by omega
  have hmembersBudget : 2 * members.length + 2 ≤ budget := by omega
  have hsemicolon : (Lexeme.semicolon.token g).isMark ';' = true := by simp
  obtain ⟨ns, hns, hallMembers⟩ := members_reads ht rest ws hws hmembers hmembersBudget
  obtain ⟨ms, hms, hallConstants⟩ := constants_reads (.inl hsemicolon) (members ++ t :: rest) cs
    hconstants hconstantsBudget
  refine ⟨ms, ns, ?_, (declaresAll_constants hallConstants).append (declaresAll_members hallMembers)⟩
  rw [List.append_assoc, List.cons_append, body]
  simp only [↓reduceIte, hms, isMark_mark, decide_true, hns]

/-- The body of a type is read back, up to the closing brace. -/
theorem body_reads (s : Shape) (ws : List Grammar.Member) (hws : ∀ w ∈ ws, ReadsMember s.kind w)
    (h : Spells (s.constantPieces (!ws.isEmpty) ++ memberPieces ws) front)
    (hbudget : 2 * front.length + 2 < budget) :
    ∃ inside behind, body budget s.kind (front ++ t :: rest) = (inside, behind, rest)
      ∧ DeclaresAll s.kind s.constants ws (inside ++ behind) := by
  cases s with
  | plainClass ps superclass implemented =>
      have hplain : TypeKind.plainClass ≠ .enumeration := by decide
      exact body_plain ht rest hplain ws hws h hbudget
  | interface ps extended =>
      have hplain : TypeKind.interface ≠ .enumeration := by decide
      exact body_plain ht rest hplain ws hws h hbudget
  | record ps components implemented =>
      have hplain : TypeKind.record ≠ .enumeration := by decide
      exact body_plain ht rest hplain ws hws h hbudget
  | annotationType =>
      have hplain : TypeKind.annotationType ≠ .enumeration := by decide
      exact body_plain ht rest hplain ws hws h hbudget
  | enumeration implemented constants =>
      cases ws with
      | nil =>
          simp only [Shape.constantPieces, memberPieces, List.isEmpty_nil, Bool.not_true,
            Bool.false_eq_true, ↓reduceIte, List.append_nil] at h
          exact body_constants ht rest constants h hbudget
      | cons w ws =>
          simp only [Shape.constantPieces, List.isEmpty_cons, Bool.not_false, ↓reduceIte,
            List.append_assoc] at h
          exact body_enumeration ht rest constants (w :: ws) hws h hbudget

end Body

/-! ### Type declarations -/

/-- Type parameters or components follow the name of a record. -/
theorem first_of_record (ps : List TypeParameter) (components : List Grammar.Parameter)
    (implemented : List TypeUse) {ts : Tokens}
    (h : Spells (Shape.record ps components implemented).signaturePieces ts) :
    ∃ u us, ts = u :: us ∧ (u.isMark '(' = true ∨ u.isMark '<' = true) := by
  obtain ⟨generics, behind, hgenerics, hbehind, rfl⟩ := spells_append_iff.mp h
  cases ps with
  | nil =>
      cases hgenerics
      obtain ⟨parts, supers, hparts, -, rfl⟩ := spells_append_iff.mp hbehind
      obtain ⟨u, us, hu, -, rfl⟩ := hparts.reads.mark
      exact ⟨u, us ++ supers, rfl, .inl hu⟩
  | cons p ps =>
      obtain ⟨u, us, hu, -, rfl⟩ := hgenerics.reads.mark
      exact ⟨u, us ++ behind, rfl, .inr hu⟩

/-- The keyword and the name of a type are read back; modifiers end in front of them. -/
theorem keyword_reads (h : Heading) {front : Tokens} (hfront : Reads h.plainPieces front) :
    ∃ t more g us, Spells h.shape.signaturePieces us
      ∧ front = t :: (more ++ h.name.lexeme.token g :: us) ∧ t.isWord "package" = false
      ∧ ∀ rest, EndsModifiers h.modifiers (t :: (more ++ h.name.lexeme.token g :: (us ++ rest)))
        ∧ declaredType? (t :: (more ++ h.name.lexeme.token g :: (us ++ rest)))
          = some (h.shape.kind, h.name.text, us ++ rest) := by
  obtain ⟨comment, modifiers, n, s⟩ := h
  have hplain : ∀ (w : String) {hw : isName w.toList = true} (g g' : List Gap) (rest : Tokens),
      w ∈ ["class", "interface", "enum", "record"] →
      EndsModifiers modifiers ((Lexeme.word w hw).token g :: n.lexeme.token g' :: rest) := by
    intro w hw g g' rest hmem
    have hwords : ∀ w ∈ ["class", "interface", "enum", "record"],
        w ∉ modifierWords ∧ w ≠ "sealed" := by decide
    exact .word ⟨_, _, rest, rfl, rfl, (hwords w hmem).1,
      fun heq => absurd heq (hwords w hmem).2, fun _ => rfl⟩
  cases s with
  | plainClass ps superclass implemented =>
      obtain ⟨g, us, hus, rfl⟩ := reads_word_iff.mp hfront
      obtain ⟨g', vs, hvs, rfl⟩ := reads_word_iff.mp hus.reads
      exact ⟨_, [], g', vs, hvs, rfl, by simp, fun rest => ⟨hplain "class" g g' _ (by decide), rfl⟩⟩
  | interface ps extended =>
      obtain ⟨g, us, hus, rfl⟩ := reads_word_iff.mp hfront
      obtain ⟨g', vs, hvs, rfl⟩ := reads_word_iff.mp hus.reads
      exact ⟨_, [], g', vs, hvs, rfl, by simp,
        fun rest => ⟨hplain "interface" g g' _ (by decide), rfl⟩⟩
  | enumeration implemented constants =>
      obtain ⟨g, us, hus, rfl⟩ := reads_word_iff.mp hfront
      obtain ⟨g', vs, hvs, rfl⟩ := reads_word_iff.mp hus.reads
      exact ⟨_, [], g', vs, hvs, rfl, by simp, fun rest => ⟨hplain "enum" g g' _ (by decide), rfl⟩⟩
  | record ps components implemented =>
      obtain ⟨g, us, hus, rfl⟩ := reads_word_iff.mp hfront
      obtain ⟨g', vs, hvs, rfl⟩ := reads_word_iff.mp hus.reads
      obtain ⟨u, ws, rfl, hu⟩ := first_of_record ps components implemented hvs
      refine ⟨_, [], g', _, hvs, rfl, by simp,
        fun rest => ⟨hplain "record" g g' _ (by decide), ?_⟩⟩
      simp [declaredType?, Shape.kind, hu]
  | annotationType =>
      obtain ⟨t, us, ht, hus, rfl⟩ := hfront.mark
      obtain ⟨g, vs, hvs, rfl⟩ := reads_word_iff.mp hus.reads
      obtain ⟨g', ws, hws, rfl⟩ := reads_word_iff.mp hvs.reads
      refine ⟨t, [_], g', ws, hws, rfl, isWord_of_isMark ht _,
        fun rest => ⟨.annotationType ht (by simp), ?_⟩⟩
      simp [declaredType?, Shape.kind, isWord_of_isMark ht, ht]

/-- The trees of a head and of members that declare what the written type does. -/
theorem toDeclaration_eq (h : Heading) (ws : List Grammar.Member) {ms : List ModifierTree}
    {members : List Member} {superclass : Option TypeTree} {interfaces : List TypeTree}
    {parts : List ParameterTree} (hmarks : marksOf ms = Modifier.marks h.modifiers)
    (hwords : wordsOf ms = Modifier.words h.modifiers)
    (hsuperclass : superclass.map TypeTree.written = h.shape.superclass.map TypeUse.written)
    (hinterfaces : interfaces.map TypeTree.written = h.shape.interfaces.map TypeUse.written)
    (hparts : parts.map ParameterTree.toField = h.shape.components.map Parameter.component)
    (hmembers : DeclaresAll h.shape.kind h.shape.constants ws members) (scope origin : String) :
    (Head.mk (commentTexts h.comment) ms h.shape.kind h.name.text superclass interfaces
      parts).toDeclaration members scope origin = h.declared ws scope origin := by
  rw [Head.toDeclaration, Heading.declared]
  simp only [hmarks, hwords, hsuperclass, hinterfaces, hparts, nearest_commentTexts,
    hmembers.fields, hmembers.constructors, hmembers.methods, hmembers.constants]

/-- The modifiers and the name in a heading are read back, and the rest of it follows. -/
theorem heading_reads (h : Heading) {front : Tokens} {budget : Nat}
    (hfront : Reads (Modifier.allPieces h.modifiers ++ h.plainPieces) front)
    (hbudget : front.length ≤ budget) (rest : Tokens) :
    BeginsItem (front ++ rest)
      ∧ ∃ trees t more parts, Reads h.shape.signaturePieces parts
        ∧ parts.length + 2 ≤ front.length
        ∧ modifiers budget (front ++ rest) = (trees, t :: more)
        ∧ marksOf trees = Modifier.marks h.modifiers ∧ wordsOf trees = Modifier.words h.modifiers
        ∧ t.isWord "package" = false
        ∧ declaredType? (t :: more) = some (h.shape.kind, h.name.text, parts ++ rest) := by
  obtain ⟨mods, named, hmods, hnamed, rfl⟩ := Reads.append hfront
  obtain ⟨t, more, g, parts, hparts, rfl, hpackage, hkeyword⟩ := keyword_reads h hnamed
  obtain ⟨hends, hdeclared⟩ := hkeyword rest
  simp only [List.length_append, List.length_cons] at hbudget
  have hmodsBudget : mods.length ≤ budget := by omega
  obtain ⟨trees, hread, hmarks, hwords⟩ := modifiers_reads h.modifiers hends hmods hmodsBudget
  have hassoc : mods ++ t :: (more ++ h.name.lexeme.token g :: parts) ++ rest
      = mods ++ (t :: (more ++ h.name.lexeme.token g :: (parts ++ rest))) := by simp
  refine ⟨?_, trees, t, _, parts, hparts.reads, ?_, hassoc ▸ hread, hmarks, hwords, hpackage,
    hdeclared⟩
  · rw [hassoc]
    exact beginsItem_modifiers hmods hends
  · simp only [List.length_append, List.length_cons]
    omega

/-- A type is read back, given that its members are. -/
theorem type_reads (h : Heading) (ws : List Grammar.Member)
    (hws : ∀ w ∈ ws, ReadsMember h.shape.kind w) {front : Tokens} {budget : Nat}
    (hfront : Reads (Modifier.allPieces h.modifiers ++ (Grammar.Member.type h ws).plainPieces) front)
    (hbudget : 2 * front.length < budget) (context : Option TypeKind) (rest : Tokens) :
    BeginsItem (front ++ rest)
      ∧ ∃ m, member budget context (commentTexts h.comment) (front ++ rest) = (m, rest)
        ∧ ∀ kind, Declares kind (.type h ws) m := by
  rw [Member.plainPieces, ← List.append_assoc] at hfront
  obtain ⟨heading, more, hheading, hmore, rfl⟩ := Reads.append hfront
  obtain ⟨brace, inner, hbrace, hinner, rfl⟩ := hmore.mark
  rw [← List.append_assoc] at hinner
  obtain ⟨bodyTokens, ending, hbody, hending, rfl⟩ := spells_append_iff.mp hinner
  obtain ⟨closer, us, hcloser, ⟨⟩, rfl⟩ := hending.reads.mark
  simp only [List.length_append, List.length_cons] at hbudget
  obtain ⟨budget, rfl⟩ : ∃ b, budget = b + 1 := ⟨budget - 1, by omega⟩
  have hheadingBudget : heading.length ≤ budget := by omega
  obtain ⟨hbegins, trees, t, others, parts, hparts, hlength, hread, hmarks, hwords, -, hdeclared⟩ :=
    heading_reads h hheading hheadingBudget (brace :: (bodyTokens ++ closer :: rest))
  have hheadBudget : 2 * parts.length < budget := by omega
  have hbodyBudget : 2 * bodyTokens.length + 2 < budget := by omega
  obtain ⟨superclass, interfaces, components, hhead, hsuperclass, hinterfaces, hcomponents⟩ :=
    head_reads hbrace (bodyTokens ++ closer :: rest) h.shape hparts hheadBudget
      (commentTexts h.comment) trees h.name.text
  obtain ⟨inside, behind, hinside, hall⟩ := body_reads hcloser rest h.shape ws hws hbody hbodyBudget
  have hassoc : heading ++ brace :: (bodyTokens ++ [closer]) ++ rest
      = heading ++ brace :: (bodyTokens ++ closer :: rest) := by simp
  rw [hassoc]
  refine ⟨hbegins, .type ⟨commentTexts h.comment, trees, h.shape.kind, h.name.text, superclass,
    interfaces, components⟩ inside behind, ?_, fun kind => ⟨rfl, rfl, rfl, rfl, ?_⟩⟩
  · rw [member, hread]
    simp only [hdeclared, hhead, hbrace, ↓reduceIte, hinside]
  · intro scope origin
    rw [Member.declarations, ← declarationsOf_append, hall.types,
      toDeclaration_eq h ws hmarks hwords hsuperclass hinterfaces hcomponents hall,
      Grammar.Member.declarations]

theorem readsMember_type (h : Heading) (ws : List Grammar.Member)
    (hws : ∀ w ∈ ws, ReadsMember h.shape.kind w) (kind : TypeKind) :
    ReadsMember kind (.type h ws) := by
  intro front budget hfront hbudget rest
  obtain ⟨hbegins, m, hm, hdeclares⟩ := type_reads h ws hws hfront hbudget (some kind) rest
  exact ⟨hbegins, m, hm, hdeclares kind⟩

mutual

/-- Every member is read back. -/
theorem readsMember : ∀ (w : Grammar.Member) (kind : TypeKind), ReadsMember kind w
  | .field f, _ => readsMember_plain (.field f)
  | .constructor c, _ => readsMember_plain (.constructor c)
  | .method m, _ => readsMember_plain (.method m)
  | .initializer i, _ => readsMember_plain (.initializer i)
  | .type h ws, kind => readsMember_type h ws (readsMembers ws h.shape.kind) kind

/-- All members are read back. -/
theorem readsMembers : ∀ (ws : List Grammar.Member) (kind : TypeKind), ∀ w ∈ ws, ReadsMember kind w
  | [], _ => nofun
  | w :: ws, kind => List.forall_mem_cons.mpr ⟨readsMember w kind, readsMembers ws kind⟩

end

end ServiceAtlas.Java
