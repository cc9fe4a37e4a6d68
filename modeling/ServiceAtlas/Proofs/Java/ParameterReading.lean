/-
Parameters are read back.

A parameter is modifiers, a type and a name, with dimensions behind the name or three dots in
front of it.  Where modifiers end is told from the first word of the type, so what a type begins
with is settled first.
-/
import ServiceAtlas.Proofs.Java.TypeReading

namespace ServiceAtlas.Java

open Reader Grammar
open Written (Modifier dimensionPieces)

/-! ### What a type begins with -/

/-- The words that begin modifiers or the declaration of a type wherever they stand. -/
def declaringWords : List String :=
  modifierWords ++ ["class", "interface", "enum"]

/-- The words that do so in front of another word, or of an annotation, and are identifiers
elsewhere. -/
def contextualWords : List String :=
  ["sealed", "record"]

/-- A word begins that begins neither modifiers nor the declaration of a type. -/
def BeginsMember (ts : Tokens) : Prop :=
  ∃ t u more, ts = t :: u :: more ∧ t.kind = .word ∧ t.text ∉ declaringWords
    ∧ (t.text ∈ contextualWords → u.kind ≠ .word ∧ u.isMark '@' = false) ∧ u.isMark '-' = false

theorem BeginsMember.startsPlain {ts : Tokens} (h : BeginsMember ts) : StartsPlain ts := by
  obtain ⟨t, u, more, rfl, hword, htext, hcontextual, hu⟩ := h
  refine ⟨t, u, more, rfl, hword, fun hmem => ?_, fun hsealed => ?_, fun _ => hu⟩
  · exact htext (List.mem_append_left _ hmem)
  · exact hcontextual (hsealed ▸ by decide)

/-- What follows the first word of a type: a name, or a mark that belongs to the type or to three
dots. -/
def FollowsWord (ts : Tokens) : Prop :=
  ∃ u more, ts = u :: more ∧ (u.kind = .word ∨ ∃ c ∈ ['.', '<', '['], u.isMark c = true)

/-- A type begins, and something else follows it.  A word that is an identifier in some places
only is a qualifier here. -/
def BeginsType (ts : Tokens) : Prop :=
  ∃ t u more, ts = t :: u :: more ∧ t.kind = .word ∧ t.text ∉ declaringWords
    ∧ (t.text ∈ contextualWords → u.isMark '.' = true) ∧ FollowsWord (u :: more)

theorem FollowsWord.not_mark {u : Token} {more : Tokens} (h : FollowsWord (u :: more)) {c : Char}
    (hc : c ∉ ['.', '<', '[']) : u.isMark c = false := by
  obtain ⟨v, vs, heq, hv⟩ := h
  obtain ⟨rfl, rfl⟩ := List.cons.inj heq
  rcases hv with hword | ⟨d, hd, hmark⟩
  · exact isMark_of_kind hword c
  · exact isMark_false_of_ne hmark fun heq => hc (heq ▸ hd)

theorem BeginsType.beginsMember {ts : Tokens} (h : BeginsType ts) : BeginsMember ts := by
  obtain ⟨t, u, more, rfl, hword, htext, hcontextual, hu⟩ := h
  refine ⟨t, u, more, rfl, hword, htext, fun hmem => ?_, hu.not_mark (by decide)⟩
  have hdot := hcontextual hmem
  exact ⟨kind_ne_word_of_isMark hdot, isMark_false_of_ne hdot (by decide)⟩

/-- A word that is nothing else wherever it stands begins a type. -/
theorem BeginsType.of_word {t : Token} {more : Tokens} (hword : t.kind = .word)
    (htext : t.text ∉ declaringWords ++ contextualWords) (hmore : FollowsWord more) :
    BeginsType (t :: more) := by
  obtain ⟨u, us, rfl, -⟩ := id hmore
  rw [List.mem_append, not_or] at htext
  exact ⟨t, u, us, rfl, hword, htext.1, fun hmem => absurd hmem htext.2, hmore⟩

theorem Grammar.Identifier.not_declaring (n : Identifier) : n.text ∉ declaringWords := by
  have hkeywords : ∀ w ∈ declaringWords, w ∈ keywords := by decide
  exact fun h => n.isFree (hkeywords _ h)

theorem Grammar.TypeName.not_declaring (n : TypeName) :
    n.name.text ∉ declaringWords ++ contextualWords := by
  have huntyped : ∀ w ∈ contextualWords, w ∈ untypedWords := by decide
  rw [List.mem_append, not_or]
  exact ⟨n.name.not_declaring, fun h => n.isTyped (huntyped _ h)⟩

theorem followsWord_name (n : Identifier) (g : List Gap) (rest : Tokens) :
    FollowsWord (n.lexeme.token g :: rest) :=
  ⟨_, rest, rfl, .inl rfl⟩

theorem followsWord_dimensions {n : Nat} {dims rest : Tokens} (h : Reads (dimensionPieces n) dims)
    (hrest : FollowsWord rest) : FollowsWord (dims ++ rest) := by
  cases n with
  | zero =>
      cases h
      exact hrest
  | succ n =>
      obtain ⟨g, us, -, rfl⟩ := reads_mark_iff.mp h
      exact ⟨_, us ++ rest, rfl, .inr ⟨'[', by decide, by simp⟩⟩

theorem followsWord_arguments {as : List TypeArgument} {args rest : Tokens}
    (h : Reads (argumentPieces as) args) (hrest : FollowsWord rest) :
    FollowsWord (args ++ rest) := by
  cases as with
  | nil =>
      cases h
      exact hrest
  | cons a as =>
      obtain ⟨g, us, -, rfl⟩ := reads_mark_iff.mp h
      exact ⟨_, us ++ rest, rfl, .inr ⟨'<', by decide, by simp⟩⟩

/-- A type begins with a word that is no other beginning. -/
theorem beginsType_type (t : TypeUse) {front rest : Tokens} (h : Reads t.pieces front)
    (hrest : FollowsWord rest) : BeginsType (front ++ rest) := by
  cases t with
  | primitive w hw n =>
      have hplain : ∀ w ∈ SyntaxCheck.primitiveWords, w ∉ declaringWords ++ contextualWords := by
        decide
      obtain ⟨g, dims, hdims, rfl⟩ := reads_word_iff.mp h
      exact .of_word rfl (hplain w hw) (followsWord_dimensions hdims.reads hrest)
  | reference q arguments n =>
      have hname := q.not_declaring
      obtain ⟨⟨qs, name⟩, htyped⟩ := q
      obtain ⟨names, more, hnames, hmore, rfl⟩ := Reads.append h
      obtain ⟨args, dims, hargs, hdims, rfl⟩ := Reads.append hmore
      have hbehind : FollowsWord (args ++ (dims ++ rest)) :=
        followsWord_arguments hargs (followsWord_dimensions hdims hrest)
      rw [List.append_assoc, List.append_assoc]
      cases qs with
      | nil =>
          obtain ⟨g, us, ⟨⟩, rfl⟩ := reads_word_iff.mp hnames
          exact .of_word rfl hname hbehind
      | cons q qs =>
          obtain ⟨g, us, hus, rfl⟩ := reads_word_iff.mp hnames
          obtain ⟨g', vs, -, rfl⟩ := reads_mark_iff.mp hus.reads
          exact ⟨_, _, _, rfl, rfl, q.not_declaring, fun _ => by simp, _, _, rfl,
            .inr ⟨'.', by decide, by simp⟩⟩

/-- So does the result of a method. -/
theorem beginsType_result (r : Option TypeUse) {front rest : Tokens}
    (h : Reads (Method.resultPieces r) front) (hrest : FollowsWord rest) :
    BeginsType (front ++ rest) := by
  cases r with
  | none =>
      obtain ⟨g, us, ⟨⟩, rfl⟩ := reads_word_iff.mp h
      have hplain : "void" ∉ declaringWords ++ contextualWords := by decide
      exact .of_word rfl hplain hrest
  | some t => exact beginsType_type t h hrest

/-- The result of a method is read back. -/
theorem result_reads (r : Option TypeUse) {front rest : Tokens} {budget : Nat}
    (h : Reads (Method.resultPieces r) front) (hbudget : 2 * front.length ≤ budget)
    (hrest : EndsType rest) :
    ∃ tree, type? budget (front ++ rest) = some (tree, rest)
      ∧ tree.written = r.elim .void TypeUse.written := by
  cases r with
  | none =>
      obtain ⟨g, us, ⟨⟩, rfl⟩ := reads_word_iff.mp h
      rw [List.length_singleton] at hbudget
      obtain ⟨budget, rfl⟩ : ∃ b, budget = b + 1 + 1 := ⟨budget - 2, by omega⟩
      have hsimple : simpleName "void" = "void" := by decide
      exact type?_word hsimple g (n := 0) .nil hrest (Nat.zero_le _)
  | some t => exact type?_reads t h hbudget hrest

/-! ### Types and parameters are balanced -/

theorem balancedPieces_dimensions (n : Nat) : BalancedPieces (dimensionPieces n) := by
  induction n with
  | zero => exact .nil
  | succ n ih => exact .group (by decide) .nil (by decide) ih

mutual

theorem balancedPieces_type : ∀ t : TypeUse, BalancedPieces t.pieces
  | .primitive _ _ n => .word (balancedPieces_dimensions n)
  | .reference q as n =>
      (balancedPieces_path q.name q.qualifier).append
        ((balancedPieces_arguments as).append (balancedPieces_dimensions n))

theorem balancedPieces_typeArgument : ∀ a : TypeArgument, BalancedPieces a.pieces
  | .wildcard => .mark (by decide) .nil
  | .bounded true bound => .mark (by decide) (.word (balancedPieces_type bound))
  | .bounded false bound => .mark (by decide) (.word (balancedPieces_type bound))
  | .type t => balancedPieces_type t

theorem balancedPieces_arguments : ∀ as, BalancedPieces (argumentPieces as)
  | [] => .nil
  | a :: as =>
      .mark (by decide) ((balancedPieces_typeArgument a).append (balancedPieces_furtherArguments as))

theorem balancedPieces_furtherArguments : ∀ as, BalancedPieces (furtherArgumentPieces as)
  | [] => .mark (by decide) .nil
  | a :: as =>
      .mark (by decide) ((balancedPieces_typeArgument a).append (balancedPieces_furtherArguments as))

end

theorem run_dotsPiece (g : List Gap) :
    Written.Parameter.dotsPiece.run g = [Lexeme.dot.token g,
      Lexeme.dot.token [], Lexeme.dot.token []] := rfl

theorem balancedPieces_parameter (p : Grammar.Parameter) : BalancedPieces p.pieces := by
  refine (balancedPieces_modifiers p.modifiers).append ((balancedPieces_type p.type).append ?_)
  unfold Parameter.namePieces
  cases p.dimensions with
  | none =>
      refine .cons (fun g => ?_) (.word .nil)
      rw [run_dotsPiece]
      exact .cons_inert (isInert_mark g (by decide)) (.cons_inert (isInert_mark [] (by decide))
        (.cons_inert (isInert_mark [] (by decide)) .nil))
  | some n => exact .word (balancedPieces_dimensions n)

/-! ### One parameter -/

theorem dots_of_not_dot {ts : Tokens} (h : ∀ t ∈ ts.head?, t.isMark '.' = false) :
    dots ts = (false, ts) := by
  match ts with
  | [] => rfl
  | [_] => rfl
  | [_, _] => rfl
  | t :: u :: v :: more =>
      have ht := h t rfl
      simp [dots, ht]

theorem dots_dotsPiece (g : List Gap) (rest : Tokens) :
    dots (Written.Parameter.dotsPiece.run g ++ rest) = (true, rest) := by
  simp [run_dotsPiece, dots]

theorem isReceiver_name (n : Identifier) (g : List Gap) {rest : Tokens}
    (hrest : ∀ t ∈ rest.head?, t.isMark '.' = false) :
    isReceiver (n.lexeme.token g :: rest) = false := by
  have hthis : n.text ≠ "this" := n.ne_of_mem (by decide)
  cases rest with
  | nil => simp [isReceiver, hthis]
  | cons t rest =>
      have ht := hrest t rfl
      simp [isReceiver, hthis, ht]

/-- A name ends a type in front. -/
theorem endsType_name (n : Identifier) (g : List Gap) (rest : Tokens) :
    EndsType (n.lexeme.token g :: rest) := by
  refine ⟨⟨fun t ht => ?_, fun t u more heq => ?_⟩, fun t ht => ?_⟩
  · cases ht
    rfl
  · obtain ⟨rfl, -⟩ := List.cons.inj heq
    rfl
  · cases ht
    exact ⟨rfl, rfl⟩

theorem endsType_dots (g : List Gap) (rest : Tokens) :
    EndsType (Written.Parameter.dotsPiece.run g ++ rest) := by
  rw [run_dotsPiece]
  refine ⟨⟨fun t ht => ?_, fun t u more heq => ?_⟩, fun t ht => ?_⟩
  · cases ht
    simp
  · obtain ⟨-, heq⟩ := List.cons.inj heq
    obtain ⟨rfl, -⟩ := List.cons.inj heq
    exact Bool.and_false _
  · cases ht
    simp

/-- Nothing but a comma follows a parameter. -/
def EndsParameter (rest : Tokens) : Prop :=
  ∀ t ∈ rest.head?, t.isMark ',' = true

theorem EndsParameter.endsDimensions {rest : Tokens} (h : EndsParameter rest) :
    EndsDimensions rest := fun t ht =>
  ⟨isMark_false_of_ne (h t ht) (by decide), isMark_false_of_ne (h t ht) (by decide)⟩

/-- The name of a parameter is read back, with what belongs to it. -/
theorem parameterName_reads (p : Grammar.Parameter) {names rest : Tokens} {budget : Nat}
    (h : Reads p.namePieces names) (hbudget : names.length ≤ budget) (hrest : EndsParameter rest) :
    EndsType (names ++ rest) ∧ FollowsWord (names ++ rest)
      ∧ ∃ variadic dims g, dots (names ++ rest) = (variadic, p.name.lexeme.token g :: (dims ++ rest))
        ∧ dimensions budget (dims ++ rest) = (p.dimensions.getD 0, rest)
        ∧ variadic = p.dimensions.isNone
        ∧ ∀ t ∈ (dims ++ rest).head?, t.isMark '.' = false := by
  have hdot : ∀ t ∈ rest.head?, t.isMark '.' = false := fun t ht =>
    isMark_false_of_ne (hrest t ht) (by decide)
  unfold Parameter.namePieces at h
  cases hdims : p.dimensions with
  | none =>
      rw [hdims] at h
      obtain ⟨g, us, hus, rfl⟩ := reads_cons_iff.mp h
      obtain ⟨g', vs, ⟨⟩, rfl⟩ := reads_word_iff.mp hus.reads
      rw [List.append_assoc]
      have hfollows : FollowsWord (Written.Parameter.dotsPiece.run g ++ ([p.name.lexeme.token g'] ++ rest)) := by
        rw [run_dotsPiece]
        exact ⟨_, _, rfl, .inr ⟨'.', by decide, by simp⟩⟩
      refine ⟨endsType_dots g _, hfollows, true, [], g', dots_dotsPiece g _, ?_, rfl, hdot⟩
      exact dimensions_reads hrest.endsDimensions (n := 0) .nil (Nat.zero_le _)
  | some n =>
      rw [hdims] at h
      obtain ⟨g, us, hus, rfl⟩ := reads_word_iff.mp h
      have hlength := length_dimensions n hus.reads
      rw [List.length_cons] at hbudget
      refine ⟨endsType_name _ g _, ⟨_, _, rfl, .inl rfl⟩, false, us, g, ?_, ?_, rfl, ?_⟩
      · exact dots_of_not_dot fun t ht => by cases ht; rfl
      · exact dimensions_reads hrest.endsDimensions hus.reads (by omega)
      · cases n with
        | zero =>
            cases hus
            exact hdot
        | succ n =>
            obtain ⟨g', vs, -, rfl⟩ := reads_mark_iff.mp hus.reads
            intro t ht
            cases ht
            simp

/-- A parameter is read back. -/
theorem parameter?_reads (p : Grammar.Parameter) {front rest : Tokens} {budget : Nat}
    (h : Reads p.pieces front) (hbudget : 2 * front.length ≤ budget) (hrest : EndsParameter rest) :
    ∃ tree, parameter? budget (front ++ rest) = (some tree, rest)
      ∧ tree.toParameter = p.declared := by
  obtain ⟨mods, more, hmods, hmore, rfl⟩ := Reads.append h
  obtain ⟨type, names, htype, hnames, rfl⟩ := Reads.append hmore
  simp only [List.length_append] at hbudget
  have hmodsBudget : mods.length ≤ budget := by omega
  have htypeBudget : 2 * type.length ≤ budget := by omega
  have hnamesBudget : names.length ≤ budget := by omega
  obtain ⟨hends, hfollows, variadic, dims, g, hdots, hdims, hvariadic, hdot⟩ :=
    parameterName_reads p hnames hnamesBudget hrest
  have hplain := (beginsType_type p.type htype hfollows).beginsMember.startsPlain
  obtain ⟨trees, hread, hmarks, -⟩ := modifiers_reads p.modifiers (.word hplain) hmods hmodsBudget
  obtain ⟨tree, htree, hwritten⟩ := type?_reads p.type htype htypeBudget hends
  refine ⟨⟨trees, tree, variadic, p.name.text, p.dimensions.getD 0⟩, ?_, ?_⟩
  · rw [List.append_assoc, List.append_assoc, parameter?]
    simp only [hread, htree, hdots, isReceiver_name p.name g hdot, Bool.false_eq_true, ↓reduceIte,
      kind_word, hdims, text_word]
  · rw [ParameterTree.toParameter, Parameter.declared, Parameter.writtenType, hmarks, hwritten,
      hvariadic]
    cases p.dimensions <;> rfl

/-! ### Parameters in parentheses -/

theorem ne_nil_of_parameter (p : Grammar.Parameter) {front : Tokens} (h : Reads p.pieces front) :
    front ≠ [] := by
  obtain ⟨mods, more, -, hmore, rfl⟩ := Reads.append h
  obtain ⟨type, names, htype, -, rfl⟩ := Reads.append hmore
  obtain ⟨u, us, rfl, -⟩ := word_of_typeUse p.type htype
  simp

theorem parameters_last {budget : Nat} {front : Tokens} {tree : ParameterTree}
    (h : parameter? budget front = (some tree, [])) (hfront : front ≠ []) :
    parameters (budget + 1) front = [tree] := by
  cases front with
  | nil => exact absurd rfl hfront
  | cons t ts =>
      rw [parameters.eq_def]
      simp only [h, afterExpression, Option.toList_some]

theorem parameters_comma {budget : Nat} {front : Tokens} {tree : ParameterTree} {t : Token}
    {more : Tokens} (h : parameter? budget front = (some tree, t :: more))
    (ht : t.isMark ',' = true) (hfront : front ≠ []) :
    parameters (budget + 1) front = tree :: parameters budget more := by
  cases front with
  | nil => exact absurd rfl hfront
  | cons u us =>
      rw [parameters.eq_def]
      simp only [h, afterExpression_end (.inl ht), Option.toList_some, List.singleton_append]

/-- Parameters are read back. -/
theorem parameters_reads (ps : List Grammar.Parameter) :
    ∀ {front : Tokens} {budget : Nat},
      Reads (separated (.of .comma) (ps.map Parameter.pieces)) front → 2 * front.length < budget →
      (parameters budget front).map ParameterTree.toParameter = ps.map Parameter.declared := by
  induction ps with
  | nil =>
      intro front budget h hbudget
      cases h
      obtain ⟨budget, rfl⟩ : ∃ b, budget = b + 1 := ⟨budget - 1, by omega⟩
      rfl
  | cons p ps ih =>
      intro front budget h hbudget
      obtain ⟨budget, rfl⟩ : ∃ b, budget = b + 1 := ⟨budget - 1, by omega⟩
      cases ps with
      | nil =>
          have hparameter : 2 * front.length ≤ budget := by omega
          have hends : EndsParameter [] := by
            intro t ht
            cases ht
          obtain ⟨tree, htree, hdeclared⟩ := parameter?_reads p h hparameter hends
          rw [List.append_nil] at htree
          rw [parameters_last htree (ne_nil_of_parameter p h), List.map_singleton, hdeclared]
          rfl
      | cons q ps =>
          obtain ⟨first, more, hfirst, hmore, rfl⟩ := Reads.append h
          obtain ⟨g, us, hus, rfl⟩ := reads_mark_iff.mp hmore
          rw [List.length_append, List.length_cons] at hbudget
          have hparameter : 2 * first.length ≤ budget := by omega
          have hothers : 2 * us.length < budget := by omega
          have hends : EndsParameter (Lexeme.comma.token g :: us) := by
            intro t ht
            cases ht
            simp
          obtain ⟨tree, htree, hdeclared⟩ := parameter?_reads p hfirst hparameter hends
          have hrest := ih hus.reads hothers
          rw [parameters_comma htree (by simp) (by simp), List.map_cons, hdeclared, hrest]
          rfl

/-- Parentheses around parameters: what stands in them, and what follows. -/
theorem parentheses_reads (ps : List Grammar.Parameter) {front : Tokens} {budget : Nat}
    (h : Reads (parameterPieces ps) front) (hbudget : 2 * front.length ≤ budget) (rest : Tokens) :
    ∃ g inner ts, front ++ rest = Lexeme.openParen.token g :: ts
      ∧ insideBrackets 0 ts = (inner, rest)
      ∧ (parameters budget inner).map ParameterTree.toParameter = ps.map Parameter.declared := by
  obtain ⟨g, us, hus, rfl⟩ := reads_mark_iff.mp h
  obtain ⟨inner, vs, hinner, hvs, rfl⟩ := spells_append_iff.mp hus
  obtain ⟨g', ws, ⟨⟩, rfl⟩ := reads_mark_iff.mp hvs.reads
  have hbalanced : BalancedPieces (separated (.of .comma) (ps.map Parameter.pieces)) := by
    refine .separated (balanced_mark _ (by decide)) fun qs hqs => ?_
    obtain ⟨p, -, rfl⟩ := List.mem_map.mp hqs
    exact balancedPieces_parameter p
  simp only [List.length_cons, List.length_append] at hbudget
  refine ⟨g, inner, inner ++ Lexeme.closeParen.token g' :: rest, ?_,
    parenthesized_reads (hbalanced.balanced hinner.reads) g',
    parameters_reads ps hinner.reads (by omega)⟩
  simp

/-! ### Type parameters -/

theorem matching_dimensions (n : Nat) : Matching '<' '>' (dimensionPieces n) := by
  induction n with
  | zero => exact .nil
  | succ n ih => exact .cons rfl (.cons rfl ih)

theorem matching_path (name : Identifier) (qs : List Identifier) :
    Matching '<' '>' (Path.piecesOf name qs) := by
  induction qs with
  | nil => exact .cons rfl .nil
  | cons q qs ih => exact .cons rfl (.cons rfl ih)

mutual

/-- The angle brackets in a type match. -/
theorem matching_type : ∀ t : TypeUse, Matching '<' '>' t.pieces
  | .primitive _ _ n => .cons rfl (matching_dimensions n)
  | .reference q as n =>
      (matching_path q.name q.qualifier).append
        ((matching_arguments as).append (matching_dimensions n))

theorem matching_typeArgument : ∀ a : TypeArgument, Matching '<' '>' a.pieces
  | .wildcard => .cons rfl .nil
  | .bounded true bound => .cons rfl (.cons rfl (matching_type bound))
  | .bounded false bound => .cons rfl (.cons rfl (matching_type bound))
  | .type t => matching_type t

theorem matching_arguments : ∀ as, Matching '<' '>' (argumentPieces as)
  | [] => .nil
  | a :: as => by
      obtain ⟨inner, heq, hinner⟩ := matching_furtherArguments as
      rw [argumentPieces, heq, ← List.append_assoc]
      exact .pair ((matching_typeArgument a).append hinner) .nil

theorem matching_furtherArguments :
    ∀ as, ∃ inner, furtherArgumentPieces as = inner ++ [.of .greater] ∧ Matching '<' '>' inner
  | [] => ⟨[], rfl, .nil⟩
  | a :: as => by
      obtain ⟨inner, heq, hinner⟩ := matching_furtherArguments as
      refine ⟨.of .comma :: (a.pieces ++ inner), ?_,
        .cons rfl ((matching_typeArgument a).append hinner)⟩
      rw [furtherArgumentPieces, heq, List.cons_append, List.append_assoc]

end

theorem matching_typeParameter (p : TypeParameter) : Matching '<' '>' p.pieces := by
  obtain ⟨name, bounds⟩ := p
  refine .cons rfl ?_
  cases bounds with
  | nil => exact .nil
  | cons t ts =>
      refine .cons rfl (.separated rfl fun ps hps => ?_)
      obtain ⟨u, -, rfl⟩ := List.mem_map.mp hps
      exact matching_type u

/-- Type parameters are passed over. -/
theorem typeParameters_reads (ps : List TypeParameter) {front rest : Tokens}
    (h : Reads (typeParameterPieces ps) front)
    (hrest : ∀ t ∈ rest.head?, t.isMark '<' = false ∧ t.isMark '@' = false) (budget : Nat) :
    afterTypeParameters budget (front ++ rest) = rest := by
  cases ps with
  | nil =>
      cases h
      cases rest with
      | nil => rfl
      | cons t rest => simp [afterTypeParameters, (hrest t rfl).1]
  | cons p ps =>
      obtain ⟨opener, us, hopener, hus, rfl⟩ := h.mark
      obtain ⟨inner, vs, hinner, hvs, rfl⟩ := spells_append_iff.mp hus
      obtain ⟨closer, ws, hcloser, ⟨⟩, rfl⟩ := hvs.reads.mark
      have hmatching : Matching '<' '>'
          (separated (.of .comma) ((p :: ps).map TypeParameter.pieces)) := by
        refine .separated rfl fun qs hqs => ?_
        obtain ⟨q, -, rfl⟩ := List.mem_map.mp hqs
        exact matching_typeParameter q
      rw [List.cons_append, List.append_assoc, List.singleton_append, afterTypeParameters, hopener]
      simp only [↓reduceIte, isScan_afterAngles.closer hmatching hinner.reads hcloser]
      exact afterMarks_of_not_at (fun t ht => (hrest t ht).2) budget

end ServiceAtlas.Java
