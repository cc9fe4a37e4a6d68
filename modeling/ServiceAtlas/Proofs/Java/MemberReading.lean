/-
Members are read back.

Fields, constructors and methods begin alike: a comment, modifiers, perhaps type parameters, and a
word that begins no type declaration.  What follows that word tells them apart; a brace opens an
initializer.  The members of a body are read one after the other, each of them leaving exactly the
tokens behind it.
-/
import ServiceAtlas.Proofs.Java.ParameterReading

namespace ServiceAtlas.Java

open Reader Grammar
open Written (Modifier documentationOf)

/-- The tree of a member declares what the written member does. -/
structure Declares (kind : TypeKind) (w : Grammar.Member) (m : Member) : Prop where
  fields : m.fields = w.fields kind
  constructors : m.constructor? = w.constructor?
  methods : m.method? = w.method? kind
  constants : m.constant? = none
  types : ∀ scope origin, m.declarations scope origin = w.declarations scope origin

/-- The texts of a comment that may be missing. -/
def commentTexts (comment : Option DocComment) : List String :=
  comment.toList.map fun c => String.ofList c.text

theorem nearest_commentTexts (comment : Option DocComment) :
    Javadoc.nearest (commentTexts comment) = documentationOf comment := by
  cases comment with
  | none => rfl
  | some c =>
      have hparse : Javadoc.isJavadoc c.text = false → Javadoc.parse c.text = .none := by
        intro h
        rw [Javadoc.parse, h]
        rfl
      rw [Javadoc.nearest, commentTexts, documentationOf]
      by_cases h : Javadoc.isJavadoc c.text = true
      · simp [h]
      · simp [h, hparse (by simpa using h)]

/-! ### Variables -/

/-- A comma or a semicolon follows. -/
def EndsVariable (rest : Tokens) : Prop :=
  ∃ t more, rest = t :: more ∧ (t.isMark ',' = true ∨ t.isMark ';' = true)

/-- An initial value is passed over. -/
theorem initial_reads (e : Option Expression) {front rest : Tokens}
    (h : Reads (initialPieces e) front) (hrest : EndsVariable rest) :
    EndsDimensions (front ++ rest) ∧ afterExpression 0 0 (front ++ rest) = rest := by
  obtain ⟨t, more, rfl, ht⟩ := hrest
  cases e with
  | none =>
      cases h
      refine ⟨fun u hu => ?_, afterExpression_end ht more⟩
      cases hu
      rcases ht with ht | ht
      all_goals
        exact ⟨isMark_false_of_ne ht (by decide), isMark_false_of_ne ht (by decide)⟩
  | some e =>
      obtain ⟨g, us, hus, rfl⟩ := reads_mark_iff.mp h
      refine ⟨fun u hu => ?_, ?_⟩
      · cases hu
        simp
      · rw [List.cons_append, afterExpression_inert (isInert_mark g (by decide)),
          e.isClosed.afterExpression hus.reads, afterExpression_end ht]

/-- The variable as it is read. -/
def Grammar.Variable.declarator (v : Variable) : Declarator :=
  ⟨v.name.text, v.dimensions⟩

theorem declarators_variable (v : Variable) {front : Tokens} {budget : Nat}
    (h : Reads v.pieces front) (hbudget : front.length ≤ budget) {t : Token} {more : Tokens}
    (ht : t.isMark ',' = true ∨ t.isMark ';' = true) :
    declarators (budget + 1) (front ++ t :: more)
      = if t.isMark ',' then
          (v.declarator :: (declarators budget more).1, (declarators budget more).2)
        else ([v.declarator], more) := by
  obtain ⟨g, us, hus, rfl⟩ := reads_word_iff.mp h
  obtain ⟨dims, initial, hdims, hinitial, rfl⟩ := spells_append_iff.mp hus
  obtain ⟨hends, hafter⟩ := initial_reads v.initial hinitial.reads ⟨t, more, rfl, ht⟩
  have hlength := length_dimensions v.dimensions hdims.reads
  rw [List.length_cons, List.length_append] at hbudget
  have hcount : v.dimensions ≤ budget := by omega
  have hread := dimensions_reads hends hdims.reads hcount
  rw [List.cons_append, List.append_assoc, declarators]
  simp only [kind_word, ↓reduceIte, hread, hafter, text_word]
  rcases ht with ht | ht
  · simp [ht, Variable.declarator]
  · simp [ht, isMark_false_of_ne ht, Variable.declarator]

/-- Variables declared together are read back, up to the semicolon. -/
theorem declarators_reads {t : Token} (ht : t.isMark ';' = true) (rest : Tokens)
    (vs : List Variable) :
    ∀ (v : Variable) {front : Tokens} {budget : Nat},
      Reads (separated (.of .comma) ((v :: vs).map Variable.pieces)) front →
      front.length < budget →
      declarators budget (front ++ t :: rest) = ((v :: vs).map Variable.declarator, rest) := by
  induction vs with
  | nil =>
      intro v front budget h hbudget
      obtain ⟨budget, rfl⟩ : ∃ b, budget = b + 1 := ⟨budget - 1, by omega⟩
      rw [declarators_variable v h (by omega) (.inr ht)]
      simp [isMark_false_of_ne ht]
  | cons u vs ih =>
      intro v front budget h hbudget
      obtain ⟨first, more, hfirst, hmore, rfl⟩ := Reads.append h
      obtain ⟨g, us, hus, rfl⟩ := reads_mark_iff.mp hmore
      rw [List.length_append, List.length_cons] at hbudget
      obtain ⟨budget, rfl⟩ : ∃ b, budget = b + 1 := ⟨budget - 1, by omega⟩
      have hothers : us.length < budget := by omega
      rw [List.append_assoc, List.cons_append,
        declarators_variable v hfirst (by omega) (.inl (by simp)), ih u hus.reads hothers]
      simp

/-- What follows the name of a variable opens no parenthesis. -/
theorem first_of_variable (v : Variable) {front rest : Tokens} (h : Reads v.pieces front)
    (hrest : EndsVariable rest) :
    ∃ g next more, front ++ rest = v.name.lexeme.token g :: next :: more
      ∧ next.isMark '(' = false := by
  obtain ⟨t, more, rfl, ht⟩ := hrest
  obtain ⟨g, us, hus, rfl⟩ := reads_word_iff.mp h
  obtain ⟨dims, initial, hdims, hinitial, rfl⟩ := spells_append_iff.mp hus
  cases hn : v.dimensions with
  | zero =>
      rw [hn] at hdims
      cases hdims
      cases hv : v.initial with
      | none =>
          rw [hv] at hinitial
          cases hinitial
          refine ⟨g, t, more, rfl, ?_⟩
          rcases ht with ht | ht
          all_goals
            exact isMark_false_of_ne ht (by decide)
      | some value =>
          rw [hv] at hinitial
          obtain ⟨g', vs, -, rfl⟩ := reads_mark_iff.mp hinitial.reads
          exact ⟨g, _, vs ++ t :: more, rfl, by simp⟩
  | succ n =>
      rw [hn] at hdims
      obtain ⟨g', vs, -, rfl⟩ := reads_mark_iff.mp hdims.reads
      exact ⟨g, _, vs ++ initial ++ t :: more, rfl, by simp⟩

theorem first_of_variables (v : Variable) (vs : List Variable) {front : Tokens}
    (h : Reads (separated (.of .comma) ((v :: vs).map Variable.pieces)) front) {t : Token}
    (ht : t.isMark ';' = true) (rest : Tokens) :
    ∃ g next more, front ++ t :: rest = v.name.lexeme.token g :: next :: more
      ∧ next.isMark '(' = false := by
  cases vs with
  | nil => exact first_of_variable v h ⟨t, rest, rfl, .inr ht⟩
  | cons u vs =>
      obtain ⟨first, more, hfirst, hmore, rfl⟩ := Reads.append h
      obtain ⟨g', us, -, rfl⟩ := reads_mark_iff.mp hmore
      rw [List.append_assoc]
      exact first_of_variable v hfirst ⟨_, _, rfl, .inl (by simp)⟩

/-! ### The end of a method -/

/-- A body is passed over from behind its opening brace. -/
theorem block_reads (b : Block) {front : Tokens} (h : Reads b.pieces front) (rest : Tokens) :
    ∃ t ts, front ++ rest = t :: ts ∧ t.isMark '\x7b' = true ∧ afterBraces 0 ts = rest := by
  obtain ⟨opener, us, hopener, hus, rfl⟩ := h.mark
  obtain ⟨inner, vs, hinner, hvs, rfl⟩ := spells_append_iff.mp hus
  obtain ⟨closer, ws, hcloser, ⟨⟩, rfl⟩ := hvs.reads.mark
  refine ⟨opener, inner ++ closer :: rest, by simp, hopener, ?_⟩
  exact isScan_afterBraces.closer b.isMatched hinner.reads hcloser rest

/-- A token among those between the parameters of a method and its body. -/
def IsThrown (t : Token) : Prop :=
  isOpening t = false ∧ isClosing t = false ∧ t.isMark ';' = false ∧ t.isWord "default" = false

theorem afterMethod_thrown {ts : Tokens} (h : ∀ t ∈ ts, IsThrown t) :
    ∀ {budget : Nat}, ts.length ≤ budget → ∀ rest,
      afterMethod budget (ts ++ rest) = afterMethod (budget - ts.length) rest := by
  induction ts with
  | nil => exact fun _ _ => rfl
  | cons t ts ih =>
      intro budget hbudget rest
      obtain ⟨⟨hopens, hcloses, hsemicolon, hdefault⟩, hts⟩ := List.forall_mem_cons.mp h
      obtain ⟨budget, rfl⟩ : ∃ b, budget = b + 1 := by
        rw [List.length_cons] at hbudget
        exact ⟨budget - 1, by omega⟩
      have hbrace : t.isMark '\x7b' = false := by
        simp only [isOpening, Bool.or_eq_false_iff] at hopens
        exact hopens.2
      rw [List.length_cons] at hbudget
      rw [List.cons_append, afterMethod.eq_def]
      simp only [hopens, hcloses, hsemicolon, hdefault, hbrace, Bool.false_eq_true, ↓reduceIte,
        List.length_cons, Nat.add_sub_add_right]
      exact ih hts (by omega) rest

theorem isThrown_word {w : String} {hw : isName w.toList = true} (h : w ≠ "default")
    (gaps : List Gap) : IsThrown ((Lexeme.word w hw).token gaps) :=
  ⟨rfl, rfl, rfl, by simp [h]⟩

theorem isThrown_mark {c : Char} {h : c ∈ separators} (hc : c ∈ ['.', ',']) (gaps : List Gap) :
    IsThrown ((Lexeme.mark c h).token gaps) := by
  have hmarks : ∀ d ∈ ['.', ','], d ∉ ['(', '[', '\x7b', ')', ']', '\x7d', ';'] :=
    forall_mem_of_all (by decide)
  have hne := hmarks c hc
  simp only [List.mem_cons, not_or] at hne
  simp [IsThrown, isOpening, isClosing, hne]

/-- The exceptions of a method are passed over. -/
theorem isThrown_pieces (ps : List Path) :
    ∀ p ∈ thrownPieces ps, ∀ gaps, ∀ t ∈ p.run gaps, IsThrown t := by
  intro p hp gaps t ht
  have hsep : p = .of .comma ∨ (∃ n : Identifier, p = n.piece) ∨ p = .of .dot
      ∨ p = .word "throws" (by decide) := by
    cases ps with
    | nil => cases hp
    | cons q qs =>
        rcases List.mem_cons.mp hp with rfl | hp
        · exact .inr (.inr (.inr rfl))
        · rcases mem_separated hp with rfl | ⟨rs, hrs, hp⟩
          · exact .inl rfl
          · obtain ⟨r, -, rfl⟩ := List.mem_map.mp hrs
            exact .inr ((mem_piecesOf hp).imp_right .inl)
  rcases hsep with rfl | ⟨n, rfl⟩ | rfl | rfl
  · rw [List.mem_singleton.mp ht]
    exact isThrown_mark (h := by decide) (by decide) gaps
  · rw [List.mem_singleton.mp ht]
    exact isThrown_word (n.ne_of_mem (by decide)) gaps
  · rw [List.mem_singleton.mp ht]
    exact isThrown_mark (h := by decide) (by decide) gaps
  · rw [List.mem_singleton.mp ht]
    exact isThrown_word (by decide) gaps

/-- The end of a method is passed over. -/
theorem ending_reads (e : Ending) {front : Tokens} (h : Reads e.pieces front) (budget : Nat)
    (rest : Tokens) : afterMethod (budget + 1) (front ++ rest) = rest := by
  cases e with
  | body b =>
      obtain ⟨t, ts, heq, ht, hbody⟩ := block_reads b h rest
      rw [heq, afterMethod]
      simp [ht, hbody, isMark_false_of_ne ht]
  | nothing =>
      obtain ⟨t, us, ht, ⟨⟩, rfl⟩ := h.mark
      simp [afterMethod, ht]
  | value e =>
      obtain ⟨g, us, hus, rfl⟩ := reads_word_iff.mp h
      obtain ⟨value, ending, hvalue, hending, rfl⟩ := spells_append_iff.mp hus
      obtain ⟨t, vs, ht, ⟨⟩, rfl⟩ := hending.reads.mark
      have hafter := e.isClosed.afterSemicolon hvalue.reads (t :: rest)
      rw [afterSemicolon_end ht] at hafter
      rw [List.cons_append, List.append_assoc, List.singleton_append, afterMethod]
      simp [hafter]

/-- A method ends behind the exceptions it throws. -/
theorem afterMethod_reads (thrown : List Path) (e : Ending) {front : Tokens} {budget : Nat}
    (h : Reads (thrownPieces thrown ++ e.pieces) front) (hbudget : front.length < budget)
    (rest : Tokens) : afterMethod budget (front ++ rest) = rest := by
  obtain ⟨names, ending, hnames, hending, rfl⟩ := Reads.append h
  have hthrown := forall_mem_of_reads (isThrown_pieces thrown) hnames
  rw [List.length_append] at hbudget
  obtain ⟨b, hb⟩ : ∃ b, budget - names.length = b + 1 := ⟨budget - names.length - 1, by omega⟩
  rw [List.append_assoc, afterMethod_thrown hthrown (by omega), hb, ending_reads e hending]

/-! ### One member -/

theorem BeginsMember.declaredType? {ts : Tokens} (h : BeginsMember ts) :
    Reader.declaredType? ts = none := by
  obtain ⟨t, u, more, rfl, hkind, htext, hcontextual, -⟩ := h
  have hword : ∀ w ∈ declaringWords, t.isWord w = false := by
    intro w hw
    have hne : t.text ≠ w := fun heq => htext (heq ▸ hw)
    simp [Token.isWord, hne]
  have hrecord : u.kind = .word → t.isWord "record" = false := by
    intro hu
    have hne : t.text ≠ "record" := fun heq => (hcontextual (heq ▸ by decide)).1 hu
    simp [Token.isWord, hne]
  rw [declaredType?.eq_def]
  by_cases hu : u.kind = .word
  · simp [hu, hrecord hu, hword "class" (by decide), hword "interface" (by decide),
      hword "enum" (by decide), isMark_of_kind hkind]
  · simp [hu]

theorem declaredType?_of_mark {t : Token} {c : Char} (hc : c ∈ beginningMarks)
    (ht : t.isMark c = true) (ts : Tokens) : Reader.declaredType? (t :: ts) = none := by
  have hmarks : ∀ d ∈ beginningMarks, d ≠ '@' := forall_mem_of_all (by decide)
  rw [declaredType?.eq_def]
  cases ts with
  | nil => rfl
  | cons u us => simp [isWord_of_isMark ht, isMark_false_of_ne ht (hmarks c hc)]

/-- Modifiers end, and no type is declared here. -/
structure BeginsPlain (ms : List Modifier) (ts : Tokens) : Prop where
  modifiers : EndsModifiers ms ts
  type : Reader.declaredType? ts = none

theorem BeginsMember.beginsPlain {ts : Tokens} (h : BeginsMember ts) (ms : List Modifier) :
    BeginsPlain ms ts :=
  ⟨.word h.startsPlain, h.declaredType?⟩

theorem beginsPlain_mark {ms : List Modifier} (hms : ∀ m ∈ ms, isSealing m = false) {t : Token}
    {c : Char} (hc : c ∈ beginningMarks) (ht : t.isMark c = true) (ts : Tokens) :
    BeginsPlain ms (t :: ts) :=
  ⟨.mark hc ht hms, declaredType?_of_mark hc ht ts⟩

theorem BeginsMember.afterTypeParameters {ts : Tokens} (h : BeginsMember ts) (budget : Nat) :
    Reader.afterTypeParameters budget ts = ts := by
  obtain ⟨t, u, more, rfl, hword, -⟩ := h
  rw [Reader.afterTypeParameters]
  simp [isMark_of_kind hword]

/-- Type parameters in front of a member are passed over. -/
theorem generic_reads (ps : List TypeParameter) {ms : List Modifier}
    (hms : ps = [] ∨ ∀ m ∈ ms, isSealing m = false) {front rest : Tokens}
    (h : Reads (typeParameterPieces ps) front) (hrest : BeginsMember rest) :
    BeginsPlain ms (front ++ rest) ∧ ∀ budget context comments trees,
      plainMember budget context comments trees (front ++ rest)
        = plainMember budget context comments trees rest := by
  have hfirst : ∀ t ∈ rest.head?, t.isMark '<' = false ∧ t.isMark '@' = false := by
    obtain ⟨t, u, more, rfl, hword, -⟩ := hrest
    intro v hv
    cases hv
    exact ⟨isMark_of_kind hword _, isMark_of_kind hword _⟩
  refine ⟨?_, fun budget context comments trees => ?_⟩
  · cases ps with
    | nil =>
        cases h
        exact hrest.beginsPlain ms
    | cons p ps =>
        obtain ⟨t, us, ht, -, rfl⟩ := h.mark
        exact beginsPlain_mark (hms.resolve_left nofun) (by decide) ht (us ++ rest)
  · rw [plainMember, plainMember, typeParameters_reads ps h hfirst, hrest.afterTypeParameters]

/-- The member is no type. -/
inductive Grammar.Member.IsPlain : Grammar.Member → Prop
  | field (f : Grammar.Field) : IsPlain (.field f)
  | constructor (c : Grammar.Constructor) : IsPlain (.constructor c)
  | method (m : Grammar.Method) : IsPlain (.method m)
  | initializer (i : Initializer) : IsPlain (.initializer i)

section Plain

variable {kind : TypeKind} {budget : Nat} {comments : List String} {ms : List ModifierTree}

/-- A type and a name are a method, or an element of an annotation type, if a parenthesis follows,
and otherwise fields. -/
theorem plainMember_typed {ts : Tokens} (h : BeginsType ts) {tree : TypeTree} {name next : Token}
    {more : Tokens} (htype : type? budget ts = some (tree, name :: next :: more))
    (hname : name.kind = .word) :
    plainMember budget (some kind) comments ms ts
      = if next.isMark '(' then
          (if kind = .annotationType then .other
            else .method ⟨comments, ms, tree, name.text,
              parameters budget (insideBrackets 0 more).1⟩,
            afterMethod budget (insideBrackets 0 more).2)
        else
          (.field ⟨comments, ms, tree, (declarators budget (name :: next :: more)).1,
              Field.sharesFields kind⟩,
            (declarators budget (name :: next :: more)).2) := by
  have hplain := h.beginsMember.afterTypeParameters budget
  obtain ⟨t, u, us, rfl, hword, -, -, hu⟩ := h
  have hsecond : ∀ c ∉ ['.', '<', '['], u.isMark c = false := fun c hc => hu.not_mark hc
  rw [plainMember, hplain]
  simp only [isMark_of_kind hword, hsecond '(' (by decide), hsecond '\x7b' (by decide), htype, hname,
    Bool.false_eq_true, ↓reduceIte, Bool.and_false, reduceCtorEq, decide_false, decide_true,
    Bool.false_and, Bool.true_and, Option.some.injEq, Field.sharesFields]
  split_ifs <;> rfl

/-- A name and a parenthesis or a brace begin a constructor. -/
theorem beginsMember_named (owner : Identifier) (g : List Gap) {t : Token} {c : Char}
    (hc : c ∈ ['(', '\x7b']) (ht : t.isMark c = true) (more : Tokens) :
    BeginsMember (owner.lexeme.token g :: t :: more) := by
  have hmarks : ∀ d ∈ ['(', '\x7b'], d ≠ '@' ∧ d ≠ '-' := forall_mem_of_all (by decide)
  exact ⟨_, t, more, rfl, rfl, owner.not_declaring,
    fun _ => ⟨kind_ne_word_of_isMark ht, isMark_false_of_ne ht (hmarks c hc).1⟩,
    isMark_false_of_ne ht (hmarks c hc).2⟩

/-- A name and a parenthesis are a constructor. -/
theorem plainMember_constructor (owner : Identifier) (g g' : List Gap) (more : Tokens) :
    plainMember budget (some kind) comments ms
        (owner.lexeme.token g :: Lexeme.openParen.token g' :: more)
      = (.constructor ⟨comments, ms, parameters budget (insideBrackets 0 more).1⟩,
          afterMethod budget (insideBrackets 0 more).2) := by
  have hopens : (Lexeme.openParen.token g').isMark '(' = true := by simp
  rw [plainMember, (beginsMember_named owner g (by decide) hopens more).afterTypeParameters]
  simp

/-- A name and a brace are a constructor without parameters of its own, which is passed over. -/
theorem plainMember_compact (owner : Identifier) (g : List Gap) {t : Token}
    (ht : t.isMark '\x7b' = true) (more : Tokens) :
    plainMember budget (some kind) comments ms (owner.lexeme.token g :: t :: more)
      = (.other, afterBraces 0 more) := by
  rw [plainMember, (beginsMember_named owner g (by decide) ht more).afterTypeParameters]
  simp [ht, isMark_false_of_ne ht]

/-- A brace opens an initializer, which is passed over. -/
theorem plainMember_brace {t : Token} (ht : t.isMark '\x7b' = true) (more : Tokens) :
    plainMember budget (some kind) comments ms (t :: more) = (.other, afterBraces 0 more) := by
  rw [plainMember, afterTypeParameters, isMark_false_of_ne ht (by decide)]
  simp [ht]

theorem beginsMember_constructor (c : Grammar.Constructor) {front : Tokens}
    (h : Reads c.signaturePieces front) (rest : Tokens) : BeginsMember (front ++ rest) := by
  obtain ⟨g, us, hus, rfl⟩ := reads_word_iff.mp h
  obtain ⟨params, braces, hparams, -, rfl⟩ := spells_append_iff.mp hus
  obtain ⟨t, vs, ht, -, rfl⟩ := hparams.reads.mark
  exact beginsMember_named c.name g (by decide) ht _

theorem beginsMember_method (m : Grammar.Method) {front : Tokens}
    (h : Reads m.signaturePieces front) (rest : Tokens) : BeginsMember (front ++ rest) := by
  obtain ⟨result, more, hresult, hmore, rfl⟩ := Reads.append h
  obtain ⟨g, us, -, rfl⟩ := reads_word_iff.mp hmore
  rw [List.append_assoc]
  exact (beginsType_result m.result hresult (followsWord_name _ g _)).beginsMember

/-- What stands behind the modifiers of a member that is no type begins none of them. -/
theorem beginsPlain_member {w : Grammar.Member} (hw : w.IsPlain) {front : Tokens}
    (h : Reads w.plainPieces front) (rest : Tokens) : BeginsPlain w.modifiers (front ++ rest) := by
  cases hw with
  | field f =>
      obtain ⟨type, more, htype, hmore, rfl⟩ := Reads.append h
      obtain ⟨vars, ending, hvars, hending, rfl⟩ := Reads.append hmore
      obtain ⟨t, us, ht, ⟨⟩, rfl⟩ := hending.mark
      obtain ⟨g, next, us, heq, -⟩ := first_of_variables f.first f.others hvars ht rest
      rw [List.append_assoc, List.append_assoc, List.singleton_append, heq]
      exact (beginsType_type f.type htype (followsWord_name _ g _)).beginsMember.beginsPlain _
  | constructor c =>
      obtain ⟨generics, signature, hgenerics, hsignature, rfl⟩ := Reads.append h
      rw [List.append_assoc]
      exact (generic_reads c.typeParameters c.isUnsealed hgenerics
        (beginsMember_constructor c hsignature rest)).1
  | method m =>
      obtain ⟨generics, signature, hgenerics, hsignature, rfl⟩ := Reads.append h
      rw [List.append_assoc]
      exact (generic_reads m.typeParameters m.isUnsealed hgenerics
        (beginsMember_method m hsignature rest)).1
  | initializer i =>
      obtain ⟨names, body, hnames, hbody, rfl⟩ := Reads.append h
      obtain ⟨t, ts, heq, ht, -⟩ := block_reads i.body hbody rest
      rw [List.append_assoc, heq]
      cases hname : i.name with
      | none =>
          rw [hname] at hnames
          cases hnames
          exact beginsPlain_mark i.isUnsealed (by decide) ht ts
      | some n =>
          rw [hname] at hnames
          obtain ⟨g, us, ⟨⟩, rfl⟩ := reads_word_iff.mp hnames
          exact (beginsMember_named n g (by decide) ht ts).beginsPlain _

/-- The tree of a field declares the fields. -/
theorem declares_field (f : Grammar.Field) {tree : TypeTree} (hmarks : marksOf ms = Modifier.marks f.modifiers)
    (hwords : wordsOf ms = Modifier.words f.modifiers) (htree : tree.written = f.type.written) :
    Declares kind (.field f) (.field ⟨commentTexts f.comment, ms, tree,
      f.declarators.map Variable.declarator, Field.sharesFields kind⟩) where
  fields := by
    show FieldTree.toFields _ = Field.declared kind f
    rw [FieldTree.toFields, Field.declared, List.map_map]
    simp only [hmarks, hwords, htree, nearest_commentTexts]
    rfl
  constructors := rfl
  methods := rfl
  constants := rfl
  types := fun _ _ => rfl

theorem declares_constructor (c : Grammar.Constructor) {params : List ParameterTree}
    (hmarks : marksOf ms = Modifier.marks c.modifiers)
    (hparams : params.map ParameterTree.toParameter = c.parameters.map Parameter.declared) :
    Declares kind (.constructor c) (.constructor ⟨commentTexts c.comment, ms, params⟩) where
  fields := rfl
  constructors := by
    show some (ConstructorTree.toConstructor _) = some c.declared
    rw [ConstructorTree.toConstructor, Constructor.declared]
    simp only [hmarks, hparams, nearest_commentTexts]
  methods := rfl
  constants := rfl
  types := fun _ _ => rfl

theorem declares_method (m : Grammar.Method) {tree : TypeTree} {params : List ParameterTree}
    (hmarks : marksOf ms = Modifier.marks m.modifiers)
    (hwords : wordsOf ms = Modifier.words m.modifiers)
    (htree : tree.written = m.writtenResult)
    (hparams : params.map ParameterTree.toParameter = m.parameters.map Parameter.declared) :
    Declares kind (.method m) (if kind = .annotationType then .other
      else .method ⟨commentTexts m.comment, ms, tree, m.name.text, params⟩) := by
  have hmethod : (MethodTree.mk (commentTexts m.comment) ms tree m.name.text params).toMethod
      = m.declared := by
    rw [MethodTree.toMethod, Method.declared]
    simp only [hmarks, hwords, htree, hparams, nearest_commentTexts]
  by_cases hkind : kind = .annotationType
  · rw [if_pos hkind]
    exact ⟨rfl, rfl, (if_pos hkind).symm, rfl, fun _ _ => rfl⟩
  · rw [if_neg hkind]
    exact ⟨rfl, rfl, (congrArg some hmethod).trans (if_neg hkind).symm, rfl, fun _ _ => rfl⟩

/-- What stands behind the modifiers of a member that is no type is read back. -/
theorem plainMember_reads {w : Grammar.Member} (hw : w.IsPlain)
    {front : Tokens} (h : Reads w.plainPieces front) (hbudget : 2 * front.length ≤ budget)
    (hmarks : marksOf ms = Modifier.marks w.modifiers)
    (hwords : wordsOf ms = Modifier.words w.modifiers) (rest : Tokens) :
    ∃ m, plainMember budget (some kind) (commentTexts w.comment) ms (front ++ rest) = (m, rest)
      ∧ Declares kind w m := by
  cases hw with
  | field f =>
      obtain ⟨type, more, htype, hmore, rfl⟩ := Reads.append h
      obtain ⟨vars, ending, hvars, hending, rfl⟩ := Reads.append hmore
      obtain ⟨t, us, ht, ⟨⟩, rfl⟩ := hending.mark
      simp only [List.length_append, List.length_singleton] at hbudget
      obtain ⟨g, next, us, heq, hnext⟩ := first_of_variables f.first f.others hvars ht rest
      have hvarsBudget : vars.length < budget := by omega
      have htypeBudget : 2 * type.length ≤ budget := by omega
      have hdeclarators := declarators_reads ht rest f.others f.first hvars hvarsBudget
      rw [List.append_assoc, List.append_assoc, List.singleton_append]
      rw [heq] at hdeclarators ⊢
      obtain ⟨tree, htree, hwritten⟩ := type?_reads f.type htype htypeBudget
        (endsType_name f.first.name g (next :: us))
      have hbegins := beginsType_type f.type htype (followsWord_name f.first.name g (next :: us))
      refine ⟨_, ?_, declares_field f hmarks hwords hwritten⟩
      rw [plainMember_typed hbegins htree rfl, hnext, hdeclarators]
      rfl
  | constructor c =>
      obtain ⟨generics, signature, hgenerics, hsignature, rfl⟩ := Reads.append h
      have hgeneric := (generic_reads c.typeParameters c.isUnsealed hgenerics
        (beginsMember_constructor c hsignature rest)).2
      rw [List.append_assoc, hgeneric]
      obtain ⟨g, us, hus, rfl⟩ := reads_word_iff.mp hsignature
      obtain ⟨params, ending, hparams, hending, rfl⟩ := spells_append_iff.mp hus
      simp only [List.length_cons, List.length_append] at hbudget
      have hparamsBudget : 2 * params.length ≤ budget := by omega
      obtain ⟨g', inner, ts, heq, hinner, hdeclared⟩ := parentheses_reads c.parameters
        hparams.reads hparamsBudget (ending ++ rest)
      refine ⟨_, ?_, declares_constructor c hmarks hdeclared⟩
      rw [List.cons_append, List.append_assoc, heq, plainMember_constructor, hinner,
        afterMethod_reads c.thrown (.body c.body) hending.reads (by omega)]
      rfl
  | method m =>
      obtain ⟨generics, signature, hgenerics, hsignature, rfl⟩ := Reads.append h
      have hgeneric := (generic_reads m.typeParameters m.isUnsealed hgenerics
        (beginsMember_method m hsignature rest)).2
      rw [List.append_assoc, hgeneric]
      obtain ⟨result, more, hresult, hmore, rfl⟩ := Reads.append hsignature
      obtain ⟨g, us, hus, rfl⟩ := reads_word_iff.mp hmore
      obtain ⟨params, ending, hparams, hending, rfl⟩ := spells_append_iff.mp hus
      simp only [List.length_cons, List.length_append] at hbudget
      have hparamsBudget : 2 * params.length ≤ budget := by omega
      have hresultBudget : 2 * result.length ≤ budget := by omega
      obtain ⟨g', inner, ts, heq, hinner, hdeclared⟩ := parentheses_reads m.parameters
        hparams.reads hparamsBudget (ending ++ rest)
      rw [List.append_assoc, List.cons_append, List.append_assoc, heq]
      obtain ⟨tree, htree, hwritten⟩ := result_reads m.result hresult hresultBudget
        (endsType_name m.name g (Lexeme.openParen.token g' :: ts))
      have hbegins := beginsType_result m.result hresult
        (followsWord_name m.name g (Lexeme.openParen.token g' :: ts))
      refine ⟨_, ?_, declares_method m hmarks hwords hwritten hdeclared⟩
      rw [plainMember_typed hbegins htree rfl, hinner,
        afterMethod_reads m.thrown m.ending hending.reads (by omega)]
      simp only [isMark_mark, decide_true, ↓reduceIte, text_word]
      rfl
  | initializer i =>
      have hdeclares : Declares kind (.initializer i) .other :=
        ⟨rfl, rfl, rfl, rfl, fun _ _ => rfl⟩
      obtain ⟨names, body, hnames, hbody, rfl⟩ := Reads.append h
      obtain ⟨t, ts, heq, ht, hafter⟩ := block_reads i.body hbody rest
      refine ⟨.other, ?_, hdeclares⟩
      rw [List.append_assoc, heq]
      cases hname : i.name with
      | none =>
          rw [hname] at hnames
          cases hnames
          rw [List.nil_append, plainMember_brace ht, hafter]
      | some n =>
          rw [hname] at hnames
          obtain ⟨g, us, ⟨⟩, rfl⟩ := reads_word_iff.mp hnames
          rw [List.singleton_append, plainMember_compact n g ht, hafter]

end Plain

/-- Something begins that ends no body and does not stand for nothing, as a semicolon does. -/
def BeginsItem (ts : Tokens) : Prop :=
  ∃ t more, ts = t :: more ∧ t.isMark '\x7d' = false ∧ t.isMark ';' = false

theorem EndsModifiers.beginsItem {ms : List Modifier} {rest : Tokens} (h : EndsModifiers ms rest) :
    BeginsItem rest := by
  cases h with
  | word h =>
      obtain ⟨t, u, more, rfl, hword, -⟩ := h
      exact ⟨t, u :: more, rfl, isMark_of_kind hword _, isMark_of_kind hword _⟩
  | @mark t ts c hc ht _ =>
      have hmarks : ∀ d ∈ beginningMarks, d ≠ '\x7d' ∧ d ≠ ';' := forall_mem_of_all (by decide)
      exact ⟨t, ts, rfl, isMark_false_of_ne ht (hmarks c hc).1,
        isMark_false_of_ne ht (hmarks c hc).2⟩
  | @annotationType t u ts ht _ =>
      exact ⟨t, u :: ts, rfl, isMark_false_of_ne ht (by decide), isMark_false_of_ne ht (by decide)⟩

theorem beginsItem_modifiers {ms : List Modifier} {front rest : Tokens}
    (h : Reads (Modifier.allPieces ms) front) (hrest : EndsModifiers ms rest) :
    BeginsItem (front ++ rest) := by
  rcases first_of_modifiers h with rfl | ⟨t, us, rfl, hword | hat⟩
  · exact hrest.beginsItem
  · exact ⟨t, us ++ rest, rfl, isMark_of_kind hword _, isMark_of_kind hword _⟩
  · exact ⟨t, us ++ rest, rfl, isMark_false_of_ne hat (by decide), isMark_false_of_ne hat (by decide)⟩

/-- A member is read back, wherever it stands in the body of a type of the given kind. -/
def ReadsMember (kind : TypeKind) (w : Grammar.Member) : Prop :=
  ∀ {front : Tokens} {budget : Nat}, Reads (Modifier.allPieces w.modifiers ++ w.plainPieces) front →
    2 * front.length < budget → ∀ rest, BeginsItem (front ++ rest)
      ∧ ∃ m, member budget (some kind) (commentTexts w.comment) (front ++ rest) = (m, rest)
        ∧ Declares kind w m

/-- A member that is no type is read back. -/
theorem readsMember_plain {kind : TypeKind} {w : Grammar.Member} (hw : w.IsPlain) :
    ReadsMember kind w := by
  intro front budget h hbudget rest
  obtain ⟨mods, plain, hmods, hplain, rfl⟩ := Reads.append h
  rw [List.length_append] at hbudget
  obtain ⟨budget, rfl⟩ : ∃ b, budget = b + 1 := ⟨budget - 1, by omega⟩
  have hbegins := beginsPlain_member hw hplain rest
  have hmodsBudget : mods.length ≤ budget := by omega
  have hplainBudget : 2 * plain.length ≤ budget := by omega
  obtain ⟨trees, hread, hmarks, hwords⟩ := modifiers_reads w.modifiers hbegins.modifiers hmods
    hmodsBudget
  obtain ⟨m, hm, hdeclares⟩ := plainMember_reads hw hplain hplainBudget hmarks hwords rest
  rw [List.append_assoc]
  refine ⟨beginsItem_modifiers hmods hbegins.modifiers, m, ?_, hdeclares⟩
  rw [member, hread]
  simp only [hbegins.type, hm]

/-! ### All members of a body -/

/-- A closing brace ends a body. -/
theorem members_brace {t : Token} (ht : t.isMark '\x7d' = true) (kind : TypeKind) (budget : Nat)
    (rest : Tokens) : members (budget + 1) (some kind) [] (t :: rest) = ([], rest) := by
  rw [members]
  simp [ht]

/-- A member is read, and those behind it. -/
theorem members_cons {context : Option TypeKind} {budget : Nat} {ts rest : Tokens} {m : Member}
    {comments : List String} (hbegins : BeginsItem ts)
    (hcomments : ∀ t ∈ ts.head?, t.comments = comments)
    (hm : member budget context comments ts = (m, rest)) (hlength : rest.length < ts.length) :
    members (budget + 1) context [] ts
      = (m :: (members budget context [] rest).1, (members budget context [] rest).2) := by
  obtain ⟨t, more, rfl, hbrace, hsemicolon⟩ := hbegins
  rw [members]
  simp only [hbrace, hsemicolon, hcomments t rfl, List.nil_append, hm, hlength,
    Bool.false_eq_true, ↓reduceIte]

/-- The members of a body are read back, up to the closing brace. -/
theorem members_reads {kind : TypeKind} {t : Token} (ht : t.isMark '\x7d' = true) (rest : Tokens)
    (ws : List Grammar.Member) (hws : ∀ w ∈ ws, ReadsMember kind w) :
    ∀ {front : Tokens} {budget : Nat}, Spells (memberPieces ws) front →
      2 * front.length + 2 ≤ budget →
      ∃ ms, members budget (some kind) [] (front ++ t :: rest) = (ms, rest)
        ∧ List.Forall₂ (Declares kind) ws ms := by
  induction ws with
  | nil =>
      intro front budget h hbudget
      cases h
      obtain ⟨budget, rfl⟩ : ∃ b, budget = b + 1 := ⟨budget - 1, by omega⟩
      exact ⟨[], members_brace ht kind budget rest, .nil⟩
  | cons w ws ih =>
      intro front budget h hbudget
      obtain ⟨hw, hws⟩ := List.forall_mem_cons.mp hws
      obtain ⟨first, more, hfirst, hmore, rfl⟩ := spells_append_iff.mp h
      obtain ⟨hreads, hcomments⟩ := hfirst.headed
      rw [List.length_append] at hbudget
      obtain ⟨budget, rfl⟩ : ∃ b, budget = b + 1 := ⟨budget - 1, by omega⟩
      have hmember : 2 * first.length < budget := by omega
      have hpositive : 0 < first.length := by
        obtain ⟨u, us, heq, -⟩ := (hw hreads hmember []).1
        rw [List.append_nil] at heq
        simp [heq]
      have hothers : 2 * more.length + 2 ≤ budget := by omega
      obtain ⟨hbegins, m, hm, hdeclares⟩ := hw hreads hmember (more ++ t :: rest)
      obtain ⟨ms, hms, hall⟩ := ih hws hmore hothers
      refine ⟨m :: ms, ?_, .cons hdeclares hall⟩
      rw [← List.head?_append_of_ne_nil _ (List.ne_nil_of_length_pos hpositive)] at hcomments
      have hlength : (more ++ t :: rest).length < (first ++ (more ++ t :: rest)).length := by
        simp only [List.length_append]
        omega
      rw [List.append_assoc, members_cons hbegins hcomments hm hlength, hms]

end ServiceAtlas.Java
