/-
Types are read back.

A type is read part by part: its qualified name, arguments in angle brackets, and pairs of
brackets, which are counted in the source text.  The budget of the reader shrinks with every
step and is never used up if it begins with two for each token.
-/
import ServiceAtlas.Proofs.Java.MarkReading

namespace ServiceAtlas.Java

open Reader Grammar Text
open Written (dimensionPieces boundPiece)

/-! ### Dimensions -/

theorem afterMarks_of_not_at {ts : Tokens} (h : ∀ t ∈ ts.head?, t.isMark '@' = false)
    (budget : Nat) : afterMarks budget ts = ts := by
  cases budget with
  | zero => rfl
  | succ budget => rw [afterMarks, mark?_of_not_at h]

/-- Nothing follows that would be taken for a dimension. -/
def EndsDimensions (rest : Tokens) : Prop :=
  ∀ t ∈ rest.head?, t.isMark '[' = false ∧ t.isMark '@' = false

theorem afterDimensions_end {rest : Tokens} (h : EndsDimensions rest) (budget : Nat) :
    afterDimensions budget rest = rest := by
  cases budget with
  | zero => rfl
  | succ budget =>
      rw [afterDimensions, afterMarks_of_not_at fun t ht => (h t ht).2]
      match rest with
      | [] => rfl
      | [t] => rfl
      | t :: u :: more =>
          have ht := (h t rfl).1
          simp [ht]

theorem afterDimensions_reads {rest : Tokens} (hrest : EndsDimensions rest) (n : Nat) :
    ∀ {front : Tokens} {budget : Nat}, Reads (dimensionPieces n) front → n ≤ budget →
      afterDimensions budget (front ++ rest) = rest := by
  induction n with
  | zero =>
      intro front budget h _
      cases h
      exact afterDimensions_end hrest budget
  | succ n ih =>
      intro front budget h hbudget
      obtain ⟨g, us, hus, rfl⟩ := reads_mark_iff.mp h
      obtain ⟨g', vs, hvs, rfl⟩ := reads_mark_iff.mp hus.reads
      obtain ⟨budget, rfl⟩ : ∃ b, budget = b + 1 := ⟨budget - 1, by omega⟩
      rw [List.cons_append, List.cons_append, afterDimensions, afterMarks_of_not_at]
      · simp only [isMark_mark, decide_true, Bool.and_self, ↓reduceIte]
        exact ih hvs.reads (by omega)
      · intro t ht
        cases ht
        rw [isMark_mark]
        rfl

theorem count_spaces (s : Spaces) : s.val.count '[' = 0 :=
  List.count_eq_zero.mpr fun h => absurd (s.property '[' h) (by decide)

theorem count_dimensions (n : Nat) :
    ∀ {ts : Tokens}, Spells (dimensionPieces n) ts → (ts.flatMap Token.fullText).count '[' = n := by
  induction n with
  | zero =>
      intro ts h
      cases h
      rfl
  | succ n ih =>
      intro ts h
      obtain ⟨s, us, hus, rfl⟩ := spells_of_iff.mp h
      obtain ⟨s', vs, hvs, rfl⟩ := spells_of_iff.mp hus
      simp only [List.flatMap_cons, fullText_spaces, List.count_append, ih hvs, count_spaces]
      simp [Lexeme.mark]
      omega

/-- The dimensions are counted, and what follows them is left. -/
theorem dimensions_reads {rest : Tokens} (hrest : EndsDimensions rest) {n : Nat} {front : Tokens}
    (h : Reads (dimensionPieces n) front) {budget : Nat} (hbudget : n ≤ budget) :
    dimensions budget (front ++ rest) = (n, rest) := by
  rw [dimensions, afterDimensions_reads hrest n h hbudget, textBetween_append]
  congr 1
  cases n with
  | zero =>
      cases h
      rfl
  | succ n =>
      obtain ⟨g, us, hus, rfl⟩ := reads_mark_iff.mp h
      obtain ⟨s, vs, hvs, rfl⟩ := spells_of_iff.mp hus
      rw [sourceText, String.toList_ofList, List.count_append, List.flatMap_cons,
        List.count_append, count_dimensions n hvs, fullText_spaces, List.count_append,
        count_spaces]
      simp [Lexeme.mark, Lexeme.token]
      omega

/-! ### Names of types -/

/-- Nothing follows that would belong to a type in front, dimensions apart. -/
def EndsName (rest : Tokens) : Prop :=
  (∀ t ∈ rest.head?, t.isMark '<' = false) ∧
    ∀ t u more, rest = t :: u :: more → (t.isMark '.' && decide (u.kind = .word)) = false

/-- Nothing follows that would belong to a type in front. -/
structure EndsType (rest : Tokens) : Prop where
  name : EndsName rest
  dimensions : EndsDimensions rest

theorem typeArguments?_none {ts : Tokens} (h : ∀ t ∈ ts.head?, t.isMark '<' = false)
    (budget : Nat) : typeArguments? budget ts = none := by
  rw [typeArguments?.eq_def]
  match budget, ts with
  | 0, _ => rfl
  | _ + 1, [] => rfl
  | budget + 1, t :: ts =>
      have ht := h t rfl
      simp [ht]

/-- Qualifiers are passed over up to the last name. -/
theorem namedType?_qualified {name : Identifier} (start after : Tokens) (qs : List Identifier) :
    ∀ {names : Tokens}, Reads (Path.piecesOf name qs) names →
      ∃ g, ∀ budget, namedType? (budget + qs.length) start (names ++ after)
        = namedType? budget start (name.lexeme.token g :: after) := by
  induction qs with
  | nil =>
      intro names h
      obtain ⟨g, us, ⟨⟩, rfl⟩ := reads_word_iff.mp h
      exact ⟨g, fun _ => rfl⟩
  | cons q qs ih =>
      intro names h
      obtain ⟨g, us, hus, rfl⟩ := reads_word_iff.mp h
      obtain ⟨g', vs, hvs, rfl⟩ := reads_mark_iff.mp hus.reads
      obtain ⟨n, g'', ws, rfl, -⟩ := Path.tokens_of_reads (p := ⟨qs, name⟩) hvs.reads
      obtain ⟨last, hlast⟩ := ih hvs.reads
      refine ⟨last, fun budget => ?_⟩
      have hdot : ∀ t ∈ (Lexeme.dot.token g'
          :: (n.lexeme.token g'' :: ws ++ after)).head?, t.isMark '<' = false := by
        intro t ht
        cases ht
        simp
      have harguments := typeArguments?_none hdot (budget + qs.length)
      rw [List.length_cons, ← Nat.add_assoc, List.cons_append, List.cons_append, namedType?]
      simp only [kind_word, ↓reduceIte, List.cons_append] at harguments hlast ⊢
      rw [harguments]
      simp only [isMark_mark, decide_true, Bool.and_self, ↓reduceIte, kind_word]
      exact hlast budget

theorem namedType?_plain {t : Token} (ht : t.kind = .word) (start : Tokens) {rest : Tokens}
    (hrest : EndsName rest) (budget : Nat) :
    namedType? (budget + 1) start (t :: rest) = some (.named (textBetween start rest), rest) := by
  rw [namedType?]
  simp only [ht, ↓reduceIte, typeArguments?_none hrest.1]
  split
  · rw [hrest.2 _ _ _ rfl]
    rfl
  · rfl

theorem namedType?_generic {t : Token} (ht : t.kind = .word) (start : Tokens)
    {ts rest : Tokens} (hrest : EndsName rest) {budget : Nat} {trees : List TypeTree}
    (hts : typeArguments? budget ts = some (trees, rest)) :
    namedType? (budget + 1) start (t :: ts)
      = some (.generic (textBetween start ts) trees, rest) := by
  rw [namedType?]
  simp only [ht, ↓reduceIte, hts]
  split
  · rw [hrest.2 _ _ _ rfl]
    rfl
  · rfl

/-- A type whose name has been read, with the dimensions that follow. -/
theorem type?_of_named {ts dims rest : Tokens} {tree : TypeTree} {n budget : Nat}
    (hat : ∀ t ∈ ts.head?, t.isMark '@' = false)
    (hnamed : namedType? budget ts ts = some (tree, dims ++ rest))
    (hdims : Reads (dimensionPieces n) dims) (hrest : EndsDimensions rest) (hn : n ≤ budget) :
    type? (budget + 1) ts = some (if n = 0 then tree else .array tree n, rest) := by
  rw [type?]
  simp only [afterMarks_of_not_at hat, hnamed, dimensions_reads hrest hdims hn]

theorem written_dimensions (tree : TypeTree) (n : Nat) :
    (if n = 0 then tree else .array tree n).written = .arrayOfDepth tree.written n := by
  split
  · rename_i h
    rw [h]
    rfl
  · rfl

/-- Dimensions do not go on with the name of a type. -/
theorem endsName_dimensions {n : Nat} {dims rest : Tokens} (h : Reads (dimensionPieces n) dims)
    (hrest : EndsName rest) : EndsName (dims ++ rest) := by
  cases n with
  | zero =>
      cases h
      exact hrest
  | succ n =>
      obtain ⟨g, us, -, rfl⟩ := reads_mark_iff.mp h
      refine ⟨fun t ht => ?_, fun t u more heq => ?_⟩
      · cases ht
        rw [isMark_mark]
        rfl
      · obtain ⟨rfl, -⟩ := List.cons.inj heq
        rw [isMark_mark]
        rfl

/-! ### Lengths and first tokens -/

theorem length_dimensions (n : Nat) :
    ∀ {ts : Tokens}, Reads (dimensionPieces n) ts → ts.length = 2 * n := by
  induction n with
  | zero =>
      intro ts h
      cases h
      rfl
  | succ n ih =>
      intro ts h
      obtain ⟨g, us, hus, rfl⟩ := reads_mark_iff.mp h
      obtain ⟨g', vs, hvs, rfl⟩ := reads_mark_iff.mp hus.reads
      rw [List.length_cons, List.length_cons, ih hvs.reads]
      omega

theorem length_path {name : Identifier} (qs : List Identifier) :
    ∀ {ts : Tokens}, Reads (Path.piecesOf name qs) ts → ts.length = 2 * qs.length + 1 := by
  induction qs with
  | nil =>
      intro ts h
      obtain ⟨g, us, ⟨⟩, rfl⟩ := reads_word_iff.mp h
      rfl
  | cons q qs ih =>
      intro ts h
      obtain ⟨g, us, hus, rfl⟩ := reads_word_iff.mp h
      obtain ⟨g', vs, hvs, rfl⟩ := reads_mark_iff.mp hus.reads
      rw [List.length_cons, List.length_cons, ih hvs.reads, List.length_cons]
      omega

/-- A type begins with a word. -/
theorem word_of_typeUse (t : TypeUse) {front : Tokens} (h : Reads t.pieces front) :
    ∃ u more, front = u :: more ∧ u.kind = .word := by
  cases t with
  | primitive w hw n =>
      obtain ⟨g, us, -, rfl⟩ := reads_word_iff.mp h
      exact ⟨_, us, rfl, rfl⟩
  | reference q arguments n =>
      obtain ⟨names, more, hnames, -, rfl⟩ := Reads.append h
      obtain ⟨m, g, us, rfl, -⟩ := Path.tokens_of_reads hnames
      exact ⟨_, us ++ more, rfl, rfl⟩

/-- A type argument begins with a word or a question mark. -/
theorem first_of_typeArgument (a : TypeArgument) {front : Tokens} (h : Reads a.pieces front) :
    ∃ u more, front = u :: more ∧ u.isMark '>' = false ∧ u.isMark '@' = false := by
  cases a with
  | wildcard =>
      obtain ⟨g, us, -, rfl⟩ := reads_mark_iff.mp h
      exact ⟨_, us, rfl, by rw [isMark_mark]; rfl, by rw [isMark_mark]; rfl⟩
  | bounded upper bound =>
      obtain ⟨g, us, -, rfl⟩ := reads_mark_iff.mp h
      exact ⟨_, us, rfl, by rw [isMark_mark]; rfl, by rw [isMark_mark]; rfl⟩
  | type t =>
      obtain ⟨u, more, rfl, hu⟩ := word_of_typeUse t h
      exact ⟨u, more, rfl, isMark_of_kind hu _, isMark_of_kind hu _⟩

/-- A comma or a closing angle bracket follows. -/
def EndsArgument (rest : Tokens) : Prop :=
  ∃ t more, rest = t :: more ∧ (t.isMark ',' = true ∨ t.isMark '>' = true)

theorem EndsArgument.endsType {rest : Tokens} (h : EndsArgument rest) : EndsType rest := by
  obtain ⟨t, more, rfl, ht⟩ := h
  have hne : ∀ c ∈ ['<', '.', '[', '@'], t.isMark c = false := by
    intro c hc
    have hchars : ∀ c ∈ ['<', '.', '[', '@'], ',' ≠ c ∧ '>' ≠ c := forall_mem_of_all (by decide)
    rcases ht with ht | ht
    · exact isMark_false_of_ne ht (hchars c hc).1
    · exact isMark_false_of_ne ht (hchars c hc).2
  refine ⟨⟨fun u hu => ?_, fun u v more' heq => ?_⟩, fun u hu => ?_⟩
  · cases hu
    exact hne '<' (by decide)
  · obtain ⟨rfl, -⟩ := List.cons.inj heq
    rw [hne '.' (by decide), Bool.false_and]
  · cases hu
    exact ⟨hne '[' (by decide), hne '@' (by decide)⟩

/-! ### Types -/

theorem simpleName_primitive : ∀ w ∈ SyntaxCheck.primitiveWords, simpleName w = w := by
  decide

/-- A type that is a single word, with its dimensions. -/
theorem type?_word {w : String} (hsimple : simpleName w = w) {h : isName w.toList = true}
    (g : List Gap) {n : Nat} {dims rest : Tokens} (hdims : Reads (dimensionPieces n) dims)
    (hrest : EndsType rest) {budget : Nat} (hbudget : n ≤ budget) :
    ∃ tree, type? (budget + 1 + 1) ((Lexeme.word w h).token g :: (dims ++ rest)) = some (tree, rest)
      ∧ tree.written = .arrayOfDepth (.simple w) n := by
  have hends := endsName_dimensions hdims hrest.name
  have htext : textBetween ((Lexeme.word w h).token g :: (dims ++ rest)) (dims ++ rest) = w := by
    refine (textBetween_append [(Lexeme.word w h).token g] (dims ++ rest)).trans ?_
    rw [sourceText, text_word, List.flatMap_nil, List.append_nil, String.ofList_toList]
  refine ⟨_, type?_of_named (fun t ht => by cases ht; rfl) (namedType?_plain rfl _ hends budget)
    hdims hrest.dimensions (Nat.le_succ_of_le hbudget), ?_⟩
  rw [written_dimensions, TypeTree.written, htext, hsimple]

/-- A type with a qualified name, given how its arguments are read. -/
theorem type?_qualified (q : TypeName) (arguments : List TypeArgument) (n : Nat)
    {names args dims rest : Tokens} {budget : Nat} (hnames : Reads q.pieces names)
    (hdims : Reads (dimensionPieces n) dims) (hrest : EndsType rest) (hbudget : n ≤ budget)
    (hargs : args = [] ∧ arguments = []
      ∨ ∃ trees, typeArguments? budget (args ++ (dims ++ rest)) = some (trees, dims ++ rest)
        ∧ TypeTree.writtenAll trees = writtenArguments arguments) :
    ∃ tree, type? (budget + 1 + q.qualifier.length + 1) (names ++ (args ++ (dims ++ rest)))
        = some (tree, rest)
      ∧ tree.written = (TypeUse.reference q arguments n).written := by
  have hends := endsName_dimensions hdims hrest.name
  have hsimple := simpleName_reads hnames
  obtain ⟨g, hnamed⟩ := namedType?_qualified (names ++ (args ++ (dims ++ rest)))
    (args ++ (dims ++ rest)) q.qualifier hnames
  have hat : ∀ t ∈ (names ++ (args ++ (dims ++ rest))).head?, t.isMark '@' = false := by
    obtain ⟨m, g', us, rfl, -⟩ := Path.tokens_of_reads hnames
    intro t ht
    cases ht
    rfl
  have hn : n ≤ budget + 1 + q.qualifier.length := by omega
  rcases hargs with ⟨rfl, rfl⟩ | ⟨trees, hread, hwritten⟩
  · have hread := (hnamed (budget + 1)).trans (namedType?_plain rfl _ hends budget)
    refine ⟨_, type?_of_named hat hread hdims hrest.dimensions hn, ?_⟩
    rw [written_dimensions, TypeTree.written, List.nil_append, textBetween_append, hsimple]
    rfl
  · have hgeneric := (hnamed (budget + 1)).trans (namedType?_generic rfl _ hends hread)
    refine ⟨_, type?_of_named hat hgeneric hdims hrest.dimensions hn, ?_⟩
    have hname : textBetween (names ++ (args ++ (dims ++ rest))) (args ++ (dims ++ rest))
        = sourceText names := textBetween_append _ _
    rw [written_dimensions, TypeTree.written, hname, hsimple, hwritten]
    rfl

/-- The pieces of type arguments behind the opening bracket. -/
def argumentListPieces : List TypeArgument → List Piece
  | [] => []
  | a :: as => a.pieces ++ furtherArgumentPieces as

/-- The list of arguments begins behind the opening bracket, if something else than the closing
bracket follows. -/
theorem typeArguments?_opening (g : List Gap) (budget : Nat) {ts : Tokens}
    (hts : ∃ u more, ts = u :: more ∧ u.isMark '>' = false) :
    typeArguments? (budget + 1) (Lexeme.less.token g :: ts)
      = typeArgumentList? budget ts := by
  obtain ⟨u, more, rfl, hu⟩ := hts
  rw [typeArguments?]
  simp [hu]

theorem typeArgument?_wildcard {rest : Tokens} (hrest : EndsArgument rest) (g : List Gap)
    (budget : Nat) :
    typeArgument? (budget + 1) ([Lexeme.question.token g] ++ rest)
      = some (.wildcard, rest) := by
  obtain ⟨t, more, rfl, ht⟩ := hrest
  have hword : ∀ w, t.isWord w = false := by
    rcases ht with ht | ht
    · exact isWord_of_isMark ht
    · exact isWord_of_isMark ht
  rw [List.singleton_append, typeArgument?, afterMarks_of_not_at fun u hu => by cases hu; simp]
  simp [hword]

theorem typeArgument?_bounded (upper : Bool) (g g' : List Gap) {ts rest : Tokens} {budget : Nat}
    {tree : TypeTree} (h : type? budget (ts ++ rest) = some (tree, rest)) :
    typeArgument? (budget + 1) (Lexeme.question.token g
      :: ((boundPiece upper).run g' ++ ts) ++ rest) = some (.bounded upper tree, rest) := by
  rw [List.cons_append, List.append_assoc, typeArgument?,
    afterMarks_of_not_at fun u hu => by cases hu; simp]
  cases upper with
  | false => simp [boundPiece, Piece.word, Piece.of, Piece.run, h]
  | true => simp [boundPiece, Piece.word, Piece.of, Piece.run, h]

theorem typeArgument?_word {t : Token} (ht : t.kind = .word) (ts : Tokens) (budget : Nat) :
    typeArgument? (budget + 1) (t :: ts) = type? budget (t :: ts) := by
  rw [typeArgument?, afterMarks_of_not_at fun u hu => by cases hu; exact isMark_of_kind ht _]
  simp [isMark_of_kind ht]

mutual

/-- A type is read back. -/
theorem type?_reads : ∀ (t : TypeUse) {front rest : Tokens} {budget : Nat},
    Reads t.pieces front → 2 * front.length ≤ budget → EndsType rest →
      ∃ tree, type? budget (front ++ rest) = some (tree, rest) ∧ tree.written = t.written
  | .primitive w hw n, front, rest, budget, h, hbudget, hrest => by
      obtain ⟨g, dims, hdims, rfl⟩ := reads_word_iff.mp h
      have hlength := length_dimensions n hdims.reads
      rw [List.length_cons] at hbudget
      obtain ⟨budget, rfl⟩ : ∃ b, budget = b + 1 + 1 := ⟨budget - 2, by omega⟩
      exact type?_word (simpleName_primitive w hw) g hdims.reads hrest (by omega)
  | .reference q arguments n, front, rest, budget, h, hbudget, hrest => by
      obtain ⟨names, more, hnames, hmore, rfl⟩ := Reads.append h
      obtain ⟨args, dims, hargs, hdims, rfl⟩ := Reads.append hmore
      have hnamesLength := length_path q.qualifier hnames
      have hdimsLength := length_dimensions n hdims
      simp only [List.length_append] at hbudget
      obtain ⟨budget, rfl⟩ : ∃ b, budget = b + 1 + q.qualifier.length + 1 :=
        ⟨budget - q.qualifier.length - 2, by omega⟩
      rw [List.append_assoc, List.append_assoc]
      refine type?_qualified q arguments n hnames hdims hrest (by omega) ?_
      match arguments with
      | [] =>
          cases hargs
          exact .inl ⟨rfl, rfl⟩
      | a :: as =>
          obtain ⟨g, list, hlist, rfl⟩ := reads_mark_iff.mp hargs
          rw [List.length_cons] at hbudget
          obtain ⟨budget, rfl⟩ : ∃ b, budget = b + 1 := ⟨budget - 1, by omega⟩
          have hlistBudget : 2 * list.length ≤ budget := by omega
          obtain ⟨trees, htrees, hwritten⟩ := typeArgumentList?_reads (a :: as) (by simp)
            hlist.reads hlistBudget (dims ++ rest)
          refine .inr ⟨trees, ?_, hwritten⟩
          rw [List.cons_append, typeArguments?_opening, htrees]
          obtain ⟨first, further, hfirst, -, rfl⟩ := Reads.append hlist.reads
          obtain ⟨u, us, rfl, hu, -⟩ := first_of_typeArgument a hfirst
          exact ⟨u, us ++ further ++ (dims ++ rest), rfl, hu⟩

/-- A type argument is read back. -/
theorem typeArgument?_reads : ∀ (a : TypeArgument) {front rest : Tokens} {budget : Nat},
    Reads a.pieces front → 2 * front.length < budget → EndsArgument rest →
      ∃ tree, typeArgument? budget (front ++ rest) = some (tree, rest) ∧ tree.written = a.written
  | .wildcard, front, rest, budget, h, hbudget, hrest => by
      obtain ⟨g, us, ⟨⟩, rfl⟩ := reads_mark_iff.mp h
      obtain ⟨budget, rfl⟩ : ∃ b, budget = b + 1 := ⟨budget - 1, by omega⟩
      exact ⟨_, typeArgument?_wildcard hrest g budget, rfl⟩
  | .bounded upper bound, front, rest, budget, h, hbudget, hrest => by
      obtain ⟨g, us, hus, rfl⟩ := reads_mark_iff.mp h
      obtain ⟨g', vs, hvs, rfl⟩ := reads_cons_iff.mp hus.reads
      obtain ⟨budget, rfl⟩ : ∃ b, budget = b + 1 := ⟨budget - 1, by omega⟩
      simp only [Piece.run, List.length_cons, List.length_append] at hbudget
      have hbound : 2 * vs.length ≤ budget := by omega
      obtain ⟨tree, htree, -⟩ := type?_reads bound hvs.reads hbound hrest.endsType
      exact ⟨_, typeArgument?_bounded upper g g' htree, rfl⟩
  | .type t, front, rest, budget, h, hbudget, hrest => by
      obtain ⟨budget, rfl⟩ : ∃ b, budget = b + 1 := ⟨budget - 1, by omega⟩
      have htype : 2 * front.length ≤ budget := by omega
      obtain ⟨tree, htree, hwritten⟩ := type?_reads t h htype hrest.endsType
      obtain ⟨u, us, rfl, hu⟩ := word_of_typeUse t h
      exact ⟨tree, (typeArgument?_word hu _ budget).trans htree, hwritten⟩

/-- Type arguments are read back, up to the closing bracket. -/
theorem typeArgumentList?_reads : ∀ (as : List TypeArgument) {front : Tokens} {budget : Nat},
    as ≠ [] → Reads (argumentListPieces as) front → 2 * front.length ≤ budget →
      ∀ rest, ∃ trees, typeArgumentList? budget (front ++ rest) = some (trees, rest)
        ∧ TypeTree.writtenAll trees = writtenArguments as
  | [], _, _, hne, _, _, _ => absurd rfl hne
  | [a], front, budget, _, h, hbudget, rest => by
      obtain ⟨first, more, hfirst, hmore, rfl⟩ := Reads.append h
      obtain ⟨g, us, ⟨⟩, rfl⟩ := reads_mark_iff.mp hmore
      rw [List.length_append, List.length_singleton] at hbudget
      obtain ⟨budget, rfl⟩ : ∃ b, budget = b + 1 := ⟨budget - 1, by omega⟩
      have hends : EndsArgument (Lexeme.greater.token g :: rest) :=
        ⟨_, _, rfl, .inr (by simp)⟩
      have hargument : 2 * first.length < budget := by omega
      obtain ⟨tree, htree, hwritten⟩ := typeArgument?_reads a hfirst hargument hends
      refine ⟨[tree], ?_, ?_⟩
      · rw [List.append_assoc, List.singleton_append, typeArgumentList?, htree]
        simp
      · rw [TypeTree.writtenAll, hwritten]
        rfl
  | a :: b :: as, front, budget, _, h, hbudget, rest => by
      obtain ⟨first, more, hfirst, hmore, rfl⟩ := Reads.append h
      obtain ⟨g, us, hus, rfl⟩ := reads_mark_iff.mp hmore
      rw [List.length_append, List.length_cons] at hbudget
      obtain ⟨budget, rfl⟩ : ∃ b, budget = b + 1 := ⟨budget - 1, by omega⟩
      have hends : EndsArgument (Lexeme.comma.token g :: (us ++ rest)) :=
        ⟨_, _, rfl, .inl (by simp)⟩
      have hargument : 2 * first.length < budget := by omega
      have hothers : 2 * us.length ≤ budget := by omega
      obtain ⟨tree, htree, hwritten⟩ := typeArgument?_reads a hfirst hargument hends
      obtain ⟨trees, htrees, hwrittenAll⟩ := typeArgumentList?_reads (b :: as) (by simp) hus.reads
        hothers rest
      refine ⟨tree :: trees, ?_, ?_⟩
      · rw [List.append_assoc, List.cons_append, typeArgumentList?, htree]
        simp [htrees]
      · rw [TypeTree.writtenAll, hwritten, hwrittenAll]
        rfl

end

end ServiceAtlas.Java
