/-
Compilation units are read back.

At the top of a unit stand its package, its imports and its types, each of which is a member
and leaves exactly the tokens behind it.  The budget with which the reader begins is two for
each token and a few more, and is never used up.
-/
import ServiceAtlas.Java
import ServiceAtlas.Proofs.Java.DeclarationReading

namespace ServiceAtlas.Java

open Reader Grammar

/-! ### The order mark -/

theorem TokenKind.Admits.head?_ne {kind : TokenKind} {text : List Char} (h : kind.Admits text) :
    '\ufeff' ∉ text.head? := by
  intro hmark
  cases kind with
  | word =>
      cases text with
      | nil => cases hmark
      | cons c cs =>
          cases hmark
          rw [Admits, isName, Bool.and_eq_true] at h
          exact absurd h.1 (by decide +kernel)
  | number =>
      cases text with
      | nil => cases hmark
      | cons c cs =>
          cases hmark
          exact absurd (isInteger_cons h).1 (by decide)
  | literal =>
      obtain ⟨parts, rfl⟩ := h
      cases hmark
  | mark =>
      obtain ⟨c, hc, rfl⟩ := h
      cases hmark
      exact absurd hc (by decide)

/-- What is laid out does not begin with an order mark. -/
theorem Layout.withoutOrderMark_text (l : Layout) (ps : List Piece) :
    withoutOrderMark (l.text ps) = l.text ps := by
  have hspace : ∀ s : Spaces, '\ufeff' ∉ s.val.head? := fun s h =>
    absurd (s.property _ (List.mem_of_mem_head? h)) (by decide)
  have hfirst : '\ufeff' ∉ (l.text ps).head? := by
    rw [Layout.text]
    cases htokens : l.tokens 0 none ps with
    | nil => exact hspace l.last
    | cons t ts =>
        obtain ⟨⟨s, hgaps⟩, hadmits⟩ := l.isWritten_of_mem_tokens ps 0 none t (by rw [htokens]; simp)
        rw [List.flatMap_cons, Token.fullText, hgaps, List.append_assoc, List.append_assoc]
        rw [Option.mem_def, List.head?_append, Option.or_eq_some_iff]
        rintro (hgap | ⟨-, htext⟩)
        · rcases head?_text_gaps hgap with hblank | hslash
          · exact absurd hblank (by decide)
          · exact absurd hslash (by decide)
        · rw [List.head?_append_of_ne_nil _ hadmits.ne_nil] at htext
          exact hadmits.head?_ne htext
  cases htext : l.text ps with
  | nil => rfl
  | cons c cs =>
      rw [htext] at hfirst
      rw [withoutOrderMark.eq_def]
      split
      · rename_i ds heq
        obtain ⟨rfl, -⟩ := List.cons.inj heq
        exact absurd rfl hfirst
      · rfl

/-! ### Packages and imports -/

/-- Nothing among the tokens ends a declaration or goes on with a modifier in front. -/
def IsNaming (t : Token) : Prop :=
  isInert t = true ∧ t.isMark '-' = false

theorem isNaming_word {w : String} {h : isName w.toList = true} {gaps : List Gap} :
    ∀ t ∈ (Piece.word w h).run gaps, IsNaming t :=
  List.forall_mem_singleton.mpr ⟨isInert_word gaps, rfl⟩

theorem isNaming_mark {c : Char} {h : c ∈ separators} (hc : c ∈ ['.', '*']) {gaps : List Gap} :
    ∀ t ∈ (Piece.mark c h).run gaps, IsNaming t := by
  have hmarks : ∀ d ∈ ['.', '*'], d ∈ ['.', '=', '@', '?', '-', '>', '&', '*'] ∧ d ≠ '-' :=
    forall_mem_of_all (by decide)
  refine List.forall_mem_singleton.mpr ⟨isInert_mark (h := h) gaps (hmarks c hc).1, ?_⟩
  show ((Lexeme.mark c h).token gaps).isMark '-' = false
  simp [(hmarks c hc).2]

theorem isNaming_path (p : Path) : ∀ q ∈ p.pieces, ∀ gaps, ∀ t ∈ q.run gaps, IsNaming t := by
  intro q hq gaps
  rcases mem_piecesOf hq with ⟨n, rfl⟩ | rfl
  · exact isNaming_word
  · exact isNaming_mark (by decide)

theorem isNaming_import (i : Import) : ∀ q ∈ i.pieces, ∀ gaps, ∀ t ∈ q.run gaps, IsNaming t := by
  intro q hq gaps
  rcases List.mem_append.mp hq with hstatic | hq
  · split at hstatic
    · rw [List.mem_singleton.mp hstatic]
      exact isNaming_word
    · cases hstatic
  · rcases List.mem_append.mp hq with hpath | hstar
    · exact isNaming_path i.path q hpath gaps
    · split at hstar
      · rcases List.mem_cons.mp hstar with rfl | hstar
        · exact isNaming_mark (by decide)
        · rw [List.mem_singleton.mp hstar]
          exact isNaming_mark (by decide)
      · cases hstar

theorem afterStatement_inert {semicolon : Token} (hsemicolon : semicolon.isMark ';' = true)
    (rest : Tokens) {ts : Tokens} (h : ∀ t ∈ ts, isInert t = true) :
    afterStatement 0 (ts ++ semicolon :: rest) = rest := by
  induction ts with
  | nil => simp [afterStatement, hsemicolon]
  | cons t ts ih =>
      obtain ⟨ht, hts⟩ := List.forall_mem_cons.mp h
      simp only [isInert, Bool.and_eq_true, Bool.not_eq_true'] at ht
      have hbrace : t.isMark '\x7b' = false := by
        have hopens := ht.1.1.1.1
        simp only [isOpening, Bool.or_eq_false_iff] at hopens
        exact hopens.2
      rw [List.cons_append, afterStatement.eq_def]
      simp [ht, hbrace, ih hts]

section Naming

variable {w : String} (hw : w ∈ namingWords) {named : List Piece}
  (hnamed : ∀ p ∈ named, ∀ gaps, ∀ t ∈ p.run gaps, IsNaming t) {front : Tokens}
  (h : Spells (namingPieces w hw named) front)
include hnamed h

/-- A word and what it names up to a semicolon, and what follows them. -/
theorem naming_tokens (rest : Tokens) :
    ∃ (s : Spaces) (names : Tokens) (semicolon : Token), semicolon.isMark ';' = true
      ∧ Reads named names ∧ (∀ t ∈ names, IsNaming t)
      ∧ front = (Lexeme.word w (isName_namingWords w hw)).token s.gaps :: (names ++ [semicolon])
      ∧ BeginsMember (front ++ rest) := by
  obtain ⟨s, us, hus, rfl⟩ := spells_of_iff.mp h
  obtain ⟨names, ending, hnames, hending, rfl⟩ := spells_append_iff.mp hus
  obtain ⟨semicolon, vs, hsemicolon, ⟨⟩, rfl⟩ := hending.reads.mark
  have hnaming := forall_mem_of_reads hnamed hnames.reads
  refine ⟨s, names, semicolon, hsemicolon, hnames.reads, hnaming, rfl, ?_⟩
  have hplain : ∀ w ∈ namingWords, w ∉ declaringWords ∧ w ∉ contextualWords := by decide
  have hsecond : ∃ u us, names ++ [semicolon] ++ rest = u :: us ∧ u.isMark '-' = false := by
    cases names with
    | nil => exact ⟨semicolon, rest, rfl, isMark_false_of_ne hsemicolon (by decide)⟩
    | cons u us => exact ⟨u, _, rfl, (hnaming u List.mem_cons_self).2⟩
  obtain ⟨u, us, heq, hu⟩ := hsecond
  rw [List.cons_append, heq]
  exact ⟨_, u, us, rfl, rfl, (hplain w hw).1, fun hmem => absurd hmem (hplain w hw).2, hu⟩

/-- The declaration of a package declares no type, and neither does an import. -/
theorem naming_reads (rest : Tokens) (budget : Nat) :
    BeginsItem (front ++ rest) ∧ (∀ t ∈ (front ++ rest).head?, t.comments = [])
      ∧ member (budget + 1) none [] (front ++ rest) = (.other, rest) := by
  obtain ⟨s, names, semicolon, hsemicolon, -, hnaming, rfl, hbegins⟩ :=
    naming_tokens hw hnamed h rest
  have hmodifiers : EndsModifiers [] _ := .word hbegins.startsPlain
  refine ⟨hmodifiers.beginsItem, fun t ht => ?_, ?_⟩
  · cases ht
    exact comments_spaces _ s
  · have hunit : ∀ w ∈ namingWords, w ∈ unitWords := by decide
    have hafter := afterStatement_inert hsemicolon rest fun t ht => (hnaming t ht).1
    have hgeneric := hbegins.afterTypeParameters budget
    rw [member, modifiers_end hmodifiers]
    simp only [hbegins.declaredType?]
    obtain ⟨u, us, heq⟩ : ∃ u us, names ++ semicolon :: rest = u :: us := by
      cases names <;> exact ⟨_, _, rfl⟩
    rw [plainMember, hgeneric, List.cons_append, List.append_assoc, List.singleton_append]
    rw [heq] at hafter ⊢
    simp [hafter, hunit w hw]

/-- An import names no package. -/
theorem packageName_import (hpackage : w ≠ "package") (rest : Tokens) (budget : Nat) :
    packageName budget (front ++ rest) = "" := by
  obtain ⟨s, names, semicolon, -, -, -, rfl, hbegins⟩ := naming_tokens hw hnamed h rest
  rw [packageName, modifiers_end (.word hbegins.startsPlain : EndsModifiers [] _), List.cons_append]
  simp [hpackage]

end Naming

/-- The name of the package is read back. -/
theorem packageName_naming (p : Path) {front : Tokens}
    (h : Spells (namingPieces "package" package_mem p.pieces) front) (rest : Tokens) (budget : Nat) :
    compactName (packageName budget (front ++ rest)) = p.text.toList := by
  obtain ⟨s, names, semicolon, hsemicolon, hnames, -, rfl, hbegins⟩ :=
    naming_tokens package_mem (isNaming_path p) h rest
  have hdot : ∀ t ∈ (semicolon :: rest).head?, t.isMark '.' = false := by
    intro t ht
    cases ht
    exact isMark_false_of_ne hsemicolon (by decide)
  rw [packageName, modifiers_end (.word hbegins.startsPlain : EndsModifiers [] _), List.cons_append,
    List.append_assoc, List.singleton_append]
  have hname := compactName_reads hnames
  obtain ⟨n, g, more, rfl, -⟩ := Path.tokens_of_reads hnames
  have hafter := afterQualifiedName_reads hdot p.qualifier hnames
  have htext := textBetween_append (n.lexeme.token g :: more) (semicolon :: rest)
  rw [List.cons_append] at htext
  simpa [hafter, htext] using hname

/-! ### What stands at the top -/

/-- What stands at the top of a unit, and what it declares in a scope. -/
structure Item where
  pieces : List Piece
  declared : String → String → List Declaration

/-- An item is read back, and what follows it is left. -/
def Item.IsRead (i : Item) : Prop :=
  ∀ {front : Tokens} {budget : Nat}, Spells i.pieces front → 2 * front.length < budget →
    ∀ rest, BeginsItem (front ++ rest) ∧ ∃ comments m,
      (∀ t ∈ (front ++ rest).head?, t.comments = comments)
        ∧ member budget none comments (front ++ rest) = (m, rest)
        ∧ ∀ scope origin, m.declarations scope origin = i.declared scope origin

/-- The declaration of a package or an import. -/
def Item.naming (w : String) (hw : w ∈ namingWords) (named : List Piece) : Item where
  pieces := namingPieces w hw named
  declared := fun _ _ => []

/-- A type. -/
def Item.type (d : TypeDeclaration) : Item where
  pieces := memberPieces [d.member]
  declared := fun scope origin => d.member.declarations scope origin

theorem isRead_naming {w : String} (hw : w ∈ namingWords) {named : List Piece}
    (hnamed : ∀ p ∈ named, ∀ gaps, ∀ t ∈ p.run gaps, IsNaming t) :
    (Item.naming w hw named).IsRead := by
  intro front budget h hbudget rest
  obtain ⟨budget, rfl⟩ : ∃ b, budget = b + 1 := ⟨budget - 1, by omega⟩
  obtain ⟨hbegins, hcomments, hmember⟩ := naming_reads hw hnamed h rest budget
  exact ⟨hbegins, [], .other, hcomments, hmember, fun _ _ => rfl⟩

theorem isRead_type (d : TypeDeclaration) : (Item.type d).IsRead := by
  intro front budget h hbudget rest
  have hpieces : Spells (memberPieces [d.member]) front := h
  rw [memberPieces, memberPieces, List.append_nil] at hpieces
  obtain ⟨hreads, hcomments⟩ := hpieces.headed
  have hmembers := readsMembers d.members d.heading.shape.kind
  obtain ⟨hbegins, m, hm, hdeclares⟩ := type_reads d.heading d.members hmembers hreads hbudget none rest
  have hne : front ≠ [] := by
    rintro rfl
    obtain ⟨t, more, heq, -⟩ :=
      (type_reads d.heading d.members hmembers hreads hbudget none []).1
    cases heq
  refine ⟨hbegins, _, m, ?_, hm, (hdeclares .plainClass).types⟩
  rwa [List.head?_append_of_ne_nil _ hne]

/-- All that stands at the top of a unit is read back. -/
theorem items_read (items : List Item) (hitems : ∀ i ∈ items, i.IsRead) :
    ∀ {ts : Tokens} {budget : Nat}, Spells (items.flatMap Item.pieces) ts →
      2 * ts.length + 1 < budget →
      ∃ ms, members budget none [] ts = (ms, [])
        ∧ ∀ scope origin, declarationsOf scope origin ms
          = items.flatMap fun i => i.declared scope origin := by
  induction items with
  | nil =>
      intro ts budget h hbudget
      cases h
      obtain ⟨budget, rfl⟩ : ∃ b, budget = b + 1 := ⟨budget - 1, by omega⟩
      exact ⟨[], rfl, fun _ _ => rfl⟩
  | cons i items ih =>
      intro ts budget h hbudget
      obtain ⟨hi, hitems⟩ := List.forall_mem_cons.mp hitems
      obtain ⟨front, rest, hfront, hrest, rfl⟩ := spells_append_iff.mp h
      rw [List.length_append] at hbudget
      obtain ⟨budget, rfl⟩ : ∃ b, budget = b + 1 := ⟨budget - 1, by omega⟩
      have hitem : 2 * front.length < budget := by omega
      have hpositive : 0 < front.length := by
        obtain ⟨t, more, heq, -⟩ := (hi hfront hitem []).1
        rw [List.append_nil] at heq
        simp [heq]
      have hothers : 2 * rest.length + 1 < budget := by omega
      have hlength : rest.length < (front ++ rest).length := by
        rw [List.length_append]
        omega
      obtain ⟨hbegins, comments, m, hcomments, hm, hdeclared⟩ := hi hfront hitem rest
      obtain ⟨ms, hms, hall⟩ := ih hitems hrest hothers
      refine ⟨m :: ms, ?_, fun scope origin => ?_⟩
      · rw [members_cons hbegins hcomments hm hlength, hms]
      · rw [declarationsOf, hdeclared, hall, List.flatMap_cons]

/-! ### Units -/

namespace Grammar.Source

/-- The items of a unit. -/
def items (s : Source) : List Item :=
  s.package.toList.map (fun p => .naming "package" package_mem p.pieces)
    ++ (s.imports.map (fun i => .naming "import" import_mem i.pieces) ++ s.types.map .type)

theorem isRead_items (s : Source) : ∀ i ∈ s.items, i.IsRead := by
  intro i hi
  rcases List.mem_append.mp hi with hpackage | hi
  · obtain ⟨p, -, rfl⟩ := List.mem_map.mp hpackage
    exact isRead_naming _ (isNaming_path p)
  · rcases List.mem_append.mp hi with himport | htype
    · obtain ⟨p, -, rfl⟩ := List.mem_map.mp himport
      exact isRead_naming _ (isNaming_import p)
    · obtain ⟨d, -, rfl⟩ := List.mem_map.mp htype
      exact isRead_type d

theorem pieces_types (ds : List TypeDeclaration) :
    (ds.map Item.type).flatMap Item.pieces = memberPieces (ds.map TypeDeclaration.member) := by
  induction ds with
  | nil => rfl
  | cons d ds ih =>
      rw [List.map_cons, List.flatMap_cons, ih, List.map_cons, Item.type]
      simp only [memberPieces, List.append_nil]

theorem pieces_items (s : Source) : s.items.flatMap Item.pieces = s.pieces := by
  rw [items, List.flatMap_append, List.flatMap_append, pieces_types, List.flatMap_map,
    List.flatMap_map, pieces]
  cases s.package with
  | none => rfl
  | some p => simp [packagePieces, importPieces, Item.naming]

theorem declared_types (scope origin : String) (ds : List TypeDeclaration) :
    (ds.map Item.type).flatMap (fun i => i.declared scope origin)
      = declarationsOf scope origin (ds.map TypeDeclaration.member) := by
  induction ds with
  | nil => rfl
  | cons d ds ih =>
      rw [List.map_cons, List.flatMap_cons, ih]
      rfl

theorem declared_items (s : Source) (scope origin : String) :
    (s.items.flatMap fun i => i.declared scope origin)
      = declarationsOf scope origin (s.types.map TypeDeclaration.member) := by
  have hnaming : ∀ is : List Import, (is.flatMap fun _ => ([] : List Declaration)) = [] :=
    fun _ => List.flatMap_eq_nil_iff.mpr fun _ _ => rfl
  rw [items, List.flatMap_append, List.flatMap_append, declared_types, List.flatMap_map,
    List.flatMap_map]
  simp [Item.naming, hnaming]

/-- The name of the package is read back. -/
theorem packageName_source (s : Source) {ts : Tokens} {budget : Nat} (h : Spells s.pieces ts)
    (hbudget : ts.length ≤ budget) : compactName (packageName budget ts) = s.scope.toList := by
  obtain ⟨package, imports, types⟩ := s
  cases package with
  | some p =>
      obtain ⟨front, rest, hfront, -, rfl⟩ := spells_append_iff.mp h
      exact packageName_naming p hfront rest budget
  | none =>
      cases imports with
      | cons p imports =>
          have hpieces : Spells (importPieces [p] ++ (importPieces imports
              ++ memberPieces (types.map TypeDeclaration.member))) ts := by
            simpa [Source.pieces, packagePieces, importPieces] using h
          obtain ⟨front, rest, hfront, -, rfl⟩ := spells_append_iff.mp hpieces
          rw [importPieces, List.flatMap_singleton] at hfront
          rw [packageName_import import_mem (isNaming_import p) hfront (by decide)]
          rfl
      | nil =>
          cases types with
          | nil =>
              cases h
              cases budget <;> rfl
          | cons d types =>
              have hpieces : Spells (memberPieces (d.member :: types.map TypeDeclaration.member)) ts := h
              rw [memberPieces] at hpieces
              obtain ⟨front, rest, hfront, -, rfl⟩ := spells_append_iff.mp hpieces
              obtain ⟨hreads, -⟩ := hfront.headed
              rw [TypeDeclaration.member, Member.plainPieces, ← List.append_assoc] at hreads
              obtain ⟨heading, inside, hheading, -, rfl⟩ := Reads.append hreads
              simp only [List.length_append] at hbudget
              have hheadingBudget : heading.length ≤ budget := by omega
              obtain ⟨-, trees, t, more, parts, -, -, hread, -, -, hpackage, -⟩ :=
                heading_reads d.heading hheading hheadingBudget (inside ++ rest)
              rw [List.append_assoc, packageName, hread]
              simp [hpackage]
              rfl

/-- The declarations of a unit are read back. -/
theorem unit_source (s : Source) {ts : Tokens} (h : Spells s.pieces ts) (origin : String) :
    (Reader.unit ts).declarations origin = s.declared origin := by
  have hnameBudget : ts.length ≤ 2 * ts.length + 8 := by omega
  have hbudget : 2 * ts.length + 1 < 2 * ts.length + 8 := by omega
  have hname := s.packageName_source h hnameBudget
  rw [← s.pieces_items] at h
  obtain ⟨ms, hms, hdeclared⟩ := items_read s.items s.isRead_items h hbudget
  rw [Reader.unit, hms, CompilationUnit.declarations, CompilationUnit.packageName, hname,
    String.ofList_toList, hdeclared, declared_items, Source.declared]

/-- The declarations of a source text, in whatever layout, are those that are written in it. -/
theorem declarations_source (s : Source) (l : Layout) (origin : String) :
    Java.declarations (s.text l) origin = s.declared origin := by
  rw [Java.declarations, unit, Source.text, l.withoutOrderMark_text, l.tokens_text]
  exact s.unit_source (l.spells_tokens s.pieces 0 none) origin

end Grammar.Source

end ServiceAtlas.Java
