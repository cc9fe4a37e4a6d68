/-
Written declarations are source texts of the wider grammar.

A declaration in canonical order, without member types and with names that are no keywords of
any kind, has the pieces that the grammar gives it, and declares the same there.
-/
import ServiceAtlas.Proofs.Java.MarkReading

namespace ServiceAtlas.Java.Grammar

open Written (Modifier)

/-! ### Types -/

/-- The name of a written type. -/
def TypeName.ofQualified (q : Written.Qualified) : TypeName where
  toPath := .ofQualified q
  isTyped := fun h => by
    have hreserved : ∀ w ∈ untypedWords, w ∈ Written.reservedWords := by decide
    exact q.name.isFree (hreserved _ h)

mutual

/-- A written type. -/
def TypeUse.ofWritten : Written.TypeUse → TypeUse
  | .primitive w h n => .primitive w h n
  | .reference q as n => .reference (.ofQualified q) (argumentsOfWritten as) n

/-- A written type argument. -/
def TypeArgument.ofWritten : Written.TypeArgument → TypeArgument
  | .wildcard => .wildcard
  | .bounded upper bound => .bounded upper (.ofWritten bound)
  | .type t => .type (.ofWritten t)

/-- Written type arguments. -/
def argumentsOfWritten : List Written.TypeArgument → List TypeArgument
  | [] => []
  | a :: as => .ofWritten a :: argumentsOfWritten as

end

mutual

theorem TypeUse.pieces_ofWritten : ∀ t, (TypeUse.ofWritten t).pieces = t.pieces
  | .primitive _ _ _ => rfl
  | .reference q as n => by
      rw [TypeUse.ofWritten, TypeUse.pieces, Written.TypeUse.pieces, argumentPieces_ofWritten as]
      exact congrArg (· ++ _) (Path.pieces_ofQualified q)

theorem TypeArgument.pieces_ofWritten : ∀ a, (TypeArgument.ofWritten a).pieces = a.pieces
  | .wildcard => rfl
  | .bounded upper bound => by
      rw [TypeArgument.ofWritten, TypeArgument.pieces, Written.TypeArgument.pieces,
        TypeUse.pieces_ofWritten bound]
  | .type t => by
      rw [TypeArgument.ofWritten, TypeArgument.pieces, Written.TypeArgument.pieces,
        TypeUse.pieces_ofWritten t]

theorem argumentPieces_ofWritten :
    ∀ as, argumentPieces (argumentsOfWritten as) = Written.argumentPieces as
  | [] => rfl
  | a :: as => by
      rw [argumentsOfWritten, argumentPieces, Written.argumentPieces,
        TypeArgument.pieces_ofWritten a, furtherArgumentPieces_ofWritten as]

theorem furtherArgumentPieces_ofWritten :
    ∀ as, furtherArgumentPieces (argumentsOfWritten as) = Written.furtherArgumentPieces as
  | [] => rfl
  | a :: as => by
      rw [argumentsOfWritten, furtherArgumentPieces, Written.furtherArgumentPieces,
        TypeArgument.pieces_ofWritten a, furtherArgumentPieces_ofWritten as]

end

mutual

theorem TypeUse.written_ofWritten : ∀ t, (TypeUse.ofWritten t).written = t.written
  | .primitive _ _ _ => rfl
  | .reference q as n => by
      rw [TypeUse.ofWritten, TypeUse.written, Written.TypeUse.written, writtenArguments_ofWritten as]
      rfl

theorem TypeArgument.written_ofWritten : ∀ a, (TypeArgument.ofWritten a).written = a.written
  | .wildcard => rfl
  | .bounded _ _ => rfl
  | .type t => TypeUse.written_ofWritten t

theorem writtenArguments_ofWritten :
    ∀ as, writtenArguments (argumentsOfWritten as) = Written.writtenArguments as
  | [] => rfl
  | a :: as => by
      rw [argumentsOfWritten, writtenArguments, Written.writtenArguments,
        TypeArgument.written_ofWritten a, writtenArguments_ofWritten as]

end

theorem pieces_ofWritten_comp :
    TypeUse.pieces ∘ TypeUse.ofWritten = Written.TypeUse.pieces :=
  funext TypeUse.pieces_ofWritten

theorem written_ofWritten_comp :
    TypeUse.written ∘ TypeUse.ofWritten = Written.TypeUse.written :=
  funext TypeUse.written_ofWritten

/-! ### Members -/

/-- A written parameter. -/
def Parameter.ofWritten (p : Written.Parameter) : Parameter where
  modifiers := p.modifiers
  type := .ofWritten p.type
  name := .ofName p.name
  dimensions := p.dimensions

theorem Parameter.pieces_ofWritten (p : Written.Parameter) : (ofWritten p).pieces = p.pieces := by
  rw [pieces, Written.Parameter.pieces, ofWritten, TypeUse.pieces_ofWritten]
  rfl

theorem Parameter.declared_ofWritten (p : Written.Parameter) :
    (ofWritten p).declared = p.declared := by
  rw [declared, Written.Parameter.declared, writtenType, ofWritten, TypeUse.written_ofWritten]
  rfl

theorem parameterPieces_ofWritten (ps : List Written.Parameter) :
    parameterPieces (ps.map .ofWritten) = Written.parameterPieces ps := by
  have hpieces : (ps.map Parameter.ofWritten).map Parameter.pieces
      = ps.map Written.Parameter.pieces := by
    rw [List.map_map]
    exact List.map_congr_left fun p _ => Parameter.pieces_ofWritten p
  rw [parameterPieces, Written.parameterPieces, hpieces]

theorem declared_parameters (ps : List Written.Parameter) :
    (ps.map Parameter.ofWritten).map Parameter.declared = ps.map Written.Parameter.declared := by
  rw [List.map_map]
  exact List.map_congr_left fun p _ => Parameter.declared_ofWritten p

/-- A value is an expression. -/
def Expression.ofValue (v : Written.Value) : Expression :=
  ⟨[v.piece], .cons v.closed .nil⟩

/-- A written variable. -/
def Variable.ofWritten (v : Written.Variable) : Variable where
  name := .ofName v.name
  dimensions := v.dimensions
  initial := v.initial.map .ofValue

theorem Variable.pieces_ofWritten (v : Written.Variable) : (ofWritten v).pieces = v.pieces := by
  obtain ⟨name, dimensions, initial⟩ := v
  cases initial <;> rfl

/-- A written field. -/
def Field.ofWritten (f : Written.Field) : Field where
  comment := f.comment
  modifiers := f.modifiers
  type := .ofWritten f.type
  first := .ofWritten f.first
  others := f.others.map .ofWritten

theorem Field.declarators_ofWritten (f : Written.Field) :
    (ofWritten f).declarators = (f.first :: f.others).map Variable.ofWritten := rfl

theorem Field.declared_ofWritten {kind : TypeKind} (hkind : kind ≠ .annotationType)
    (f : Written.Field) : (ofWritten f).declared kind = f.declared kind := by
  rw [declared, declarators_ofWritten, List.map_map, Written.Field.declared]
  refine List.map_congr_left fun v _ => ?_
  simp only [Function.comp_apply, ofWritten, TypeUse.written_ofWritten, sharesFields, hkind,
    decide_false, Bool.or_false, decide_eq_true_eq]
  rfl

/-- A written constructor of the type with the given name. -/
def Constructor.ofWritten (owner : Written.Name) (c : Written.Constructor) : Constructor where
  comment := c.comment
  modifiers := c.modifiers
  typeParameters := []
  isUnsealed := .inl rfl
  name := .ofName owner
  parameters := c.parameters.map .ofWritten
  thrown := []
  body := .empty

theorem Constructor.declared_ofWritten (owner : Written.Name) (c : Written.Constructor) :
    (ofWritten owner c).declared = c.declared := by
  rw [declared, Written.Constructor.declared, ofWritten, declared_parameters]

/-- A written method. -/
def Method.ofWritten (m : Written.Method) : Method where
  comment := m.comment
  modifiers := m.modifiers
  typeParameters := []
  isUnsealed := .inl rfl
  result := m.result.map .ofWritten
  name := .ofName m.name
  parameters := m.parameters.map .ofWritten
  thrown := []
  ending := if m.hasBody then .body .empty else .nothing

theorem Ending.pieces_ofWritten (hasBody : Bool) :
    (if hasBody then Ending.body .empty else .nothing).pieces
      = Written.Method.endPieces hasBody := by
  cases hasBody <;> rfl

theorem Method.resultPieces_ofWritten (r : Option Written.TypeUse) :
    resultPieces (r.map .ofWritten) = Written.Method.resultPieces r := by
  cases r with
  | none => rfl
  | some t => exact TypeUse.pieces_ofWritten t

theorem Method.declared_ofWritten (m : Written.Method) : (ofWritten m).declared = m.declared := by
  have hresult : (ofWritten m).writtenResult = m.result.elim .void Written.TypeUse.written := by
    rw [writtenResult, ofWritten]
    cases m.result with
    | none => rfl
    | some t => exact TypeUse.written_ofWritten t
  rw [declared, Written.Method.declared, hresult, ofWritten, declared_parameters]
  rfl

/-- A written constant. -/
def Constant.ofWritten (c : Written.Constant) : Constant where
  comment := c.comment
  modifiers := c.modifiers
  name := .ofName c.name
  arguments := none
  body := none

/-- A written member of the type with the given name. -/
def Member.ofWritten (owner : Written.Name) : Written.Member → Member
  | .field f => .field (.ofWritten f)
  | .constructor c => .constructor (.ofWritten owner c)
  | .method m => .method (.ofWritten m)

theorem Member.pieces_ofWritten (owner : Written.Name) (m : Written.Member) :
    memberPieces [ofWritten owner m] = m.pieces owner := by
  rw [memberPieces, memberPieces, List.append_nil]
  cases m with
  | field f =>
      have hvariables : (Field.ofWritten f).declarators.map Variable.pieces
          = (f.first :: f.others).map Written.Variable.pieces := by
        rw [Field.declarators_ofWritten, List.map_map]
        exact List.map_congr_left fun v _ => Variable.pieces_ofWritten v
      have hplain : (ofWritten owner (.field f)).plainPieces = f.type.pieces
          ++ (separated (.of .comma) ((f.first :: f.others).map Written.Variable.pieces)
            ++ [.of .semicolon]) := by
        rw [← hvariables, ← TypeUse.pieces_ofWritten]
        rfl
      rw [hplain]
      rfl
  | constructor c =>
      have hplain : (ofWritten owner (.constructor c)).plainPieces = owner.piece ::
          (Written.parameterPieces c.parameters ++ [.of .openBrace, .of .closeBrace]) := by
        rw [← parameterPieces_ofWritten]
        rfl
      rw [hplain]
      rfl
  | method m =>
      have hplain : (ofWritten owner (.method m)).plainPieces
          = Written.Method.resultPieces m.result ++ (m.name.piece ::
            (Written.parameterPieces m.parameters ++ Written.Method.endPieces m.hasBody)) := by
        rw [← parameterPieces_ofWritten, ← Method.resultPieces_ofWritten,
          ← Ending.pieces_ofWritten]
        rfl
      rw [hplain]
      rfl

theorem memberPieces_ofWritten (owner : Written.Name) (ms : List Written.Member) :
    memberPieces (ms.map (.ofWritten owner)) = ms.flatMap (Written.Member.pieces owner) := by
  induction ms with
  | nil => rfl
  | cons m ms ih =>
      have hm := Member.pieces_ofWritten owner m
      rw [memberPieces, memberPieces, List.append_nil] at hm
      rw [List.map_cons, memberPieces, ih, hm, List.flatMap_cons]

theorem declarationsOf_ofWritten (owner : Written.Name) (ms : List Written.Member)
    (scope origin : String) : declarationsOf scope origin (ms.map (.ofWritten owner)) = [] := by
  induction ms with
  | nil => rfl
  | cons m ms ih =>
      rw [List.map_cons, declarationsOf, ih, List.append_nil]
      cases m <;> rfl

/-! ### Types with their members -/

/-- What a written type has according to its kind; its constructors are members. -/
def Shape.ofWritten : Written.Shape → Shape
  | .plainClass superclass implemented _ =>
    .plainClass [] (superclass.map .ofWritten) (implemented.map .ofWritten)
  | .interface extended => .interface [] (extended.map .ofWritten)
  | .enumeration implemented constants _ =>
    .enumeration (implemented.map .ofWritten) (constants.map .ofWritten)

/-- A written type. -/
def TypeDeclaration.ofWritten (d : Written.TypeDeclaration) : TypeDeclaration where
  heading :=
    { comment := d.comment
      modifiers := d.modifiers
      name := .ofName d.name
      shape := .ofWritten d.shape }
  members := d.members.map (.ofWritten d.name)

theorem supertypePieces_ofWritten (keyword : Piece) (ts : List Written.TypeUse) :
    supertypePieces keyword (ts.map .ofWritten) = Written.supertypePieces keyword ts := by
  cases ts with
  | nil => rfl
  | cons t ts =>
      have hpieces : ((t :: ts).map TypeUse.ofWritten).map TypeUse.pieces
          = (t :: ts).map Written.TypeUse.pieces := by
        rw [List.map_map, pieces_ofWritten_comp]
      exact congrArg (fun qs => keyword :: separated (.of .comma) qs) hpieces

theorem Shape.extended_ofWritten (s : Written.Shape) :
    (ofWritten s).extended = s.extended.map .ofWritten := by
  cases s with
  | plainClass superclass _ _ => cases superclass <;> rfl
  | interface => rfl
  | enumeration => rfl

theorem Shape.implemented_ofWritten (s : Written.Shape) :
    (ofWritten s).implemented = s.implemented.map .ofWritten := by
  cases s <;> rfl

theorem Shape.supertypePieces_ofWritten (s : Written.Shape) :
    (ofWritten s).supertypePieces = s.supertypePieces := by
  rw [supertypePieces, Written.Shape.supertypePieces, extended_ofWritten, implemented_ofWritten,
    Grammar.supertypePieces_ofWritten, Grammar.supertypePieces_ofWritten]

theorem Shape.constantPieces_ofWritten (d : Written.TypeDeclaration) :
    (ofWritten d.shape).constantPieces (!d.members.isEmpty) = d.constantPieces := by
  unfold Written.TypeDeclaration.constantPieces
  cases d.shape with
  | plainClass => rfl
  | interface => rfl
  | enumeration implemented constants constructors =>
      have hpieces : (constants.map Constant.ofWritten).map Constant.pieces
          = constants.map Written.Constant.pieces := List.map_map ..
      rw [ofWritten, constantPieces, hpieces]
      cases d.members <;> rfl

theorem headed_append (comment : Option DocComment) {ps : List Piece} (h : ps ≠ [])
    (qs : List Piece) : headed comment (ps ++ qs) = headed comment ps ++ qs := by
  cases ps with
  | nil => exact absurd rfl h
  | cons p ps => rfl

/-- A written type has the same pieces in the grammar. -/
theorem TypeDeclaration.pieces_ofWritten (d : Written.TypeDeclaration) :
    memberPieces [(ofWritten d).member] = d.pieces := by
  have hhead : (ofWritten d).heading.plainPieces
      = d.shape.keyword :: d.name.piece :: d.shape.supertypePieces := by
    rw [← Shape.supertypePieces_ofWritten]
    obtain ⟨comment, modifiers, name, shape, fields, methods⟩ := d
    cases shape <;> rfl
  have hmembers : (d.members.map (Member.ofWritten d.name)).isEmpty = d.members.isEmpty := by
    cases d.members <;> rfl
  have hplain : (ofWritten d).member.plainPieces
      = (d.shape.keyword :: d.name.piece :: d.shape.supertypePieces) ++ (.of .openBrace ::
        (d.constantPieces ++ (d.members.flatMap (Written.Member.pieces d.name)
          ++ [.of .closeBrace]))) := by
    rw [member, Member.plainPieces, hhead, ← Shape.constantPieces_ofWritten,
      ← memberPieces_ofWritten, ofWritten, hmembers]
  rw [memberPieces, memberPieces, List.append_nil, hplain, ← List.append_assoc,
    headed_append _ (by simp)]
  rfl

/-- A written type declares the same in the grammar. -/
theorem TypeDeclaration.declarations_ofWritten (d : Written.TypeDeclaration)
    (scope origin : String) :
    (ofWritten d).member.declarations scope origin = [d.declared scope origin] := by
  have hannotation : d.shape.kind ≠ .annotationType := by
    cases d.shape <;> exact nofun
  have hfields : (d.members.map (Member.ofWritten d.name)).flatMap (Member.fields d.shape.kind)
      = d.fields.flatMap (Written.Field.declared d.shape.kind) := by
    simp [Written.TypeDeclaration.members, List.flatMap_map, Member.ofWritten, Member.fields,
      Field.declared_ofWritten hannotation]
  have hconstructors : (d.members.map (Member.ofWritten d.name)).filterMap Member.constructor?
      = d.shape.constructors.map Written.Constructor.declared := by
    simp [Written.TypeDeclaration.members, List.filterMap_map, Function.comp_def,
      Member.ofWritten, Member.constructor?, Constructor.declared_ofWritten]
  have hmethods : (d.members.map (Member.ofWritten d.name)).filterMap (Member.method? d.shape.kind)
      = d.methods.map Written.Method.declared := by
    simp [Written.TypeDeclaration.members, List.filterMap_map, Function.comp_def,
      Member.ofWritten, Member.method?, Method.declared_ofWritten, hannotation]
  have hkind : (Shape.ofWritten d.shape).kind = d.shape.kind := by
    cases d.shape <;> rfl
  have hsuperclass : (Shape.ofWritten d.shape).superclass.map TypeUse.written
      = d.shape.superclass.map Written.TypeUse.written := by
    cases d.shape with
    | plainClass superclass _ _ =>
        cases superclass with
        | none => rfl
        | some t => exact congrArg some (TypeUse.written_ofWritten t)
    | interface => rfl
    | enumeration => rfl
  have hinterfaces : (Shape.ofWritten d.shape).interfaces.map TypeUse.written
      = d.shape.interfaces.map Written.TypeUse.written := by
    rw [← written_ofWritten_comp, ← List.map_map]
    cases d.shape <;> rfl
  have hconstants : (Shape.ofWritten d.shape).constants.map Constant.declared
      = d.shape.constants.map Written.Constant.declared := by
    cases d.shape with
    | plainClass => rfl
    | interface => rfl
    | enumeration _ constants _ => exact List.map_map ..
  have hcomponents : (Shape.ofWritten d.shape).components = [] := by
    cases d.shape <;> rfl
  rw [member, Member.declarations, ofWritten, declarationsOf_ofWritten, Heading.declared,
    Written.TypeDeclaration.declared]
  simp only [hkind, hfields, hconstructors, hmethods, hsuperclass, hinterfaces, hconstants,
    hcomponents, List.map_nil, List.nil_append]
  rfl

end ServiceAtlas.Java.Grammar
