/-
Types are kept wherever they stand.

A type of Java can be written in many ways: its name may be qualified, its wildcards may be
bounded, and white space may stand in it.  Whichever is chosen, a field, a parameter or the
result of a method that is declared with it has that type, with the further dimensions that
stand behind the name and those of three dots.
-/
import ServiceAtlas.Proofs.Java.UnitReading

namespace ServiceAtlas.Java.Grammar

/-! ### Types of Java -/

/-- The text is an identifier that can name a type. -/
def IsTypeName (name : String) : Prop :=
  isName name.toList = true ∧ name ∉ keywords ∧ name ∉ untypedWords

mutual

/-- A class or an interface, with type arguments or without, or an array. -/
inductive IsReferenceType : WrittenType → Prop
  | named {name : String} {args : List WrittenType} (hname : IsTypeName name)
      (hargs : ∀ a ∈ args, IsTypeArgument a) : IsReferenceType (.mk name args false)
  | array {element : WrittenType} (h : IsJavaType element) : IsReferenceType (.arrayOf element)

/-- A wildcard or a reference type. -/
inductive IsTypeArgument : WrittenType → Prop
  | wildcard : IsTypeArgument .wildcard
  | reference {t : WrittenType} (h : IsReferenceType t) : IsTypeArgument t

/-- A primitive or a reference type. -/
inductive IsJavaType : WrittenType → Prop
  | primitive {w : String} (h : w ∈ SyntaxCheck.primitiveWords) : IsJavaType (.simple w)
  | reference {t : WrittenType} (h : IsReferenceType t) : IsJavaType t

end

/-- A type with one more pair of brackets behind it. -/
def TypeUse.array : TypeUse → TypeUse
  | primitive w h n => primitive w h (n + 1)
  | reference name args n => reference name args (n + 1)

theorem TypeUse.written_array (u : TypeUse) : u.array.written = .arrayOf u.written := by
  cases u <;> rfl

/-- An identifier that can name a type as the name of a type. -/
def TypeName.simple (name : String) (h : IsTypeName name) : TypeName where
  qualifier := []
  name := ⟨name, h.1, h.2.1⟩
  isTyped := h.2.2

theorem exists_arguments {args : List WrittenType}
    (h : ∀ a ∈ args, ∃ u : TypeArgument, u.written = a) : ∃ us, writtenArguments us = args := by
  induction args with
  | nil => exact ⟨[], rfl⟩
  | cons a args ih =>
      obtain ⟨ha, hargs⟩ := List.forall_mem_cons.mp h
      obtain ⟨u, rfl⟩ := ha
      obtain ⟨us, rfl⟩ := ih hargs
      exact ⟨u :: us, rfl⟩

mutual

theorem IsReferenceType.exists_use : ∀ {t}, IsReferenceType t → ∃ u : TypeUse, u.written = t
  | _, @IsReferenceType.named name _ hname hargs => by
      obtain ⟨us, rfl⟩ := exists_arguments fun a ha => (hargs a ha).exists_argument
      exact ⟨.reference (.simple name hname) us 0, rfl⟩
  | _, .array h => by
      obtain ⟨u, rfl⟩ := h.exists_use
      exact ⟨u.array, u.written_array⟩

theorem IsTypeArgument.exists_argument :
    ∀ {t}, IsTypeArgument t → ∃ u : TypeArgument, u.written = t
  | _, .wildcard => ⟨.wildcard, rfl⟩
  | _, .reference h => by
      obtain ⟨u, rfl⟩ := h.exists_use
      exact ⟨.type u, rfl⟩

/-- Every type of Java can be written. -/
theorem IsJavaType.exists_use : ∀ {t}, IsJavaType t → ∃ u : TypeUse, u.written = t
  | _, @IsJavaType.primitive w h => ⟨.primitive w h 0, rfl⟩
  | _, .reference h => h.exists_use

end

/-! ### Places of types -/

namespace TypeDeclaration

/-- The fields of a type. -/
def fields (d : TypeDeclaration) : List Field :=
  d.members.filterMap fun
    | .field f => some f
    | _ => none

/-- The constructors of a type. -/
def constructors (d : TypeDeclaration) : List Constructor :=
  d.members.filterMap fun
    | .constructor c => some c
    | _ => none

/-- The methods of a type; the elements of an annotation type are none. -/
def methods (d : TypeDeclaration) : List Method :=
  d.members.filterMap fun
    | .method m => if d.heading.shape.kind = .annotationType then none else some m
    | _ => none

theorem declared_fields (d : TypeDeclaration) (kind : TypeKind) :
    d.members.flatMap (Member.fields kind) = d.fields.flatMap (Field.declared kind) := by
  obtain ⟨h, ms⟩ := d
  induction ms with
  | nil => rfl
  | cons m ms ih =>
      cases m with
      | field f => exact congrArg (f.declared kind ++ ·) ih
      | _ => exact ih

theorem declared_constructors (d : TypeDeclaration) :
    d.members.filterMap Member.constructor? = d.constructors.map Constructor.declared := by
  rw [constructors, List.map_filterMap]
  refine List.filterMap_congr fun m _ => ?_
  cases m <;> rfl

theorem declared_methods (d : TypeDeclaration) :
    d.members.filterMap (Member.method? d.heading.shape.kind)
      = d.methods.map Method.declared := by
  rw [methods, List.map_filterMap]
  refine List.filterMap_congr fun m _ => ?_
  cases m with
  | method m =>
      simp only [Member.method?]
      split_ifs <;> rfl
  | _ => rfl

end TypeDeclaration

mutual

/-- The types that a member declares: its own, then those declared in it. -/
def Member.types : Member → List TypeDeclaration
  | .field _ => []
  | .constructor _ => []
  | .method _ => []
  | .initializer _ => []
  | .type h members => ⟨h, members⟩ :: typesOf members

/-- The types that members declare, in order. -/
def typesOf : List Member → List TypeDeclaration
  | [] => []
  | m :: ms => m.types ++ typesOf ms

end

/-- All types of a unit, each directly before those declared in it. -/
def Source.allTypes (s : Source) : List TypeDeclaration :=
  typesOf (s.types.map TypeDeclaration.member)

/-- The names of parameters, each with the type that is written. -/
def namedTypes (ps : List Parameter) : List (String × WrittenType) :=
  ps.map fun p => (p.name.text, p.writtenType)

/-- The names of declared parameters, each with its type. -/
def declaredTypes (ps : List ServiceAtlas.Parameter) : List (String × WrittenType) :=
  ps.map fun p => (p.name, p.type)

/-- The fields, the parameters and the results of the declaration have the types that are written
for them. -/
structure KeepsTypes (w : TypeDeclaration) (d : Declaration) : Prop where
  fields : (d.fields.map fun f => (f.name, f.type))
    = namedTypes w.heading.shape.components ++ w.fields.flatMap fun f =>
        f.declarators.map fun v => (v.name.text, .arrayOfDepth f.type.written v.dimensions)
  constructors : (d.constructors.map fun c => declaredTypes c.parameters)
    = w.constructors.map fun c => namedTypes c.parameters
  methods : (d.methods.map fun m => (m.name, m.returnType, declaredTypes m.parameters))
    = w.methods.map fun m => (m.name.text, m.writtenResult, namedTypes m.parameters)

theorem declaredTypes_declared (ps : List Parameter) :
    declaredTypes (ps.map Parameter.declared) = namedTypes ps := by
  rw [declaredTypes, List.map_map]
  rfl

/-- A declaration keeps the types of what it declares. -/
theorem keepsTypes_declared (d : TypeDeclaration) (scope origin : String) :
    KeepsTypes d (d.heading.declared d.members scope origin) where
  fields := by
    rw [Heading.declared, List.map_append, List.map_map, d.declared_fields, List.map_flatMap]
    refine congrArg₂ (· ++ ·) rfl (List.flatMap_congr fun f _ => ?_)
    rw [Field.declared, List.map_map]
    rfl
  constructors := by
    rw [Heading.declared, d.declared_constructors, List.map_map]
    exact List.map_congr_left fun c _ => declaredTypes_declared c.parameters
  methods := by
    rw [Heading.declared, d.declared_methods, List.map_map]
    refine List.map_congr_left fun m _ => ?_
    rw [Function.comp_apply, Method.declared, declaredTypes_declared]

mutual

theorem keepsTypes_member (scope origin : String) :
    ∀ m : Member, List.Forall₂ KeepsTypes m.types (m.declarations scope origin)
  | .field _ => .nil
  | .constructor _ => .nil
  | .method _ => .nil
  | .initializer _ => .nil
  | .type h members =>
      .cons (keepsTypes_declared ⟨h, members⟩ scope origin)
        (keepsTypes_members (qualify scope h.name.text) origin members)

theorem keepsTypes_members (scope origin : String) :
    ∀ ms : List Member, List.Forall₂ KeepsTypes (typesOf ms) (declarationsOf scope origin ms)
  | [] => .nil
  | m :: ms => List.rel_append (keepsTypes_member scope origin m) (keepsTypes_members scope origin ms)

end

/-- **Types are kept.**  Every type of Java can be written, and however it is written, what is
declared with it in a source text has this type: the field for each of its variables, with the
dimensions of that variable, the parameter with its dimensions or three dots, and the method
that returns it. -/
theorem types_kept :
    (∀ t, IsJavaType t → ∃ u : TypeUse, u.written = t)
      ∧ ∀ (s : Source) (l : Layout) (origin : String),
        List.Forall₂ KeepsTypes s.allTypes (declarations (s.text l) origin) := by
  refine ⟨fun t ht => ht.exists_use, fun s l origin => ?_⟩
  rw [s.declarations_source l origin]
  exact keepsTypes_members s.scope origin _

/-- A list of anything, in an array. -/
def listsOfAnything : WrittenType :=
  .arrayOf (.mk "List" [.wildcard] false)

/-- Lists in arrays, written in two ways, for variables, a result and a parameter. -/
def gridSource : Source :=
  have htyped : "List" ∉ untypedWords := by decide
  let lists (qualifier : List Identifier) (argument : TypeArgument) (n : Nat) : TypeUse :=
    .reference ⟨⟨qualifier, ⟨"List", by decide, by decide⟩⟩, htyped⟩ [argument] n
  let java : Identifier := ⟨"java", by decide, by decide⟩
  let util : Identifier := ⟨"util", by decide, by decide⟩
  let rows : Field :=
    { comment := none
      modifiers := []
      type := lists [java, util] .wildcard 1
      first := ⟨⟨"rows", by decide, by decide⟩, 1, none⟩
      others := [⟨⟨"columns", by decide, by decide⟩, 0, none⟩] }
  let row : Method :=
    { comment := none
      modifiers := []
      typeParameters := [⟨⟨"E", by decide, by decide⟩, [lists [] .wildcard 0]⟩]
      isUnsealed := .inr nofun
      result := some (lists [] (.bounded true (.primitive "int" (by decide) 1)) 1)
      name := ⟨"row", by decide, by decide⟩
      parameters := [⟨[], lists [] .wildcard 0, ⟨"at", by decide, by decide⟩, none⟩]
      thrown := []
      ending := .nothing }
  { package := none
    imports := []
    types :=
      [{ heading := ⟨none, [], ⟨"Grid", by decide, by decide⟩,
           .plainClass [⟨⟨"T", by decide, by decide⟩, []⟩] none []⟩
         members := [.field rows, .method row] }] }

theorem types_kept_grid :
    IsJavaType listsOfAnything
      ∧ (∃ u : TypeUse, u.written = listsOfAnything)
      ∧ gridSource.text ⟨fun _ => .none, fun _ => .none, .none⟩
        = ("class Grid<T>\x7bjava.util.List<?>[]rows[],columns;"
          ++ "<E extends List<?>>List<?extends int[]>[]row(List<?>...at);\x7d").toList
      ∧ List.Forall₂ KeepsTypes gridSource.allTypes
        (declarations (gridSource.text ⟨fun _ => .none, fun _ => .none, .none⟩) "Grid.java") := by
  have hname : IsTypeName "List" := ⟨by decide, by decide, by decide⟩
  have hlists : IsJavaType listsOfAnything :=
    .reference (.array (.reference (.named hname (List.forall_mem_singleton.mpr .wildcard))))
  exact ⟨hlists, types_kept.1 _ hlists, by decide +kernel, types_kept.2 _ _ _⟩

end ServiceAtlas.Java.Grammar
