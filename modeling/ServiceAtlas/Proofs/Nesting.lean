/-
Member types are flattened without loss, duplication or name clash.

A type has a place in its compilation unit: the way down to it, given at each level by the
number of members in front.  The ascending order of places is the order of a walk that meets
every type before the types declared in it.  `sites` lists the types of a unit with their
places in this order, and the declarations of the unit are these types one by one.

Two types with one qualified name have one chain of enclosing names, and where siblings have
distinct names, the chain leads to one place.
-/
import Mathlib.Data.List.Nodup
import ServiceAtlas.Java.Declarations
import ServiceAtlas.Proofs.Dotted

namespace ServiceAtlas.Java

/-! ### Places -/

/-- The way to a type: at each level, the number of members in front. -/
abbrev Place := List Nat

/-- A declared type in its surroundings: the names of the enclosing types, the outermost
first, and all its members. -/
structure Site where
  enclosing : List String
  head : Head
  members : List Member

namespace Site

/-- The site, seen from outside the type with the given name. -/
def within (name : String) (s : Site) : Site :=
  { s with enclosing := name :: s.enclosing }

/-- The names of the enclosing types and of the type itself. -/
def chain (s : Site) : List String :=
  s.enclosing ++ [s.head.name]

@[simp] theorem head_within (name : String) (s : Site) : (s.within name).head = s.head := rfl

@[simp] theorem members_within (name : String) (s : Site) :
    (s.within name).members = s.members := rfl

@[simp] theorem enclosing_within (name : String) (s : Site) :
    (s.within name).enclosing = name :: s.enclosing := rfl

@[simp] theorem chain_within (name : String) (s : Site) :
    (s.within name).chain = name :: s.chain := rfl

theorem chain_ne_nil (s : Site) : s.chain ≠ [] := by
  simp [chain]

end Site

/-- The type at a place within a member; the member itself is at the empty place. -/
def Member.siteAt? : Member → Place → Option Site
  | .type head body behind, [] => some ⟨[], head, body ++ behind⟩
  | .type head body behind, i :: p =>
    ((body ++ behind)[i]?.bind fun m => m.siteAt? p).map (Site.within head.name)
  | _, _ => none

/-- The type at a place among members. -/
def siteAmong? (ms : List Member) : Place → Option Site
  | [] => none
  | i :: p => ms[i]?.bind fun m => m.siteAt? p

mutual

/-- The types in the member that has `i` members in front, with their places. -/
def Member.sites (i : Nat) : Member → List (Place × Site)
  | .type head body behind =>
    ([i], ⟨[], head, body ++ behind⟩) ::
      (sitesFrom 0 body ++ sitesFrom body.length behind).map
        fun x => (i :: x.1, x.2.within head.name)
  | .field _ => []
  | .method _ => []
  | .constructor _ => []
  | .constant _ => []
  | .other => []

/-- The types in members of which the first has `i` members in front, with their places. -/
def sitesFrom (i : Nat) : List Member → List (Place × Site)
  | [] => []
  | m :: ms => m.sites i ++ sitesFrom (i + 1) ms

end

/-- The name of the type that a member is. -/
def Member.typeName? : Member → Option String
  | .type head _ _ => some head.name
  | _ => none

/-! ### One step of a walk

Every walk over members treats a type, whose members it walks over next, and passes over
anything else. -/

theorem sizeOf_append (ms ns : List Member) :
    sizeOf (ms ++ ns) + 1 = sizeOf ms + sizeOf ns := by
  induction ms with
  | nil => simp [Nat.add_comm]
  | cons m ms ih => simp only [List.cons_append, List.cons.sizeOf_spec]; omega

theorem members_induction {motive : List Member → Prop} (nil : motive [])
    (type : ∀ head body behind ms, motive (body ++ behind) → motive ms →
      motive (.type head body behind :: ms))
    (plain : ∀ m ms, m.typeName? = none → motive ms → motive (m :: ms)) : ∀ ms, motive ms
  | [] => nil
  | .type head body behind :: ms =>
    type head body behind ms (members_induction nil type plain (body ++ behind))
      (members_induction nil type plain ms)
  | .field f :: ms => plain (.field f) ms rfl (members_induction nil type plain ms)
  | .method m :: ms => plain (.method m) ms rfl (members_induction nil type plain ms)
  | .constructor c :: ms => plain (.constructor c) ms rfl (members_induction nil type plain ms)
  | .constant c :: ms => plain (.constant c) ms rfl (members_induction nil type plain ms)
  | .other :: ms => plain .other ms rfl (members_induction nil type plain ms)
termination_by ms => sizeOf ms
decreasing_by
  · have := sizeOf_append body behind
    simp only [List.cons.sizeOf_spec, Member.type.sizeOf_spec]
    omega
  all_goals
    simp only [List.cons.sizeOf_spec]
    omega

theorem sitesFrom_append (ms ns : List Member) :
    ∀ i, sitesFrom i (ms ++ ns) = sitesFrom i ms ++ sitesFrom (i + ms.length) ns := by
  induction ms with
  | nil => intro i; simp [sitesFrom]
  | cons m ms ih =>
      intro i
      rw [List.cons_append, sitesFrom, sitesFrom, ih, List.append_assoc, List.length_cons,
        Nat.add_right_comm, Nat.add_assoc]

theorem sitesFrom_type (i : Nat) (head : Head) (body behind ms : List Member) :
    sitesFrom i (.type head body behind :: ms)
      = ([i], ⟨[], head, body ++ behind⟩) ::
        ((sitesFrom 0 (body ++ behind)).map (fun x => (i :: x.1, x.2.within head.name))
          ++ sitesFrom (i + 1) ms) := by
  rw [sitesFrom, Member.sites, sitesFrom_append, Nat.zero_add, List.cons_append]

theorem sitesFrom_plain (i : Nat) {m : Member} (hm : m.typeName? = none) (ms : List Member) :
    sitesFrom i (m :: ms) = sitesFrom (i + 1) ms := by
  cases m with
  | type => cases hm
  | _ => rfl

@[simp] theorem siteAmong?_succ (m : Member) (ms : List Member) (j : Nat) (p : Place) :
    siteAmong? (m :: ms) ((j + 1) :: p) = siteAmong? ms (j :: p) := rfl

@[simp] theorem siteAmong?_type_nil (head : Head) (body behind ms : List Member) :
    siteAmong? (.type head body behind :: ms) [0] = some ⟨[], head, body ++ behind⟩ := rfl

@[simp] theorem siteAmong?_type_cons (head : Head) (body behind ms : List Member) (j : Nat)
    (p : Place) :
    siteAmong? (.type head body behind :: ms) (0 :: j :: p)
      = (siteAmong? (body ++ behind) (j :: p)).map (Site.within head.name) := rfl

theorem siteAmong?_plain {m : Member} (hm : m.typeName? = none) (ms : List Member)
    (p : Place) : siteAmong? (m :: ms) (0 :: p) = none := by
  cases m with
  | type => cases hm
  | _ => cases p <;> rfl

theorem declarationsOf_append (scope origin : String) (ms ns : List Member) :
    declarationsOf scope origin (ms ++ ns)
      = declarationsOf scope origin ms ++ declarationsOf scope origin ns := by
  induction ms with
  | nil => rfl
  | cons m ms ih => rw [List.cons_append, declarationsOf, declarationsOf, ih, List.append_assoc]

theorem declarationsOf_type (scope origin : String) (head : Head)
    (body behind ms : List Member) :
    declarationsOf scope origin (.type head body behind :: ms)
      = head.toDeclaration (body ++ behind) scope origin ::
        (declarationsOf (qualify scope head.name) origin (body ++ behind)
          ++ declarationsOf scope origin ms) := by
  rw [declarationsOf, Member.declarations, declarationsOf_append, List.cons_append]

theorem declarationsOf_plain (scope origin : String) {m : Member} (hm : m.typeName? = none)
    (ms : List Member) : declarationsOf scope origin (m :: ms) = declarationsOf scope origin ms := by
  cases m with
  | type => cases hm
  | _ => rfl

/-! ### Whole walks -/

theorem mem_sitesFrom_iff (ms : List Member) :
    ∀ i p s, (p, s) ∈ sitesFrom i ms ↔
      ∃ j q, p = (i + j) :: q ∧ siteAmong? ms (j :: q) = some s := by
  induction ms using members_induction with
  | nil => intro i p s; simp [sitesFrom, siteAmong?]
  | type head body behind ms ihinner ihrest =>
      intro i p s
      rw [sitesFrom_type, List.mem_cons, List.mem_append, List.mem_map, ihrest]
      constructor
      · rintro (h | ⟨⟨q, t⟩, hmem, heq⟩ | ⟨j, q, rfl, hs⟩)
        · obtain ⟨rfl, rfl⟩ := Prod.mk.inj h
          exact ⟨0, [], rfl, rfl⟩
        · obtain ⟨j, q, rfl, ht⟩ := (ihinner _ _ _).mp hmem
          obtain ⟨rfl, rfl⟩ := Prod.mk.inj heq
          rw [Nat.zero_add]
          exact ⟨0, j :: q, rfl, by rw [siteAmong?_type_cons, ht, Option.map_some]⟩
        · exact ⟨j + 1, q, by rw [Nat.add_right_comm, Nat.add_assoc], hs⟩
      · rintro ⟨j, q, rfl, hs⟩
        match j, q with
        | 0, [] =>
            rw [siteAmong?_type_nil, Option.some.injEq] at hs
            exact .inl (by rw [hs, Nat.add_zero])
        | 0, j :: q =>
            rw [siteAmong?_type_cons, Option.map_eq_some_iff] at hs
            obtain ⟨t, ht, rfl⟩ := hs
            exact .inr (.inl ⟨(j :: q, t), (ihinner _ _ _).mpr ⟨j, q, by rw [Nat.zero_add], ht⟩,
              by rw [Nat.add_zero]⟩)
        | j + 1, q =>
            exact .inr (.inr ⟨j, q, by rw [Nat.add_right_comm, Nat.add_assoc], hs⟩)
  | plain m ms hm ih =>
      intro i p s
      rw [sitesFrom_plain i hm, ih]
      constructor
      · rintro ⟨j, q, rfl, hs⟩
        exact ⟨j + 1, q, by rw [Nat.add_right_comm, Nat.add_assoc], hs⟩
      · rintro ⟨j, q, rfl, hs⟩
        cases j with
        | zero => rw [siteAmong?_plain hm] at hs; cases hs
        | succ j => exact ⟨j, q, by rw [Nat.add_right_comm, Nat.add_assoc], hs⟩

/-- The types listed are those that have a place. -/
theorem mem_sitesFrom {ms : List Member} {p : Place} {s : Site} :
    (p, s) ∈ sitesFrom 0 ms ↔ siteAmong? ms p = some s := by
  rw [mem_sitesFrom_iff]
  constructor
  · rintro ⟨j, q, rfl, hs⟩
    rwa [Nat.zero_add]
  · intro hs
    cases p with
    | nil => cases hs
    | cons j q => exact ⟨j, q, by rw [Nat.zero_add], hs⟩

/-- The types are listed in the order of their places. -/
theorem sitesFrom_sorted (ms : List Member) :
    ∀ i, (sitesFrom i ms).Pairwise fun a b => a.1 < b.1 := by
  induction ms using members_induction with
  | nil => exact fun _ => .nil
  | type head body behind ms ihinner ihrest =>
      intro i
      have hrest : ∀ p x, x ∈ sitesFrom (i + 1) ms → i :: p < x.1 := by
        rintro p ⟨q, s⟩ hx
        obtain ⟨j, q, rfl, -⟩ := (mem_sitesFrom_iff _ _ _ _).mp hx
        exact List.cons_lt_cons_iff.mpr (.inl (by omega))
      rw [sitesFrom_type]
      refine List.pairwise_cons.mpr ⟨?_, List.pairwise_append.mpr ⟨?_, ihrest _, ?_⟩⟩
      · intro x hx
        rcases List.mem_append.mp hx with hx | hx
        · obtain ⟨⟨q, s⟩, hmem, rfl⟩ := List.mem_map.mp hx
          obtain ⟨j, q, rfl, -⟩ := (mem_sitesFrom_iff _ _ _ _).mp hmem
          exact List.cons_lt_cons_iff.mpr (.inr ⟨rfl, List.nil_lt_cons _ _⟩)
        · exact hrest [] x hx
      · refine List.pairwise_map.mpr ((ihinner 0).imp fun hab => ?_)
        exact List.cons_lt_cons_iff.mpr (.inr ⟨rfl, hab⟩)
      · intro a ha b hb
        obtain ⟨x, -, rfl⟩ := List.mem_map.mp ha
        exact hrest x.1 b hb
  | plain m ms hm ih =>
      intro i
      rw [sitesFrom_plain i hm]
      exact ih (i + 1)

/-- The declaration of a type whose outermost enclosing type lies in the given scope. -/
def Site.declaration (scope origin : String) (s : Site) : Declaration :=
  s.head.toDeclaration s.members (s.enclosing.foldl qualify scope) origin

theorem declarationsOf_eq (origin : String) (ms : List Member) :
    ∀ scope i, declarationsOf scope origin ms
      = (sitesFrom i ms).map fun x => x.2.declaration scope origin := by
  induction ms using members_induction with
  | nil => exact fun _ _ => rfl
  | type head body behind ms ihinner ihrest =>
      intro scope i
      rw [declarationsOf_type, sitesFrom_type, List.map_cons, List.map_append, List.map_map,
        ihinner (qualify scope head.name) 0, ihrest scope (i + 1)]
      rfl
  | plain m ms hm ih =>
      intro scope i
      rw [declarationsOf_plain scope origin hm, sitesFrom_plain i hm, ih scope (i + 1)]

/-! ### Siblings -/

/-- The names of the types among members. -/
def typeNames (ms : List Member) : List String :=
  ms.filterMap Member.typeName?

/-- A type among members is one of them, or lies within one of them. -/
theorem siteAmong?_eq_some {ms : List Member} {i : Nat} {p : Place} {s : Site} :
    siteAmong? ms (i :: p) = some s ↔
      ∃ head body behind, ms[i]? = some (.type head body behind) ∧
        (p = [] ∧ s = ⟨[], head, body ++ behind⟩ ∨
          ∃ t, siteAmong? (body ++ behind) p = some t ∧ s = t.within head.name) := by
  rw [siteAmong?, Option.bind_eq_some_iff]
  constructor
  · rintro ⟨m, hm, hs⟩
    cases m with
    | type head body behind =>
        refine ⟨head, body, behind, hm, ?_⟩
        cases p with
        | nil => exact .inl ⟨rfl, (Option.some.inj hs).symm⟩
        | cons j p =>
            obtain ⟨t, ht, rfl⟩ := Option.map_eq_some_iff.mp hs
            exact .inr ⟨t, ht, rfl⟩
    | _ => cases p <;> cases hs
  · rintro ⟨head, body, behind, hm, ⟨rfl, rfl⟩ | ⟨t, ht, rfl⟩⟩
    · exact ⟨_, hm, rfl⟩
    · cases p with
      | nil => cases ht
      | cons j p => exact ⟨_, hm, Option.map_eq_some_iff.mpr ⟨t, ht, rfl⟩⟩

theorem index_unique {ms : List Member} (h : (typeNames ms).Nodup) {i j : Nat} {m n : Member}
    {name : String} (hi : ms[i]? = some m) (hj : ms[j]? = some n)
    (hm : m.typeName? = some name) (hn : n.typeName? = some name) : i = j := by
  obtain ⟨hilt, rfl⟩ := List.getElem?_eq_some_iff.mp hi
  obtain ⟨hjlt, rfl⟩ := List.getElem?_eq_some_iff.mp hj
  have hpairs := List.pairwise_iff_getElem.mp (List.pairwise_filterMap.mp h)
  rcases Nat.lt_trichotomy i j with hlt | heq | hgt
  · exact absurd rfl (hpairs i j hilt hjlt hlt name hm name hn)
  · exact heq
  · exact absurd rfl (hpairs j i hjlt hilt hgt name hn name hm)

/-- Where sibling types have distinct names, a chain of names leads to one place. -/
theorem place_unique {p : Place} :
    ∀ {ms : List Member} {q : Place} {s t : Site}, (typeNames ms).Nodup →
      (∀ p s, siteAmong? ms p = some s → (typeNames s.members).Nodup) →
      siteAmong? ms p = some s → siteAmong? ms q = some t → s.chain = t.chain → p = q := by
  induction p with
  | nil => intro ms q s t _ _ hs; cases hs
  | cons i p ih =>
      intro ms q s t hdistinct hinner hps hqt heq
      cases q with
      | nil => cases hqt
      | cons j q =>
          obtain ⟨head, body, behind, hi, hs⟩ := siteAmong?_eq_some.mp hps
          obtain ⟨head', body', behind', hj, ht⟩ := siteAmong?_eq_some.mp hqt
          have hnames : head.name = head'.name := by
            rcases hs with ⟨-, rfl⟩ | ⟨s, -, rfl⟩ <;> rcases ht with ⟨-, rfl⟩ | ⟨t, -, rfl⟩ <;>
              exact (List.cons.inj heq).1
          obtain rfl := index_unique hdistinct hi hj rfl (congrArg some hnames.symm)
          obtain ⟨rfl, rfl, rfl⟩ := Member.type.inj (Option.some.inj (hi.symm.trans hj))
          congr 1
          rcases hs with ⟨rfl, rfl⟩ | ⟨s, hs, rfl⟩ <;> rcases ht with ⟨rfl, rfl⟩ | ⟨t, ht, rfl⟩
          · rfl
          · exact absurd (List.cons.inj heq).2.symm t.chain_ne_nil
          · exact absurd (List.cons.inj heq).2 s.chain_ne_nil
          · refine ih (hinner [i] _ (siteAmong?_eq_some.mpr ⟨_, _, _, hi, .inl ⟨rfl, rfl⟩⟩))
              (fun p r hr => ?_) hs ht (List.cons.inj heq).2
            exact hinner (i :: p) (r.within _) (siteAmong?_eq_some.mpr ⟨_, _, _, hi, .inr ⟨r, hr, rfl⟩⟩)

theorem undotted_chain {p : Place} :
    ∀ {ms : List Member} {s : Site},
      (∀ p s, siteAmong? ms p = some s → Undotted s.head.name) →
      siteAmong? ms p = some s → ∀ n ∈ s.chain, Undotted n := by
  induction p with
  | nil => intro ms s _ hs; cases hs
  | cons i p ih =>
      intro ms s hnamed hps n hn
      have hself := hnamed _ _ hps
      obtain ⟨head, body, behind, hi, ⟨rfl, rfl⟩ | ⟨s, hs, rfl⟩⟩ := siteAmong?_eq_some.mp hps
      · obtain rfl := List.mem_singleton.mp hn
        exact hself
      · rcases List.mem_cons.mp hn with rfl | hn
        · exact hnamed [i] _ (siteAmong?_eq_some.mpr ⟨_, _, _, hi, .inl ⟨rfl, rfl⟩⟩)
        · refine ih (fun p r hr => ?_) hs n hn
          exact hnamed (i :: p) (r.within _) (siteAmong?_eq_some.mpr ⟨_, _, _, hi, .inr ⟨r, hr, rfl⟩⟩)

/-! ### Compilation units -/

namespace CompilationUnit

/-- The type at a place in a unit. -/
def siteAt? (u : CompilationUnit) (p : Place) : Option Site :=
  siteAmong? u.members p

/-- The types of a unit with their places, in order. -/
def sites (u : CompilationUnit) : List (Place × Site) :=
  sitesFrom 0 u.members

/-- All types have names without dots. -/
def Named (u : CompilationUnit) : Prop :=
  ∀ x ∈ u.sites, Undotted x.2.head.name

/-- Types that are declared side by side have distinct names. -/
def SiblingsDistinct (u : CompilationUnit) : Prop :=
  (typeNames u.members).Nodup ∧ ∀ x ∈ u.sites, (typeNames x.2.members).Nodup

instance (u : CompilationUnit) : Decidable u.Named :=
  inferInstanceAs (Decidable (∀ x ∈ u.sites, Undotted x.2.head.name))

instance (u : CompilationUnit) : Decidable u.SiblingsDistinct :=
  inferInstanceAs (Decidable (_ ∧ ∀ x ∈ u.sites, (typeNames x.2.members).Nodup))

/-- The dotted chain of the package, unless it is the unnamed one, and the enclosing types. -/
def scopeOf (u : CompilationUnit) (s : Site) : String :=
  Text.joined "." (scopeParts u.packageName ++ s.enclosing)

variable {u : CompilationUnit}

theorem Named.undotted (named : u.Named) {x : Place × Site} (hx : x ∈ u.sites) :
    ∀ n ∈ x.2.chain, Undotted n :=
  undotted_chain (fun _ _ hs => named _ (mem_sitesFrom.mpr hs)) (mem_sitesFrom.mp hx)

theorem Named.scope (named : u.Named) {x : Place × Site} (hx : x ∈ u.sites) :
    x.2.enclosing.foldl qualify u.packageName = u.scopeOf x.2 :=
  foldl_qualify_eq_joined (fun n hn => (named.undotted hx n (List.mem_append_left _ hn)).1) _

/-- The declarations of a unit are its types one by one. -/
theorem declarations_eq (u : CompilationUnit) (origin : String) :
    u.declarations origin = u.sites.map fun x => x.2.declaration u.packageName origin :=
  declarationsOf_eq origin u.members u.packageName 0

theorem qualifiedName_declaration (scope origin : String) (s : Site) :
    (s.declaration scope origin).qualifiedName = s.chain.foldl qualify scope := by
  rw [Site.chain, List.foldl_append]
  rfl

/--
**Nested types are flattened without loss, duplication or name clash.**  The declarations of
a unit are its types one by one, each once, and every type before those declared in it.  The
scope of each is the package followed by the names of the enclosing types, joined with dots.
Where siblings have distinct names, so have all.
-/
theorem declarations_flat (u : CompilationUnit) (origin : String) (named : u.Named) :
    (u.sites.Pairwise fun a b => a.1 < b.1)
      ∧ (∀ p s, (p, s) ∈ u.sites ↔ u.siteAt? p = some s)
      ∧ u.declarations origin
        = u.sites.map (fun x => x.2.head.toDeclaration x.2.members (u.scopeOf x.2) origin)
      ∧ (u.SiblingsDistinct → ((u.declarations origin).map Declaration.qualifiedName).Nodup) := by
  refine ⟨sitesFrom_sorted u.members 0, fun _ _ => mem_sitesFrom, ?_, fun distinct => ?_⟩
  · rw [declarations_eq]
    refine List.map_congr_left fun x hx => ?_
    rw [Site.declaration, named.scope hx]
  · rw [declarations_eq, List.map_map]
    have hplaces : u.sites.Nodup :=
      (sitesFrom_sorted u.members 0).imp fun hlt heq => by
        rw [heq] at hlt
        exact List.lt_irrefl _ hlt
    refine hplaces.map_on fun x hx y hy hxy => ?_
    simp only [Function.comp_apply, qualifiedName_declaration] at hxy
    have hchain := foldl_qualify_injective (named.undotted hx) (named.undotted hy) hxy
    have hsx := mem_sitesFrom.mp hx
    have hsy := mem_sitesFrom.mp hy
    have hplace := place_unique distinct.1
      (fun p s hs => distinct.2 (p, s) (mem_sitesFrom.mpr hs)) hsx hsy hchain
    rw [hplace, hsy, Option.some.injEq] at hsx
    exact Prod.ext hplace hsx.symm

/-- A class with an enumeration in it, behind whose constants further types are declared. -/
def nested : CompilationUnit :=
  let head (kind : TypeKind) (name : String) : Head := ⟨[], [], kind, name, none, [], []⟩
  { package := "shop . api"
    members := [
      .other,
      .type (head .plainClass "Order") [
        .field ⟨[], [], .named "int", [⟨"count", 0⟩], false⟩,
        .type (head .enumeration "State") [.constant ⟨[], [], "OPEN"⟩, .constant ⟨[], [], "SHIPPED"⟩] [
          .type (head .record "Change") [] [],
          .method ⟨[], [], .named "void", "advance", []⟩,
          .type (head .annotationType "Final") [] []],
        .type (head .interface "View") [] []] [],
      .type (head .interface "State") [.type (head .plainClass "Change") [] []] []] }

theorem declarations_flat_nested :
    nested.Named ∧ nested.SiblingsDistinct
      ∧ ((nested.declarations "").map Declaration.qualifiedName).Nodup
      ∧ (nested.declarations "").map Declaration.qualifiedName
        = ["shop.api.Order", "shop.api.Order.State", "shop.api.Order.State.Change",
          "shop.api.Order.State.Final", "shop.api.Order.View", "shop.api.State",
          "shop.api.State.Change"] := by
  have named : nested.Named := by decide
  have distinct : nested.SiblingsDistinct := by decide
  exact ⟨named, distinct, (declarations_flat nested "" named).2.2.2 distinct, by decide⟩

end CompilationUnit

end ServiceAtlas.Java
