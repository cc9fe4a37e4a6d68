/-
The order of annotations matters among competing ones only.

A place of a record either belongs to one group of annotations, which are the only ones that
write to it, or all who write to it write the same.  So two neighbours that are in no group
together can be exchanged: no place tells which of them came last.  Records are compared here
up to the order of their rules or extensions, which does show who came first.

An annotation that cannot be read writes nothing, so it can as well be left out, and it never
takes back what another one has written.
-/
import ServiceAtlas.Proofs.Overwriting

namespace ServiceAtlas

/-! ### Records up to the order of their rules -/

/-- The properties differ at most in the order of their rules. -/
def Property.Alike (p q : Property) : Prop :=
  p.bare = q.bare ∧ ∀ rule, p.rules.get? rule = q.rules.get? rule

theorem Property.alike_of_held {p q : Property} (h : ∀ slot, p.held slot = q.held slot) :
    p.Alike q := by
  refine ⟨?_, fun rule => h (.rule rule)⟩
  rw [bare, bare, Property.mk.injEq]
  exact ⟨h .name, h .type, h .required, h .description, rfl, h .sample, h .deprecated,
    h .deprecationNotes⟩

/-- The models differ at most in the order of their extensions. -/
def Model.Alike (m n : Model) : Prop :=
  { m with extensions := ∅ } = { n with extensions := ∅ } ∧
    ∀ key, m.extensions.get? key = n.extensions.get? key

theorem Model.alike_of_held {m n : Model} (h : ∀ slot, m.held slot = n.held slot) :
    m.Alike n := by
  refine ⟨?_, fun key => h (.extension key)⟩
  rw [Model.mk.injEq]
  exact ⟨h .name, h .description, h .properties, h .isInterface, h .isEnum, h .extended,
    h .implemented, h .sample, h .deprecated, h .deprecationNotes, h .since, rfl⟩

/-! ### Groups of annotations -/

namespace Mark

/-- The names of annotations that write different things to one place of a property. -/
def propertyGroups : List (List String) :=
  [["Size"], ["Min", "DecimalMin"], ["Max", "DecimalMax"], ["Pattern"],
    ["Schema", "ApiModelProperty"], ["Deprecated"]]

/-- The names of annotations that write different things to one place of a model. -/
def modelGroups : List (List String) :=
  [["Table"], ["ApiModel", "Schema"], ["Deprecated"]]

/-- Both annotations belong to one of the groups. -/
def Compete (groups : List (List String)) (a b : Mark) : Prop :=
  ∃ group ∈ groups, a.name ∈ group ∧ b.name ∈ group

instance (groups : List (List String)) (a b : Mark) : Decidable (Compete groups a b) :=
  inferInstanceAs (Decidable (∃ group ∈ groups, _))

section Swap

variable {Slot : Type} {Value : Slot → Type} {writes : Mark → (slot : Slot) → Option (Value slot)}
  {groups : List (List String)} {slot : Slot} {a b : Mark}

/-- One of the groups writes to the place alone, or all who write to it write the same. -/
inductive Owned (writes : Mark → (slot : Slot) → Option (Value slot))
    (groups : List (List String)) (slot : Slot) : Prop
  | group (group : List String) (hgroup : group ∈ groups)
      (h : ∀ a, a.name ∉ group → writes a slot = none)
  | constant (v : Value slot) (h : ∀ a, writes a slot = none ∨ writes a slot = some v)

/-- Of two annotations that do not compete, one writes nothing or both write the same. -/
theorem Owned.cases (h : Owned writes groups slot) (hab : ¬Compete groups a b) :
    writes a slot = none ∨ writes b slot = none ∨ writes a slot = writes b slot := by
  cases h with
  | group group hgroup h =>
      by_cases ha : a.name ∈ group
      · exact Or.inr (Or.inl (h b fun hb => hab ⟨_, hgroup, ha, hb⟩))
      · exact Or.inl (h a ha)
  | constant v h =>
      obtain ha | ha := h a
      · exact Or.inl ha
      · obtain hb | hb := h b
        · exact Or.inr (Or.inl hb)
        · exact Or.inr (Or.inr (ha.trans hb.symm))

theorem lastWrite?_swap (h : Owned writes groups slot) (hab : ¬Compete groups a b)
    (before behind : List Mark) :
    lastWrite? writes (before ++ a :: b :: behind) slot
      = lastWrite? writes (before ++ b :: a :: behind) slot := by
  have hpair : ([b, a].findSome? fun a => writes a slot)
      = [a, b].findSome? fun a => writes a slot := by
    obtain ha | hb | hsame := h.cases hab
    · simp [List.findSome?_cons, ha]
    · simp [List.findSome?_cons, hb]
    · simp [List.findSome?_cons, hsame]
  have hsplit (c d : Mark) : (before ++ c :: d :: behind).reverse
      = behind.reverse ++ [d, c] ++ before.reverse := by
    simp
  rw [lastWrite?, lastWrite?, hsplit, hsplit, List.findSome?_append, List.findSome?_append, hpair,
    List.findSome?_append, List.findSome?_append]

end Swap

theorem owned_rule (key : String) :
    @Owned String (fun _ => Json) rule? propertyGroups key := by
  by_cases hkey : key ∈ ["required", "minLength", "maxLength", "minimum", "maximum", "pattern",
      "format"]
  · simp only [List.mem_cons, List.not_mem_nil, or_false] at hkey
    obtain rfl | rfl | rfl | rfl | rfl | rfl | rfl := hkey
    · refine .constant (.bool true) fun a => ?_
      by_cases ha : a.Requires <;> simp [rule?, ha]
    · exact .group ["Size"] (by decide) fun a ha => by simp [rule?, ha]
    · exact .group ["Size"] (by decide) fun a ha => by simp [rule?, ha]
    · exact .group ["Min", "DecimalMin"] (by decide) fun a ha => by simp [rule?, ha]
    · exact .group ["Max", "DecimalMax"] (by decide) fun a ha => by simp [rule?, ha]
    · exact .group ["Pattern"] (by decide) fun a ha => by simp [rule?, ha]
    · refine .constant (.str "email") fun a => ?_
      by_cases ha : a.name ∈ ["Email"] <;> simp [rule?, ha]
  · simp only [List.mem_cons, List.not_mem_nil, or_false, not_or] at hkey
    exact .constant .null fun a => Or.inl (by simp [rule?, hkey])

theorem owned_property (slot : Property.Slot) : Owned propertyWrites propertyGroups slot := by
  cases slot with
  | name => exact .constant "" fun _ => Or.inl rfl
  | type => exact .constant none fun _ => Or.inl rfl
  | required =>
      refine .constant true fun a => ?_
      by_cases ha : a.Requires <;> simp [propertyWrites, ha]
  | description =>
      exact .group ["Schema", "ApiModelProperty"] (by decide) fun _ ha => only_of_not_mem ha _
  | sample =>
      exact .group ["Schema", "ApiModelProperty"] (by decide) fun _ ha => only_of_not_mem ha _
  | deprecated => exact .group ["Deprecated"] (by decide) fun _ ha => only_of_not_mem ha _
  | deprecationNotes => exact .group ["Deprecated"] (by decide) fun _ ha => only_of_not_mem ha _
  | rule key =>
      cases owned_rule key with
      | group group hgroup h =>
          exact .group group hgroup fun a ha => by simp [propertyWrites, h a ha]
      | constant v h =>
          refine .constant (some v) fun a => ?_
          obtain ha | ha := h a <;> simp [propertyWrites, ha]

theorem owned_extension (key : String) :
    @Owned String (fun _ => Json) extension? modelGroups key := by
  by_cases hentity : key = "isEntity"
  · refine .constant (.bool true) fun a => ?_
    by_cases ha : a.name ∈ ["Entity"] <;> simp [extension?, hentity, ha]
  · by_cases htable : key = "tableName"
    · exact .group ["Table"] (by decide) fun a ha => by simp [extension?, htable, ha]
    · exact .constant .null fun a => Or.inl (by simp [extension?, hentity, htable])

theorem owned_model (slot : Model.Slot) : Owned modelWrites modelGroups slot := by
  cases slot with
  | description => exact .group ["ApiModel", "Schema"] (by decide) fun _ ha => only_of_not_mem ha _
  | sample => exact .group ["ApiModel", "Schema"] (by decide) fun _ ha => only_of_not_mem ha _
  | deprecated => exact .group ["Deprecated"] (by decide) fun _ ha => only_of_not_mem ha _
  | deprecationNotes => exact .group ["Deprecated"] (by decide) fun _ ha => only_of_not_mem ha _
  | since => exact .group ["Deprecated"] (by decide) fun _ ha => only_of_not_mem ha _
  | extension key =>
      cases owned_extension key with
      | group group hgroup h => exact .group group hgroup fun a ha => by simp [modelWrites, h a ha]
      | constant v h =>
          refine .constant (some v) fun a => ?_
          obtain ha | ha := h a <;> simp [modelWrites, ha]
  | _ => exact .group ["Table"] (by decide) fun _ _ => rfl

/-! ### Annotations without an effect -/

/-- The annotation has no effect on properties: there is none for its name, or it is a bound
that cannot be read. -/
def IsIdle (a : Mark) : Prop :=
  a.name ∉ EffectTable.standard.properties.keys ∨
    a.name ∈ ["Min", "Max", "DecimalMin", "DecimalMax"] ∧
      ∀ raw, a.get? "value" = some raw → Bound.number? raw = none

instance (a : Mark) : Decidable a.IsIdle :=
  inferInstanceAs (Decidable (_ ∨ _))

/-- The annotation without the bounds of lengths that cannot be read. -/
def readable (a : Mark) : Mark :=
  if a.name = "Size" then
    { a with attributes := a.attributes.keep fun key raw =>
        !(["min", "max"].contains key && (Bound.integer? raw).isNone) }
  else a

/-- The annotations without those that have no effect, and without what has none in them. -/
def effective (marks : List Mark) : List Mark :=
  (marks.filter fun a => !decide a.IsIdle).map readable

end Mark

namespace EffectTable

open Mark

variable {a : Mark} {p : Property}

/-- Bounds are set by one effect, each of them one rule. -/
theorem exists_bound {name : String} (h : name ∈ ["Min", "Max", "DecimalMin", "DecimalMax"]) :
    ∃ rule, standard.properties.get? name = some (PropertyEffect.bound rule) := by
  obtain ⟨⟨_, rule⟩, hrule, rfl⟩ := List.mem_map.mp (show name ∈ boundRules.map Prod.fst from h)
  exact ⟨rule, get?_of_mem_boundRules hrule⟩

theorem onProperty_of_isIdle (h : a.IsIdle) : (standard.onProperty p a).1 = p := by
  unfold onProperty
  obtain hunknown | ⟨hname, hvalue⟩ := h
  · rw [OrderedMap.get?_eq_none_iff.mpr hunknown]
  · obtain ⟨rule, heffect⟩ := exists_bound hname
    have hunread : (a.get? "value").bind Bound.number? = none := by
      cases hraw : a.get? "value" with
      | none => exact Option.bind_none _
      | some raw => rw [Option.bind_some, hvalue raw hraw]
    simp only [heffect, PropertyEffect.bound_eq, hunread, Option.map_none, Property.setRule?]

theorem get?_readable {key : String} (hname : a.name = "Size") (hkey : key = "min" ∨ key = "max") :
    (a.readable.get? key).bind Bound.integer? = (a.get? key).bind Bound.integer? := by
  rw [Mark.readable, if_pos hname, Mark.get?, OrderedMap.get?_keep, Mark.get?]
  cases a.attributes.get? key with
  | none => rfl
  | some raw =>
      cases hread : Bound.integer? raw with
      | none => simp [Option.filter_some, hkey, hread]
      | some n => simp [Option.filter_some, hread]

theorem onProperty_readable :
    (standard.onProperty p a.readable).1 = (standard.onProperty p a).1 := by
  by_cases hname : a.name = "Size"
  · have hsize (b : Mark) (hb : b.name = "Size") :
        (standard.onProperty p b).1 = (PropertyEffect.size b p).1 := by
      unfold onProperty
      rw [hb]
      rfl
    rw [hsize a hname, hsize a.readable (by simp [Mark.readable, hname]), PropertyEffect.size_eq,
      PropertyEffect.size_eq, get?_readable hname (.inl rfl), get?_readable hname (.inr rfl)]
  · rw [Mark.readable, if_neg hname]

theorem applyToProperty_effective (marks : List Mark) :
    ∀ p, (standard.applyToProperty (Mark.effective marks) p).1
      = (standard.applyToProperty marks p).1 := by
  rw [Mark.effective]
  simp only [applyToProperty_eq_foldl, List.foldl_map, onProperty_readable]
  induction marks with
  | nil => intro p; rfl
  | cons a rest ih =>
      intro p
      by_cases ha : a.IsIdle
      · rw [List.filter_cons_of_neg (by simp [ha]), List.foldl_cons, onProperty_of_isIdle ha]
        exact ih p
      · rw [List.filter_cons_of_pos (by simp [ha]), List.foldl_cons, List.foldl_cons]
        exact ih _

theorem applyToProperty_swap {b : Mark} (hab : ¬Compete propertyGroups a b)
    (before behind : List Mark) (p : Property) :
    (standard.applyToProperty (before ++ a :: b :: behind) p).1.Alike
      (standard.applyToProperty (before ++ b :: a :: behind) p).1 := by
  refine Property.alike_of_held fun slot => ?_
  rw [held_applyToProperty, held_applyToProperty, lastWrite?_swap (owned_property slot) hab]

theorem applyToModel_swap {b : Mark} (hab : ¬Compete modelGroups a b)
    (before behind : List Mark) (m : Model) :
    (standard.applyToModel (before ++ a :: b :: behind) m).Alike
      (standard.applyToModel (before ++ b :: a :: behind) m) := by
  refine Model.alike_of_held fun slot => ?_
  rw [held_applyToModel, held_applyToModel, lastWrite?_swap (owned_model slot) hab]

/--
**The order of annotations matters among competing ones only, and annotations that cannot be
read have no effect.**  Two neighbours that do not compete can be exchanged, on a property and on
a model, without a change but in the order of rules or extensions.  Annotations without an
effect, bounds of lengths that are no integers and bounds that are no numbers can be left out
without any change, so they never take back what another annotation has set.
-/
theorem order_of_marks :
    (∀ (p : Property) (before behind : List Mark) (a b : Mark), ¬Compete propertyGroups a b →
      (standard.applyToProperty (before ++ a :: b :: behind) p).1.Alike
        (standard.applyToProperty (before ++ b :: a :: behind) p).1) ∧
    (∀ (p : Property) (marks : List Mark),
      (standard.applyToProperty (Mark.effective marks) p).1
        = (standard.applyToProperty marks p).1) ∧
    ∀ (m : Model) (before behind : List Mark) (a b : Mark), ¬Compete modelGroups a b →
      (standard.applyToModel (before ++ a :: b :: behind) m).Alike
        (standard.applyToModel (before ++ b :: a :: behind) m) :=
  ⟨fun p before behind _ _ hab => applyToProperty_swap hab before behind p,
    fun p marks => applyToProperty_effective marks p,
    fun m before behind _ _ hab => applyToModel_swap hab before behind m⟩

/-- Annotations of which the last three say nothing that can be read, but for one length. -/
def amountMarks : List Mark :=
  [⟨"DecimalMin", .ofList [("value", "\"0.5\"")]⟩, .plain "NotNull",
    ⟨"Schema", .ofList [("required", "true"), ("description", "\"What is due\"")]⟩,
    ⟨"Size", .ofList [("min", "1"), ("max", "forty")]⟩, ⟨"Min", .ofList [("value", "LOWEST")]⟩,
    .plain "Getter"]

/-- An annotation that requires, as `NotNull` does, and describes. -/
def describedMark : Mark :=
  ⟨"Schema", .ofList [("required", "true")]⟩

/-- An annotation of a model that competes with those of its own name. -/
def storedMark : Mark :=
  ⟨"Table", .ofList [("name", "\"dues\"")]⟩

theorem order_of_marks_amount :
    (¬Compete propertyGroups (.plain "NotNull") describedMark ∧
        (standard.applyToProperty
            (amountMarks ++ .plain "NotNull" :: describedMark :: amountMarks)
            (.plain "amount" none)).1.Alike
          (standard.applyToProperty
            (amountMarks ++ describedMark :: .plain "NotNull" :: amountMarks)
            (.plain "amount" none)).1) ∧
      ((Mark.effective amountMarks).map (fun a => (a.name, a.attributes.keys))
          = [("DecimalMin", ["value"]), ("NotNull", []), ("Schema", ["required", "description"]),
              ("Size", ["min"])] ∧
        (standard.applyToProperty (Mark.effective amountMarks) (.plain "amount" none)).1
          = (standard.applyToProperty amountMarks (.plain "amount" none)).1) ∧
      ¬Compete modelGroups describedMark storedMark ∧
        (standard.applyToModel ([] ++ describedMark :: storedMark :: amountMarks)
            (.plain "Due")).Alike
          (standard.applyToModel ([] ++ storedMark :: describedMark :: amountMarks)
            (.plain "Due")) :=
  ⟨⟨by decide, order_of_marks.1 _ _ _ _ _ (by decide)⟩,
    ⟨by decide +kernel, order_of_marks.2.1 _ _⟩,
    by decide, order_of_marks.2.2 _ _ _ _ _ (by decide)⟩

end EffectTable

end ServiceAtlas
