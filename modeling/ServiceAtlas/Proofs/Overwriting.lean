/-
What annotations write.

An annotation that has an effect overwrites some places of a record, and what it writes there
does not depend on the record.  `Property.Slot` and `Model.Slot` name all places of a record,
`propertyWrites` and `modelWrites` say for each of them which annotations write to it and what,
and `held_onProperty` and `held_onModel` say that annotations do nothing else.  So after a run
over annotations a place holds what the last annotation that writes to it wrote, or else what
it held before.
-/
import ServiceAtlas.Proofs.Requirement

namespace ServiceAtlas

/-! ### What an annotation says -/

namespace Mark

variable {a : Mark} {α : Type} {names : List String}

/-- A value that counts for annotations with one of the names only. -/
def only (a : Mark) (names : List String) (value : Option α) : Option α :=
  if a.name ∈ names then value else none

@[simp] theorem only_of_mem (h : a.name ∈ names) (value : Option α) : a.only names value = value :=
  if_pos h

@[simp] theorem only_of_not_mem (h : a.name ∉ names) (value : Option α) :
    a.only names value = none :=
  if_neg h

/-- The text of the first attribute that is present, unless it is empty. -/
def said? (a : Mark) (keys : List String) : Option String :=
  match a.text? keys with
  | none => none
  | some text => if text.isEmpty then none else some text

theorem requires_iff : a.Requires ↔ a.name ∈ ["NotNull", "NotBlank", "NotEmpty"] ∨
    a.name ∈ ["Schema", "ApiModelProperty"] ∧ a.flag? "required" = some true := by
  constructor
  · intro h
    cases h with
    | constraint hconstraint => exact Or.inl hconstraint
    | description hname hraw htrue => exact Or.inr ⟨hname, flag?_eq_true_iff.mpr ⟨_, hraw, htrue⟩⟩
  · rintro (hconstraint | ⟨hname, hflag⟩)
    · exact .constraint hconstraint
    · exact (requires_description_iff hname).mpr hflag

instance : Decidable a.Requires :=
  decidable_of_iff _ requires_iff.symm

/-- What the annotation says about a rule of its member. -/
def rule? (a : Mark) (key : String) : Option Json :=
  if key = "required" then
    if a.Requires then some (.bool true) else none
  else if key = "minLength" then
    a.only ["Size"] (((a.get? "min").bind Bound.integer?).map .int)
  else if key = "maxLength" then
    a.only ["Size"] (((a.get? "max").bind Bound.integer?).map .int)
  else if key = "minimum" then
    a.only ["Min", "DecimalMin"] (((a.get? "value").bind Bound.number?).map .float)
  else if key = "maximum" then
    a.only ["Max", "DecimalMax"] (((a.get? "value").bind Bound.number?).map .float)
  else if key = "pattern" then
    a.only ["Pattern"] ((a.text? ["regexp"]).map .str)
  else if key = "format" then
    a.only ["Email"] (some (.str "email"))
  else none

end Mark

/-! ### Places of a property -/

namespace Property

/-- The places of a property.  Every rule has a place of its own. -/
inductive Slot where
  | name
  | type
  | required
  | description
  | sample
  | deprecated
  | deprecationNotes
  | rule (key : String)

/-- What a place of a property holds. -/
abbrev Slot.Value : Slot → Type
  | name => String
  | type => Option TypeRef
  | required => Bool
  | description => String
  | sample => Option String
  | deprecated => Bool
  | deprecationNotes => Option String
  | rule _ => Option Json

/-- What the property holds at a place. -/
def held (p : Property) : (slot : Slot) → slot.Value
  | .name => p.name
  | .type => p.type
  | .required => p.required
  | .description => p.description
  | .sample => p.sample
  | .deprecated => p.deprecated
  | .deprecationNotes => p.deprecationNotes
  | .rule key => p.rules.get? key

end Property

/-- What the annotation writes to a place of the property of its member. -/
def Mark.propertyWrites (a : Mark) : (slot : Property.Slot) → Option slot.Value
  | .name => none
  | .type => none
  | .required => if a.Requires then some true else none
  | .description =>
      a.only ["Schema", "ApiModelProperty"] (a.said? ["description", "value", "notes"])
  | .sample => a.only ["Schema", "ApiModelProperty"] ((a.text? ["example"]).map some)
  | .deprecated => a.only ["Deprecated"] (some true)
  | .deprecationNotes => a.only ["Deprecated"] ((a.said? ["message", "notes"]).map some)
  | .rule key => (a.rule? key).map some

/-- The rule is set, if there is a value for it. -/
def Property.setRule? (p : Property) (rule : String) : Option Json → Property
  | none => p
  | some value => p.setRule rule value

theorem Property.get?_setRule? (p : Property) (rule : String) (value : Option Json) (key : String) :
    (p.setRule? rule value).rules.get? key
      = if key = rule then value.or (p.rules.get? key) else p.rules.get? key := by
  cases value with
  | none => simp [setRule?]
  | some value => simp [setRule?, setRule, OrderedMap.get?_insert]

/-- All that the property holds, its rules left out. -/
def Property.bare (p : Property) : Property :=
  { p with rules := ∅ }

@[simp] theorem Property.bare_setRule? (p : Property) (rule : String) (value : Option Json) :
    (p.setRule? rule value).bare = p.bare := by
  cases value <;> rfl

namespace EffectTable

/-- The annotations of numeric bounds, each with the rule that it sets. -/
def boundRules : List (String × String) :=
  [("Min", "minimum"), ("Max", "maximum"), ("DecimalMin", "minimum"), ("DecimalMax", "maximum")]

end EffectTable

namespace PropertyEffect

variable (a : Mark) (p : Property)

/-! ### What each effect does -/

theorem lengthBound_eq (key rule : String) : (lengthBound key rule a p).1
    = p.setRule? rule (((a.get? key).bind Bound.integer?).map .int) := by
  unfold lengthBound
  cases a.get? key with
  | none => rfl
  | some raw => cases h : Bound.integer? raw <;> simp [h, Property.setRule?]

theorem size_eq : (size a p).1
    = (p.setRule? "minLength" (((a.get? "min").bind Bound.integer?).map .int)).setRule? "maxLength"
        (((a.get? "max").bind Bound.integer?).map .int) := by
  rw [← lengthBound_eq, ← lengthBound_eq, size]

theorem bound_eq (rule : String) : (bound rule a p).1
    = p.setRule? rule (((a.get? "value").bind Bound.number?).map .float) := by
  unfold bound
  cases a.get? "value" with
  | none => rfl
  | some raw => cases h : Bound.number? raw <;> simp [h, Property.setRule?]

theorem pattern_eq : (pattern a p).1 = p.setRule? "pattern" ((a.text? ["regexp"]).map .str) := by
  unfold pattern
  cases a.text? ["regexp"] <;> simp [Property.setRule?]

theorem email_eq : (email a p).1 = p.setRule? "format" (some (.str "email")) :=
  rfl

theorem markDeprecated_eq : (markDeprecated a p).1 = { p with
    deprecated := true
    deprecationNotes := ((a.said? ["message", "notes"]).map some).getD p.deprecationNotes } := by
  unfold markDeprecated Mark.said?
  cases a.text? ["message", "notes"] with
  | none => rfl
  | some text => by_cases h : text.isEmpty <;> simp [h]

theorem describe_eq : (describe a p).1 =
    let q := { p with
      description := (a.said? ["description", "value", "notes"]).getD p.description
      sample := ((a.text? ["example"]).map some).getD p.sample }
    if a.flag? "required" = some true then q.require else q := by
  unfold describe Mark.said?
  cases a.text? ["description", "value", "notes"] with
  | none => cases a.text? ["example"] <;> rfl
  | some text => by_cases h : text.isEmpty <;> cases a.text? ["example"] <;> simp [h]

/-! ### Each effect writes what its annotation writes -/

variable {a p} (slot : Property.Slot)

theorem held_require (ha : a.name ∈ ["NotNull", "NotBlank", "NotEmpty"]) :
    (require a p).1.held slot = (a.propertyWrites slot).getD (p.held slot) := by
  have hrequires : a.Requires := .constraint ha
  simp only [List.mem_cons, List.not_mem_nil, or_false] at ha
  cases slot with
  | rule key =>
      by_cases hkey : key = "required"
      · simp [Property.held, Mark.propertyWrites, Mark.rule?, require, Property.require, hkey,
          hrequires, OrderedMap.get?_insert]
      · obtain ha | ha | ha := ha <;>
          simp [Property.held, Mark.propertyWrites, Mark.rule?, require, Property.require, hkey, ha,
            Mark.only, OrderedMap.get?_insert]
  | _ =>
      obtain ha | ha | ha := ha <;>
        simp [Property.held, Mark.propertyWrites, require, Property.require, ha, hrequires,
          Mark.only]

/-- Annotations that only set rules, the requirement not among them. -/
theorem held_of_rules {q : Property} (ha : a.name ∈ ["Size", "Min", "DecimalMin", "Max",
      "DecimalMax", "Pattern", "Email"]) (hbare : q.bare = p.bare)
    (hrules : ∀ key, q.rules.get? key = (a.rule? key).or (p.rules.get? key)) :
    q.held slot = (a.propertyWrites slot).getD (p.held slot) := by
  have hother : a.name ∉ ["NotNull", "NotBlank", "NotEmpty", "Schema", "ApiModelProperty",
      "Deprecated"] := by
    have hdisjoint : ∀ name ∈ ["Size", "Min", "DecimalMin", "Max", "DecimalMax", "Pattern",
        "Email"], name ∉ ["NotNull", "NotBlank", "NotEmpty", "Schema", "ApiModelProperty",
        "Deprecated"] := by decide
    exact hdisjoint a.name ha
  simp only [List.mem_cons, List.not_mem_nil, or_false, not_or] at hother
  have hrequires : ¬a.Requires := Mark.not_requires (by simp [hother])
  simp only [Property.bare, Property.mk.injEq] at hbare
  cases slot with
  | rule key =>
      rw [Property.held, hrules, Mark.propertyWrites]
      cases a.rule? key <;> rfl
  | _ => simp [Property.held, Mark.propertyWrites, Mark.only, hrequires, hother, hbare]

/-- Annotations that set one rule. -/
theorem held_setRule? {rule : String} {value : Option Json} (ha : a.name ∈ ["Size", "Min",
      "DecimalMin", "Max", "DecimalMax", "Pattern", "Email"])
    (hrule : ∀ key, a.rule? key = if key = rule then value else none) :
    (p.setRule? rule value).held slot = (a.propertyWrites slot).getD (p.held slot) := by
  refine held_of_rules slot ha (Property.bare_setRule? ..) fun key => ?_
  rw [Property.get?_setRule?, hrule]
  split <;> simp

theorem held_size (ha : a.name = "Size") :
    (size a p).1.held slot = (a.propertyWrites slot).getD (p.held slot) := by
  refine held_of_rules slot (by simp [ha]) (by simp [size_eq]) fun key => ?_
  have hrequires : ¬a.Requires := Mark.not_requires (by simp [ha])
  rw [size_eq, Property.get?_setRule?, Property.get?_setRule?, Mark.rule?]
  by_cases hlow : key = "minLength"
  · simp [hlow, ha, Mark.only]
  · by_cases hhigh : key = "maxLength" <;> simp [hlow, hhigh, ha, hrequires, Mark.only]

theorem held_bound {rule : String} (hrule : (a.name, rule) ∈ EffectTable.boundRules) :
    (bound rule a p).1.held slot = (a.propertyWrites slot).getD (p.held slot) := by
  simp only [EffectTable.boundRules, List.mem_cons, Prod.mk.injEq, List.not_mem_nil,
    or_false] at hrule
  rw [bound_eq]
  obtain ⟨ha, rfl⟩ | ⟨ha, rfl⟩ | ⟨ha, rfl⟩ | ⟨ha, rfl⟩ := hrule
  all_goals
    have hrequires : ¬a.Requires := Mark.not_requires (by simp [ha])
    refine held_setRule? slot (by simp [ha]) fun key => ?_
  · by_cases hkey : key = "minimum" <;> simp [Mark.rule?, Mark.only, hkey, ha, hrequires]
  · by_cases hkey : key = "maximum" <;> simp [Mark.rule?, Mark.only, hkey, ha, hrequires]
  · by_cases hkey : key = "minimum" <;> simp [Mark.rule?, Mark.only, hkey, ha, hrequires]
  · by_cases hkey : key = "maximum" <;> simp [Mark.rule?, Mark.only, hkey, ha, hrequires]

theorem held_pattern (ha : a.name = "Pattern") :
    (pattern a p).1.held slot = (a.propertyWrites slot).getD (p.held slot) := by
  have hrequires : ¬a.Requires := Mark.not_requires (by simp [ha])
  rw [pattern_eq]
  refine held_setRule? slot (by simp [ha]) fun key => ?_
  by_cases hkey : key = "pattern" <;> simp [Mark.rule?, Mark.only, hkey, ha, hrequires]

theorem held_email (ha : a.name = "Email") :
    (email a p).1.held slot = (a.propertyWrites slot).getD (p.held slot) := by
  have hrequires : ¬a.Requires := Mark.not_requires (by simp [ha])
  rw [email_eq]
  refine held_setRule? slot (by simp [ha]) fun key => ?_
  by_cases hkey : key = "format" <;> simp [Mark.rule?, Mark.only, hkey, ha, hrequires]

theorem held_markDeprecated (ha : a.name = "Deprecated") :
    (markDeprecated a p).1.held slot = (a.propertyWrites slot).getD (p.held slot) := by
  have hrequires : ¬a.Requires := Mark.not_requires (by simp [ha])
  rw [markDeprecated_eq]
  cases slot <;> simp [Property.held, Mark.propertyWrites, Mark.rule?, Mark.only, ha, hrequires]

/-- A description whose flag says so writes the requirement to both of its places. -/
theorem held_describe (ha : a.name = "Schema" ∨ a.name = "ApiModelProperty") :
    (describe a p).1.held slot = (a.propertyWrites slot).getD (p.held slot) := by
  have hrequires : a.Requires ↔ a.flag? "required" = some true :=
    Mark.requires_description_iff (by simpa using ha)
  have hnames : ¬a.name = "Size" ∧ ¬a.name = "Min" ∧ ¬a.name = "DecimalMin" ∧ ¬a.name = "Max" ∧
      ¬a.name = "DecimalMax" ∧ ¬a.name = "Pattern" ∧ ¬a.name = "Email" ∧
      ¬a.name = "Deprecated" := by
    obtain ha | ha := ha <;> simp [ha]
  rw [describe_eq]
  cases slot with
  | rule key =>
      by_cases hkey : key = "required" <;> by_cases hflag : a.flag? "required" = some true <;>
        simp [Property.held, Property.require, Mark.propertyWrites, Mark.rule?, Mark.only, hkey,
          hflag, hrequires, hnames, OrderedMap.get?_insert]
  | _ =>
      by_cases hflag : a.flag? "required" = some true <;>
        simp [Property.held, Property.require, Mark.propertyWrites, Mark.only, ha, hflag,
          hrequires, hnames]

end PropertyEffect

/-! ### Places of a model -/

namespace Model

/-- The places of a model.  Every extension has a place of its own. -/
inductive Slot where
  | name
  | description
  | properties
  | isInterface
  | isEnum
  | extended
  | implemented
  | sample
  | deprecated
  | deprecationNotes
  | since
  | extension (key : String)

/-- What a place of a model holds. -/
abbrev Slot.Value : Slot → Type
  | name => String
  | description => String
  | properties => List Property
  | isInterface => Bool
  | isEnum => Bool
  | extended => List String
  | implemented => List String
  | sample => Option String
  | deprecated => Bool
  | deprecationNotes => Option String
  | since => Option String
  | extension _ => Option Json

/-- What the model holds at a place. -/
def held (m : Model) : (slot : Slot) → slot.Value
  | .name => m.name
  | .description => m.description
  | .properties => m.properties
  | .isInterface => m.isInterface
  | .isEnum => m.isEnum
  | .extended => m.extended
  | .implemented => m.implemented
  | .sample => m.sample
  | .deprecated => m.deprecated
  | .deprecationNotes => m.deprecationNotes
  | .since => m.since
  | .extension key => m.extensions.get? key

end Model

namespace Mark

/-- What the annotation says about an extension of its type. -/
def extension? (a : Mark) (key : String) : Option Json :=
  if key = "isEntity" then
    a.only ["Entity"] (some (.bool true))
  else if key = "tableName" then
    a.only ["Table"] ((a.said? ["name"]).map .str)
  else none

/-- What the annotation writes to a place of the model of its type. -/
def modelWrites (a : Mark) : (slot : Model.Slot) → Option slot.Value
  | .description => a.only ["ApiModel", "Schema"] (a.said? ["description"])
  | .sample => a.only ["ApiModel", "Schema"] ((a.text? ["example"]).map some)
  | .deprecated => a.only ["Deprecated"] (some true)
  | .deprecationNotes => a.only ["Deprecated"] ((a.said? ["message", "notes"]).map some)
  | .since => a.only ["Deprecated"] ((a.said? ["since"]).map some)
  | .extension key => (a.extension? key).map some
  | .name | .properties | .isInterface | .isEnum | .extended | .implemented => none

end Mark

/-- The extension is set, if there is a value for it. -/
def Model.setExtension? (m : Model) (key : String) : Option Json → Model
  | none => m
  | some value => { m with extensions := m.extensions.insert key value }

/-- A place holds what it held, except that of the extension. -/
theorem Model.held_setExtension? (m : Model) (key : String) (value : Option Json) (slot : Slot) :
    (m.setExtension? key value).held slot
      = match slot with
        | .extension key' =>
            if key' = key then value.or (m.extensions.get? key') else m.extensions.get? key'
        | slot => m.held slot := by
  cases value with
  | none => cases slot <;> simp [setExtension?, held]
  | some value => cases slot <;> simp [setExtension?, held, OrderedMap.get?_insert]

namespace ModelEffect

variable (a : Mark) (m : Model)

theorem entity_eq : entity a m = m.setExtension? "isEntity" (some (.bool true)) :=
  rfl

theorem table_eq : table a m = m.setExtension? "tableName" ((a.said? ["name"]).map .str) := by
  unfold table Mark.said?
  cases a.text? ["name"] with
  | none => rfl
  | some name => by_cases h : name.isEmpty <;> simp [h, Model.setExtension?]

theorem describe_eq : describe a m = { m with
    description := (a.said? ["description"]).getD m.description
    sample := ((a.text? ["example"]).map some).getD m.sample } := by
  unfold describe Mark.said?
  cases a.text? ["description"] with
  | none => cases a.text? ["example"] <;> rfl
  | some text => by_cases h : text.isEmpty <;> cases a.text? ["example"] <;> simp [h]

theorem markDeprecated_eq : markDeprecated a m = { m with
    deprecated := true
    since := ((a.said? ["since"]).map some).getD m.since
    deprecationNotes := ((a.said? ["message", "notes"]).map some).getD m.deprecationNotes } := by
  unfold markDeprecated Mark.said?
  cases a.text? ["since"] with
  | none =>
      cases a.text? ["message", "notes"] with
      | none => rfl
      | some notes => by_cases hnotes : notes.isEmpty <;> simp [hnotes]
  | some text =>
      by_cases h : text.isEmpty <;> cases a.text? ["message", "notes"] with
      | none => simp [h]
      | some notes => by_cases hnotes : notes.isEmpty <;> simp [h, hnotes]

variable {a m} (slot : Model.Slot)

/-- Annotations that set one extension. -/
theorem held_setExtension? {key : String} {value : Option Json}
    (ha : a.name = "Entity" ∨ a.name = "Table")
    (hextension : ∀ key', a.extension? key' = if key' = key then value else none) :
    (m.setExtension? key value).held slot = (a.modelWrites slot).getD (m.held slot) := by
  rw [Model.held_setExtension?]
  cases slot with
  | extension key' =>
      rw [Mark.modelWrites, hextension]
      by_cases hkey : key' = key
      · cases value <;> simp [hkey, Model.held]
      · simp [hkey, Model.held]
  | _ => obtain ha | ha := ha <;> simp [Mark.modelWrites, Mark.only, ha]

theorem held_entity (ha : a.name = "Entity") :
    (entity a m).held slot = (a.modelWrites slot).getD (m.held slot) := by
  rw [entity_eq]
  exact held_setExtension? slot (.inl ha) fun key => by simp [Mark.extension?, Mark.only, ha]

theorem held_table (ha : a.name = "Table") :
    (table a m).held slot = (a.modelWrites slot).getD (m.held slot) := by
  rw [table_eq]
  refine held_setExtension? slot (.inr ha) fun key => ?_
  by_cases hkey : key = "tableName" <;> simp [Mark.extension?, Mark.only, ha, hkey]

theorem held_describe (ha : a.name = "ApiModel" ∨ a.name = "Schema") :
    (describe a m).held slot = (a.modelWrites slot).getD (m.held slot) := by
  rw [describe_eq]
  obtain ha | ha := ha <;> cases slot <;>
    simp [Model.held, Mark.modelWrites, Mark.extension?, Mark.only, ha]

theorem held_markDeprecated (ha : a.name = "Deprecated") :
    (markDeprecated a m).held slot = (a.modelWrites slot).getD (m.held slot) := by
  rw [markDeprecated_eq]
  cases slot <;> simp [Model.held, Mark.modelWrites, Mark.extension?, Mark.only, ha]

end ModelEffect

/-! ### One annotation -/

namespace EffectTable

section Property

open PropertyEffect

/-- An annotation that the table does not name writes nothing. -/
theorem propertyWrites_of_get?_eq_none {a : Mark} (h : standard.properties.get? a.name = none)
    (slot : Property.Slot) : a.propertyWrites slot = none := by
  have hkeys : ∀ name ∈ ["Size", "Min", "DecimalMin", "Max", "DecimalMax", "Pattern", "Email",
      "Schema", "ApiModelProperty", "Deprecated"], name ∈ standard.properties.keys := by decide
  have hother : a.name ∉ _ := fun hmem => OrderedMap.get?_eq_none_iff.mp h (hkeys a.name hmem)
  simp only [List.mem_cons, List.not_mem_nil, or_false, not_or] at hother
  have hrequires := not_requires_of_get?_eq_none h
  cases slot <;> simp [Mark.propertyWrites, Mark.rule?, Mark.only, hother, hrequires]

/-- **An annotation overwrites the places of a property that it writes to, and no others.** -/
theorem held_onProperty (p : Property) (a : Mark) (slot : Property.Slot) :
    (standard.onProperty p a).1.held slot = (a.propertyWrites slot).getD (p.held slot) := by
  unfold onProperty
  cases heffect : standard.properties.get? a.name with
  | none => rw [propertyWrites_of_get?_eq_none heffect, Option.getD_none]
  | some effect =>
      have hmem := OrderedMap.mem_of_get?_ofList heffect
      simp only [List.mem_cons, Prod.mk.injEq, List.not_mem_nil, or_false] at hmem
      -- In the order of the table.
      obtain ⟨ha, rfl⟩ | ⟨ha, rfl⟩ | ⟨ha, rfl⟩ | ⟨ha, rfl⟩ | ⟨ha, rfl⟩ | ⟨ha, rfl⟩ | ⟨ha, rfl⟩ |
        ⟨ha, rfl⟩ | ⟨ha, rfl⟩ | ⟨ha, rfl⟩ | ⟨ha, rfl⟩ | ⟨ha, rfl⟩ | ⟨ha, rfl⟩ := hmem
      · exact held_require slot (by simp [ha])
      · exact held_require slot (by simp [ha])
      · exact held_require slot (by simp [ha])
      · exact held_size slot ha
      · exact held_bound slot (by simp [ha, boundRules])
      · exact held_bound slot (by simp [ha, boundRules])
      · exact held_bound slot (by simp [ha, boundRules])
      · exact held_bound slot (by simp [ha, boundRules])
      · exact held_pattern slot ha
      · exact held_email slot ha
      · exact held_markDeprecated slot ha
      · exact held_describe slot (.inl ha)
      · exact held_describe slot (.inr ha)

end Property

section Model

open ModelEffect

theorem modelWrites_of_get?_eq_none {a : Mark} (h : standard.models.get? a.name = none)
    (slot : Model.Slot) : a.modelWrites slot = none := by
  have hkeys : ∀ name ∈ ["Entity", "Table", "ApiModel", "Schema", "Deprecated"],
      name ∈ standard.models.keys := by decide
  have hother : a.name ∉ _ := fun hmem => OrderedMap.get?_eq_none_iff.mp h (hkeys a.name hmem)
  simp only [List.mem_cons, List.not_mem_nil, or_false, not_or] at hother
  cases slot <;> simp [Mark.modelWrites, Mark.extension?, Mark.only, hother]

/-- **An annotation overwrites the places of a model that it writes to, and no others.** -/
theorem held_onModel (m : Model) (a : Mark) (slot : Model.Slot) :
    (standard.onModel m a).held slot = (a.modelWrites slot).getD (m.held slot) := by
  unfold onModel
  cases heffect : standard.models.get? a.name with
  | none => rw [modelWrites_of_get?_eq_none heffect, Option.getD_none]
  | some effect =>
      have hmem := OrderedMap.mem_of_get?_ofList heffect
      simp only [List.mem_cons, Prod.mk.injEq, List.not_mem_nil, or_false] at hmem
      -- In the order of the table.
      obtain ⟨ha, rfl⟩ | ⟨ha, rfl⟩ | ⟨ha, rfl⟩ | ⟨ha, rfl⟩ | ⟨ha, rfl⟩ := hmem
      · exact held_entity slot ha
      · exact held_table slot ha
      · exact held_describe slot (.inl ha)
      · exact held_describe slot (.inr ha)
      · exact held_markDeprecated slot ha

end Model

end EffectTable

/-! ### A run over annotations -/

section Run

variable {Record Slot : Type} {Value : Slot → Type}

/-- What the last annotation that writes to the place writes there. -/
def Mark.lastWrite? (writes : Mark → (slot : Slot) → Option (Value slot)) (marks : List Mark)
    (slot : Slot) : Option (Value slot) :=
  marks.reverse.findSome? fun a => writes a slot

/-- A place that nobody writes to. -/
theorem Mark.lastWrite?_eq_none {writes : Mark → (slot : Slot) → Option (Value slot)} {slot : Slot}
    (h : ∀ a, writes a slot = none) (marks : List Mark) : lastWrite? writes marks slot = none :=
  List.findSome?_eq_none_iff.mpr fun a _ => h a

/-- If one annotation overwrites the places it writes to, a run leaves the last writing. -/
theorem Mark.held_foldl {writes : Mark → (slot : Slot) → Option (Value slot)}
    {held : Record → (slot : Slot) → Value slot} {step : Record → Mark → Record}
    (hstep : ∀ r a slot, held (step r a) slot = (writes a slot).getD (held r slot))
    (marks : List Mark) (slot : Slot) : ∀ r, held (marks.foldl step r) slot
      = (lastWrite? writes marks slot).getD (held r slot) := by
  induction marks with
  | nil => intro r; rfl
  | cons a rest ih =>
      intro r
      rw [List.foldl_cons, ih, hstep, lastWrite?, lastWrite?, List.reverse_cons,
        List.findSome?_append, List.findSome?_singleton, Option.getD_or]

end Run

namespace EffectTable

theorem get?_of_mem_boundRules {name rule : String} (h : (name, rule) ∈ boundRules) :
    standard.properties.get? name = some (PropertyEffect.bound rule) := by
  simp only [boundRules, List.mem_cons, Prod.mk.injEq, List.not_mem_nil, or_false] at h
  obtain ⟨rfl, rfl⟩ | ⟨rfl, rfl⟩ | ⟨rfl, rfl⟩ | ⟨rfl, rfl⟩ := h
  all_goals rfl

theorem applyToProperty_eq_foldl (effects : EffectTable) (marks : List Mark) :
    ∀ p, (effects.applyToProperty marks p).1
      = marks.foldl (fun p a => (effects.onProperty p a).1) p := by
  induction marks with
  | nil => intro p; rfl
  | cons a rest ih => intro p; exact ih _

theorem held_applyToProperty (marks : List Mark) (p : Property) (slot : Property.Slot) :
    (standard.applyToProperty marks p).1.held slot
      = (Mark.lastWrite? Mark.propertyWrites marks slot).getD (p.held slot) := by
  rw [applyToProperty_eq_foldl]
  exact Mark.held_foldl held_onProperty marks slot p

theorem held_applyToModel (marks : List Mark) (m : Model) (slot : Model.Slot) :
    (standard.applyToModel marks m).held slot
      = (Mark.lastWrite? Mark.modelWrites marks slot).getD (m.held slot) :=
  Mark.held_foldl held_onModel marks slot m

/-- Annotations leave the name of a property alone. -/
theorem name_applyToProperty (marks : List Mark) (p : Property) :
    (standard.applyToProperty marks p).1.name = p.name := by
  have hheld := held_applyToProperty marks p .name
  rw [Mark.lastWrite?_eq_none fun _ => rfl] at hheld
  exact hheld

end EffectTable

end ServiceAtlas
