/-
What annotations do to models and properties.

An effect table gives the effect of an annotation by its name; annotations without an
effect are passed over.  An effect that cannot read an attribute leaves the record as it
is.
-/
import ServiceAtlas.Survey.Bound
import ServiceAtlas.Model
import ServiceAtlas.Notice

namespace ServiceAtlas

/-- What an annotation does to a model. -/
abbrev ModelEffect := Mark → Model → Model

/-- What an annotation does to a property, and what it reports. -/
abbrev PropertyEffect := Mark → Property → Property × List Notice

namespace ModelEffect

/-- The model is a persistent entity. -/
def entity : ModelEffect := fun _ m =>
  { m with extensions := m.extensions.insert "isEntity" (.bool true) }

/-- The table that the model is stored in. -/
def table : ModelEffect := fun a m =>
  match a.text? ["name"] with
  | none => m
  | some name =>
    if name.isEmpty then m
    else { m with extensions := m.extensions.insert "tableName" (.str name) }

/-- A description and a sample value. -/
def describe : ModelEffect := fun a m =>
  let m :=
    match a.text? ["description"] with
    | none => m
    | some text => if text.isEmpty then m else { m with description := text }
  match a.text? ["example"] with
  | none => m
  | some text => { m with sample := some text }

/-- The model should no longer be used. -/
def markDeprecated : ModelEffect := fun a m =>
  let m := { m with deprecated := true }
  let m :=
    match a.text? ["since"] with
    | none => m
    | some text => if text.isEmpty then m else { m with since := some text }
  match a.text? ["message", "notes"] with
  | none => m
  | some text => if text.isEmpty then m else { m with deprecationNotes := some text }

end ModelEffect

/-- Set a rule of a property. -/
def Property.setRule (p : Property) (rule : String) (value : Json) : Property :=
  { p with rules := p.rules.insert rule value }

/-- A property that has to be present. -/
def Property.require (p : Property) : Property :=
  { p with required := true, rules := p.rules.insert "required" (.bool true) }

namespace PropertyEffect

/-- The property has to be present. -/
def require : PropertyEffect := fun _ p =>
  (p.require, [])

/-- One bound of a length. -/
def lengthBound (key rule : String) : PropertyEffect := fun a p =>
  match a.get? key with
  | none => (p, [])
  | some raw =>
    match Bound.integer? raw with
    | some n => (p.setRule rule (.int n), [])
    | none => (p, [.ignoredLength a.name key raw p.name])

/-- Both bounds of a length, the lower one first. -/
def size : PropertyEffect := fun a p =>
  let (p, low) := lengthBound "min" "minLength" a p
  let (p, high) := lengthBound "max" "maxLength" a p
  (p, low ++ high)

/-- A numeric bound. -/
def bound (rule : String) : PropertyEffect := fun a p =>
  match a.get? "value" with
  | none => (p, [])
  | some raw =>
    match Bound.number? raw with
    | some x => (p.setRule rule (.float x), [])
    | none => (p, [.ignoredBound a.name raw p.name])

/-- A regular expression. -/
def pattern : PropertyEffect := fun a p =>
  match a.text? ["regexp"] with
  | none => (p, [])
  | some text => (p.setRule "pattern" (.str text), [])

/-- The property is an address of electronic mail. -/
def email : PropertyEffect := fun _ p =>
  (p.setRule "format" (.str "email"), [])

/-- The property should no longer be used. -/
def markDeprecated : PropertyEffect := fun a p =>
  let p := { p with deprecated := true }
  match a.text? ["message", "notes"] with
  | none => (p, [])
  | some text => (if text.isEmpty then p else { p with deprecationNotes := some text }, [])

/-- A description, a sample value, and a requirement, which is never taken back. -/
def describe : PropertyEffect := fun a p =>
  let p :=
    match a.text? ["description", "value", "notes"] with
    | none => p
    | some text => if text.isEmpty then p else { p with description := text }
  let p :=
    match a.text? ["example"] with
    | none => p
    | some text => { p with sample := some text }
  (if a.flag? "required" = some true then p.require else p, [])

end PropertyEffect

/-- The effects of annotations by their name. -/
structure EffectTable where
  models : OrderedMap String ModelEffect
  properties : OrderedMap String PropertyEffect

namespace EffectTable

/-- No annotation has an effect. -/
def empty : EffectTable :=
  ⟨∅, ∅⟩

/-- The effects of the annotations for persistence, validation and documentation. -/
def standard : EffectTable where
  models := .ofList [
    ("Entity", ModelEffect.entity),
    ("Table", ModelEffect.table),
    ("ApiModel", ModelEffect.describe),
    ("Schema", ModelEffect.describe),
    ("Deprecated", ModelEffect.markDeprecated)]
  properties := .ofList [
    ("NotNull", PropertyEffect.require),
    ("NotBlank", PropertyEffect.require),
    ("NotEmpty", PropertyEffect.require),
    ("Size", PropertyEffect.size),
    ("Min", PropertyEffect.bound "minimum"),
    ("Max", PropertyEffect.bound "maximum"),
    ("DecimalMin", PropertyEffect.bound "minimum"),
    ("DecimalMax", PropertyEffect.bound "maximum"),
    ("Pattern", PropertyEffect.pattern),
    ("Email", PropertyEffect.email),
    ("Deprecated", PropertyEffect.markDeprecated),
    ("Schema", PropertyEffect.describe),
    ("ApiModelProperty", PropertyEffect.describe)]

instance : Inhabited EffectTable := ⟨standard⟩

/-- Give annotations with the name an effect on models. -/
def setModel (t : EffectTable) (name : String) (effect : ModelEffect) : EffectTable :=
  { t with models := t.models.insert name effect }

/-- Give annotations with the name an effect on properties. -/
def setProperty (t : EffectTable) (name : String) (effect : PropertyEffect) : EffectTable :=
  { t with properties := t.properties.insert name effect }

/-- The effect of one annotation on a model. -/
def onModel (t : EffectTable) (m : Model) (a : Mark) : Model :=
  match t.models.get? a.name with
  | some effect => effect a m
  | none => m

/-- The effect of one annotation on a property. -/
def onProperty (t : EffectTable) (p : Property) (a : Mark) : Property × List Notice :=
  match t.properties.get? a.name with
  | some effect => effect a p
  | none => (p, [])

/-- The effects of annotations on a model, one after another. -/
def applyToModel (t : EffectTable) (marks : List Mark) (m : Model) : Model :=
  marks.foldl t.onModel m

/-- The effects of annotations on a property, one after another. -/
def applyToProperty (t : EffectTable) : List Mark → Property → Property × List Notice
  | [], p => (p, [])
  | a :: as, p =>
    let (p, first) := t.onProperty p a
    let (p, rest) := t.applyToProperty as p
    (p, first ++ rest)

end EffectTable

end ServiceAtlas
