/-
A property is required in its flag and in its rules, or in neither.

Annotations write a requirement twice, and two kinds of them do: a constraint always, a
description only when its own flag says so.  Nothing takes a requirement back, so what counts
is whether any annotation of the member asks for one.  `Ruled` is what one annotation
preserves; the run over all annotations, the documentation and the survey of a declaration
carry it to the properties of a model.
-/
import ServiceAtlas.Proofs.Survey
import ServiceAtlas.Proofs.OrderedMap
import ServiceAtlas.Survey.Models

namespace ServiceAtlas

/-! ### Annotations that require -/

namespace Mark

/-- The source text is the literal true, in any case and with white space around it. -/
def IsTrue (raw : String) : Prop :=
  Text.lower (Text.trim raw.toList) = "true".toList

/-- The annotation asks for the member that it stands at to be present. -/
inductive Requires (a : Mark) : Prop
  | constraint (h : a.name ∈ ["NotNull", "NotBlank", "NotEmpty"])
  | description {raw : String} (h : a.name ∈ ["Schema", "ApiModelProperty"])
      (hraw : a.get? "required" = some raw) (htrue : IsTrue raw)

theorem flag?_eq_true_iff {a : Mark} {key : String} :
    a.flag? key = some true ↔ ∃ raw, a.get? key = some raw ∧ IsTrue raw := by
  unfold flag?
  cases hraw : a.get? key with
  | none => simp
  | some raw =>
      simp only [Option.some.injEq, exists_eq_left', IsTrue]
      split
      · simp_all
      · split <;> simp_all

theorem requires_description_iff {a : Mark} (h : a.name ∈ ["Schema", "ApiModelProperty"]) :
    a.Requires ↔ a.flag? "required" = some true := by
  rw [flag?_eq_true_iff]
  constructor
  · intro hrequires
    cases hrequires with
    | constraint hconstraint =>
        simp only [List.mem_cons, List.not_mem_nil, or_false] at h hconstraint
        obtain hname | hname := h <;> simp [hname] at hconstraint
    | description _ hraw htrue => exact ⟨_, hraw, htrue⟩
  · rintro ⟨raw, hraw, htrue⟩
    exact .description h hraw htrue

/-- Annotations with another name ask for nothing. -/
theorem not_requires {a : Mark}
    (h : a.name ∉ ["NotNull", "NotBlank", "NotEmpty", "Schema", "ApiModelProperty"]) :
    ¬a.Requires := by
  intro hrequires
  cases hrequires with
  | constraint hconstraint => simp_all
  | description hdescription => simp_all

end Mark

/-! ### Rules -/

/-- The rules besides the requirement, each with the values it can have. -/
inductive FitsRule : String → Json → Prop
  | minLength (n : Int) : FitsRule "minLength" (.int n)
  | maxLength (n : Int) : FitsRule "maxLength" (.int n)
  | minimum (x : Binary64) : FitsRule "minimum" (.float x)
  | maximum (x : Binary64) : FitsRule "maximum" (.float x)
  | pattern (text : String) : FitsRule "pattern" (.str text)
  | format : FitsRule "format" (.str "email")

theorem FitsRule.ne_required {rule : String} {value : Json} (h : FitsRule rule value) :
    rule ≠ "required" := by
  cases h <;> decide

namespace Property

variable {p q : Property} {name : String} {needed : Prop}

/-- The property has the name, its flag and its rules say the same of whether it is needed,
and its other rules are those there are. -/
structure Ruled (p : Property) (name : String) (needed : Prop) : Prop where
  name_eq : p.name = name
  flag_iff : p.required = true ↔ needed
  rule_iff : p.rules.get? "required" = some (.bool true) ↔ needed
  fits : ∀ rule value, p.rules.get? rule = some value →
    rule = "required" ∧ value = .bool true ∨ FitsRule rule value

theorem ruled_plain (name : String) (type : Option TypeRef) : (plain name type).Ruled name False :=
  ⟨rfl, iff_of_false Bool.false_ne_true not_false, iff_of_false nofun not_false, nofun⟩

theorem Ruled.congr (h : p.Ruled name needed) (hname : q.name = p.name)
    (hflag : q.required = p.required) (hrules : q.rules = p.rules) : q.Ruled name needed := by
  obtain ⟨name_eq, flag_iff, rule_iff, fits⟩ := h
  exact ⟨hname.trans name_eq, hflag ▸ flag_iff, hrules ▸ rule_iff, hrules ▸ fits⟩

theorem Ruled.setRule (h : p.Ruled name needed) {rule : String} {value : Json}
    (hfits : FitsRule rule value) : (p.setRule rule value).Ruled name needed := by
  refine ⟨h.name_eq, h.flag_iff, ?_, ?_⟩
  · rw [Property.setRule, OrderedMap.get?_insert, if_neg hfits.ne_required.symm]
    exact h.rule_iff
  · intro other found hfound
    rw [Property.setRule, OrderedMap.get?_insert] at hfound
    split at hfound
    · rename_i hsame
      cases hfound
      exact Or.inr (hsame ▸ hfits)
    · exact h.fits other found hfound

theorem Ruled.require (h : p.Ruled name needed) : p.require.Ruled name True := by
  refine ⟨h.name_eq, by simp [Property.require], ?_, ?_⟩
  · simp [Property.require, OrderedMap.get?_insert]
  · intro rule found hfound
    rw [Property.require, OrderedMap.get?_insert] at hfound
    split at hfound
    · rename_i hsame
      cases hfound
      exact Or.inl ⟨hsame, rfl⟩
    · exact h.fits rule found hfound

theorem Ruled.document (h : p.Ruled name needed) (d : Documentation) :
    (p.document d).Ruled name needed := by
  unfold Property.document
  extract_lets described
  have hdescribed : described.Ruled name needed := by
    dsimp only [described]
    split
    · exact h
    · exact h.congr rfl rfl rfl
  split
  · exact hdescribed
  · split
    · exact hdescribed
    · exact hdescribed.congr rfl rfl rfl

end Property

/-! ### One annotation -/

/-- The effect keeps a property ruled, and adds a need to it for the annotations given. -/
def PropertyEffect.AddsNeed (effect : PropertyEffect) (adds : Mark → Prop) : Prop :=
  ∀ a p name needed, Property.Ruled p name needed →
    (effect a p).1.Ruled name (needed ∨ adds a)

namespace PropertyEffect

/-- The effect keeps a property ruled and its need as it is. -/
abbrev KeepsNeed (effect : PropertyEffect) : Prop :=
  effect.AddsNeed fun _ => False

theorem keepsNeed_of_ruled {effect : PropertyEffect}
    (h : ∀ a p name needed, Property.Ruled p name needed → (effect a p).1.Ruled name needed) :
    effect.KeepsNeed := by
  intro a p name needed hp
  rw [or_false]
  exact h a p name needed hp

theorem addsNeed_require : require.AddsNeed fun _ => True := by
  intro a p name needed hp
  rw [or_true]
  exact hp.require

theorem ruled_lengthBound {key rule : String} (hfits : ∀ n, FitsRule rule (.int n)) {a : Mark}
    {p : Property} {name : String} {needed : Prop} (hp : p.Ruled name needed) :
    (lengthBound key rule a p).1.Ruled name needed := by
  unfold lengthBound
  split
  · exact hp
  · split
    · exact hp.setRule (hfits _)
    · exact hp

theorem keepsNeed_size : size.KeepsNeed := by
  refine keepsNeed_of_ruled fun a p name needed hp => ?_
  have hlow : (lengthBound "min" "minLength" a p).1.Ruled name needed :=
    ruled_lengthBound .minLength hp
  unfold size
  dsimp only
  exact ruled_lengthBound .maxLength hlow

theorem keepsNeed_bound {rule : String} (hfits : ∀ x, FitsRule rule (.float x)) :
    (bound rule).KeepsNeed := by
  refine keepsNeed_of_ruled fun a p name needed hp => ?_
  unfold bound
  split
  · exact hp
  · split
    · exact hp.setRule (hfits _)
    · exact hp

theorem keepsNeed_pattern : pattern.KeepsNeed := by
  refine keepsNeed_of_ruled fun a p name needed hp => ?_
  unfold pattern
  split
  · exact hp
  · exact hp.setRule (.pattern _)

theorem keepsNeed_email : email.KeepsNeed :=
  keepsNeed_of_ruled fun _ _ _ _ hp => hp.setRule .format

theorem keepsNeed_markDeprecated : markDeprecated.KeepsNeed := by
  refine keepsNeed_of_ruled fun a p name needed hp => ?_
  unfold markDeprecated
  extract_lets deprecated
  have hdeprecated : deprecated.Ruled name needed := hp.congr rfl rfl rfl
  split
  · exact hdeprecated
  · dsimp only
    split
    · exact hdeprecated
    · exact hdeprecated.congr rfl rfl rfl

/-- A description asks by its flag; one that says false, or cannot be read, clears nothing. -/
theorem addsNeed_describe : describe.AddsNeed fun a => a.flag? "required" = some true := by
  intro a p name needed hp
  unfold describe
  extract_lets described sampled
  have hdescribed : described.Ruled name needed := by
    dsimp only [described]
    split
    · exact hp
    · split
      · exact hp
      · exact hp.congr rfl rfl rfl
  have hsampled : sampled.Ruled name needed := by
    dsimp only [sampled]
    split
    · exact hdescribed
    · exact hdescribed.congr rfl rfl rfl
  dsimp only
  split
  · rename_i hflag
    rw [eq_true hflag, or_true]
    exact hsampled.require
  · rename_i hflag
    rw [eq_false hflag, or_false]
    exact hsampled

end PropertyEffect

namespace EffectTable

open PropertyEffect

/-- **Each of the usual effects asks for a property to be present exactly when its annotation
does.** -/
theorem addsNeed_standard {name : String} {effect : PropertyEffect}
    (heffect : standard.properties.get? name = some effect) :
    ∃ adds, effect.AddsNeed adds ∧ ∀ a : Mark, a.name = name → (adds a ↔ a.Requires) := by
  have hmem := OrderedMap.mem_of_get?_ofList heffect
  have hconstraint (h : name ∈ ["NotNull", "NotBlank", "NotEmpty"]) :
      ∀ a : Mark, a.name = name → (True ↔ a.Requires) :=
    fun a ha => iff_of_true trivial (.constraint (ha ▸ h))
  have hdescription (h : name ∈ ["Schema", "ApiModelProperty"]) :
      ∀ a : Mark, a.name = name → (a.flag? "required" = some true ↔ a.Requires) :=
    fun a ha => (Mark.requires_description_iff (ha ▸ h)).symm
  have hother (h : name ∉ ["NotNull", "NotBlank", "NotEmpty", "Schema", "ApiModelProperty"]) :
      ∀ a : Mark, a.name = name → (False ↔ a.Requires) :=
    fun a ha => iff_of_false not_false (Mark.not_requires (ha ▸ h))
  simp only [List.mem_cons, Prod.mk.injEq, List.not_mem_nil, or_false] at hmem
  -- In the order of the table.
  obtain ⟨rfl, rfl⟩ | ⟨rfl, rfl⟩ | ⟨rfl, rfl⟩ | ⟨rfl, rfl⟩ | ⟨rfl, rfl⟩ | ⟨rfl, rfl⟩ |
    ⟨rfl, rfl⟩ | ⟨rfl, rfl⟩ | ⟨rfl, rfl⟩ | ⟨rfl, rfl⟩ | ⟨rfl, rfl⟩ | ⟨rfl, rfl⟩ | ⟨rfl, rfl⟩ := hmem
  · exact ⟨_, addsNeed_require, hconstraint (by decide)⟩
  · exact ⟨_, addsNeed_require, hconstraint (by decide)⟩
  · exact ⟨_, addsNeed_require, hconstraint (by decide)⟩
  · exact ⟨_, keepsNeed_size, hother (by decide)⟩
  · exact ⟨_, keepsNeed_bound .minimum, hother (by decide)⟩
  · exact ⟨_, keepsNeed_bound .maximum, hother (by decide)⟩
  · exact ⟨_, keepsNeed_bound .minimum, hother (by decide)⟩
  · exact ⟨_, keepsNeed_bound .maximum, hother (by decide)⟩
  · exact ⟨_, keepsNeed_pattern, hother (by decide)⟩
  · exact ⟨_, keepsNeed_email, hother (by decide)⟩
  · exact ⟨_, keepsNeed_markDeprecated, hother (by decide)⟩
  · exact ⟨_, addsNeed_describe, hdescription (by decide)⟩
  · exact ⟨_, addsNeed_describe, hdescription (by decide)⟩

/-- An annotation without an effect asks for nothing. -/
theorem not_requires_of_get?_eq_none {a : Mark} (h : standard.properties.get? a.name = none) :
    ¬a.Requires := by
  refine Mark.not_requires fun hmem => ?_
  rw [OrderedMap.get?_eq_none_iff] at h
  refine h ?_
  have hkeys : ∀ name ∈ ["NotNull", "NotBlank", "NotEmpty", "Schema", "ApiModelProperty"],
      name ∈ standard.properties.keys := by decide
  exact hkeys a.name hmem

variable {p : Property} {name : String} {needed : Prop}

/-- What one annotation preserves. -/
theorem ruled_onProperty (hp : p.Ruled name needed) (a : Mark) :
    (standard.onProperty p a).1.Ruled name (needed ∨ a.Requires) := by
  unfold onProperty
  cases heffect : standard.properties.get? a.name with
  | none =>
      rw [eq_false (not_requires_of_get?_eq_none heffect), or_false]
      exact hp
  | some effect =>
      obtain ⟨adds, hadds, hiff⟩ := addsNeed_standard heffect
      rw [← propext (hiff a rfl)]
      exact hadds a p name needed hp

/-- What a run over annotations preserves. -/
theorem ruled_applyToProperty (marks : List Mark) (hp : p.Ruled name needed) :
    (standard.applyToProperty marks p).1.Ruled name (needed ∨ ∃ a ∈ marks, a.Requires) := by
  induction marks generalizing p needed with
  | nil =>
      rw [eq_false (by simp : ¬∃ a ∈ ([] : List Mark), a.Requires), or_false]
      exact hp
  | cons a rest ih =>
      have hrest := ih (ruled_onProperty hp a)
      rw [or_assoc, ← List.exists_mem_cons_iff] at hrest
      exact hrest

end EffectTable

/-! ### Declarations -/

/-- The property is said to be required by its flag, by its rules and by the annotations of
its member, or by none of them; all its rules are known, and bounds of lengths are integers. -/
structure Property.Agrees (p : Property) (marks : List Mark) : Prop where
  rule_iff : p.required = true ↔ p.rules.get? "required" = some (.bool true)
  marks_iff : p.required = true ↔ ∃ a ∈ marks, a.Requires
  rules : ∀ rule ∈ p.rules.keys, rule ∈
    ["required", "minLength", "maxLength", "minimum", "maximum", "pattern", "format"]
  lengths : ∀ rule ∈ ["minLength", "maxLength"], ∀ value, p.rules.get? rule = some value →
    ∃ n, value = .int n

theorem Property.Ruled.agrees {p : Property} {name : String} {marks : List Mark}
    (h : p.Ruled name (∃ a ∈ marks, a.Requires)) : p.Agrees marks where
  rule_iff := h.flag_iff.trans h.rule_iff.symm
  marks_iff := h.flag_iff
  rules := by
    intro rule hrule
    obtain ⟨value, hvalue⟩ := OrderedMap.mem_keys_iff.mp hrule
    obtain ⟨rfl, -⟩ | hfits := h.fits rule value hvalue
    · decide
    · cases hfits <;> decide
  lengths := by
    intro rule hrule value hvalue
    obtain ⟨rfl, -⟩ | hfits := h.fits rule value hvalue
    · simp at hrule
    · cases hfits with
      | minLength n => exact ⟨n, rfl⟩
      | maxLength n => exact ⟨n, rfl⟩
      | minimum x => simp at hrule
      | maximum x => simp at hrule
      | pattern text => simp at hrule
      | format => simp at hrule

namespace Survey

/-- Of the accessors of a property, the first one is taken. -/
theorem find?_of_mem_accessors {name : String} {m : Method} :
    ∀ {ms : List Method} {seen : List String}, (name, m) ∈ accessors seen ms →
      name ∉ seen ∧ ms.find? (fun m => m.accessedProperty? = some name) = some m := by
  intro ms
  induction ms with
  | nil => intro seen h; simp [accessors] at h
  | cons first rest ih =>
      intro seen h
      rw [accessors] at h
      cases hname : first.accessedProperty? with
      | none =>
          rw [hname] at h
          obtain ⟨hseen, hfind⟩ := ih h
          exact ⟨hseen, by simpa [List.find?_cons, hname] using hfind⟩
      | some other =>
          rw [hname] at h
          dsimp only at h
          split at h
          · rename_i hother
            obtain ⟨hseen, hfind⟩ := ih h
            have hne : other ≠ name := by
              rintro rfl
              exact hseen (by simpa using hother)
            exact ⟨hseen, by simpa [List.find?_cons, hname, hne] using hfind⟩
          · rename_i hother
            cases h with
            | head => exact ⟨by simpa using hother, by simp [hname]⟩
            | tail _ hrest =>
                obtain ⟨hseen, hfind⟩ := ih hrest
                have hne : other ≠ name := fun heq => hseen (heq ▸ List.mem_cons_self)
                exact ⟨fun hmem => hseen (List.mem_cons_of_mem _ hmem),
                  by simpa [List.find?_cons, hname, hne] using hfind⟩

theorem yields_property_ruled (name : String) (type : WrittenType) (marks : List Mark)
    (documentation : Documentation) :
    (property .standard name type marks documentation).Yields fun p =>
      p.Ruled name (∃ a ∈ marks, a.Requires) := by
  refine (yields_trivial _).bind fun r _ => (yields_trivial _).bind fun _ _ => yields_pure ?_
  have hrun := EffectTable.ruled_applyToProperty marks (Property.ruled_plain name (some r))
  rw [false_or] at hrun
  exact hrun.document documentation

/-- What is said of the properties of the model of a declaration: fields that instances can be
given a value for have one each, in their order, and an interface has one per accessed property,
which its first accessor decides. -/
def RequirementsAgree (d : Declaration) (m : Model) : Prop :=
  if d.kind = .interface then
    ∀ p ∈ m.properties, ∃ accessor,
      d.methods.find? (fun method => method.accessedProperty? = some p.name) = some accessor ∧
        p.Agrees accessor.marks
  else
    List.Forall₂ (fun f p => p.name = f.name ∧ p.Agrees f.marks)
      (d.fields.filter fun f => !(f.isStatic || f.isFinal)) m.properties

/--
**A required flag and a required rule never part.**  In the model of a class, a record or an
interface, a property is required exactly when its rules say so and exactly when an annotation
of its member asks for it, whatever annotations stand before or behind; no annotation adds a
rule that is not listed, and bounds of lengths are integers.
-/
theorem requirements_agree {d : Declaration} {m : Model} {ns : List Notice}
    (hkind : d.kind = .plainClass ∨ d.kind = .record ∨ d.kind = .interface)
    (h : model .standard d = .ok (m, ns)) : RequirementsAgree d m := by
  unfold RequirementsAgree
  split
  · rename_i hinterface
    rw [model, hinterface] at h
    obtain ⟨ps, before, behind, hps, hm, -⟩ := bind_eq_ok h
    cases hm
    refine yields_each (fun a ha => ?_) ps before hps
    intro p ns hp
    have hruled := yields_property_ruled a.1 a.2.returnType a.2.marks a.2.documentation p ns hp
    exact ⟨a.2, hruled.name_eq ▸ (find?_of_mem_accessors ha).2, hruled.agrees⟩
  · rename_i hother
    have hclass : model .standard d = classModel .standard d := by
      obtain hkind | hkind | hkind := hkind
      · rw [model, hkind]
      · rw [model, hkind]
      · exact absurd hkind hother
    rw [hclass] at h
    obtain ⟨ps, before, behind, hps, hm, -⟩ := bind_eq_ok h
    cases hm
    refine yields_each_forall₂ (fun f => ?_) _ ps before hps
    intro p ns hp
    have hruled := yields_property_ruled f.name f.type f.marks f.documentation p ns hp
    exact ⟨hruled.name_eq, hruled.agrees⟩

/-- A class with a constrained field whose description says that it is not required, and with
one whose description cannot be read. -/
def contested : Declaration :=
  { Declaration.bare "Dish" "menu" .plainClass with
    fields := [
      ⟨"name", .simple "String", [⟨"NotBlank", ∅⟩, ⟨"Schema", .ofList [("required", "false")]⟩,
        ⟨"Size", .ofList [("min", "1"), ("max", "forty")]⟩], .none, ["private"]⟩,
      ⟨"notes", .simple "String", [⟨"Schema", .ofList [("required", "yes")]⟩], .none, []⟩] }

theorem requirements_agree_contested :
    (contested.kind = .plainClass ∨ contested.kind = .record ∨ contested.kind = .interface) ∧
      ∃ m ns, model .standard contested = .ok (m, ns) ∧
        m.properties.map (·.required) = [true, false] ∧ RequirementsAgree contested m := by
  have hkind : contested.kind = .plainClass ∨ contested.kind = .record ∨
      contested.kind = .interface := .inl rfl
  obtain ⟨m, ns, hm, hrequired⟩ : ∃ m ns, model .standard contested = .ok (m, ns) ∧
      m.properties.map (·.required) = [true, false] := ⟨_, _, rfl, by decide⟩
  exact ⟨hkind, m, ns, hm, hrequired, requirements_agree hkind hm⟩

end Survey

end ServiceAtlas
