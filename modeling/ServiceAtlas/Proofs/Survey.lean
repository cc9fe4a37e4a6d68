/-
Surveys of well typed declarations never stop.

The one thing that stops a survey is a written type without a reference, and a type whose
nodes all have names, and whose arrays all have elements, has one.  So on well typed
declarations every survey has a result and notices, and a survey of a list is the list of
the results with the notices of all items in order.  That last fact, `each_ok`, is what
turns the readings of declarations into plain list functions.
-/
import Mathlib.Data.List.Forall2
import ServiceAtlas.Survey
import ServiceAtlas.Declaration

namespace ServiceAtlas

/-! ### Well formed types -/

namespace WrittenType

mutual

/-- Every node of the type has a name, and every array has an element. -/
def isWellFormed : WrittenType → Bool
  | mk name args isArray => !name.isEmpty && !(isArray && args.isEmpty) && areWellFormed args

/-- All types of a list are well formed. -/
def areWellFormed : List WrittenType → Bool
  | [] => true
  | t :: ts => isWellFormed t && areWellFormed ts

end

end WrittenType

/-- The types that the signature of a method is written with. -/
def Method.types (m : Method) : List WrittenType :=
  m.returnType :: m.parameters.map (·.type)

namespace Declaration

/-- The types that a declaration and its members are written with. -/
def types (d : Declaration) : List WrittenType :=
  d.superclass.toList ++ d.interfaces ++ d.fields.map (·.type)
    ++ (d.constructors.flatMap (·.parameters)).map (·.type) ++ d.methods.flatMap Method.types

/-- All types of the declaration are well formed. -/
def WellTyped (d : Declaration) : Prop :=
  ∀ t ∈ d.types, t.isWellFormed = true

instance (d : Declaration) : Decidable d.WellTyped :=
  inferInstanceAs (Decidable (∀ t ∈ d.types, t.isWellFormed = true))

theorem WellTyped.field {d : Declaration} (wt : d.WellTyped) {f : Field} (hf : f ∈ d.fields) :
    f.type.isWellFormed = true := by
  refine wt _ ?_
  simp only [types, List.mem_append, List.mem_map]
  exact Or.inl (Or.inl (Or.inr ⟨f, hf, rfl⟩))

theorem WellTyped.method {d : Declaration} (wt : d.WellTyped) {m : Method} (hm : m ∈ d.methods) :
    ∀ t ∈ m.types, t.isWellFormed = true := by
  intro t ht
  refine wt _ ?_
  simp only [types, List.mem_append, List.mem_flatMap]
  exact Or.inr ⟨m, hm, ht⟩

end Declaration

namespace TypeRef

mutual

theorem ofWritten_ok : ∀ t : WrittenType, t.isWellFormed = true → ∃ r, ofWritten t = .ok r
  | .mk name args isArray, h => by
      simp only [WrittenType.isWellFormed, Bool.and_eq_true, Bool.not_eq_true'] at h
      obtain ⟨⟨hname, hfilled⟩, hargs⟩ := h
      cases isArray with
      | false =>
          obtain ⟨rs, hrs⟩ := ofWrittenArgs_ok args hargs
          exact ⟨mk name rs, by simp [ofWritten, hrs, hname]⟩
      | true =>
          cases args with
          | nil => simp at hfilled
          | cons element rest =>
              simp only [WrittenType.areWellFormed, Bool.and_eq_true] at hargs
              obtain ⟨r, hr⟩ := ofWritten_ok element hargs.1
              exact ⟨mk arrayBase [r], by simp [ofWritten, hr]⟩

theorem ofWrittenArgs_ok :
    ∀ ts : List WrittenType, WrittenType.areWellFormed ts = true → ∃ rs, ofWrittenArgs ts = .ok rs
  | [], _ => ⟨[], rfl⟩
  | t :: ts, h => by
      simp only [WrittenType.areWellFormed, Bool.and_eq_true] at h
      obtain ⟨r, hr⟩ := ofWritten_ok t h.1
      obtain ⟨rs, hrs⟩ := ofWrittenArgs_ok ts h.2
      exact ⟨if r.base = WrittenType.wildcardName then rs else r :: rs, by
        simp [ofWrittenArgs, hr, hrs]⟩

end

end TypeRef

/-! ### Surveys that succeed -/

namespace Survey

variable {α β : Type}

/-- The survey meets no malformed type. -/
def Succeeds (s : Survey α) : Prop :=
  ∃ a ns, s = .ok (a, ns)

/-- The survey meets no malformed type and has nothing to report. -/
def Silent (s : Survey α) : Prop :=
  ∃ a, s = .ok (a, [])

/-- The value of a survey, which is of interest only when the survey succeeds. -/
def result [Inhabited α] (s : Survey α) : α :=
  match s with
  | .ok (a, _) => a
  | .error _ => default

/-- The notices of a survey. -/
def notices (s : Survey α) : List Notice :=
  match s with
  | .ok (_, ns) => ns
  | .error _ => []

theorem Succeeds.eq_ok [Inhabited α] {s : Survey α} (h : s.Succeeds) :
    s = .ok (s.result, s.notices) := by
  obtain ⟨a, ns, rfl⟩ := h
  rfl

theorem Silent.succeeds {s : Survey α} (h : s.Silent) : s.Succeeds := by
  obtain ⟨a, rfl⟩ := h
  exact ⟨a, [], rfl⟩

theorem Silent.notices_eq {s : Survey α} (h : s.Silent) : s.notices = [] := by
  obtain ⟨a, rfl⟩ := h
  rfl

theorem bind_ok {s : Survey α} {f : α → Survey β} {a : α} {b : β} {ns ms : List Notice}
    (hs : s = .ok (a, ns)) (hf : f a = .ok (b, ms)) : (s >>= f) = .ok (b, ns ++ ms) := by
  subst hs
  show andThen (.ok (a, ns)) f = .ok (b, ns ++ ms)
  simp only [andThen, hf]
  rfl

/-- A survey that goes on returns what both of its steps return. -/
theorem bind_eq_ok {s : Survey α} {f : α → Survey β} {b : β} {ns : List Notice}
    (h : (s >>= f) = .ok (b, ns)) :
    ∃ a before after, s = .ok (a, before) ∧ f a = .ok (b, after) ∧ ns = before ++ after := by
  change andThen s f = .ok (b, ns) at h
  unfold andThen at h
  split at h
  · cases h
  · rename_i a before
    split at h
    · cases h
    · rename_i c after hc
      cases h
      exact ⟨a, before, after, rfl, hc, rfl⟩

theorem map_ok {s : Survey α} {f : α → β} {a : α} {ns : List Notice}
    (hs : s = .ok (a, ns)) : f <$> s = .ok (f a, ns) := by
  have h := bind_ok (f := fun a => (pure (f a) : Survey β)) hs rfl
  rw [List.append_nil] at h
  exact h

theorem Silent.bind {s : Survey α} {f : α → Survey β} (hs : s.Silent)
    (hf : ∀ a, (f a).Silent) : (s >>= f).Silent := by
  obtain ⟨a, ha⟩ := hs
  obtain ⟨b, hb⟩ := hf a
  exact ⟨b, bind_ok ha hb⟩

theorem Silent.map {s : Survey α} (f : α → β) (hs : s.Silent) : (f <$> s).Silent := by
  obtain ⟨a, ha⟩ := hs
  exact ⟨f a, map_ok ha⟩

theorem Succeeds.bind {s : Survey α} {f : α → Survey β} (hs : s.Succeeds)
    (hf : ∀ a, (f a).Succeeds) : (s >>= f).Succeeds := by
  obtain ⟨a, ns, ha⟩ := hs
  obtain ⟨b, ms, hb⟩ := hf a
  exact ⟨b, ns ++ ms, bind_ok ha hb⟩

theorem silent_pure (a : α) : (pure a : Survey α).Silent :=
  ⟨a, rfl⟩

theorem silent_typeRef {t : WrittenType} (h : t.isWellFormed = true) : (typeRef t).Silent := by
  obtain ⟨r, hr⟩ := TypeRef.ofWritten_ok t h
  refine ⟨r, ?_⟩
  simp only [typeRef, hr]
  rfl

/-- **A survey of a list whose items succeed is the list of their results**, with the notices
of all items in order. -/
theorem each_ok [Inhabited β] (f : α → Survey β) :
    ∀ as : List α, (∀ a ∈ as, (f a).Succeeds) →
      each f as = .ok (as.map fun a => (f a).result, as.flatMap fun a => (f a).notices) := by
  intro as
  induction as with
  | nil => intro _; rfl
  | cons a rest ih =>
      intro h
      have hfirst := (h a (by simp)).eq_ok
      have hrest := ih fun b hb => h b (by simp [hb])
      rw [each]
      refine (bind_ok hfirst (bind_ok hrest rfl)).trans ?_
      rw [List.append_nil]
      rfl

theorem each_silent [Inhabited β] (f : α → Survey β) (as : List α) (h : ∀ a ∈ as, (f a).Silent) :
    (each f as).Silent := by
  refine ⟨as.map fun a => (f a).result, ?_⟩
  rw [each_ok f as fun a ha => (h a ha).succeeds]
  have hnone : (as.flatMap fun a => (f a).notices) = [] :=
    List.flatMap_eq_nil_iff.mpr fun a ha => (h a ha).notices_eq
  rw [hnone]

theorem each_succeeds [Inhabited β] (f : α → Survey β) (as : List α)
    (h : ∀ a ∈ as, (f a).Succeeds) : (each f as).Succeeds :=
  ⟨_, _, each_ok f as h⟩

/-! ### What a survey returns -/

section Yields

variable {P : α → Prop} {Q : β → Prop}

/-- What the survey returns, if it does, has the property. -/
def Yields (P : α → Prop) (s : Survey α) : Prop :=
  ∀ a ns, s = .ok (a, ns) → P a

theorem yields_pure {a : α} (h : P a) : (pure a : Survey α).Yields P := by
  intro b ns hb
  cases hb
  exact h

theorem Yields.bind {s : Survey α} {f : α → Survey β} (hs : s.Yields P)
    (hf : ∀ a, P a → (f a).Yields Q) : (s >>= f).Yields Q := by
  intro b ns hb
  obtain ⟨a, before, after, ha, hfa, -⟩ := bind_eq_ok hb
  exact hf a (hs a before ha) b after hfa

theorem Yields.map {s : Survey α} {f : α → β} (hs : s.Yields fun a => Q (f a)) :
    (f <$> s).Yields Q :=
  Yields.bind hs fun _ ha => yields_pure ha

theorem yields_trivial (s : Survey α) : s.Yields fun _ => True :=
  fun _ _ _ => trivial

theorem yields_each {f : α → Survey β} {as : List α} (hf : ∀ a ∈ as, (f a).Yields Q) :
    (each f as).Yields fun bs => ∀ b ∈ bs, Q b := by
  induction as with
  | nil => exact yields_pure nofun
  | cons a rest ih =>
      rw [List.forall_mem_cons] at hf
      refine hf.1.bind fun b hb => (ih hf.2).bind fun bs hbs => yields_pure ?_
      exact List.forall_mem_cons.mpr ⟨hb, hbs⟩

/-- What a survey returns for the items of a list stands in their order. -/
theorem yields_each_forall₂ {R : α → β → Prop} {f : α → Survey β}
    (hf : ∀ a, (f a).Yields (R a)) (as : List α) : (each f as).Yields (List.Forall₂ R as) := by
  induction as with
  | nil => exact yields_pure .nil
  | cons a rest ih =>
      exact (hf a).bind fun b hb => ih.bind fun bs hbs => yields_pure (.cons hb hbs)

end Yields

/-! ### What a survey may report -/

/-- Every notice of the survey has the property. -/
def Reports (P : Notice → Prop) (s : Survey α) : Prop :=
  ∀ n ∈ s.notices, P n

variable {P : Notice → Prop}

theorem Reports.bind {s : Survey α} {f : α → Survey β} (hs : s.Reports P)
    (hf : ∀ a, (f a).Reports P) : (s >>= f).Reports P := by
  intro n hn
  cases s with
  | error e => cases hn
  | ok p =>
      obtain ⟨a, before⟩ := p
      cases hfa : f a with
      | error e =>
          change n ∈ notices (andThen (.ok (a, before)) f) at hn
          simp only [andThen, hfa] at hn
          cases hn
      | ok q =>
          rw [bind_ok rfl hfa] at hn
          rcases List.mem_append.mp hn with hbefore | hafter
          · exact hs n hbefore
          · refine hf a n ?_
            rw [hfa]
            exact hafter

theorem reports_pure (a : α) : (pure a : Survey α).Reports P := by
  intro n hn
  cases hn

theorem reports_typeRef (t : WrittenType) : (typeRef t).Reports P := by
  intro n hn
  unfold typeRef at hn
  split at hn <;> cases hn

theorem reports_each {f : α → Survey β} (hf : ∀ a, (f a).Reports P) :
    ∀ as : List α, (each f as).Reports P := by
  intro as
  induction as with
  | nil => exact reports_pure []
  | cons a rest ih =>
      exact Reports.bind (hf a) fun b => Reports.bind ih fun bs => reports_pure (b :: bs)

end Survey

end ServiceAtlas
