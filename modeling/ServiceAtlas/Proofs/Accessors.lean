/-
Interfaces that describe data: one property per accessor suffix.

A method of an interface is an accessor if it takes nothing, belongs to the instances, returns
something and is named `get` or `is` with a suffix behind it that begins with a capital.  Two
accessors with one suffix speak of one property, and the first of them decides what it is.

The survey compares names of properties and not suffixes, so it must be shown that the rule
that makes a suffix a name keeps suffixes apart.  It has an exception for suffixes that begin
with two capitals; their names begin with a capital, which no other name does.
-/
import Mathlib
import ServiceAtlas.Proofs.Catalog
import ServiceAtlas.Proofs.Completion
import ServiceAtlas.Proofs.Precedence

namespace ServiceAtlas

/-- Lists that agree item by item with a third one agree with each other. -/
theorem forall₂_comp {α β γ : Type} {R : α → β → Prop} {S : β → γ → Prop} {as : List α}
    {bs : List β} {cs : List γ} (hR : List.Forall₂ R as bs) (hS : List.Forall₂ S bs cs) :
    List.Forall₂ (fun a c => ∃ b, R a b ∧ S b c) as cs := by
  induction hR generalizing cs with
  | nil => cases hS; exact .nil
  | cons hab _ ih =>
      cases hS with
      | cons hbc hrest => exact .cons ⟨_, hab, hbc⟩ (ih hrest)

/-! ### Letters -/

namespace Text

theorem isUpperChar_of_ascii {c : Char} (h : c.toNat < 128) : isUpperChar c = c.isUpper := by
  simp [isUpperChar, h, Char.isUpper]
  rfl

theorem lower_singleton_of_ascii {c : Char} (h : c.toNat < 128) : lower [c] = [c.toLower] := by
  have hsigma : c.toNat ≠ 0x3A3 := by omega
  simp [lower, lowerAfter, lowerChar, h, hsigma]

/-- Small letters come from different capitals. -/
theorem toLower_injOn {c d : Char} (hc : c.isUpper) (hd : d.isUpper)
    (h : c.toLower = d.toLower) : c = d := by
  have hval {e : Char} (he : e.isUpper) : e.toLower.val = e.val + 32 := by
    simp_all [Char.isUpper, Char.toLower]
  refine Char.ext ((UInt32.add_left_inj 32).mp ?_)
  rw [← hval hc, ← hval hd, h]

end Text

namespace Method

/-! ### Suffixes and their names -/

/-- The text begins with a capital. -/
def StartsUpper (suffix : String) : Prop :=
  ∃ c rest, suffix.toList = c :: rest ∧ c.isUpper = true

/-- The name of the property with a suffix: the suffix itself if its second letter is a
capital, else the suffix with its first letter made small. -/
def beanName (suffix : String) : String :=
  if suffix.toList[1]?.any Char.isUpper then suffix
  else String.ofList (suffix.toList.modifyHead Char.toLower)

/-- **Suffixes do not share names.** -/
theorem beanName_injOn {s t : String} (hs : StartsUpper s) (ht : StartsUpper t)
    (h : beanName s = beanName t) : s = t := by
  obtain ⟨c, cs, hcs, hc⟩ := hs
  obtain ⟨d, ds, hds, hd⟩ := ht
  -- A name that is its suffix begins with a capital, and one that is not does not.
  have hparts {kept lowered : String} {e : Char} {es : List Char} (he : e.isUpper = true)
      (hkept : kept.toList = e :: es)
      (heq : kept = String.ofList (lowered.toList.modifyHead Char.toLower))
      {f : Char} {fs : List Char} (hlowered : lowered.toList = f :: fs) : False := by
    rw [heq, hlowered, List.modifyHead_cons, String.toList_ofList, List.cons.injEq] at hkept
    rw [← hkept.1, Char.isUpper_toLower_eq_false] at he
    cases he
  unfold beanName at h
  split at h
  · split at h
    · exact h
    · exact (hparts hc hcs h hds).elim
  · split at h
    · exact (hparts hd hds h.symm hcs).elim
    · have hlists := String.ofList_injective h
      rw [hcs, hds, List.modifyHead_cons, List.modifyHead_cons, List.cons.injEq] at hlists
      obtain ⟨hhead, rfl⟩ := hlists
      obtain rfl := Text.toLower_injOn hc hd hhead
      exact String.toList_injective (hcs.trans hds.symm)

theorem ofList_propertyName {s : String} (h : ∀ c ∈ s.toList, c.toNat < 128) :
    String.ofList (propertyName s.toList) = beanName s := by
  unfold beanName
  cases hs : s.toList with
  | nil => simp [propertyName]
  | cons c rest =>
      rw [hs, List.forall_mem_cons] at h
      have hlower := Text.lower_singleton_of_ascii h.1
      cases rest with
      | nil => simp [propertyName, hlower]
      | cons d rest =>
          have hupper := Text.isUpperChar_of_ascii (h.2 d List.mem_cons_self)
          cases hd : d.isUpper with
          | false => simp [propertyName, hlower, hupper, hd]
          | true =>
              have hself : String.ofList (c :: d :: rest) = s := by rw [← hs, String.ofList_toList]
              simp [propertyName, hupper, hd, hself]

/-! ### Accessors -/

/-- The method gives access to what the suffix names. -/
structure IsAccessor (m : Method) (suffix : String) : Prop where
  parameters : m.parameters = []
  ofInstance : "static" ∉ m.modifiers
  returns : m.returnType.name ≠ "void"
  name : m.name = "get" ++ suffix ∨ m.name = "is" ++ suffix
  starts : StartsUpper suffix

/-- The name of the method is written in ASCII. -/
def AsciiName (m : Method) : Prop :=
  ∀ c ∈ m.name.toList, c.toNat < 128

instance (m : Method) : Decidable m.AsciiName :=
  decidable_of_iff (m.name.toList.all fun c => c.toNat < 128) (by simp [AsciiName])

variable {m : Method}

theorem suffixAfter?_eq_some_iff {word name suffix : List Char} (h : ∀ c ∈ name, c.toNat < 128) :
    suffixAfter? word name = some suffix ↔
      name = word ++ suffix ∧ ∃ c rest, suffix = c :: rest ∧ c.isUpper = true := by
  unfold suffixAfter?
  by_cases hword : word.isPrefixOf name = true
  · obtain ⟨behind, rfl⟩ := List.isPrefixOf_iff_prefix.mp hword
    rw [if_pos hword, List.drop_left, List.append_cancel_left_eq]
    cases behind with
    | nil =>
        refine ⟨nofun, ?_⟩
        rintro ⟨rfl, c, rest, hnil, -⟩
        cases hnil
    | cons c rest =>
        dsimp only
        rw [Text.isUpperChar_of_ascii (h c (by simp))]
        by_cases hc : c.isUpper = true
        · rw [if_pos hc, Option.some_inj]
          exact ⟨fun heq => ⟨heq, c, rest, heq.symm, hc⟩, fun heq => heq.1⟩
        · rw [if_neg hc]
          refine ⟨nofun, ?_⟩
          rintro ⟨rfl, d, ds, heq, hd⟩
          cases heq
          exact absurd hd hc
  · rw [if_neg hword]
    refine ⟨nofun, ?_⟩
    rintro ⟨rfl, -⟩
    exact absurd (List.isPrefixOf_iff_prefix.mpr (List.prefix_append word suffix)) hword

theorem accessorSuffix?_eq_some_iff (h : m.AsciiName) {suffix : String} :
    m.accessorSuffix? = some suffix.toList ↔ m.IsAccessor suffix := by
  have hname (word : String) : suffixAfter? word.toList m.name.toList = some suffix.toList ↔
      m.name = word ++ suffix ∧ StartsUpper suffix := by
    rw [suffixAfter?_eq_some_iff h, ← String.toList_append, String.toList_inj]
    rfl
  -- No name begins with both words.
  have hword : m.name = "is" ++ suffix → suffixAfter? "get".toList m.name.toList = none := by
    intro his
    refine Option.eq_none_iff_forall_ne_some.mpr fun behind hbehind => ?_
    have hget := ((suffixAfter?_eq_some_iff h).mp hbehind).1
    rw [his, String.toList_append] at hget
    exact absurd (List.cons.inj hget).1 (by decide)
  unfold accessorSuffix?
  split
  · rename_i hrefused
    refine ⟨nofun, fun ha => ?_⟩
    simp [ha.parameters, ha.ofInstance, ha.returns] at hrefused
  · rename_i haccepted
    simp only [Bool.or_eq_true, Bool.not_eq_true', List.isEmpty_eq_false_iff,
      List.contains_iff_mem, decide_eq_true_eq, not_or, not_not] at haccepted
    obtain ⟨⟨hparameters, hstatic⟩, hvoid⟩ := haccepted
    rw [Option.orElse_eq_or, Option.or_eq_some_iff, hname, hname]
    constructor
    · rintro (⟨hget, hstarts⟩ | ⟨-, his, hstarts⟩)
      · exact ⟨hparameters, hstatic, hvoid, Or.inl hget, hstarts⟩
      · exact ⟨hparameters, hstatic, hvoid, Or.inr his, hstarts⟩
    · rintro ⟨-, -, -, hget | his, hstarts⟩
      · exact Or.inl ⟨hget, hstarts⟩
      · exact Or.inr ⟨hword his, his, hstarts⟩

theorem IsAccessor.unique {s t : String} (h : m.AsciiName) (hs : m.IsAccessor s)
    (ht : m.IsAccessor t) : s = t := by
  rw [← accessorSuffix?_eq_some_iff h] at hs ht
  exact String.toList_injective (Option.some_inj.mp (hs.symm.trans ht))

theorem accessedProperty?_of_isAccessor {suffix : String} (h : m.AsciiName)
    (ha : m.IsAccessor suffix) : m.accessedProperty? = some (beanName suffix) := by
  have hascii : ∀ c ∈ suffix.toList, c.toNat < 128 := by
    intro c hc
    refine h c ?_
    obtain hname | hname := ha.name
    all_goals rw [hname, String.toList_append]; exact List.mem_append_right _ hc
  rw [accessedProperty?, (accessorSuffix?_eq_some_iff h).mpr ha, Option.map_some,
    ofList_propertyName hascii]

theorem accessedProperty?_eq_none (h : m.AsciiName) (ha : ∀ suffix, ¬m.IsAccessor suffix) :
    m.accessedProperty? = none := by
  rw [accessedProperty?, Option.map_eq_none_iff]
  refine Option.eq_none_iff_forall_ne_some.mpr fun letters hletters => ?_
  obtain ⟨suffix, rfl⟩ : ∃ suffix : String, suffix.toList = letters :=
    ⟨String.ofList letters, String.toList_ofList⟩
  exact ha suffix ((accessorSuffix?_eq_some_iff h).mp hletters)

/-! ### The suffixes of the accessors of an interface -/

/-- The method is the first accessor of the suffix. -/
def FirstAccessor (methods : List Method) (suffix : String) (a : Method) : Prop :=
  ∃ before behind, methods = before ++ a :: behind ∧ a.IsAccessor suffix ∧
    ∀ b ∈ before, ¬b.IsAccessor suffix

/-- One suffix has an accessor before the other has any. -/
def HasAccessorBefore (methods : List Method) (s t : String) : Prop :=
  ∃ before a behind, methods = before ++ a :: behind ∧ a.IsAccessor s ∧
    ∀ b ∈ before, ¬b.IsAccessor t

/-- The suffixes are those of the accessors, each once, in the order of their first accessors. -/
structure SuffixesInOrder (methods : List Method) (suffixes : List String) : Prop where
  nodup : suffixes.Nodup
  mem_iff : ∀ s, s ∈ suffixes ↔ ∃ a ∈ methods, a.IsAccessor s
  ordered : suffixes.Pairwise (HasAccessorBefore methods)

/-- The suffixes of the accessors, each once. -/
def accessorSuffixes : List Method → List String
  | [] => []
  | m :: ms =>
    match m.accessorSuffix? with
    | none => accessorSuffixes ms
    | some letters =>
      String.ofList letters :: (accessorSuffixes ms).filter (· ≠ String.ofList letters)

variable {ms : List Method} {s t : String} {a : Method}

theorem FirstAccessor.cons (h : FirstAccessor ms s a) (hm : ¬m.IsAccessor s) :
    FirstAccessor (m :: ms) s a := by
  obtain ⟨before, behind, rfl, ha, hfirst⟩ := h
  exact ⟨m :: before, behind, rfl, ha, List.forall_mem_cons.mpr ⟨hm, hfirst⟩⟩

theorem HasAccessorBefore.cons (h : HasAccessorBefore ms s t) (hm : ¬m.IsAccessor t) :
    HasAccessorBefore (m :: ms) s t := by
  obtain ⟨before, a, behind, rfl, ha, hfirst⟩ := h
  exact ⟨m :: before, a, behind, rfl, ha, List.forall_mem_cons.mpr ⟨hm, hfirst⟩⟩

namespace SuffixesInOrder

variable {suffixes : List String}

/-- A method that is no accessor changes nothing. -/
theorem cons_of_not (h : SuffixesInOrder ms suffixes) (hm : ∀ s, ¬m.IsAccessor s) :
    SuffixesInOrder (m :: ms) suffixes where
  nodup := h.nodup
  mem_iff s := by rw [h.mem_iff, List.exists_mem_cons_iff, or_iff_right (hm s)]
  ordered := h.ordered.imp fun hbefore => hbefore.cons (hm _)

/-- An accessor puts its suffix in front. -/
theorem cons_of_isAccessor (h : SuffixesInOrder ms suffixes) (hascii : m.AsciiName)
    (hm : m.IsAccessor s) : SuffixesInOrder (m :: ms) (s :: suffixes.filter (· ≠ s)) where
  nodup := List.nodup_cons.mpr ⟨by simp, h.nodup.filter _⟩
  mem_iff t := by
    by_cases hts : t = s
    · subst hts
      exact ⟨fun _ => ⟨m, List.mem_cons_self, hm⟩, fun _ => List.mem_cons_self⟩
    · have hother : ¬m.IsAccessor t := fun ht => hts (ht.unique hascii hm)
      simp [hts, h.mem_iff, hother]
  ordered := by
    refine List.pairwise_cons.mpr ⟨fun t _ => ⟨[], m, ms, rfl, hm, nofun⟩, ?_⟩
    refine (h.ordered.filter _).imp_of_mem fun _ ht hbefore => hbefore.cons fun hmt => ?_
    exact absurd (hmt.unique hascii hm) (by simpa using (List.mem_filter.mp ht).2)

end SuffixesInOrder

theorem accessorSuffixes_cons_of_not (h : m.AsciiName) (hm : ∀ s, ¬m.IsAccessor s) :
    accessorSuffixes (m :: ms) = accessorSuffixes ms := by
  have hnone := accessedProperty?_eq_none h hm
  rw [accessedProperty?, Option.map_eq_none_iff] at hnone
  rw [accessorSuffixes, hnone]

theorem accessorSuffixes_cons_of_isAccessor (h : m.AsciiName) (hm : m.IsAccessor s) :
    accessorSuffixes (m :: ms) = s :: (accessorSuffixes ms).filter (· ≠ s) := by
  rw [accessorSuffixes, (accessorSuffix?_eq_some_iff h).mpr hm]
  simp only [String.ofList_toList]

theorem suffixesInOrder_accessorSuffixes (h : ∀ m ∈ ms, m.AsciiName) :
    SuffixesInOrder ms (accessorSuffixes ms) := by
  induction ms with
  | nil => exact ⟨.nil, by simp [accessorSuffixes], .nil⟩
  | cons m rest ih =>
      rw [List.forall_mem_cons] at h
      by_cases hm : ∃ s, m.IsAccessor s
      · obtain ⟨s, hs⟩ := hm
        rw [accessorSuffixes_cons_of_isAccessor h.1 hs]
        exact (ih h.2).cons_of_isAccessor h.1 hs
      · rw [not_exists] at hm
        rw [accessorSuffixes_cons_of_not h.1 hm]
        exact (ih h.2).cons_of_not hm

end Method

/-- No effect on a property changes what its declaration says of it, its name and its type. -/
def EffectTable.KeepsDeclared (effects : EffectTable) : Prop :=
  ∀ marks p, (effects.applyToProperty marks p).1.name = p.name ∧
    (effects.applyToProperty marks p).1.type = p.type

theorem EffectTable.keepsDeclared_standard : standard.KeepsDeclared :=
  fun marks p => ⟨name_applyToProperty marks p, keepsTypes_standard marks p⟩

namespace Survey

open Method

variable {m : Method} {ms : List Method} {s : String}

/-! ### The accessors that the survey takes -/

/-- Names that are taken already make the survey pass over accessors and do nothing else. -/
theorem accessors_eq_filter (seen : List String) (ms : List Method) :
    accessors seen ms = (accessors [] ms).filter fun a => !seen.contains a.1 := by
  induction ms generalizing seen with
  | nil => rfl
  | cons m rest ih =>
      rw [accessors, accessors]
      cases m.accessedProperty? with
      | none => exact ih seen
      | some name =>
          dsimp only
          rw [ih [name], List.contains_nil, if_neg Bool.false_ne_true, List.filter_cons,
            List.filter_filter]
          by_cases hname : seen.contains name = true
          · rw [if_pos hname, if_neg (by simpa using hname), ih seen]
            refine List.filter_congr fun a _ => ?_
            by_cases ha : a.1 = name
            · simp [ha, List.contains_iff_mem.mp hname]
            · simp [ha]
          · rw [if_neg hname, if_pos (by simpa using hname), ih (name :: seen)]
            refine congrArg _ (List.filter_congr fun a _ => ?_)
            simp [Bool.and_comm]

theorem accessors_cons_of_not (h : m.AsciiName) (hm : ∀ s, ¬m.IsAccessor s) :
    accessors [] (m :: ms) = accessors [] ms := by
  rw [accessors, accessedProperty?_eq_none h hm]

theorem accessors_cons_of_isAccessor (h : m.AsciiName) (hm : m.IsAccessor s) :
    accessors [] (m :: ms)
      = (beanName s, m) :: (accessors [] ms).filter fun a => a.1 ≠ beanName s := by
  rw [accessors, accessedProperty?_of_isAccessor h hm]
  dsimp only
  rw [List.contains_nil, if_neg Bool.false_ne_true, accessors_eq_filter [beanName s]]
  simp

/-- **Each suffix is represented by its first accessor**, under the name of its property. -/
theorem forall₂_accessors (h : ∀ m ∈ ms, m.AsciiName) :
    List.Forall₂ (fun s a => a.1 = beanName s ∧ FirstAccessor ms s a.2)
      (accessorSuffixes ms) (accessors [] ms) := by
  induction ms with
  | nil => exact .nil
  | cons m rest ih =>
      rw [List.forall_mem_cons] at h
      by_cases hm : ∃ s, m.IsAccessor s
      · obtain ⟨s, hs⟩ := hm
        rw [accessorSuffixes_cons_of_isAccessor h.1 hs, accessors_cons_of_isAccessor h.1 hs]
        refine .cons ⟨rfl, [], rest, rfl, hs, nofun⟩ ?_
        -- The survey drops names and the list of suffixes drops suffixes, which is the same.
        have hothers := List.rel_filter (p := fun t => t ≠ s) (q := fun a => a.1 ≠ beanName s)
          (fun t a hta => ?_) (ih h.2)
        · have hne : ∀ t ∈ (accessorSuffixes rest).filter (· ≠ s), t ≠ s :=
            fun t ht => by simpa using (List.mem_filter.mp ht).2
          refine ((List.forall₂_and_left _ _).mpr ⟨hne, hothers⟩).imp fun t a hta => ?_
          exact ⟨hta.2.1, hta.2.2.cons fun hmt => hta.1 (hmt.unique h.1 hs)⟩
        · obtain ⟨hname, -, -, -, ht, -⟩ := hta
          have hiff : a.1 = beanName s ↔ t = s :=
            hname ▸ ⟨beanName_injOn ht.starts hs.starts, congrArg beanName⟩
          simp [hiff]
      · rw [not_exists] at hm
        rw [accessorSuffixes_cons_of_not h.1 hm, accessors_cons_of_not h.1 hm]
        exact (ih h.2).imp fun _ _ hfirst => ⟨hfirst.1, hfirst.2.cons (hm _)⟩

/-! ### The properties of a mined interface -/

variable {effects : EffectTable} {d : Declaration}

/-- The property is what the type, the annotations and the documentation of the accessor make
of the name. -/
def MinedFrom (effects : EffectTable) (a : Method) (name : String) (p : Property) : Prop :=
  ∃ type, TypeRef.ofWritten a.returnType = .ok type ∧ p.name = name ∧ p.type = some type ∧
    p = (effects.applyToProperty a.marks (.plain name (some type))).1.document a.documentation

/-- There is one property for each suffix of an accessor, which stand in order and are read from
the first accessors, and no two properties have one name. -/
structure OnePropertyPerSuffix (effects : EffectTable) (methods : List Method)
    (suffixes : List String) (properties : List Property) : Prop where
  inOrder : SuffixesInOrder methods suffixes
  mined : List.Forall₂ (fun s p => ∃ a, FirstAccessor methods s a ∧
    MinedFrom effects a (beanName s) p) suffixes properties
  names_nodup : (properties.map (·.name)).Nodup
  distinct : ∀ s ∈ suffixes, ∀ t ∈ suffixes, beanName s = beanName t → s = t

theorem yields_accessorProperty (h : effects.KeepsDeclared) (a : String × Method) :
    (accessorProperty effects a).Yields (MinedFrom effects a.2 a.1) := by
  intro p ns hp
  obtain ⟨type, before, behind, htype, hrest, -⟩ := bind_eq_ok hp
  have hread : TypeRef.ofWritten a.2.returnType = .ok type := by
    unfold typeRef at htype
    split at htype
    · cases htype
    · rename_i r hr
      cases htype
      exact hr
  obtain ⟨_, _, _, -, hdone, -⟩ := bind_eq_ok hrest
  cases hdone
  obtain ⟨hname, hkept⟩ := h a.2.marks (.plain a.1 (some type))
  refine ⟨type, hread, ?_, (Property.type_document _ _).trans hkept, rfl⟩
  rw [Property.document_eq]
  exact hname

theorem yields_interfaceModel_mined (h : effects.KeepsDeclared)
    (hascii : ∀ m ∈ d.methods, m.AsciiName) :
    (interfaceModel effects d).Yields fun m =>
      OnePropertyPerSuffix effects d.methods (accessorSuffixes d.methods) m.properties := by
  refine (yields_each_forall₂ (yields_accessorProperty h) _).bind fun ps hps => yields_pure ?_
  have hinOrder := suffixesInOrder_accessorSuffixes hascii
  have hmined : List.Forall₂ (fun s p => ∃ a, FirstAccessor d.methods s a ∧
      MinedFrom effects a (beanName s) p) (accessorSuffixes d.methods) ps := by
    refine (forall₂_comp (forall₂_accessors hascii) hps).imp fun s p => ?_
    rintro ⟨a, ⟨hname, hfirst⟩, hp⟩
    exact ⟨a.2, hfirst, hname ▸ hp⟩
  have hdistinct : ∀ s ∈ accessorSuffixes d.methods, ∀ t ∈ accessorSuffixes d.methods,
      beanName s = beanName t → s = t := by
    intro s hs t ht
    obtain ⟨_, -, hs⟩ := (hinOrder.mem_iff s).mp hs
    obtain ⟨_, -, ht⟩ := (hinOrder.mem_iff t).mp ht
    exact beanName_injOn hs.starts ht.starts
  have hnames : ps.map (·.name) = (accessorSuffixes d.methods).map beanName := by
    rw [← List.forall₂_eq_eq_eq, List.forall₂_map_left_iff, List.forall₂_map_right_iff]
    refine (List.Forall₂.flip hmined).imp fun p s => ?_
    rintro ⟨a, -, type, -, hname, -⟩
    exact hname
  exact ⟨hinOrder, hmined, hnames ▸ hinOrder.nodup.map_on hdistinct, hdistinct⟩

/--
**A mined interface has one property per accessor suffix.**  If its types can be read and its
methods have ASCII names, the model of an interface exists, and its properties are those of the
suffixes of its accessors, each read from the first accessor with the suffix; different suffixes
have different names.  So it is with all effects of annotations that leave names and types alone,
as the standard ones do.
-/
theorem one_property_per_suffix (wt : d.WellTyped) (hascii : ∀ m ∈ d.methods, m.AsciiName) :
    EffectTable.standard.KeepsDeclared ∧
      ∀ effects : EffectTable, effects.KeepsDeclared →
        ∃ m ns suffixes, interfaceModel effects d = .ok (m, ns) ∧
          OnePropertyPerSuffix effects d.methods suffixes m.properties := by
  refine ⟨EffectTable.keepsDeclared_standard, fun effects h => ?_⟩
  have hsucceeds : (interfaceModel effects d).Succeeds := interfaceModel_succeeds wt
  obtain ⟨m, ns, hm⟩ := hsucceeds
  exact ⟨m, ns, _, hm, yields_interfaceModel_mined h hascii m ns hm⟩

/-- An interface with two accessors of one property, one of a property that is all capitals,
and three methods that are no accessors. -/
def person : Declaration :=
  let method (name type : String) (modifiers : List String) : Method :=
    ⟨name, .simple type, [], [], .none, modifiers⟩
  { Declaration.bare "Person" "crew" .interface with
    methods := [method "getActive" "String" [], method "getURL" "String" [],
      method "isActive" "boolean" [], method "isActiveSince" "void" [], method "getter" "int" [],
      method "getAge" "int" ["static"]] }

theorem one_property_per_suffix_person :
    (person.WellTyped ∧ ∀ m ∈ person.methods, m.AsciiName) ∧
      ∃ m ns suffixes, interfaceModel .standard person = .ok (m, ns) ∧
        m.properties.map (·.name) = ["active", "URL"] ∧
        OnePropertyPerSuffix .standard person.methods suffixes m.properties := by
  have hwt : person.WellTyped := by decide
  have hascii : ∀ m ∈ person.methods, m.AsciiName := by decide
  obtain ⟨hstandard, hmined⟩ := one_property_per_suffix hwt hascii
  obtain ⟨m, ns, suffixes, hm, hone⟩ := hmined .standard hstandard
  refine ⟨⟨hwt, hascii⟩, m, ns, suffixes, hm, ?_, hone⟩
  have hnames : (interfaceModel .standard person).result.properties.map (·.name)
      = ["active", "URL"] := by decide
  rw [hm] at hnames
  exact hnames

end Survey

end ServiceAtlas
