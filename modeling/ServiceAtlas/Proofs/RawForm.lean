/-
Raw records read back.

A record is written under camel case names and read under those or under snake case names,
member by member.  What is proved of a record is therefore proved of everything that the
written record may be respelled as: every member of it, at every depth, stands under one of
its names, and the rest is as it was written.  `Respelling` says so for one kind of value at
a time, and `Reads` says that a check makes the same of all spellings of a value.

A reader looks for the first of the names of a member.  It finds the member, whichever name
that has, because no name belongs to two members of a record.
-/
import ServiceAtlas.RawForm.Reading
import ServiceAtlas.Proofs.Completion

namespace ServiceAtlas

/-! ### Values that JSON can express -/

namespace Json

mutual

/-- JSON can express every number of the value. -/
def isExpressible : Json → Bool
  | float x => x.isFinite
  | arr items => areExpressible items
  | obj members => membersExpressible members
  | _ => true

/-- JSON can express every number of the items. -/
def areExpressible : List Json → Bool
  | [] => true
  | v :: vs => isExpressible v && areExpressible vs

/-- JSON can express every number of the members. -/
def membersExpressible : List (String × Json) → Bool
  | [] => true
  | (_, v) :: ms => isExpressible v && membersExpressible ms

end

mutual

theorem expressed_eq_self : ∀ v : Json, v.isExpressible = true → v.expressed = v
  | null, _ | bool _, _ | int _, _ | str _, _ => rfl
  | float x, h => by
      rw [isExpressible] at h
      rw [expressed, if_pos h]
  | arr items, h => by
      rw [isExpressible] at h
      rw [expressed, expressedItems_eq_self items h]
  | obj members, h => by
      rw [isExpressible] at h
      rw [expressed, expressedMembers_eq_self members h]

theorem expressedItems_eq_self :
    ∀ vs : List Json, areExpressible vs = true → expressedItems vs = vs
  | [], _ => rfl
  | v :: vs, h => by
      rw [areExpressible, Bool.and_eq_true] at h
      rw [expressedItems, expressed_eq_self v h.1, expressedItems_eq_self vs h.2]

theorem expressedMembers_eq_self :
    ∀ ms : List (String × Json), membersExpressible ms = true → expressedMembers ms = ms
  | [], _ => rfl
  | (n, v) :: ms, h => by
      rw [membersExpressible, Bool.and_eq_true] at h
      rw [expressedMembers, expressed_eq_self v h.1, expressedMembers_eq_self ms h.2]

end

theorem areExpressible_iff {vs : List Json} :
    areExpressible vs = true ↔ ∀ v ∈ vs, v.isExpressible = true := by
  induction vs with
  | nil => simp [areExpressible]
  | cons v rest ih => simp [areExpressible, ih]

theorem membersExpressible_iff {ms : List (String × Json)} :
    membersExpressible ms = true ↔ ∀ m ∈ ms, m.2.isExpressible = true := by
  induction ms with
  | nil => simp [membersExpressible]
  | cons m rest ih => simp [membersExpressible, ih]

theorem isExpressible_strings (ss : List String) : (strings ss).isExpressible = true := by
  rw [strings, isExpressible, areExpressible_iff]
  intro v hv
  obtain ⟨s, -, rfl⟩ := List.mem_map.mp hv
  rfl

theorem isExpressible_ofOption {α : Type} {f : α → Json} (hf : ∀ a, (f a).isExpressible = true)
    (o : Option α) : (ofOption f o).isExpressible = true := by
  cases o with
  | none => rfl
  | some a => exact hf a

end Json

namespace TypeRef

mutual

theorem isExpressible_toJson : ∀ t : TypeRef, t.toJson.isExpressible = true
  | mk base args => by
      simp [toJson, Json.isExpressible, Json.membersExpressible, areExpressible_argsToJson args]

theorem areExpressible_argsToJson :
    ∀ ts : List TypeRef, Json.areExpressible (argsToJson ts) = true
  | [] => rfl
  | t :: ts => by
      simp [argsToJson, Json.areExpressible, isExpressible_toJson t, areExpressible_argsToJson ts]

end

end TypeRef

/-- JSON can express every number in the rules of the property. -/
def Property.Expressible (p : Property) : Prop :=
  ∀ e ∈ p.rules.entries, e.2.isExpressible = true

/-- JSON can express every number in the rules and in the extensions of the model. -/
structure Model.Expressible (m : Model) : Prop where
  properties : ∀ p ∈ m.properties, p.Expressible
  extensions : ∀ e ∈ m.extensions.entries, e.2.isExpressible = true

theorem Property.isExpressible_toJson {p : Property} (h : p.Expressible) :
    p.toJson.isExpressible = true := by
  have htype := Json.isExpressible_ofOption TypeRef.isExpressible_toJson p.type
  have htext := Json.isExpressible_ofOption (f := Json.str) fun _ => rfl
  have hrules := Json.membersExpressible_iff.mpr h
  simp [toJson, Json.isExpressible, Json.membersExpressible, htype, htext, hrules]

theorem Model.isExpressible_toJson {m : Model} (h : m.Expressible) :
    m.toJson.isExpressible = true := by
  have htext := Json.isExpressible_ofOption (f := Json.str) fun _ => rfl
  have hextensions := Json.membersExpressible_iff.mpr h.extensions
  have hproperties : Json.areExpressible (m.properties.map Property.toJson) = true := by
    rw [Json.areExpressible_iff]
    intro v hv
    obtain ⟨p, hp, rfl⟩ := List.mem_map.mp hv
    exact Property.isExpressible_toJson (h.properties p hp)
  simp [toJson, Json.isExpressible, Json.membersExpressible, Json.isExpressible_strings, htext,
    hextensions, hproperties]

/-! ### Spellings -/

/-- The values that a written value may be respelled as. -/
abbrev Respelling := Json → Json → Prop

namespace Respelling

/-- A value without names that have a second spelling. -/
def same : Respelling := Eq

/-- An array whose items may each be respelled. -/
def items (r : Respelling) : Respelling := fun v w =>
  ∃ vs ws, v = .arr vs ∧ w = .arr ws ∧ List.Forall₂ r vs ws

/-- The members of a record: each stays in its place, stands under one of its names and may
be respelled itself. -/
inductive Members :
    List (List String × Respelling) → List (String × Json) → List (String × Json) → Prop
  | nil : Members [] [] []
  | cons {names : List String} {r : Respelling} {name other : String} {v w : Json}
      {fields : List (List String × Respelling)} {ms ns : List (String × Json)}
      (hname : name ∈ names) (hother : other ∈ names) (hvalue : r v w)
      (rest : Members fields ms ns) :
      Members ((names, r) :: fields) ((name, v) :: ms) ((other, w) :: ns)

@[simp] theorem members_nil : Members [] [] [] :=
  .nil

@[simp] theorem members_cons {names : List String} {r : Respelling} {name other : String}
    {v w : Json} {fields : List (List String × Respelling)} {ms ns : List (String × Json)} :
    Members ((names, r) :: fields) ((name, v) :: ms) ((other, w) :: ns) ↔
      (name ∈ names ∧ other ∈ names) ∧ r v w ∧ Members fields ms ns := by
  constructor
  · rintro (_ | ⟨hname, hother, hvalue, rest⟩)
    exact ⟨⟨hname, hother⟩, hvalue, rest⟩
  · rintro ⟨⟨hname, hother⟩, hvalue, rest⟩
    exact .cons hname hother hvalue rest

/-- A record with the given members. -/
def record (fields : List (List String × Respelling)) : Respelling := fun v w =>
  ∃ ms ns, v = .obj ms ∧ w = .obj ns ∧ Members fields ms ns

/-! ### What is written is a spelling of itself -/

theorem same_self (v : Json) : same v v :=
  rfl

theorem items_self {α : Type} {r : Respelling} {f : α → Json} {as : List α}
    (h : ∀ a ∈ as, r (f a) (f a)) : items r (.arr (as.map f)) (.arr (as.map f)) :=
  ⟨_, _, rfl, rfl, List.forall₂_same.mpr (by simpa using h)⟩

theorem record_self {fields : List (List String × Respelling)} {ms : List (String × Json)}
    (h : List.Forall₂ (fun f m => m.1 ∈ f.1 ∧ f.2 m.2 m.2) fields ms) :
    record fields (.obj ms) (.obj ms) := by
  refine ⟨_, _, rfl, rfl, ?_⟩
  induction h with
  | nil => exact .nil
  | cons hfirst _ ih => exact .cons hfirst.1 hfirst.1 hfirst.2 ih

end Respelling

/-! ### Checks of respelled values -/

namespace Checked

variable {α β : Type}

theorem map_valid {c : Checked α} {a : α} (f : α → β) (hc : c = .valid a) :
    f <$> c = .valid (f a) := by
  rw [hc]
  rfl

theorem seq_valid {c : Checked (α → β)} {d : Checked α} {f : α → β} {a : α}
    (hc : c = .valid f) (hd : d = .valid a) : c <*> d = .valid (f a) := by
  rw [hc, hd]
  rfl

end Checked

/-- The check makes the same of all spellings of a value. -/
def Reads {β : Type} (r : Respelling) (check : Json → Checked β) (v : Json) (b : β) : Prop :=
  ∀ w, r v w → check w = .valid b

section Reads

variable {β : Type}

theorem reads_same {check : Json → Checked β} {v : Json} {b : β} (h : check v = .valid b) :
    Reads .same check v b := by
  rintro _ rfl
  exact h

theorem reads_text (s : String) : Reads .same Check.text (.str s) s :=
  reads_same rfl

theorem reads_flag (b : Bool) : Reads .same Check.flag (.bool b) b :=
  reads_same rfl

theorem reads_object (m : OrderedMap String Json) :
    Reads .same Check.anyObject (.obj m.entries) m :=
  reads_same (congrArg Checked.valid m.ofList_entries)

theorem reads_optional {check : Json → Checked β} {f : β → Json}
    (hpresent : ∀ b, HasView.view (f b) ≠ View.null) {o : Option β}
    (h : ∀ b ∈ o, check (f b) = .valid b) :
    Reads .same (Check.optional check) (.ofOption f o) o := by
  refine reads_same ?_
  cases o with
  | none => rfl
  | some b =>
      have hvalid := Checked.map_valid some (h b rfl)
      unfold Check.optional
      split
      · rename_i hnull
        exact absurd hnull (hpresent b)
      · exact hvalid

theorem reads_optionalText (o : Option String) :
    Reads .same (Check.optional Check.text) (.ofOption .str o) o :=
  reads_optional nofun fun _ _ => rfl

theorem itemsFrom_valid {r : Respelling} {check : Json → Checked β} {f : β → Json} :
    ∀ (bs : List β) (ws : List Json) (i : Nat), (∀ b ∈ bs, Reads r check (f b) b) →
      List.Forall₂ r (bs.map f) ws → Check.itemsFrom check i ws = .valid bs := by
  intro bs
  induction bs with
  | nil =>
      intro ws i _ hws
      cases hws
      rfl
  | cons b rest ih =>
      intro ws i h hws
      obtain ⟨hfirst, hbehind⟩ := List.forall_mem_cons.mp h
      cases hws with
      | cons hw hrest =>
          rw [Check.itemsFrom, hfirst _ hw]
          exact Checked.seq_valid rfl (ih _ _ hbehind hrest)

theorem reads_items {r : Respelling} (kind : FaultKind) {check : Json → Checked β}
    {f : β → Json} {bs : List β} (h : ∀ b ∈ bs, Reads r check (f b) b) :
    Reads (.items r) (Check.listOf kind check) (.arr (bs.map f)) bs := by
  rintro _ ⟨_, ws, heq, rfl, hws⟩
  cases heq
  exact itemsFrom_valid bs ws 0 h hws

theorem reads_strings (kind : FaultKind) (ss : List String) :
    Reads .same (Check.listOf kind Check.text) (.strings ss) ss := by
  refine reads_same (itemsFrom_valid ss _ 0 (fun s _ => reads_text s) ?_)
  exact List.forall₂_same.mpr fun _ _ => rfl

end Reads

/-! ### Finding members under their names -/

section Members

variable {β : Type} {fields : List (List String × Respelling)} {ms ns : List (String × Json)}

/-- The members of an object as a check sees them. -/
def Json.entries (ns : List (String × Json)) : List (Key × Json) :=
  ns.map fun n => (.text n.1, n.2)

theorem mem_of_lookup_entries {name : String} {w : Json}
    (h : Check.lookup name (Json.entries ns) = some w) : (name, w) ∈ ns := by
  induction ns with
  | nil => cases h
  | cons n rest ih =>
      obtain ⟨other, v⟩ := n
      rw [Json.entries, List.map_cons, Check.lookup] at h
      split at h
      · rename_i heq
        cases heq
        cases h
        exact List.mem_cons_self
      · exact List.mem_cons_of_mem _ (ih h)

theorem ne_of_lookup_entries_eq_none {name : String}
    (h : Check.lookup name (Json.entries ns) = none) : ∀ n ∈ ns, n.1 ≠ name := by
  induction ns with
  | nil => nofun
  | cons n rest ih =>
      rw [Json.entries, List.map_cons, Check.lookup] at h
      split at h
      · cases h
      · rename_i hne
        exact List.forall_mem_cons.mpr ⟨fun heq => hne (congrArg Key.text heq), ih h⟩

/-- A value that alone stands under one of several names is found under the first of them that
is there. -/
theorem firstOf_entries {w : Json} {names : List String}
    (hthere : ∃ n ∈ ns, n.1 ∈ names) (honly : ∀ n ∈ ns, n.1 ∈ names → n.2 = w) :
    ∃ name, Check.firstOf (Json.entries ns) names = some (name, w) := by
  induction names with
  | nil =>
      obtain ⟨n, -, hn⟩ := hthere
      cases hn
  | cons name rest ih =>
      cases hlookup : Check.lookup name (Json.entries ns) with
      | some v =>
          obtain rfl : v = w :=
            honly _ (mem_of_lookup_entries hlookup) List.mem_cons_self
          exact ⟨name, by rw [Check.firstOf, hlookup]⟩
      | none =>
          have hne := ne_of_lookup_entries_eq_none hlookup
          obtain ⟨n, hn, hmem⟩ := hthere
          have hrest := (List.mem_cons.mp hmem).resolve_left (hne n hn)
          obtain ⟨other, hfound⟩ :=
            ih ⟨n, hn, hrest⟩ fun m hm hmem => honly m hm (List.mem_cons_of_mem _ hmem)
          exact ⟨other, by rw [Check.firstOf, hlookup, hfound]⟩

namespace Respelling

theorem Members.name_mem (h : Members fields ms ns) :
    ∀ n ∈ ns, n.1 ∈ fields.flatMap Prod.fst := by
  induction h with
  | nil => nofun
  | cons _ hother _ _ ih =>
      refine List.forall_mem_cons.mpr ⟨List.mem_append_left _ hother, fun n hn => ?_⟩
      exact List.mem_append_right _ (ih n hn)

/-- Where no name belongs to two members, what stands under the names of a member is that
member respelled. -/
theorem Members.value (distinct : (fields.flatMap Prod.fst).Nodup) (h : Members fields ms ns) :
    ∀ (i : Nat) {names : List String} {r : Respelling} {name : String} {v : Json},
      fields[i]? = some (names, r) → ms[i]? = some (name, v) →
        ∃ w, r v w ∧ (∃ n ∈ ns, n.1 ∈ names) ∧ ∀ n ∈ ns, n.1 ∈ names → n.2 = w := by
  induction h with
  | nil => nofun
  | @cons names' r' name' other v' w' fields ms ns hname hother hvalue rest ih =>
      obtain ⟨-, hrest, hdisjoint⟩ := List.nodup_append'.mp distinct
      intro i names r name v hfield hmember
      cases i with
      | zero =>
          cases hfield
          cases hmember
          refine ⟨w', hvalue, ⟨_, List.mem_cons_self, hother⟩, ?_⟩
          refine List.forall_mem_cons.mpr ⟨fun _ => rfl, fun n hn hmem => ?_⟩
          exact absurd (rest.name_mem n hn) (hdisjoint hmem)
      | succ i =>
          obtain ⟨w, hw, ⟨n, hn, hmem⟩, honly⟩ := ih hrest i hfield hmember
          refine ⟨w, hw, ⟨n, List.mem_cons_of_mem _ hn, hmem⟩, ?_⟩
          refine List.forall_mem_cons.mpr ⟨fun hmem => ?_, honly⟩
          have hnames : other ∈ fields.flatMap Prod.fst :=
            List.mem_flatMap.mpr ⟨_, List.mem_of_getElem? hfield, hmem⟩
          exact absurd hnames (hdisjoint hother)

end Respelling

/-- Every member is found, respelled, under the first of its names that is there. -/
def Finds (fields : List (List String × Respelling)) (ms : List (String × Json))
    (es : List (Key × Json)) : Prop :=
  ∀ (i : Nat) {names : List String} {r : Respelling} {name : String} {v : Json},
    fields[i]? = some (names, r) → ms[i]? = some (name, v) →
      ∃ other w, r v w ∧ Check.firstOf es names = some (other, w)

namespace Finds

variable {es : List (Key × Json)} {names : List String} {r : Respelling} {name : String}
  {v : Json} {check : Json → Checked β} {b : β}

theorem member (h : Finds fields ms es) (i : Nat) (hfield : fields[i]? = some (names, r))
    (hmember : ms[i]? = some (name, v)) (hreads : Reads r check v b) :
    Check.member names check es = .valid b := by
  obtain ⟨other, w, hw, hfirst⟩ := h i hfield hmember
  rw [Check.member, hfirst]
  show (check w).under _ = _
  rw [hreads w hw]
  rfl

theorem memberOr (h : Finds fields ms es) (i : Nat) (hfield : fields[i]? = some (names, r))
    (hmember : ms[i]? = some (name, v)) (hreads : Reads r check v b) (fallback : β) :
    Check.memberOr fallback names check es = .valid b := by
  obtain ⟨other, w, hw, hfirst⟩ := h i hfield hmember
  rw [Check.memberOr, hfirst]
  show (check w).under _ = _
  rw [hreads w hw]
  rfl

end Finds

/-- A record is read from all of its spellings if its members are. -/
theorem reads_record {check : List (Key × Json) → Checked β} {b : β}
    (distinct : (fields.flatMap Prod.fst).Nodup)
    (h : ∀ es, Finds fields ms es → check es = .valid b) :
    Reads (.record fields) (fun v => (Check.record v).andThen check) (.obj ms) b := by
  rintro _ ⟨_, ns, heq, rfl, hmembers⟩
  cases heq
  refine h (Json.entries ns) fun i names r name v hfield hmember => ?_
  obtain ⟨w, hw, hthere, honly⟩ := hmembers.value distinct i hfield hmember
  obtain ⟨other, hfirst⟩ := firstOf_entries hthere honly
  exact ⟨other, w, hw, hfirst⟩

end Members

/-! ### The records -/

namespace TypeRef

theorem nonEmptyText_valid {s : String} (h : s.isEmpty = false) :
    Check.nonEmptyText (.str s) = .valid s := by
  show (if s.isEmpty then Checked.fault .stringTooShort else .valid s) = .valid s
  rw [h]
  rfl

mutual

theorem ofJson_toJson : ∀ t : TypeRef, t.isValid = true → ofJson t.toJson = .valid t
  | mk base args, h => by
      rw [isValid, Bool.and_eq_true, Bool.not_eq_true'] at h
      have hbase : baseOf [("base", .str base), ("args", .arr (argsToJson args))]
          = .valid base := by
        rw [baseOf, if_pos rfl, nonEmptyText_valid h.1]
        rfl
      have hargs : argsMember [("base", .str base), ("args", .arr (argsToJson args))]
          = some (.valid args) := by
        simp [argsMember, argsOf, argsFrom_argsToJson args 0 h.2]
      rw [toJson, ofJson, hbase, hargs]
      rfl

theorem argsFrom_argsToJson :
    ∀ (ts : List TypeRef) (i : Nat), areValid ts = true → argsFrom i (argsToJson ts) = .valid ts
  | [], _, _ => rfl
  | t :: ts, i, h => by
      rw [areValid, Bool.and_eq_true] at h
      rw [argsToJson, argsFrom, ofJson_toJson t h.1, argsFrom_argsToJson ts (i + 1) h.2]
      rfl

end

theorem reads_toJson {t : TypeRef} (h : t.isValid = true) :
    Reads .same ofJson t.toJson t :=
  reads_same (ofJson_toJson t h)

theorem reads_optional_toJson {o : Option TypeRef} (h : ∀ t ∈ o, t.isValid = true) :
    Reads .same (Check.optional ofJson) (.ofOption toJson o) o :=
  reads_optional (fun t => by cases t; nofun) fun t ht => ofJson_toJson t (h t ht)

end TypeRef

namespace Property

/-- A property with its members under any of their names. -/
def respelling : Respelling :=
  .record [
    (["name"], .same),
    (["typeRef", "type_ref"], .same),
    (["required"], .same),
    (["description"], .same),
    (["validationRules", "validation_rules"], .same),
    (["example"], .same),
    (["deprecated"], .same),
    (["deprecationNotes", "deprecation_notes"], .same)]

theorem respelling_self (p : Property) : respelling p.toJson p.toJson :=
  Respelling.record_self (by simp [Respelling.same_self])

theorem reads_toJson {p : Property} (h : p.Valid) : Reads respelling ofJson p.toJson p := by
  refine reads_record (by decide) fun es found => ?_
  have hname := found.member 0 rfl rfl (reads_text p.name)
  have htype := found.memberOr 1 rfl rfl (TypeRef.reads_optional_toJson h) none
  have hrequired := found.memberOr 2 rfl rfl (reads_flag p.required) false
  have hdescription := found.memberOr 3 rfl rfl (reads_text p.description) ""
  have hrules := found.memberOr 4 rfl rfl (reads_object p.rules) ∅
  have hsample := found.memberOr 5 rfl rfl (reads_optionalText p.sample) none
  have hdeprecated := found.memberOr 6 rfl rfl (reads_flag p.deprecated) false
  have hnotes := found.memberOr 7 rfl rfl (reads_optionalText p.deprecationNotes) none
  rw [hname, htype, hrequired, hdescription, hrules, hsample, hdeprecated, hnotes]
  rfl

end Property

namespace Model

/-- A model with its members, and those of its properties, under any of their names. -/
def respelling : Respelling :=
  .record [
    (["name"], .same),
    (["description"], .same),
    (["fields"], .items Property.respelling),
    (["isInterface", "is_interface"], .same),
    (["isEnum", "is_enum"], .same),
    (["extendsList", "extends_list"], .same),
    (["implementsList", "implements_list"], .same),
    (["example"], .same),
    (["deprecated"], .same),
    (["deprecationNotes", "deprecation_notes"], .same),
    (["since"], .same),
    (["extensions"], .same)]

theorem respelling_self (m : Model) : respelling m.toJson m.toJson :=
  have hproperties := Respelling.items_self fun p (_ : p ∈ m.properties) => p.respelling_self
  Respelling.record_self (by simp [Respelling.same_self, hproperties])

theorem reads_toJson {m : Model} (h : m.Valid) : Reads respelling ofJson m.toJson m := by
  refine reads_record (by decide) fun es found => ?_
  have hname := found.member 0 rfl rfl (reads_text m.name)
  have hdescription := found.memberOr 1 rfl rfl (reads_text m.description) ""
  have hproperties := found.memberOr 2 rfl rfl
    (reads_items .listType fun p hp => Property.reads_toJson (h p hp)) []
  have hinterface := found.memberOr 3 rfl rfl (reads_flag m.isInterface) false
  have henum := found.memberOr 4 rfl rfl (reads_flag m.isEnum) false
  have hextended := found.memberOr 5 rfl rfl (reads_strings .listType m.extended) []
  have himplemented := found.memberOr 6 rfl rfl (reads_strings .listType m.implemented) []
  have hsample := found.memberOr 7 rfl rfl (reads_optionalText m.sample) none
  have hdeprecated := found.memberOr 8 rfl rfl (reads_flag m.deprecated) false
  have hnotes := found.memberOr 9 rfl rfl (reads_optionalText m.deprecationNotes) none
  have hsince := found.memberOr 10 rfl rfl (reads_optionalText m.since) none
  have hextensions := found.memberOr 11 rfl rfl (reads_object m.extensions) ∅
  rw [hname, hdescription, hproperties, hinterface, henum, hextended, himplemented, hsample,
    hdeprecated, hnotes, hsince, hextensions]
  rfl

end Model

theorem Place.reads_word (p : Place) : Reads .same (Check.oneOf Place.table) (.str p.word) p :=
  reads_same (by cases p <;> rfl)

theorem Injection.reads_word (i : Injection) :
    Reads .same (Check.oneOf Injection.table) (.str i.word) i :=
  reads_same (by cases i <;> rfl)

theorem Verb.reads_name (v : Verb) : Reads .same (Check.oneOf Verb.table) (.str v.name) v :=
  reads_same (by cases v <;> rfl)

namespace RequestParameter

/-- A request parameter with its members under any of their names. -/
def respelling : Respelling :=
  .record [
    (["name"], .same),
    (["in", "location"], .same),
    (["required"], .same),
    (["description"], .same),
    (["type"], .same)]

theorem respelling_self (p : RequestParameter) : respelling p.toJson p.toJson :=
  Respelling.record_self (by simp [Respelling.same_self])

theorem reads_toJson {p : RequestParameter} (h : p.type.isValid = true) :
    Reads respelling ofJson p.toJson p := by
  refine reads_record (by decide) fun es found => ?_
  have hname := found.member 0 rfl rfl (reads_text p.name)
  have hplace := found.member 1 rfl rfl p.place.reads_word
  have hrequired := found.member 2 rfl rfl (reads_flag p.required)
  have hdescription := found.memberOr 3 rfl rfl (reads_text p.description) ""
  have htype := found.member 4 rfl rfl (TypeRef.reads_toJson h)
  rw [hname, hplace, hrequired, hdescription, htype]
  rfl

end RequestParameter

namespace Dependency

/-- A dependency with its members under any of their names. -/
def respelling : Respelling :=
  .record [
    (["name"], .same),
    (["type"], .same),
    (["injectionType", "injection_type"], .same)]

theorem respelling_self (d : Dependency) : respelling d.toJson d.toJson :=
  Respelling.record_self (by simp [Respelling.same_self])

theorem reads_toJson (d : Dependency) : Reads respelling ofJson d.toJson d := by
  refine reads_record (by decide) fun es found => ?_
  have hname := found.member 0 rfl rfl (reads_text d.name)
  have htype := found.member 1 rfl rfl (reads_text d.type)
  have hinjection := found.member 2 rfl rfl d.injection.reads_word
  rw [hname, htype, hinjection]
  rfl

end Dependency

namespace Endpoint

/-- An endpoint with its members, and those of its parameters and dependencies, under any of
their names. -/
def respelling : Respelling :=
  .record [
    (["path"], .same),
    (["method"], .same),
    (["summary"], .same),
    (["description"], .same),
    (["tags"], .same),
    (["parameters"], .items RequestParameter.respelling),
    (["requestBodyType", "request_body_type"], .same),
    (["responseType", "response_type"], .same),
    (["controllerName", "controller_name"], .same),
    (["controllerPackage", "controller_package"], .same),
    (["dependencies"], .items Dependency.respelling),
    (["deprecated"], .same)]

theorem respelling_self (e : Endpoint) : respelling e.toJson e.toJson :=
  have hparameters := Respelling.items_self fun p (_ : p ∈ e.parameters) => p.respelling_self
  have hdependencies := Respelling.items_self fun d (_ : d ∈ e.dependencies) => d.respelling_self
  Respelling.record_self (by simp [Respelling.same_self, hparameters, hdependencies])

theorem reads_toJson {e : Endpoint} (h : e.Valid) : Reads respelling ofJson e.toJson e := by
  refine reads_record (by decide) fun es found => ?_
  have hpath := found.member 0 rfl rfl (reads_text e.path)
  have hverb := found.member 1 rfl rfl e.verb.reads_name
  have hsummary := found.memberOr 2 rfl rfl (reads_text e.summary) ""
  have hdescription := found.memberOr 3 rfl rfl (reads_text e.description) ""
  have htags := found.memberOr 4 rfl rfl (reads_strings .listType e.tags) []
  have hparameters := found.memberOr 5 rfl rfl
    (reads_items .listType fun p hp => RequestParameter.reads_toJson (h.parameters p hp)) []
  have hbody := found.memberOr 6 rfl rfl (TypeRef.reads_optional_toJson h.requestBody) none
  have hresponse := found.member 7 rfl rfl (TypeRef.reads_toJson h.response)
  have hcontroller := found.memberOr 8 rfl rfl (reads_text e.controllerName) ""
  have hscope := found.memberOr 9 rfl rfl (reads_text e.controllerScope) ""
  have hdependencies := found.memberOr 10 rfl rfl
    (reads_items .listType fun d _ => Dependency.reads_toJson d) []
  have hdeprecated := found.memberOr 11 rfl rfl (reads_flag e.deprecated) false
  rw [hpath, hverb, hsummary, hdescription, htags, hparameters, hbody, hresponse, hcontroller,
    hscope, hdependencies, hdeprecated]
  rfl

end Endpoint

namespace Catalog

/--
**Raw records read back.**  Each endpoint and each model of a catalog is read again from what
the raw document says of it, and from every other spelling of that.
-/
theorem reads_back {c : Catalog} (valid : c.Valid) (expressible : ∀ m ∈ c.models, m.Expressible) :
    ∃ endpoints models, c.toJson.get? "endpoints" = some (.arr endpoints) ∧
      c.toJson.get? "models" = some (.arr models) ∧
      List.Forall₂ (fun e v => Endpoint.ofJson v = .valid e ∧
        ∀ w, Endpoint.respelling v w → Endpoint.ofJson w = .valid e) c.endpoints endpoints ∧
      List.Forall₂ (fun m v => Model.ofJson v = .valid m ∧
        ∀ w, Model.respelling v w → Model.ofJson w = .valid m) c.models models := by
  refine ⟨_, _, rfl, rfl, ?_, ?_⟩
  · rw [List.forall₂_map_right_iff, List.forall₂_same]
    intro e he
    have hreads := Endpoint.reads_toJson (valid.endpoints e he)
    exact ⟨hreads _ e.respelling_self, hreads⟩
  · rw [List.forall₂_map_right_iff, List.forall₂_same]
    intro m hm
    have hreads := Model.reads_toJson (valid.models m hm)
    rw [Json.expressed_eq_self _ (Model.isExpressible_toJson (expressible m hm))]
    exact ⟨hreads _ m.respelling_self, hreads⟩

/-- An endpoint with a parameter, and a model with a generic property that has a rule. -/
def shelf : Catalog where
  endpoints := [{
    path := "/books", verb := .get, summary := "", description := "", tags := ["Books"],
    parameters := [⟨"shelf", .query, false, "", .mk "String" []⟩], requestBody := none,
    response := .mk "List" [.mk "Book" []], controllerName := "Books", controllerScope := "shop",
    dependencies := [⟨"books", "BookService", .field⟩], deprecated := false }]
  models := [{ Model.plain "Book" with
    properties := [{ Property.plain "marks" (some (.mk "Set" [.mk "String" []])) with
      rules := .ofList [("minimum", .float (.finite false 3 (-1)))] }] }]
  components := []

/-- The endpoint of `shelf`, in it and in its records some names in snake case. -/
def respelledEndpoint : Json :=
  let string : Json := .obj [("base", .str "String"), ("args", .arr [])]
  .obj [("path", .str "/books"), ("method", .str "GET"), ("summary", .str ""),
    ("description", .str ""), ("tags", .arr [.str "Books"]),
    ("parameters", .arr [.obj [("name", .str "shelf"), ("location", .str "query"),
      ("required", .bool false), ("description", .str ""), ("type", string)]]),
    ("requestBodyType", .null),
    ("response_type", .obj [("base", .str "List"),
      ("args", .arr [.obj [("base", .str "Book"), ("args", .arr [])]])]),
    ("controller_name", .str "Books"), ("controllerPackage", .str "shop"),
    ("dependencies", .arr [.obj [("name", .str "books"), ("type", .str "BookService"),
      ("injection_type", .str "field")]]),
    ("deprecated", .bool false)]

/-- The model of `shelf`, in it and in its property some names in snake case. -/
def respelledModel : Json :=
  let string : Json := .obj [("base", .str "String"), ("args", .arr [])]
  .obj [("name", .str "Book"), ("description", .str ""),
    ("fields", .arr [.obj [("name", .str "marks"),
      ("type_ref", .obj [("base", .str "Set"), ("args", .arr [string])]),
      ("required", .bool false), ("description", .str ""),
      ("validation_rules", .obj [("minimum", .float (.finite false 3 (-1)))]),
      ("example", .null), ("deprecated", .bool false), ("deprecationNotes", .null)]]),
    ("is_interface", .bool false), ("isEnum", .bool false), ("extends_list", .arr []),
    ("implementsList", .arr []), ("example", .null), ("deprecated", .bool false),
    ("deprecation_notes", .null), ("since", .null), ("extensions", .obj [])]

theorem reads_back_shelf :
    shelf.Valid ∧ (∀ m ∈ shelf.models, m.Expressible) ∧
      (∃ e ∈ shelf.endpoints, Endpoint.ofJson e.toJson = .valid e ∧
        Endpoint.ofJson respelledEndpoint = .valid e) ∧
      ∃ m ∈ shelf.models, Model.ofJson m.toJson = .valid m ∧
        Model.ofJson respelledModel = .valid m := by
  have hvalid : shelf.Valid := by
    refine ⟨List.forall_mem_singleton.mpr ⟨?_, ?_, rfl⟩, List.forall_mem_singleton.mpr ?_⟩
    · exact List.forall_mem_singleton.mpr rfl
    · nofun
    · exact List.forall_mem_singleton.mpr fun t ht => by cases ht; rfl
  have hexpressible : ∀ m ∈ shelf.models, m.Expressible := by
    refine List.forall_mem_singleton.mpr ⟨List.forall_mem_singleton.mpr ?_, nofun⟩
    exact List.forall_mem_singleton.mpr rfl
  obtain ⟨endpoints, models, hendpoints, hmodels, hread, hreadModels⟩ :=
    reads_back hvalid hexpressible
  cases hendpoints
  cases hmodels
  obtain ⟨hwritten, hrespelled⟩ := (List.forall₂_cons.mp hread).1
  obtain ⟨hwrittenModel, hrespelledModel⟩ := (List.forall₂_cons.mp hreadModels).1
  refine ⟨hvalid, hexpressible, ⟨_, List.mem_singleton_self _, hwritten, hrespelled _ ?_⟩,
    _, List.mem_singleton_self _, hwrittenModel, hrespelledModel _ ?_⟩
  · simp [respelledEndpoint, Respelling.record, Respelling.items, Respelling.same,
      Endpoint.respelling, RequestParameter.respelling, Dependency.respelling, Endpoint.toJson,
      RequestParameter.toJson, Dependency.toJson, TypeRef.toJson, TypeRef.argsToJson, Place.word,
      Verb.name, Injection.word, Json.strings, Json.ofOption]
  · have hentries : (OrderedMap.ofList [("minimum", Json.float (.finite false 3 (-1)))]).entries
        = [("minimum", Json.float (.finite false 3 (-1)))] := rfl
    have hnone : (∅ : OrderedMap String Json).entries = [] := rfl
    have hself : ∀ m ∈ shelf.models, m.toJson = m.toJson.expressed := fun m hm =>
      (Json.expressed_eq_self _ (Model.isExpressible_toJson (hexpressible m hm))).symm
    refine Eq.subst (motive := fun v => Model.respelling v respelledModel)
      (hself _ (List.mem_singleton_self _)) ?_
    simp [respelledModel, Respelling.record, Respelling.items, Respelling.same, Model.respelling,
      Property.respelling, Model.toJson, Model.plain, Property.toJson, Property.plain,
      TypeRef.toJson, TypeRef.argsToJson, Json.strings, Json.ofOption, hentries, hnone]

end Catalog

end ServiceAtlas
