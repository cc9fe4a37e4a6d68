/-
Infrastructure yields no models, at any depth.

A scope that contains an infrastructure word keeps it when further names are added.  That is
not plain, as the lower case of a text is not made of the lower cases of its parts: a capital
sigma at the end of one part is final there and need not be so in the whole.  But it is the
sigma alone whose lower case depends on its surroundings, and where both small sigmas count
as one, lower case is taken character by character.  Words without a sigma occur in a text
as they occur in this coarser image of it.
-/
import Mathlib.Data.List.Infix
import ServiceAtlas.Proofs.Catalog
import ServiceAtlas.Proofs.Nesting

namespace ServiceAtlas

namespace Text

/-! ### Lower case of a text and its parts -/

/-- The small sigma for the final form of it, and any other character itself. -/
def unfinal (c : Char) : Char :=
  if c = 'ς' then 'σ' else c

/-- The small sigma does not occur, in either form. -/
def Sigmaless (cs : List Char) : Prop :=
  'σ' ∉ cs ∧ 'ς' ∉ cs

instance (cs : List Char) : Decidable (Sigmaless cs) :=
  inferInstanceAs (Decidable (_ ∧ _))

theorem lowerChar_sigma {c : Char} (h : c.toNat = 0x3A3) : lowerChar c = ['σ'] := by
  obtain rfl : c = 'Σ' := Char.toNat_inj.mp h
  decide

/-- Up to the final form of sigma, lower case does not depend on what stands around. -/
theorem map_unfinal_lowerAfter (cs : List Char) :
    ∀ before, (lowerAfter before cs).map unfinal
      = cs.flatMap fun c => (lowerChar c).map unfinal := by
  induction cs with
  | nil => exact fun _ => rfl
  | cons c cs ih =>
      intro before
      rw [lowerAfter, List.map_append, ih, List.flatMap_cons]
      congr 1
      split
      · rename_i h
        rw [lowerChar_sigma h.1]
        decide
      · rfl

theorem map_unfinal_lower_append (as bs : List Char) :
    (lower (as ++ bs)).map unfinal = (lower as).map unfinal ++ (lower bs).map unfinal := by
  simp only [lower, map_unfinal_lowerAfter, List.flatMap_append]

theorem occursIn_iff (p : List Char) : ∀ cs, occursIn p cs = true ↔ p <:+: cs
  | [] => by simp [occursIn]
  | c :: cs => by
      rw [occursIn, Bool.or_eq_true, List.isPrefixOf_iff_prefix, occursIn_iff p cs,
        List.infix_cons_iff]

theorem Sigmaless.map_unfinal {cs ds : List Char} (h : Sigmaless cs)
    (hds : ds.map unfinal = cs) : ds = cs := by
  subst hds
  refine (List.map_id ds).symm.trans (List.map_congr_left fun c hc => ?_)
  rw [id, unfinal, if_neg]
  rintro rfl
  exact h.1 (List.mem_map.mpr ⟨'ς', hc, rfl⟩)

/-- Words without a sigma do not tell the two forms of it apart. -/
theorem Sigmaless.infix_map_unfinal {p : List Char} (hp : Sigmaless p) (cs : List Char) :
    p <:+: cs.map unfinal ↔ p <:+: cs := by
  constructor
  · rintro ⟨before, behind, h⟩
    obtain ⟨front, behind', rfl, hfront, -⟩ := List.map_eq_append_iff.mp h.symm
    obtain ⟨before', p', rfl, -, hp'⟩ := List.map_eq_append_iff.mp hfront
    exact ⟨before', behind', by rw [hp.map_unfinal hp']⟩
  · intro h
    have hself : p.map unfinal = p := by
      refine (List.map_congr_left fun c hc => ?_).trans (List.map_id p)
      rw [unfinal, if_neg (fun heq : c = 'ς' => hp.2 (heq ▸ hc)), id]
    exact hself ▸ h.map unfinal

theorem occursIn_lower_append {p as : List Char} (hp : Sigmaless p)
    (h : occursIn p (lower as) = true) (bs : List Char) :
    occursIn p (lower (as ++ bs)) = true := by
  rw [occursIn_iff] at h ⊢
  rw [← hp.infix_map_unfinal, map_unfinal_lower_append]
  exact List.infix_append_of_infix_left ((hp.infix_map_unfinal _).mpr h)

/-- One of the words occurs in the text, without regard to case. -/
def mentions (words : List String) (text : String) : Bool :=
  words.any fun word => occursIn (lower word.toList) (lower text.toList)

theorem mentions_append {words : List String}
    (hwords : ∀ w ∈ words, Sigmaless (lower w.toList)) {s : String}
    (h : mentions words s = true) (t : String) : mentions words (s ++ t) = true := by
  obtain ⟨w, hw, hoccurs⟩ := List.any_eq_true.mp h
  refine List.any_eq_true.mpr ⟨w, hw, ?_⟩
  rw [String.toList_append]
  exact occursIn_lower_append (hwords w hw) hoccurs _

end Text

theorem Heuristics.sigmaless_standard :
    ∀ w ∈ standard.infrastructureWords, Text.Sigmaless (Text.lower w.toList) := by
  decide

/-! ### Scopes of nested types -/

theorem exists_qualify_append (scope name : String) :
    ∃ rest, qualify scope name = scope ++ rest := by
  by_cases hs : scope = ""
  · exact ⟨name, by rw [hs, qualify_empty, String.empty_append]⟩
  · exact ⟨"." ++ name, by rw [qualify_of_ne_empty hs, String.append_assoc]⟩

theorem exists_foldl_qualify_append (names : List String) :
    ∀ scope, ∃ rest, names.foldl qualify scope = scope ++ rest := by
  induction names with
  | nil => exact fun scope => ⟨"", by rw [List.foldl_nil, String.append_empty]⟩
  | cons n names ih =>
      intro scope
      obtain ⟨front, hfront⟩ := exists_qualify_append scope n
      obtain ⟨rest, hrest⟩ := ih (qualify scope n)
      exact ⟨front ++ rest, by rw [List.foldl_cons, hrest, hfront, String.append_assoc]⟩

namespace Java

/-- A type further down has the same enclosing types and perhaps more. -/
theorem enclosing_prefix {p : Place} :
    ∀ {ms : List Member} {q : Place} {s t : Site}, p <+: q →
      siteAmong? ms p = some s → siteAmong? ms q = some t → s.enclosing <+: t.enclosing := by
  induction p with
  | nil => intro ms q s t _ hs; cases hs
  | cons i p ih =>
      intro ms q s t hpq hps hqt
      obtain ⟨rest, rfl⟩ := hpq
      obtain ⟨head, body, behind, hi, hs⟩ := siteAmong?_eq_some.mp hps
      obtain ⟨head', body', behind', hj, ht⟩ := siteAmong?_eq_some.mp hqt
      obtain ⟨rfl, rfl, rfl⟩ := Member.type.inj (Option.some.inj (hi.symm.trans hj))
      rcases hs with ⟨rfl, rfl⟩ | ⟨s, hs, rfl⟩
      · exact List.nil_prefix
      · rcases ht with ⟨hnil, -⟩ | ⟨t, ht, rfl⟩
        · obtain ⟨rfl, -⟩ := List.append_eq_nil_iff.mp hnil
          cases hs
        · exact List.cons_prefix_cons.mpr ⟨rfl, ih (List.prefix_append p rest) hs ht⟩

namespace CompilationUnit

/-- The declaration of the type at a place. -/
def declarationAt? (u : CompilationUnit) (origin : String) (p : Place) : Option Declaration :=
  (u.siteAt? p).map (Site.declaration u.packageName origin)

/-- The declarations of a unit without those at a place or below it. -/
def declarationsOutside (u : CompilationUnit) (origin : String) (p : Place) :
    List Declaration :=
  (u.sites.filter fun x => !p.isPrefixOf x.1).map fun x => x.2.declaration u.packageName origin

variable {u : CompilationUnit} {origin : String} {p q : Place} {d e : Declaration}

theorem exists_scope_of_package (hd : u.declarationAt? origin p = some d) :
    ∃ rest, d.scope = u.packageName ++ rest := by
  obtain ⟨s, -, rfl⟩ := Option.map_eq_some_iff.mp hd
  exact exists_foldl_qualify_append s.enclosing u.packageName

theorem exists_scope_of_nested (hd : u.declarationAt? origin p = some d)
    (he : u.declarationAt? origin q = some e) (hpq : p <+: q) :
    ∃ rest, e.scope = d.scope ++ rest := by
  obtain ⟨s, hs, rfl⟩ := Option.map_eq_some_iff.mp hd
  obtain ⟨t, ht, rfl⟩ := Option.map_eq_some_iff.mp he
  obtain ⟨names, hnames⟩ := enclosing_prefix hpq hs ht
  obtain ⟨rest, hrest⟩ :=
    exists_foldl_qualify_append names (s.enclosing.foldl qualify u.packageName)
  rw [← List.foldl_append, hnames] at hrest
  exact ⟨rest, hrest⟩

end CompilationUnit

end Java

/-! ### Findings without models -/

namespace Declaration

variable {h : Heuristics} {d : Declaration}

theorem role_of_inInfrastructure (hin : d.inInfrastructure h = true) :
    d.role h = if d.isController h then .controller else .skip := by
  have hmodel : d.isModel h = false := by simp [isModel, hin]
  rw [role, hmodel]
  rfl

theorem isModelInterface_of_inInfrastructure (hin : d.inInfrastructure h = true) :
    d.isModelInterface h = false := by
  simp [isModelInterface, hin]

end Declaration

namespace Survey

variable {h : Heuristics} {effects : EffectTable}

/-- There are neither models among the findings nor interfaces to read models from. -/
def Findings.Modelless (f : Findings) : Prop :=
  f.models = [] ∧ f.interfaces = []

/-- The declaration is read without error only if it gives no models. -/
def GivesNoModels (h : Heuristics) (effects : EffectTable) (d : Declaration) : Prop :=
  ∀ f ns, findings h effects d = .ok (f, ns) → f.Modelless

theorem givesNoModels_of_inInfrastructure {d : Declaration} (hin : d.inInfrastructure h = true) :
    GivesNoModels h effects d := by
  intro f ns hf
  rw [findings, Declaration.role_of_inInfrastructure hin] at hf
  split at hf
  · rename_i hrole
    split at hrole <;> cases hrole
  · obtain ⟨es, before, after, -, hes, -⟩ := bind_eq_ok hf
    cases hes
    exact ⟨rfl, rfl⟩
  · obtain ⟨es, before, after, -, hes, -⟩ := bind_eq_ok hf
    rw [Declaration.isModelInterface_of_inInfrastructure hin] at hes
    cases hes
    exact ⟨rfl, rfl⟩

section Filtering

variable {α : Type} {declaration : α → Declaration} {keep : α → Bool}

/-- Declarations that give no models can be left out without a change of the models. -/
theorem allFindings_filter {xs : List α}
    (hdrop : ∀ x ∈ xs, keep x = false → GivesNoModels h effects (declaration x)) :
    ∀ f ns, allFindings h effects (xs.map declaration) = .ok (f, ns) →
      ∃ f' ns', allFindings h effects ((xs.filter keep).map declaration) = .ok (f', ns') ∧
        f'.models = f.models ∧ f'.interfaces = f.interfaces := by
  induction xs with
  | nil => intro f ns hf; exact ⟨f, ns, hf, rfl, rfl⟩
  | cons x xs ih =>
      intro f ns hf
      obtain ⟨first, before, after, hfirst, hmore, -⟩ := bind_eq_ok hf
      obtain ⟨rest, between, behind, hrest, hdone, -⟩ := bind_eq_ok hmore
      cases hdone
      obtain ⟨rest', ns', hrest', hmodels, hinterfaces⟩ :=
        ih (fun y hy => hdrop y (List.mem_cons_of_mem _ hy)) rest between hrest
      cases hkeep : keep x with
      | true =>
          rw [List.filter_cons_of_pos hkeep]
          refine ⟨_, _, bind_ok hfirst (bind_ok hrest' rfl), ?_, ?_⟩
          · exact congrArg (first.models ++ ·) hmodels
          · exact congrArg (first.interfaces ++ ·) hinterfaces
      | false =>
          obtain ⟨hnone, hnone'⟩ := hdrop x List.mem_cons_self hkeep first before hfirst
          rw [List.filter_cons_of_neg (by simp [hkeep])]
          refine ⟨rest', ns', hrest', ?_, ?_⟩
          · rw [Findings.append, hnone, List.nil_append, hmodels]
          · rw [Findings.append, hnone', List.nil_append, hinterfaces]

/-- The models of a catalog are those found, and then those of the interfaces found. -/
theorem catalog_models {ds : List Declaration} {c : Catalog} {ns : List Notice}
    (hc : catalog h effects ds = .ok (c, ns)) :
    ∃ f before mined between, allFindings h effects ds = .ok (f, before) ∧
      each (interfaceModel effects) f.interfaces = .ok (mined, between) ∧
      c.models = f.models ++ mined := by
  obtain ⟨f, before, _, hf, hc, -⟩ := bind_eq_ok hc
  obtain ⟨mined, between, _, hmined, hc, -⟩ := bind_eq_ok hc
  obtain ⟨_, _, _, -, hc, -⟩ := bind_eq_ok hc
  obtain ⟨_, _, _, -, hc, -⟩ := bind_eq_ok hc
  refine ⟨f, before, mined, between, hf, hmined, ?_⟩
  cases hc
  rw [Catalog.foldl_addComponent]

theorem catalog_filter {xs : List α}
    (hdrop : ∀ x ∈ xs, keep x = false → GivesNoModels h effects (declaration x))
    {c : Catalog} {ns : List Notice} (hc : catalog h effects (xs.map declaration) = .ok (c, ns)) :
    ∃ c' ns', catalog h effects ((xs.filter keep).map declaration) = .ok (c', ns') ∧
      c'.models = c.models := by
  obtain ⟨f, before, mined, between, hf, hmined, hmodels⟩ := catalog_models hc
  obtain ⟨f', before', hf', hmodels', hinterfaces'⟩ := allFindings_filter hdrop f before hf
  rw [← hinterfaces'] at hmined
  refine ⟨_, _, bind_ok hf' (bind_ok hmined (bind_ok rfl (bind_ok rfl rfl))), ?_⟩
  rw [Catalog.foldl_addComponent, hmodels, hmodels']

end Filtering

end Survey

namespace Java.CompilationUnit

variable {u : CompilationUnit} {origin : String} {p q : Place} {d e : Declaration}
variable {h : Heuristics}

theorem inInfrastructure_of_nested
    (hwords : h.infrastructureWords = Heuristics.standard.infrastructureWords)
    (hd : u.declarationAt? origin p = some d)
    (hin : Text.mentions h.infrastructureWords u.packageName = true
      ∨ Text.mentions h.infrastructureWords d.scope = true)
    (hpq : p <+: q) (he : u.declarationAt? origin q = some e) :
    e.inInfrastructure h = true := by
  have hsigmaless := Heuristics.sigmaless_standard
  rw [← hwords] at hsigmaless
  show Text.mentions h.infrastructureWords e.scope = true
  rcases hin with hpackage | hscope
  · obtain ⟨rest, hrest⟩ := exists_scope_of_package he
    exact hrest ▸ Text.mentions_append hsigmaless hpackage rest
  · obtain ⟨rest, hrest⟩ := exists_scope_of_nested hd he hpq
    exact hrest ▸ Text.mentions_append hsigmaless hscope rest

/--
**Infrastructure never yields models, at any depth.**  If the package of a declaration or
its scope contains one of the usual infrastructure words, then the declaration and those
nested in it are controllers or nothing, whatever the other rules are, and no interfaces to
be read as models.  Reading them gives endpoints at most: a catalog of the unit has the
models that it has without them.
-/
theorem infrastructure_without_models (u : CompilationUnit) (origin : String) {h : Heuristics}
    (effects : EffectTable)
    (hwords : h.infrastructureWords = Heuristics.standard.infrastructureWords) {p : Place}
    {d : Declaration} (hd : u.declarationAt? origin p = some d)
    (hin : Text.mentions h.infrastructureWords u.packageName = true
      ∨ Text.mentions h.infrastructureWords d.scope = true) :
    (∀ q e, p <+: q → u.declarationAt? origin q = some e →
      (e.role h = if e.isController h then .controller else .skip)
        ∧ e.isModelInterface h = false
        ∧ ∀ f ns, Survey.findings h effects e = .ok (f, ns) → f.models = [] ∧ f.interfaces = [])
      ∧ ∀ c ns, Survey.catalog h effects (u.declarations origin) = .ok (c, ns) →
        ∃ c' ns', Survey.catalog h effects (u.declarationsOutside origin p) = .ok (c', ns')
          ∧ c'.models = c.models := by
  constructor
  · intro q e hpq he
    have hinfra := inInfrastructure_of_nested hwords hd hin hpq he
    exact ⟨e.role_of_inInfrastructure hinfra, e.isModelInterface_of_inInfrastructure hinfra,
      Survey.givesNoModels_of_inInfrastructure hinfra⟩
  · intro c ns hc
    rw [declarations_eq] at hc
    refine Survey.catalog_filter (fun x hx hkeep => ?_) hc
    have hprefix : p <+: x.1 := by
      simpa [List.isPrefixOf_iff_prefix] using hkeep
    refine Survey.givesNoModels_of_inInfrastructure
      (inInfrastructure_of_nested hwords hd hin hprefix ?_)
    exact Option.map_eq_some_iff.mpr ⟨x.2, mem_sitesFrom.mp hx, rfl⟩

/-- A service class whose name ends in a capital sigma, with types in it that would be models
elsewhere. -/
def serviceWithNested : CompilationUnit :=
  let head (kind : TypeKind) (name : String) (marks : List String) : Head :=
    ⟨[], marks.map fun m => .mark ⟨m, []⟩, kind, name, none, [], []⟩
  { package := "shop.model"
    members := [
      .type (head .plainClass "OrderSERVICEΣ" []) [
        .type (head .plainClass "Order" ["Entity"]) [
          .type (head .enumeration "State" []) [] [],
          .type (head .interface "View" ["Schema"]) [] [],
          .type (head .plainClass "Api" ["RestController"]) [] []] []] [],
      .type (head .record "Customer" []) [] []] }

theorem infrastructure_without_models_nested :
    let order : Declaration := (serviceWithNested.declarationAt? "" [0, 0]).getD default
    let api : Declaration := (serviceWithNested.declarationAt? "" [0, 0, 2]).getD default
    order.scope = "shop.model.OrderSERVICEΣ" ∧ api.scope = "shop.model.OrderSERVICEΣ.Order"
      ∧ Text.mentions Heuristics.standard.infrastructureWords order.scope = true
      ∧ api.role .standard = .controller
      ∧ order.role .standard = .skip := by
  intro order api
  have hd : serviceWithNested.declarationAt? "" [0, 0] = some order := rfl
  have hin : Text.mentions Heuristics.standard.infrastructureWords order.scope = true := by
    decide
  obtain ⟨hroles, -⟩ :=
    infrastructure_without_models serviceWithNested "" .standard rfl hd (.inr hin)
  refine ⟨by decide, by decide, hin, ?_, ?_⟩
  · exact (hroles [0, 0, 2] api (by decide) rfl).1.trans (by decide)
  · exact (hroles [0, 0] order (by decide) rfl).1.trans (by decide)

end Java.CompilationUnit

end ServiceAtlas
