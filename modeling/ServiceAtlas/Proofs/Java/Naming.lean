/-
The types of a source text are named.

A reader invents nothing: what it leaves is an end of the tokens that it was given, and a
name is the text of a word among them.  A word begins with a letter and goes on with what
names are made of, so no type that is read from a text has an empty name or one with dots.
-/
import ServiceAtlas.Java
import ServiceAtlas.Proofs.Nesting
import ServiceAtlas.Proofs.Java.Lexing

namespace ServiceAtlas.Java

namespace Reader

/-! ### Brackets

Every step takes tokens off, or hands those behind it to a reader above. -/

theorem behind_cons {rest ts : Tokens} (h : rest <:+ ts) (t : Token) : rest <:+ t :: ts :=
  h.trans (List.suffix_cons t ts)

theorem insideBrackets_suffix (depth : Nat) (ts : Tokens) : (insideBrackets depth ts).2 <:+ ts := by
  fun_induction insideBrackets depth ts with
  | case1 => exact List.suffix_rfl
  | case2 => exact List.suffix_cons ..
  | case3 t _ _ _ _ _ heq ih => exact behind_cons (by simpa [heq] using ih) t
  | case4 _ t _ _ _ _ heq ih => exact behind_cons (by simpa [heq] using ih) t

theorem afterBraces_suffix (depth : Nat) (ts : Tokens) : afterBraces depth ts <:+ ts := by
  fun_induction afterBraces depth ts with
  | case1 => exact List.suffix_rfl
  | case3 => exact List.suffix_cons ..
  | case2 _ t _ _ ih | case4 t _ _ _ _ ih | case5 _ t _ _ _ ih => exact behind_cons ih t

theorem afterAngles_suffix (depth : Nat) (ts : Tokens) : afterAngles depth ts <:+ ts := by
  fun_induction afterAngles depth ts with
  | case1 => exact List.suffix_rfl
  | case3 => exact List.suffix_cons ..
  | case2 _ t _ _ ih | case4 t _ _ _ _ ih | case5 _ t _ _ _ ih => exact behind_cons ih t

theorem afterExpression_suffix (depth skip : Nat) (ts : Tokens) :
    afterExpression depth skip ts <:+ ts := by
  fun_induction afterExpression depth skip ts with
  | case1 | case4 | case6 => exact List.suffix_rfl
  | case2 | case3 | case5 | case7 | case8 => exact behind_cons ‹_› _

theorem afterStatement_suffix (depth : Nat) (ts : Tokens) : afterStatement depth ts <:+ ts := by
  fun_induction afterStatement depth ts with
  | case1 | case5 => exact List.suffix_rfl
  | case2 => exact List.suffix_cons ..
  | case3 => exact behind_cons (afterBraces_suffix ..) _
  | case4 | case6 | case7 => exact behind_cons ‹_› _

theorem afterSemicolon_suffix (depth : Nat) (ts : Tokens) : afterSemicolon depth ts <:+ ts := by
  fun_induction afterSemicolon depth ts with
  | case1 | case4 => exact List.suffix_rfl
  | case2 => exact List.suffix_cons ..
  | case3 | case5 | case6 => exact behind_cons ‹_› _

/-! ### Annotations and modifiers -/

theorem afterQualifiedName_suffix (ts : Tokens) : afterQualifiedName ts <:+ ts := by
  fun_induction afterQualifiedName ts with
  | case1 _ _ _ _ ih => exact behind_cons (behind_cons ih _) _
  | case2 | case3 => exact List.suffix_rfl

theorem mark?_suffix {ts rest : Tokens} {m : MarkTree} (h : mark? ts = some (m, rest)) :
    rest <:+ ts := by
  rw [mark?.eq_def] at h
  split at h
  next at_ first more =>
    have hname := afterQualifiedName_suffix more
    have harguments := fun inner : Tokens => insideBrackets_suffix 0 inner
    apply behind_cons
    apply behind_cons
    grind [List.IsSuffix.trans, List.suffix_cons]
  next => cases h

theorem afterMarks_suffix (budget : Nat) (ts : Tokens) : afterMarks budget ts <:+ ts := by
  fun_induction afterMarks budget ts with
  | case1 | case3 => exact List.suffix_rfl
  | case2 _ _ _ _ hmark ih => exact ih.trans (mark?_suffix hmark)

theorem modifierWord?_suffix {ts rest : Tokens} {w : String} (h : modifierWord? ts = some (w, rest)) :
    rest <:+ ts := by
  rw [modifierWord?.eq_def] at h
  grind [List.IsSuffix.trans, List.suffix_cons]

theorem modifiers_suffix (budget : Nat) (ts : Tokens) : (modifiers budget ts).2 <:+ ts := by
  fun_induction modifiers budget ts with
  | case1 | case4 => exact List.suffix_rfl
  | case2 => grind [modifierWord?_suffix, List.IsSuffix.trans]
  | case3 => grind [mark?_suffix, List.IsSuffix.trans]

/-! ### Type trees -/

theorem afterDimensions_suffix (budget : Nat) (ts : Tokens) : afterDimensions budget ts <:+ ts := by
  fun_induction afterDimensions budget ts with
  | case1 | case3 | case4 => exact List.suffix_rfl
  | case2 budget ts opening closing rest hmarks _ ih =>
    have hmarked := afterMarks_suffix budget ts
    rw [hmarks] at hmarked
    exact (behind_cons (behind_cons ih _) _).trans hmarked

theorem dimensions_suffix (budget : Nat) (ts : Tokens) : (dimensions budget ts).2 <:+ ts :=
  afterDimensions_suffix budget ts

theorem types_suffix (budget : Nat) :
    (∀ {ts rest t}, type? budget ts = some (t, rest) → rest <:+ ts)
      ∧ (∀ {start ts rest t}, namedType? budget start ts = some (t, rest) → rest <:+ ts)
      ∧ (∀ {ts rest args}, typeArguments? budget ts = some (args, rest) → rest <:+ ts)
      ∧ (∀ {ts rest args}, typeArgumentList? budget ts = some (args, rest) → rest <:+ ts)
      ∧ (∀ {ts rest arg}, typeArgument? budget ts = some (arg, rest) → rest <:+ ts) := by
  induction budget with
  | zero => simp [type?, namedType?, typeArguments?, typeArgumentList?, typeArgument?]
  | succ budget ih =>
    obtain ⟨htype, hnamed, harguments, hlist, hargument⟩ := ih
    refine ⟨?_, ?_, ?_, ?_, ?_⟩
    · intro ts rest t h
      rw [type?] at h
      grind [afterMarks_suffix, dimensions_suffix, List.IsSuffix.trans]
    · intro start ts rest t h
      rw [namedType?.eq_def] at h
      grind [List.IsSuffix.trans, List.suffix_cons]
    · intro ts rest args h
      rw [typeArguments?.eq_def] at h
      grind [List.IsSuffix.trans, List.suffix_cons]
    · intro ts rest args h
      rw [typeArgumentList?.eq_def] at h
      grind [List.IsSuffix.trans, List.suffix_cons]
    · intro ts rest arg h
      rw [typeArgument?.eq_def] at h
      grind [afterMarks_suffix, List.IsSuffix.trans, List.suffix_cons]

theorem type?_suffix {budget : Nat} {ts rest : Tokens} {t : TypeTree}
    (h : type? budget ts = some (t, rest)) : rest <:+ ts :=
  (types_suffix budget).1 h

theorem typeList_suffix (budget : Nat) (ts : Tokens) : (typeList budget ts).2 <:+ ts := by
  fun_induction typeList budget ts with
  | case1 | case2 => exact List.suffix_rfl
  | case3 | case4 | case5 => grind [type?_suffix, List.IsSuffix.trans, List.suffix_cons]

/-! ### Members -/

theorem declarators_suffix (budget : Nat) (ts : Tokens) : (declarators budget ts).2 <:+ ts := by
  fun_induction declarators budget ts with
  | case1 | case2 => exact List.suffix_rfl
  | case7 => exact afterStatement_suffix ..
  | case3 | case4 | case5 | case6 =>
    grind [dimensions_suffix, afterExpression_suffix, List.IsSuffix.trans, List.suffix_cons]

theorem afterMethod_suffix (budget : Nat) (ts : Tokens) : afterMethod budget ts <:+ ts := by
  fun_induction afterMethod budget ts with
  | case1 | case2 | case7 => exact List.suffix_rfl
  | case3 => exact List.suffix_cons ..
  | case4 => exact behind_cons (afterBraces_suffix ..) _
  | case5 => exact behind_cons (afterSemicolon_suffix ..) _
  | case6 _ _ _ _ _ _ _ ih => exact behind_cons (ih.trans (insideBrackets_suffix ..)) _
  | case8 => exact behind_cons ‹_› _

theorem afterTypeParameters_suffix (budget : Nat) (ts : Tokens) :
    afterTypeParameters budget ts <:+ ts := by
  fun_cases afterTypeParameters budget ts with
  | case1 => exact behind_cons ((afterMarks_suffix ..).trans (afterAngles_suffix ..)) _
  | case2 | case3 => exact List.suffix_rfl

theorem supertypes_suffix (budget : Nat) (ts : Tokens) : (supertypes budget ts).2.2 <:+ ts := by
  fun_induction supertypes budget ts with
  | case1 | case2 | case3 => exact List.suffix_rfl
  | case4 | case5 | case6 => grind [typeList_suffix, List.IsSuffix.trans, List.suffix_cons]

theorem components_suffix (budget : Nat) (ts : Tokens) : (components budget ts).2 <:+ ts := by
  fun_cases components budget ts with
  | case1 => grind [insideBrackets_suffix, List.IsSuffix.trans, List.suffix_cons]
  | case2 | case3 => exact List.suffix_rfl

theorem head_suffix (budget : Nat) (comments : List String) (ms : List ModifierTree)
    (kind : TypeKind) (name : String) (ts : Tokens) :
    (head budget comments ms kind name ts).2 <:+ ts := by
  rw [head]
  grind [afterTypeParameters_suffix, supertypes_suffix, components_suffix, List.IsSuffix.trans]

theorem constants_suffix (budget : Nat) (pending : List String) (ts : Tokens) :
    (constants budget pending ts).2 <:+ ts := by
  fun_induction constants budget pending ts with
  | case1 | case2 | case3 => exact List.suffix_rfl
  | case4 => exact behind_cons ‹_› _
  | case5 budget pending t ts _ _ ms name inner _ arguments block more rest hmore hmodifiers ih =>
    have hname := modifiers_suffix budget (t :: ts)
    have harguments : arguments <:+ inner := by
      grind [insideBrackets_suffix, List.IsSuffix.trans, List.suffix_cons]
    have hblock : block <:+ arguments := by
      grind [afterBraces_suffix, List.IsSuffix.trans, List.suffix_cons]
    rw [hmore] at ih
    rw [hmodifiers] at hname
    exact ih.trans (hblock.trans (harguments.trans ((List.suffix_cons ..).trans hname)))
  | case6 budget pending t ts _ _ ms name inner _ hmodifiers ih =>
    have hname := modifiers_suffix budget (t :: ts)
    rw [hmodifiers] at hname
    exact ih.trans ((List.suffix_cons ..).trans hname)
  | case7 => exact List.nil_suffix

theorem plainMember_suffix (budget : Nat) (context : Option TypeKind) (comments : List String)
    (ms : List ModifierTree) (ts : Tokens) :
    (plainMember budget context comments ms ts).2 <:+ ts := by
  have hparameters := afterTypeParameters_suffix budget ts
  have hbody := fun inner : Tokens =>
    (afterMethod_suffix budget _).trans (insideBrackets_suffix 0 inner)
  fun_cases plainMember budget context comments ms ts with
  | case1 | case4 => exact List.nil_suffix
  | case2 | case6 => grind [afterBraces_suffix, List.IsSuffix.trans, List.suffix_cons]
  | case3 | case11 => grind [afterStatement_suffix, List.IsSuffix.trans, List.suffix_cons]
  | case5 => grind [List.IsSuffix.trans, List.suffix_cons]
  | case7 | case8 => grind [→ type?_suffix, List.IsSuffix.trans, List.suffix_cons]
  | case9 => grind [→ type?_suffix, declarators_suffix, List.IsSuffix.trans]
  | case10 => grind [→ type?_suffix, afterStatement_suffix, List.IsSuffix.trans]

theorem plainMember_typeName? (budget : Nat) (context : Option TypeKind) (comments : List String)
    (ms : List ModifierTree) (ts : Tokens) :
    (plainMember budget context comments ms ts).1.typeName? = none := by
  fun_cases plainMember budget context comments ms ts <;> rfl

theorem constants_typeName? (budget : Nat) (pending : List String) (ts : Tokens) :
    ∀ m ∈ (constants budget pending ts).1, m.typeName? = none := by
  fun_induction constants budget pending ts with
  | case5 budget pending t ts _ _ ms name inner _ arguments block more rest hmore hmodifiers ih =>
    rw [hmore] at ih
    exact List.forall_mem_cons.mpr ⟨rfl, ih⟩
  | case4 | case6 => assumption
  | case1 | case2 | case3 | case7 => exact fun m hm => absurd hm List.not_mem_nil

theorem declaredType?_suffix {ts rest : Tokens} {kind : TypeKind} {name : String}
    (h : declaredType? ts = some (kind, name, rest)) :
    rest <:+ ts ∧ ∃ t ∈ ts, t.kind = .word ∧ t.text = name := by
  rw [declaredType?.eq_def] at h
  split at h
  next first second more =>
    grind [List.IsSuffix.trans, List.suffix_cons]
  next => cases h

/-! ### Types -/

/-- The types among the members are named by words of the tokens. -/
def NamedIn (ts : Tokens) (ms : List Member) : Prop :=
  ∀ i, ∀ x ∈ sitesFrom i ms, ∃ t ∈ ts, t.kind = .word ∧ t.text = x.2.head.name

theorem NamedIn.mono {us ts : Tokens} {ms : List Member} (h : NamedIn us ms) (hus : us <:+ ts) :
    NamedIn ts ms := fun i x hx =>
  let ⟨t, ht, hname⟩ := h i x hx
  ⟨t, hus.mem ht, hname⟩

theorem NamedIn.nil (ts : Tokens) : NamedIn ts [] :=
  fun _ _ hx => absurd hx List.not_mem_nil

theorem NamedIn.cons {ts : Tokens} {m : Member} {ms : List Member} (hm : NamedIn ts [m])
    (hms : NamedIn ts ms) : NamedIn ts (m :: ms) := by
  intro i x hx
  rcases List.mem_append.mp hx with hx | hx
  · exact hm i x (List.mem_append_left _ hx)
  · exact hms (i + 1) x hx

theorem NamedIn.append {ts : Tokens} {ms ns : List Member} (hms : NamedIn ts ms)
    (hns : NamedIn ts ns) : NamedIn ts (ms ++ ns) := by
  intro i x hx
  rw [sitesFrom_append] at hx
  rcases List.mem_append.mp hx with hx | hx
  · exact hms i x hx
  · exact hns _ x hx

theorem NamedIn.plain {m : Member} (hm : m.typeName? = none) (ts : Tokens) : NamedIn ts [m] := by
  intro i x hx
  rw [sitesFrom_plain i hm] at hx
  exact absurd hx List.not_mem_nil

theorem NamedIn.all_plain {ms : List Member} (h : ∀ m ∈ ms, m.typeName? = none) (ts : Tokens) :
    NamedIn ts ms := by
  induction ms with
  | nil => exact .nil ts
  | cons m ms ih =>
      obtain ⟨hm, hms⟩ := List.forall_mem_cons.mp h
      exact .cons (.plain hm ts) (ih hms)

theorem NamedIn.type {ts : Tokens} {head : Head} {inside behind : List Member}
    (hname : ∃ t ∈ ts, t.kind = .word ∧ t.text = head.name) (hbody : NamedIn ts (inside ++ behind)) :
    NamedIn ts [.type head inside behind] := by
  intro i x hx
  rw [sitesFrom_type] at hx
  rcases List.mem_cons.mp hx with rfl | hx
  · exact hname
  · rcases List.mem_append.mp hx with hx | hx
    · obtain ⟨y, hy, rfl⟩ := List.mem_map.mp hx
      exact hbody 0 y hy
    · exact absurd hx List.not_mem_nil

/-- Types named by words of the tokens were read, and an end of the tokens is left. -/
structure Leaves (ts : Tokens) (ms : List Member) (rest : Tokens) : Prop where
  named : NamedIn ts ms
  behind : rest <:+ ts

theorem Leaves.mono {us ts rest : Tokens} {ms : List Member} (h : Leaves us ms rest)
    (hus : us <:+ ts) : Leaves ts ms rest :=
  ⟨h.named.mono hus, h.behind.trans hus⟩

theorem leaves_constants (budget : Nat) (pending : List String) (ts : Tokens) :
    Leaves ts (constants budget pending ts).1 (constants budget pending ts).2 :=
  ⟨.all_plain (constants_typeName? budget pending ts) ts, constants_suffix budget pending ts⟩

theorem leaves_plainMember (budget : Nat) (context : Option TypeKind) (comments : List String)
    (ms : List ModifierTree) (ts : Tokens) :
    Leaves ts [(plainMember budget context comments ms ts).1]
      (plainMember budget context comments ms ts).2 :=
  ⟨.plain (plainMember_typeName? ..) ts, plainMember_suffix ..⟩

section Step

variable {budget : Nat}
  (hmembers : ∀ context pending ts,
    Leaves ts (members budget context pending ts).1 (members budget context pending ts).2)

include hmembers

theorem leaves_members_succ
    (hmember : ∀ context comments ts,
      Leaves ts [(member budget context comments ts).1] (member budget context comments ts).2)
    (context : Option TypeKind) (pending : List String) (ts : Tokens) :
    Leaves ts (members (budget + 1) context pending ts).1
      (members (budget + 1) context pending ts).2 := by
  cases ts with
  | nil => exact ⟨.nil [], List.suffix_rfl⟩
  | cons t ts =>
      have hcons := List.suffix_cons t ts
      have hfirst := hmember context (pending ++ t.comments) (t :: ts)
      have hmore : ∀ {rest}, rest <:+ t :: ts → Leaves (t :: ts)
          ((member budget context (pending ++ t.comments) (t :: ts)).1
            :: (members budget context [] rest).1) (members budget context [] rest).2 := by
        intro rest hrest
        have hread := (hmembers context [] rest).mono hrest
        exact ⟨.cons hfirst.named hread.named, hread.behind⟩
      rw [members]
      split
      · split
        · exact ⟨.nil _, hcons⟩
        · exact (hmembers ..).mono hcons
      · split
        · exact (hmembers ..).mono hcons
        · refine hmore ?_
          -- A member that took nothing is given up with its first token.
          split
          · exact hfirst.behind
          · exact hcons

theorem leaves_body_succ (kind : TypeKind) (ts : Tokens) :
    Leaves ts ((body (budget + 1) kind ts).1 ++ (body (budget + 1) kind ts).2.1)
      (body (budget + 1) kind ts).2.2 := by
  rw [body]
  split
  · have hconstants := leaves_constants budget [] ts
    dsimp only
    split
    next separator rest hseparator =>
      rw [hseparator] at hconstants
      have hrest := (List.suffix_cons separator rest).trans hconstants.behind
      split
      · have hmore := (hmembers (some kind) [] rest).mono hrest
        exact ⟨hconstants.named.append hmore.named, hmore.behind⟩
      · exact ⟨hconstants.named.append (.nil ts), hrest⟩
    next => exact ⟨hconstants.named.append (.nil ts), List.nil_suffix⟩
  · have hread := hmembers (some kind) [] ts
    exact ⟨hread.named.append (.nil ts), hread.behind⟩

end Step

theorem leaves_member_succ {budget : Nat}
    (hbody : ∀ kind ts,
      Leaves ts ((body budget kind ts).1 ++ (body budget kind ts).2.1) (body budget kind ts).2.2)
    (context : Option TypeKind) (comments : List String) (ts : Tokens) :
    Leaves ts [(member (budget + 1) context comments ts).1]
      (member (budget + 1) context comments ts).2 := by
  have hmodifiers := modifiers_suffix budget ts
  rw [member]
  dsimp only
  split
  next kind name more htype =>
    have hhead := head_suffix budget comments (modifiers budget ts).1 kind name more
    obtain ⟨hmore, t, ht, hname⟩ := declaredType?_suffix htype
    have hnamed : ∃ t ∈ ts, t.kind = .word ∧ t.text = name := ⟨t, hmodifiers.mem ht, hname⟩
    have hrest := (hhead.trans hmore).trans hmodifiers
    split
    next opening inner hopening =>
      rw [hopening] at hrest
      split
      · have hread := (hbody kind inner).mono ((List.suffix_cons opening inner).trans hrest)
        exact ⟨.type hnamed hread.named, hread.behind⟩
      · exact ⟨.type hnamed (.nil ts), hrest⟩
    next => exact ⟨.type hnamed (.nil ts), List.nil_suffix⟩
  next => exact (leaves_plainMember ..).mono hmodifiers

theorem leaves_members (budget : Nat) :
    (∀ context pending ts, Leaves ts (members budget context pending ts).1
        (members budget context pending ts).2)
      ∧ (∀ context comments ts, Leaves ts [(member budget context comments ts).1]
        (member budget context comments ts).2)
      ∧ (∀ kind ts, Leaves ts ((body budget kind ts).1 ++ (body budget kind ts).2.1)
        (body budget kind ts).2.2) := by
  induction budget with
  | zero =>
    exact ⟨fun _ _ ts => ⟨.nil ts, List.suffix_rfl⟩, fun _ _ ts => ⟨.plain rfl ts, List.suffix_rfl⟩,
      fun _ ts => ⟨.nil ts, List.suffix_rfl⟩⟩
  | succ budget ih =>
    obtain ⟨hmembers, hmember, hbody⟩ := ih
    exact ⟨leaves_members_succ hmembers hmember, leaves_member_succ hbody,
      leaves_body_succ hmembers⟩

end Reader

open Text

/-! ### Units of source texts -/

/-- A word is cut from a text where a name begins, and as far as it goes. -/
theorem isName_of_lexeme? {cs text rest : List Char} (h : lexeme? cs = some (.word, text, rest)) :
    isName text = true := by
  rw [lexeme?.eq_def] at h
  split at h
  next => cases h
  next => cases h
  next c cs _ =>
    split at h
    next => cases h
    next =>
      split at h
      next hstart =>
        cases h
        rw [isName, hstart, Bool.true_and]
        exact List.all_takeWhile
      next => split at h <;> cases h

theorem isName_of_mem_tokens {cs : List Char} :
    ∀ t ∈ tokens cs, t.kind = .word → isName t.text.toList = true := by
  have hfirst : ∀ {gaps kind cs} {text rest : List Char}, lexeme? cs = some (kind, text, rest) →
      (Token.mk gaps kind (String.ofList text)).kind = .word →
        isName (Token.mk gaps kind (String.ofList text)).text.toList = true := by
    rintro gaps _ cs text rest h rfl
    simpa using isName_of_lexeme? h
  fun_induction tokens cs with
  | case1 => exact fun t ht => absurd ht List.not_mem_nil
  | case2 cs gs rest hgaps kind text more hlexeme token hlt ih =>
    exact List.forall_mem_cons.mpr ⟨hfirst hlexeme, ih⟩
  | case3 cs gs rest hgaps kind text more hlexeme token hlt =>
    exact List.forall_mem_singleton.mpr (hfirst hlexeme)

theorem undotted_of_isName {name : String} (h : isName name.toList = true) : Undotted name := by
  constructor
  · rintro rfl
    exact absurd h (by decide)
  · exact fun hdot => absurd (isNamePart_of_isName h '.' hdot) (by decide)

/-- **The types of a source text have names without dots.** -/
theorem unit_named (source : List Char) : (unit source).Named := by
  intro x hx
  obtain ⟨t, ht, hword, hname⟩ :=
    ((Reader.leaves_members _).1 none [] (tokens (withoutOrderMark source))).named 0 x hx
  rw [← hname]
  exact undotted_of_isName (isName_of_mem_tokens t ht hword)

end ServiceAtlas.Java
