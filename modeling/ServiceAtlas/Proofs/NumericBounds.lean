/-
Numeric bounds are stored as the nearest binary numbers.

The value of a bound is source text.  However an integer is written there, with underscores
between its digits, with the suffix of a long or as a string, what is left when all that is taken
away is the integer in decimal notation, and reading that rounds the integer once.  A significand
has fewer bits than a long, so of the integers beyond `2 ^ 53` only those are kept whose further
bits are zero.
-/
import Mathlib.Data.List.Basic
import ServiceAtlas.Proofs.Literal
import ServiceAtlas.Proofs.Overwriting
import ServiceAtlas.Proofs.Rounding
import ServiceAtlas.Proofs.Trimming

namespace ServiceAtlas

open Text

/-! ### Digits -/

namespace Text

theorem digitValue?_of_isDigit {c : Char} (h : c.isDigit = true) :
    digitValue? c = some (c.toNat - 48) := by
  have hdigit : isAsciiDigit c = true := h
  rw [digitValue?, if_pos hdigit]

theorem toNat_of_isDigit {c : Char} (h : c.isDigit = true) : 48 ≤ c.toNat ∧ c.toNat ≤ 57 := by
  simp only [Char.isDigit, Bool.and_eq_true, decide_eq_true_eq] at h
  exact h

theorem toLower_of_isDigit {c : Char} (h : c.isDigit = true) : c.toLower = c := by
  have hrange := toNat_of_isDigit h
  refine dif_neg fun hupper => ?_
  have hlow : 65 ≤ c.toNat := hupper.1
  omega

theorem isBlank_of_isDigit {c : Char} (h : c.isDigit = true) : isBlank c = false := by
  have hrange := toNat_of_isDigit h
  simp only [isBlank, Bool.or_eq_false_iff, Bool.and_eq_false_iff, decide_eq_false_iff_not,
    beq_eq_false_iff_ne]
  omega

end Text

theorem Literal.tight_of_forall {cs : List Char} (hne : cs ≠ []) (h : ∀ c ∈ cs, isBlank c = false) :
    Tight cs where
  ne_nil := hne
  head := by
    obtain ⟨c, rest, rfl⟩ := List.exists_cons_of_ne_nil hne
    exact h c List.mem_cons_self
  last := by
    rw [List.getLast?_eq_getLast_of_ne_nil hne]
    exact h _ (List.getLast_mem hne)

namespace Numeral

variable {ds : List Char}

theorem leadingDigits_of_isDigit (h : ∀ c ∈ ds, c.isDigit = true) :
    leadingDigits ds = (ds.map fun c => c.toNat - 48, []) := by
  induction ds with
  | nil => rfl
  | cons c cs ih =>
      rw [List.forall_mem_cons] at h
      rw [leadingDigits, digitValue?_of_isDigit h.1, ih h.2]
      rfl

theorem ofDigits_map (ds : List Char) :
    ofDigits (ds.map fun c => c.toNat - 48) = Nat.ofDigitChars 10 ds 0 := by
  rw [ofDigits, List.foldl_map]
  rfl

theorem isDigit_of_mem {n : Nat} : ∀ c ∈ Nat.toDigits 10 n, c.isDigit = true :=
  fun _ hc => Nat.isDigit_of_mem_toDigits (by decide) (by decide) hc

section Digits

variable (h : ∀ c ∈ ds, c.isDigit = true)

include h

/-- A text of digits is no word. -/
theorem map_toLower_ne {c : Char} (hc : c.isDigit = false) (cs : List Char) :
    ds.map Char.toLower ≠ c :: cs := by
  intro heq
  obtain ⟨d, hd, hlower⟩ := List.mem_map.mp (heq ▸ List.mem_cons_self : c ∈ ds.map Char.toLower)
  rw [toLower_of_isDigit (h d hd)] at hlower
  rw [← hlower, h d hd] at hc
  cases hc

theorem takeSign_of_isDigit : takeSign ds = (false, ds) := by
  unfold takeSign
  split
  · exact absurd (h '-' List.mem_cons_self) (by decide)
  · exact absurd (h '+' List.mem_cons_self) (by decide)
  · rfl

theorem unsignedReal?_of_isDigit (hne : ds ≠ []) (negative : Bool) :
    unsignedReal? negative ds = some (.ofScientific negative (Nat.ofDigitChars 10 ds 0) 0) := by
  obtain ⟨c, cs, rfl⟩ := List.exists_cons_of_ne_nil hne
  have hmantissa : mantissa (c :: cs) = ((c :: cs).map fun c => c.toNat - 48, [], []) := by
    rw [mantissa, leadingDigits_of_isDigit h]
  have hexponent : exponent? [] = some 0 := rfl
  have hinf : ¬((c :: cs).map Char.toLower = "inf".toList ∨
      (c :: cs).map Char.toLower = "infinity".toList) := by
    rintro (hword | hword)
    all_goals exact map_toLower_ne h (by decide) _ hword
  have hnan : (c :: cs).map Char.toLower ≠ "nan".toList := map_toLower_ne h (by decide) _
  rw [unsignedReal?, if_neg hinf, if_neg hnan, hmantissa, List.map_cons]
  dsimp only
  rw [hexponent, Option.map_some, List.append_nil,
    ← List.map_cons (f := fun c : Char => c.toNat - 48), ofDigits_map]
  rfl

end Digits

/-- With no exponent the digits are rounded as they are, unless there are very many. -/
theorem ofScientific_zero (negative : Bool) {n : Nat} (h : Binary64.decimalLength n ≤ 400) :
    Binary64.ofScientific negative n 0 = .ofRatio negative n 1 := by
  by_cases hzero : n = 0
  · rw [hzero]
    rfl
  rw [Binary64.ofScientific, if_neg hzero]
  dsimp only
  rw [if_neg (by omega), if_neg (by omega), if_pos le_rfl]
  rw [Int.toNat_zero, Nat.pow_eq, Nat.pow_zero, Nat.mul_one]

/-- Digits behind a sign have no blanks. -/
theorem tight_signed (sign : List Char) (hsign : ∀ c ∈ sign, c = '-' ∨ c = '+') (k : Nat) :
    Literal.Tight (sign ++ Nat.toDigits 10 k) := by
  refine Literal.tight_of_forall (List.append_ne_nil_of_right_ne_nil _ Nat.toDigits_ne_nil) ?_
  intro c hc
  obtain hc | hc := List.mem_append.mp hc
  · obtain rfl | rfl := hsign c hc
    all_goals decide
  · exact isBlank_of_isDigit (isDigit_of_mem c hc)

theorem tight_integerText (n : ℤ) : Literal.Tight (integerText n) := by
  unfold integerText
  split
  · exact tight_signed ['-'] (by simp) n.natAbs
  · exact tight_signed [] (by simp) n.natAbs

/-- What can stand around a numeral is blank, so a text without blanks at its ends is kept. -/
theorem unpadded_tight {cs : List Char} (ht : Literal.Tight cs) : unpadded cs = cs := by
  have hnone {c? : Option Char} (hc : c?.any isBlank = false) : c?.any isPadding = false := by
    cases c? with
    | none => rfl
    | some c =>
        show (isBlank c && !_) = false
        rw [show isBlank c = false from hc, Bool.false_and]
  exact trimWhere_of_ends (hnone ht.head) (hnone ht.last)

/-- **Reading an integer in decimal notation rounds it once.** -/
theorem real?_integerText {n : ℤ} (h : Binary64.decimalLength n.natAbs ≤ 400) :
    real? (integerText n) = some (.ofInt n) := by
  have hread (negative : Bool) : unsignedReal? negative (Nat.toDigits 10 n.natAbs)
      = some (.ofRatio negative n.natAbs 1) := by
    rw [unsignedReal?_of_isDigit isDigit_of_mem Nat.toDigits_ne_nil,
      Nat.ofDigitChars_toDigits (by decide) (by decide), ofScientific_zero negative h]
  rw [real?, unpadded_tight (tight_integerText n), integerText, Binary64.ofInt]
  by_cases hn : n < 0
  · rw [if_pos hn, decide_eq_true hn]
    exact hread true
  · rw [if_neg hn, decide_eq_false hn, takeSign_of_isDigit isDigit_of_mem]
    exact hread false

end Numeral

/-! ### Integers as they are written -/

namespace Literal

/-- The text has the digits, with underscores between them and nowhere else. -/
structure Grouped (digits text : List Char) : Prop where
  digits : text.filter (· ≠ '_') = digits
  first : text.head? ≠ some '_'
  last : text.getLast? ≠ some '_'

/-- The text is a number in decimal notation behind a sign, with its digits grouped or not, and with
the suffix of a long or without. -/
def IsDecimal (sign : List Char) (k : Nat) (cs : List Char) : Prop :=
  ∃ body suffix, Grouped (Nat.toDigits 10 k) body ∧ suffix ∈ [[], ['L'], ['l']] ∧
    cs = sign ++ body ++ suffix

/-- The text is the integer with its digits grouped or not, and with the suffix of a long or
without. -/
def IsInteger (n : ℤ) (cs : List Char) : Prop :=
  ∃ body suffix, Grouped (Nat.toDigits 10 n.natAbs) body ∧ suffix ∈ [[], ['L'], ['l']] ∧
    cs = (if n < 0 then ['-'] else []) ++ body ++ suffix

/-- The attribute value is the integer, or a string literal with the integer in it. -/
def IsIntegerValue (n : ℤ) (raw : String) : Prop :=
  ∃ cs, IsInteger n cs ∧ (raw = String.ofList cs ∨ raw = String.ofList (quote cs))

variable {n : ℤ} {cs : List Char}

theorem Grouped.eq_or_mem {digits text : List Char} (h : Grouped digits text) {c : Char}
    (hc : c ∈ text) : c = '_' ∨ c ∈ digits := by
  by_cases hunderscore : c = '_'
  · exact Or.inl hunderscore
  · exact Or.inr (h.digits ▸ List.mem_filter.mpr ⟨hc, by simpa using hunderscore⟩)

theorem Grouped.ne_nil {k : Nat} {text : List Char} (h : Grouped (Nat.toDigits 10 k) text) :
    text ≠ [] := by
  rintro rfl
  exact Nat.toDigits_ne_nil h.digits.symm

/-- Digits stand at the end. -/
theorem Grouped.isDigit_of_getLast? {k : Nat} {text : List Char} {c : Char}
    (h : Grouped (Nat.toDigits 10 k) text) (hc : text.getLast? = some c) : c.isDigit = true := by
  have hne : c ≠ '_' := fun heq => h.last (heq ▸ hc)
  exact Numeral.isDigit_of_mem c ((h.eq_or_mem (List.mem_of_getLast? hc)).resolve_left hne)

theorem IsInteger.isDecimal (h : IsInteger n cs) :
    IsDecimal (if n < 0 then ['-'] else []) n.natAbs cs :=
  h

theorem eq_or_of_mem_sign (n : ℤ) : ∀ c ∈ (if n < 0 then ['-'] else []), c = '-' ∨ c = '+' := by
  split <;> simp

section Decimal

variable {sign : List Char} {k : Nat} (h : IsDecimal sign k cs)

include h

theorem IsDecimal.ne_nil : cs ≠ [] := by
  obtain ⟨body, suffix, hbody, -, rfl⟩ := h
  simp [hbody.ne_nil]

variable (hsign : ∀ c ∈ sign, c = '-' ∨ c = '+')

include hsign

theorem IsDecimal.isDigit_or_mem :
    ∀ c ∈ cs, c.isDigit = true ∨ c ∈ ['-', '+', '_', 'L', 'l'] := by
  obtain ⟨body, suffix, hbody, hsuffix, rfl⟩ := h
  intro c hc
  rw [List.mem_append, List.mem_append] at hc
  obtain (hc | hc) | hc := hc
  · obtain rfl | rfl := hsign c hc
    all_goals exact Or.inr (by simp)
  · exact (hbody.eq_or_mem hc).symm.imp (Numeral.isDigit_of_mem c) (by simp +contextual)
  · simp only [List.mem_cons, List.not_mem_nil, or_false] at hsuffix
    obtain rfl | rfl | rfl := hsuffix
    · cases hc
    · exact Or.inr (by simp [List.mem_singleton.mp hc])
    · exact Or.inr (by simp [List.mem_singleton.mp hc])

/-- No character of an integer has a meaning in attribute values. -/
theorem IsDecimal.forall_of {P : Char → Prop} (hdigit : ∀ c, c.isDigit = true → P c)
    (hother : ∀ c ∈ ['-', '+', '_', 'L', 'l'], P c) : ∀ c ∈ cs, P c :=
  fun c hc => (h.isDigit_or_mem hsign c hc).elim (hdigit c) (hother c)

theorem IsDecimal.exists_bare : ∃ b : Bare, b.text = cs := by
  have hblank : ∀ c ∈ cs, isBlank c = false :=
    h.forall_of hsign (fun _ => isBlank_of_isDigit) (by simp [isBlank])
  have hplain : ∀ c ∈ cs, c ≠ ',' ∧ c ≠ '"' := by
    refine h.forall_of hsign (fun c hc => ⟨?_, ?_⟩) (by simp)
    · rintro rfl
      exact absurd hc (by decide)
    · rintro rfl
      exact absurd hc (by decide)
  exact ⟨⟨cs, tight_of_forall h.ne_nil hblank, fun hc => (hplain _ hc).1 rfl,
    fun hc => (hplain _ hc).2 rfl⟩, rfl⟩

theorem IsDecimal.not_braced : ¬Braced cs := by
  rintro ⟨hfirst, -⟩
  have hbrace : '\x7b'.isDigit = true ∨ '\x7b' ∈ ['-', '+', '_', 'L', 'l'] :=
    h.isDigit_or_mem hsign _ (List.mem_of_mem_head? hfirst)
  revert hbrace
  decide

end Decimal

theorem not_braced_quote (cs : List Char) : ¬Braced (quote cs) := by
  rintro ⟨hfirst, -⟩
  rw [quote, List.cons_append, List.head?_cons] at hfirst
  cases hfirst

end Literal

/-- The element that comes first is what is read. -/
theorem Mark.firstText_of_items {raw : String} {e : Literal.Element} {others : List (List Char)}
    (h : Literal.items raw.toList = e.text :: others) : firstText raw = e.value := by
  rw [firstText, h]
  exact Literal.unquote_text e

open Literal in
/-- A number that leads is what is read, and quotes around it are not seen. -/
theorem Mark.firstText_of_leads {sign cs : List Char} {k : Nat} {raw : String}
    (hcs : IsDecimal sign k cs) (hsign : ∀ c ∈ sign, c = '-' ∨ c = '+')
    (h : Leads cs raw.toList ∨ Leads (quote cs) raw.toList) : firstText raw = String.ofList cs := by
  obtain hbare | hquoted := h
  · obtain ⟨b, rfl⟩ := hcs.exists_bare hsign
    obtain ⟨others, hitems⟩ := Leads.items (e := .bare b) hbare (hcs.not_braced hsign)
    exact firstText_of_items hitems
  · have htext : (Element.literal (String.ofList cs)).text = quote cs := by
      rw [Element.text, String.toList_ofList]
    rw [← htext] at hquoted
    obtain ⟨others, hitems⟩ := hquoted.items (not_braced_quote _)
    exact firstText_of_items hitems

theorem Mark.firstText_of_isIntegerValue {n : ℤ} {raw : String}
    (h : Literal.IsIntegerValue n raw) :
    ∃ cs, Literal.IsInteger n cs ∧ firstText raw = String.ofList cs := by
  obtain ⟨cs, hcs, hraw⟩ := h
  refine ⟨cs, hcs, firstText_of_leads hcs.isDecimal (Literal.eq_or_of_mem_sign n) ?_⟩
  obtain rfl | rfl := hraw
  · rw [String.toList_ofList]
    exact Or.inl (Literal.Leads.self cs)
  · rw [String.toList_ofList]
    exact Or.inr (Literal.Leads.self _)

namespace Bound

/-- What is left of a number without its suffix and its underscores is its digits behind its
sign, whatever other letters count as a suffix. -/
theorem filter_trimEndWhere_of_isDecimal {letters sign : List Char} {k : Nat} {cs : List Char}
    (h : Literal.IsDecimal sign k cs) (hsign : ∀ c ∈ sign, c = '-' ∨ c = '+')
    (hlong : 'l' ∈ letters ∧ 'L' ∈ letters) (hletters : ∀ c ∈ letters, c.isDigit = false) :
    (trimEndWhere letters.contains cs).filter (· ≠ '_') = sign ++ Nat.toDigits 10 k := by
  obtain ⟨body, suffix, hbody, hsuffix, rfl⟩ := h
  have hdropped : trimEndWhere letters.contains suffix = [] := by
    rw [trimEndWhere_eq_nil_iff]
    simp only [List.mem_cons, List.not_mem_nil, or_false] at hsuffix
    obtain rfl | rfl | rfl := hsuffix <;> simp [hlong]
  have hlast : body.getLast?.any letters.contains = false := by
    cases hc : body.getLast? with
    | none => rfl
    | some c =>
        have hdigit := hbody.isDigit_of_getLast? hc
        by_contra hletter
        rw [Option.any_some, Bool.not_eq_false, List.contains_iff_mem] at hletter
        rw [hletters c hletter] at hdigit
        cases hdigit
  have hkept : sign.filter (· ≠ '_') = sign := by
    refine List.filter_eq_self.mpr fun c hc => ?_
    obtain rfl | rfl := hsign c hc
    all_goals decide
  rw [trimEndWhere_append, if_pos hdropped, trimEndWhere_of_getLast?, List.filter_append,
    hbody.digits, hkept]
  rwa [List.getLast?_append_of_ne_nil _ hbody.ne_nil]

theorem number?_of_isIntegerValue {n : ℤ} {raw : String} (h : Literal.IsIntegerValue n raw)
    (hn : Binary64.decimalLength n.natAbs ≤ 400) : number? raw = some (.ofInt n) := by
  obtain ⟨cs, hcs, htext⟩ := Mark.firstText_of_isIntegerValue h
  have hdigits : (if n < 0 then ['-'] else []) ++ Nat.toDigits 10 n.natAbs
      = Numeral.integerText n := by
    rw [Numeral.integerText]
    split <;> rfl
  rw [number?, digits, htext, String.toList_ofList,
    filter_trimEndWhere_of_isDecimal hcs.isDecimal (Literal.eq_or_of_mem_sign n) (by simp)
      (by simp), hdigits, Numeral.real?_integerText hn]

end Bound

namespace EffectTable

theorem get?_rules_of_bound {a : Mark} {raw rule : String} {x : Binary64}
    (hrule : (a.name, rule) ∈ boundRules) (hvalue : a.get? "value" = some raw)
    (hx : Bound.number? raw = some x) (p : Property) :
    (standard.applyToProperty [a] p).1.rules.get? rule = some (.float x) := by
  rw [applyToProperty_eq_foldl, List.foldl_cons, List.foldl_nil, onProperty,
    get?_of_mem_boundRules hrule]
  dsimp only
  rw [PropertyEffect.bound_eq, Property.get?_setRule?, if_pos rfl, hvalue, Option.bind_some, hx,
    Option.map_some, Option.some_or]

/--
**An integer bound is stored as the nearest number.**  Whichever annotation sets the bound and
however the integer is written, the rule is the binary number nearest to the integer, an even one
if two are equally near.  It is the integer itself exactly if the integer has no more significant
bits than a significand has, and so it is for all integers up to `2 ^ 53`.
-/
theorem integer_bound_is_nearest {n : ℤ} (hlow : -2 ^ 63 ≤ n) (hhigh : n < 2 ^ 63) {a : Mark}
    {raw rule : String} (hrule : (a.name, rule) ∈ boundRules)
    (hvalue : a.get? "value" = some raw) (hraw : Literal.IsIntegerValue n raw) (p : Property) :
    ∃ x, (standard.applyToProperty [a] p).1.rules.get? rule = some (.float x) ∧ x.Nearest n ∧
      (x.toRat = n ↔ Binary64.FitsPrecision n) ∧ (n.natAbs ≤ 2 ^ 53 → x.toRat = n) := by
  have hbound : n.natAbs ≤ 2 ^ 63 := by omega
  have hlength : Binary64.decimalLength n.natAbs ≤ 400 := by
    have hle : Binary64.decimalLength n.natAbs ≤ 19 :=
      (Nat.length_toDigits_le_iff (by decide) (by decide)).mpr (hbound.trans_lt (by decide))
    omega
  have hrange : n.natAbs < 2 ^ Binary64.maxExponent.toNat :=
    hbound.trans_lt (Nat.pow_lt_pow_right (by decide) (by decide))
  have hnearest := Binary64.nearest_ofInt hrange
  have hexact := hnearest.toRat_eq_iff.trans (Binary64.representable_iff hrange)
  have hread := Bound.number?_of_isIntegerValue hraw hlength
  exact ⟨.ofInt n, get?_rules_of_bound hrule hvalue hread p, hnearest, hexact,
    fun hsmall => hexact.mpr (Binary64.fitsPrecision_of_le hsmall)⟩

/-- The least long as a bound, in quotes and with everything that may stand in it. -/
def leastLong : Mark :=
  ⟨"DecimalMin", .ofList [("value", "\"-9_223_372_036_854_775_808L\"")]⟩

theorem integer_bound_is_nearest_least :
    ((leastLong.name, "minimum") ∈ boundRules ∧
        leastLong.get? "value" = some "\"-9_223_372_036_854_775_808L\"" ∧
        Literal.IsIntegerValue (-2 ^ 63) "\"-9_223_372_036_854_775_808L\"") ∧
      ∃ x, (standard.applyToProperty [leastLong] (.plain "id" none)).1.rules.get? "minimum"
          = some (.float x) ∧ x.Nearest (-2 ^ 63 : ℤ) ∧ x.toRat = (-2 ^ 63 : ℤ) := by
  have hrule : (leastLong.name, "minimum") ∈ boundRules := by decide
  have hvalue : leastLong.get? "value" = some "\"-9_223_372_036_854_775_808L\"" := rfl
  have hraw : Literal.IsIntegerValue (-2 ^ 63) "\"-9_223_372_036_854_775_808L\"" := by
    refine ⟨"-9_223_372_036_854_775_808L".toList, ?_, Or.inr rfl⟩
    exact ⟨"9_223_372_036_854_775_808".toList, ['L'], ⟨by decide, by decide, by decide⟩, by decide,
      by decide⟩
  obtain ⟨x, hx, hnearest, hexact, -⟩ := integer_bound_is_nearest le_rfl (by decide) hrule hvalue
    hraw (.plain "id" none)
  exact ⟨⟨hrule, hvalue, hraw⟩, x, hx, hnearest, hexact.mpr ⟨1, 63, by decide, by decide⟩⟩

/-- The first integer that is missed: the bound that is stored is smaller by one. -/
theorem integer_bound_missed :
    Literal.IsIntegerValue 9007199254740993 "9007199254740993" ∧
      ∃ x, (standard.applyToProperty [⟨"Max", .ofList [("value", "9007199254740993")]⟩]
          (.plain "seats" none)).1.rules.get? "maximum" = some (.float x) ∧
        x.toRat = 9007199254740992 ∧ x.toRat ≠ 9007199254740993 := by
  have hraw : Literal.IsIntegerValue 9007199254740993 "9007199254740993" :=
    ⟨"9007199254740993".toList, ⟨"9007199254740993".toList, [], ⟨by decide, by decide, by decide⟩,
      by decide, by decide⟩, Or.inl rfl⟩
  have hread : Bound.number? "9007199254740993" = some (.finite false (2 ^ 52) 1) :=
    (Bound.number?_of_isIntegerValue hraw (by decide)).trans (by decide)
  refine ⟨hraw, _, get?_rules_of_bound (by decide) rfl hread _, ?_, ?_⟩
  all_goals norm_num [Binary64.toRat, Binary64.sign]

end EffectTable

end ServiceAtlas
