/-
Bounds of a length are the integers that are written.

Nothing is rounded here: a bound of a length is read as an integer, with a sign of either kind, and
its text may stand in quotes and come first in an array initializer.  It is taken apart as the
texts of other bounds are, and what is left are digits behind a sign.  A sign says which of an
integer and its negative the digits stand for, so the three signs are told apart once, before any
digit is read.
-/
import ServiceAtlas.Proofs.NumericBounds

namespace ServiceAtlas

open Text

namespace Literal

/-! ### Signed integers -/

/-- The sign may stand in front of the integer; a plus may be left out, and zero has either. -/
def IsSignOf (n : ℤ) (sign : List Char) : Prop :=
  (sign = [] ∨ sign = ['+']) ∧ 0 ≤ n ∨ sign = ['-'] ∧ n ≤ 0

/-- The text is the integer with a sign in front of it. -/
def IsSigned (n : ℤ) (cs : List Char) : Prop :=
  ∃ sign, IsSignOf n sign ∧ IsDecimal sign n.natAbs cs

/-- The attribute value has the integer for its first element, in quotes or not. -/
def LeadsInteger (n : ℤ) (raw : String) : Prop :=
  ∃ cs, IsSigned n cs ∧ (Leads cs raw.toList ∨ Leads (quote cs) raw.toList)

theorem IsSignOf.eq_or {n : ℤ} {sign : List Char} (h : IsSignOf n sign) :
    ∀ c ∈ sign, c = '-' ∨ c = '+' := by
  obtain ⟨rfl | rfl, -⟩ | ⟨rfl, -⟩ := h <;> simp

end Literal

/-! ### Reading an integer -/

open Literal

namespace Numeral

variable {n : ℤ} {sign ds : List Char}

theorem takeSign_signed (hsign : IsSignOf n sign) (h : ∀ c ∈ ds, c.isDigit = true) :
    ∃ negative, takeSign (sign ++ ds) = (negative, ds) ∧
      (if negative then -(n.natAbs : ℤ) else n.natAbs) = n := by
  obtain ⟨rfl | rfl, hn⟩ | ⟨rfl, hn⟩ := hsign
  · exact ⟨false, takeSign_of_isDigit h, Int.natAbs_of_nonneg hn⟩
  · exact ⟨false, rfl, Int.natAbs_of_nonneg hn⟩
  · exact ⟨true, rfl, by rw [if_pos rfl]; omega⟩

theorem integer?_of_takeSign {text : List Char} {negative : Bool}
    (htake : takeSign (unpadded text) = (negative, ds)) (h : ∀ c ∈ ds, c.isDigit = true)
    (hne : ds ≠ []) (hlength : ds.length ≤ maxIntegerDigits) :
    integer? text = some (if negative then -(Nat.ofDigitChars 10 ds 0 : ℤ)
      else Nat.ofDigitChars 10 ds 0) := by
  obtain ⟨c, cs, rfl⟩ := List.exists_cons_of_ne_nil hne
  rw [integer?, htake]
  dsimp only
  rw [leadingDigits_of_isDigit h, List.map_cons]
  dsimp only
  rw [← List.map_cons (f := fun c : Char => c.toNat - 48), ofDigits_map, List.length_map,
    if_neg (by omega)]

/-- **Reading an integer gives it back**, unless it has too many digits. -/
theorem integer?_signed (hsign : IsSignOf n sign)
    (hlength : (Nat.toDigits 10 n.natAbs).length ≤ maxIntegerDigits) :
    integer? (sign ++ Nat.toDigits 10 n.natAbs) = some n := by
  obtain ⟨negative, htake, hvalue⟩ := takeSign_signed hsign (isDigit_of_mem (n := n.natAbs))
  rw [← unpadded_tight (tight_signed sign hsign.eq_or n.natAbs)] at htake
  rw [integer?_of_takeSign htake isDigit_of_mem Nat.toDigits_ne_nil hlength,
    Nat.ofDigitChars_toDigits (by decide) (by decide), hvalue]

end Numeral

theorem Bound.integer?_of_leadsInteger {n : ℤ} {raw : String} (h : LeadsInteger n raw)
    (hlength : (Nat.toDigits 10 n.natAbs).length ≤ Numeral.maxIntegerDigits) :
    integer? raw = some n := by
  obtain ⟨cs, ⟨sign, hsign, hcs⟩, hraw⟩ := h
  rw [integer?, digits, Mark.firstText_of_leads hcs hsign.eq_or hraw, String.toList_ofList,
    filter_trimEndWhere_of_isDecimal hcs hsign.eq_or (by simp) (by simp),
    Numeral.integer?_signed hsign hlength]

/-! ### Storing bounds of a length -/

/-- The second property has both bounds of a length, and all else from the first one. -/
structure Property.LengthSet (p q : Property) (low high : ℤ) : Prop where
  least : q.rules.get? "minLength" = some (.int low)
  greatest : q.rules.get? "maxLength" = some (.int high)
  others : ∀ rule, rule ≠ "minLength" → rule ≠ "maxLength" → q.rules.get? rule = p.rules.get? rule
  bare : q.bare = p.bare

theorem Property.lengthSet_setRule (p : Property) (low high : ℤ) :
    p.LengthSet ((p.setRule "minLength" (.int low)).setRule "maxLength" (.int high)) low high where
  least := by simp [setRule, OrderedMap.get?_insert]
  greatest := by simp [setRule, OrderedMap.get?_insert]
  others := fun rule hleast hgreatest => by
    simp [setRule, OrderedMap.get?_insert, hleast, hgreatest]
  bare := rfl

theorem PropertyEffect.lengthBound_of_read {a : Mark} {p : Property} {key rule raw : String}
    {n : ℤ} (hraw : a.get? key = some raw) (hn : Bound.integer? raw = some n) :
    lengthBound key rule a p = (p.setRule rule (.int n), []) := by
  unfold lengthBound
  simp only [hraw, hn]

namespace EffectTable

theorem applyToProperty_size {a : Mark} (hname : a.name = "Size") (p : Property) :
    standard.applyToProperty [a] p = PropertyEffect.size a p := by
  have hstep : standard.onProperty p a = PropertyEffect.size a p := by
    rw [onProperty, hname]
    rfl
  simp only [applyToProperty, hstep, List.append_nil]

/--
**Bounds of a length are stored as they are written.**  An integer with a sign or without, with
underscores between its digits, with the suffix of a long, in quotes, at the head of an array
initializer and among blanks is read as that integer, however long it is up to the number of
digits that are read at all.  An annotation of a length that has two such texts, whichever comes
first, sets both rules to these integers and changes nothing else.
-/
theorem length_bounds_exact :
    (∀ (n : ℤ) (raw : String), (Nat.toDigits 10 n.natAbs).length ≤ 4300 → LeadsInteger n raw →
      Bound.integer? raw = some n) ∧
    ∀ (low high : ℤ) (a : Mark) (p : Property), (Nat.toDigits 10 low.natAbs).length ≤ 4300 →
      (Nat.toDigits 10 high.natAbs).length ≤ 4300 → a.name = "Size" →
      (∃ raw, a.get? "min" = some raw ∧ LeadsInteger low raw) →
      (∃ raw, a.get? "max" = some raw ∧ LeadsInteger high raw) →
      ∃ q, standard.applyToProperty [a] p = (q, []) ∧ p.LengthSet q low high := by
  refine ⟨fun n raw hlength h => Bound.integer?_of_leadsInteger h hlength, ?_⟩
  rintro low high a p hlow hhigh hname ⟨least, hleast, hlowText⟩ ⟨greatest, hgreatest, hhighText⟩
  have hmin := Bound.integer?_of_leadsInteger hlowText hlow
  have hmax := Bound.integer?_of_leadsInteger hhighText hhigh
  refine ⟨_, ?_, p.lengthSet_setRule low high⟩
  rw [applyToProperty_size hname, PropertyEffect.size,
    PropertyEffect.lengthBound_of_read hleast hmin]
  dsimp only
  rw [PropertyEffect.lengthBound_of_read hgreatest hmax]
  rfl

/-- A length with its greatest value first.  The least one leads an array initializer whose
other element is a double quote in single quotes. -/
def span : Mark :=
  ⟨"Size", .ofList [("max", " +1_000l\t"), ("min", "\x7b \"-1_0L\" , '\"' \x7d")]⟩

theorem length_bounds_exact_span :
    LeadsInteger (-10) "\x7b \"-1_0L\" , '\"' \x7d" ∧ LeadsInteger 1000 " +1_000l\t" ∧
      Bound.integer? "\x7b \"-1_0L\" , '\"' \x7d" = some (-10) ∧
      ∃ q, standard.applyToProperty [span] (.plain "isbn" none) = (q, []) ∧
        (Property.plain "isbn" none).LengthSet q (-10) 1000 := by
  have hleast : LeadsInteger (-10) "\x7b \"-1_0L\" , '\"' \x7d" := by
    refine ⟨"-1_0L".toList, ⟨['-'], Or.inr ⟨rfl, by decide⟩, "1_0".toList, ['L'], ?_, by decide,
      rfl⟩, Or.inr ?_⟩
    · exact ⟨by decide, by decide, by decide⟩
    · exact Leads.first ⟨[], rfl⟩ ⟨[' '], rfl⟩ ⟨[' '], rfl⟩ ⟨[], rfl⟩ " '\"' ".toList
  have hgreatest : LeadsInteger 1000 " +1_000l\t" := by
    refine ⟨"+1_000l".toList, ⟨['+'], Or.inl ⟨Or.inr rfl, by decide⟩, "1_000".toList, ['l'], ?_,
      by decide, rfl⟩, Or.inl ?_⟩
    · exact ⟨by decide, by decide, by decide⟩
    · exact Leads.alone ⟨[' '], rfl⟩ ⟨['\t'], rfl⟩
  have hread := length_bounds_exact.1 (-10) _ (by decide) hleast
  obtain ⟨q, hq, hset⟩ := length_bounds_exact.2 (-10) 1000 span (.plain "isbn" none) (by decide)
    (by decide) rfl ⟨_, rfl, hleast⟩ ⟨_, rfl, hgreatest⟩
  exact ⟨hleast, hgreatest, hread, q, hq, hset⟩

end EffectTable

end ServiceAtlas
