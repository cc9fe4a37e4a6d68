/-
Trims and where they meet.

A trim drops the characters of a class at one end or at both.  Of a text in two parts it trims the
outer part, and the inner one only if nothing of the outer part is left; so the two ends of a text
are trimmed independently, and characters of the class around a text are not seen by a trim.
-/
import Mathlib.Data.List.DropRight
import ServiceAtlas.Text.Blank

namespace ServiceAtlas.Text

variable {p : Char → Bool}

theorem trimStartWhere_append (cs ds : List Char) :
    trimStartWhere p (cs ++ ds)
      = if trimStartWhere p cs = [] then trimStartWhere p ds else trimStartWhere p cs ++ ds := by
  unfold trimStartWhere
  rw [List.dropWhile_append]
  simp only [List.isEmpty_iff]

theorem trimEndWhere_append (cs ds : List Char) :
    trimEndWhere p (cs ++ ds)
      = if trimEndWhere p ds = [] then trimEndWhere p cs else cs ++ trimEndWhere p ds := by
  unfold trimEndWhere
  rw [List.reverse_append, List.dropWhile_append]
  simp only [List.isEmpty_iff, List.reverse_eq_nil_iff]
  split
  · rfl
  · rw [List.reverse_append, List.reverse_reverse]

theorem trimStartWhere_eq_nil_iff {cs : List Char} :
    trimStartWhere p cs = [] ↔ ∀ c ∈ cs, p c = true :=
  List.dropWhile_eq_nil_iff

theorem trimEndWhere_eq_nil_iff {cs : List Char} :
    trimEndWhere p cs = [] ↔ ∀ c ∈ cs, p c = true :=
  List.rdropWhile_eq_nil_iff

theorem trimEndWhere_idempotent (cs : List Char) :
    trimEndWhere p (trimEndWhere p cs) = trimEndWhere p cs :=
  List.rdropWhile_idempotent _ _

theorem trimStartWhere_idempotent (cs : List Char) :
    trimStartWhere p (trimStartWhere p cs) = trimStartWhere p cs :=
  List.dropWhile_idempotent _ _

/-- **The two ends of a text are trimmed independently.** -/
theorem trimStartWhere_trimEndWhere (cs : List Char) :
    trimStartWhere p (trimEndWhere p cs) = trimEndWhere p (trimStartWhere p cs) := by
  induction cs with
  | nil => rfl
  | cons c cs ih =>
      have hcons : trimEndWhere p (c :: cs)
          = if trimEndWhere p cs = [] then trimEndWhere p [c] else c :: trimEndWhere p cs :=
        trimEndWhere_append [c] cs
      by_cases hc : p c = true
      · have hstart (ds : List Char) : trimStartWhere p (c :: ds) = trimStartWhere p ds :=
          List.dropWhile_cons_of_pos hc
        rw [hstart, ← ih, hcons]
        split
        · rename_i hnone
          rw [hnone]
          simp [trimEndWhere, trimStartWhere, hc]
        · rw [hstart]
      · have hstart (ds : List Char) : trimStartWhere p (c :: ds) = c :: ds :=
          List.dropWhile_cons_of_neg hc
        rw [hstart, hcons]
        split
        · simp [trimEndWhere, trimStartWhere, hc]
        · rw [hstart]

/-- What is left of a text trimmed at its end is its beginning. -/
theorem trimEndWhere_isPrefix (cs : List Char) : trimEndWhere p cs <+: cs :=
  List.rdropWhile_prefix _ _

/-- A text that ends outside the class has nothing to trim at its end. -/
theorem trimEndWhere_of_getLast? {cs : List Char} (h : cs.getLast?.any p = false) :
    trimEndWhere p cs = cs := by
  cases cs using List.reverseRec with
  | nil => rfl
  | append_singleton cs c =>
      rw [List.getLast?_concat] at h
      exact List.rdropWhile_concat_neg _ _ _ (by simpa using h)

/-- A text that neither begins nor ends in the class has nothing to trim. -/
theorem trimWhere_of_ends {cs : List Char} (hhead : cs.head?.any p = false)
    (hlast : cs.getLast?.any p = false) : trimWhere p cs = cs := by
  have hstart : trimStartWhere p cs = cs := by
    cases cs with
    | nil => rfl
    | cons c cs => exact List.dropWhile_cons_of_neg (by simpa using hhead)
  rw [trimWhere, hstart, trimEndWhere_of_getLast? hlast]

/-- Characters of the class in front of a text are not seen when it is trimmed. -/
theorem trimWhere_append_left {before : List Char} (h : ∀ c ∈ before, p c = true)
    (cs : List Char) : trimWhere p (before ++ cs) = trimWhere p cs := by
  unfold trimWhere
  rw [trimStartWhere_append, if_pos (trimStartWhere_eq_nil_iff.mpr h)]

/-- Characters of the class behind a text are not seen when it is trimmed. -/
theorem trimWhere_append_right {behind : List Char} (h : ∀ c ∈ behind, p c = true)
    (cs : List Char) : trimWhere p (cs ++ behind) = trimWhere p cs := by
  unfold trimWhere
  rw [← trimStartWhere_trimEndWhere, trimEndWhere_append,
    if_pos (trimEndWhere_eq_nil_iff.mpr h), trimStartWhere_trimEndWhere]

theorem length_trimWhere_le (cs : List Char) : (trimWhere p cs).length ≤ cs.length :=
  (trimEndWhere_isPrefix _).length_le.trans (List.dropWhile_sublist p).length_le

/-- A text that a trim leaves as it is does not begin with a character of the class. -/
theorem head_of_trimWhere_eq {c : Char} {cs : List Char} (h : trimWhere p (c :: cs) = c :: cs) :
    p c = false := by
  by_contra hc
  have hbefore : ∀ d ∈ [c], p d = true := by simpa using hc
  have htrim := trimWhere_append_left hbefore cs
  have hlength := length_trimWhere_le (p := p) cs
  rw [List.singleton_append, h] at htrim
  rw [← htrim, List.length_cons] at hlength
  omega

/-- A text that a trim leaves as it is does not end in a character of the class. -/
theorem last_of_trimWhere_eq {c : Char} {cs : List Char}
    (h : trimWhere p (cs ++ [c]) = cs ++ [c]) : p c = false := by
  by_contra hc
  have hbehind : ∀ d ∈ [c], p d = true := by simpa using hc
  have htrim := trimWhere_append_right hbehind cs
  have hlength := length_trimWhere_le (p := p) cs
  rw [h] at htrim
  rw [← htrim, List.length_append, List.length_singleton] at hlength
  omega

/-! ### What is trimmed by default -/

/-- The code points of blanks. -/
def blankCodes : List Nat :=
  [9, 10, 11, 12, 13, 28, 29, 30, 31, 32, 0x85, 0xA0, 0x1680, 0x2000, 0x2001, 0x2002, 0x2003,
    0x2004, 0x2005, 0x2006, 0x2007, 0x2008, 0x2009, 0x200A, 0x2028, 0x2029, 0x202F, 0x205F, 0x3000]

theorem mem_blankCodes {c : Char} (hc : isBlank c = true) : c.toNat ∈ blankCodes := by
  unfold isBlank at hc
  simp only [Bool.or_eq_true, Bool.and_eq_true, decide_eq_true_eq, beq_iff_eq] at hc
  simp only [blankCodes, List.mem_cons, List.not_mem_nil, or_false]
  omega

end ServiceAtlas.Text
