/-
Which texts are unquoted.

A string literal is more than a text between double quotes: inside it a double quote has to
stand behind a backslash, and so does a backslash, so whether the last double quote closes the
literal depends on every backslash before it.  `Content` is what may stand inside, together with
what it stands for, and `unescape` agrees with it.

`unquote` looks at the first and the last character only.  That is enough for texts that are no
literal because they do not both begin and end with a double quote, and these it leaves alone.
`Breaks` says what is left: the literal that the text begins with is closed before the end, as in
two literals with a sign between them, or the last double quote is escaped.  `content_or_breaks`
is the case distinction, by recursion along the text two characters at a time behind a backslash.
-/
import ServiceAtlas.Proofs.Literal

namespace ServiceAtlas.Literal

open ServiceAtlas.Text

/-- A text between double quotes. -/
def inQuotes (body : List Char) : List Char :=
  '"' :: body ++ ['"']

/-- The letters that stand for a character behind a backslash, and the characters that they
stand for. -/
def replacements : List (Char × Char) :=
  [('n', '\n'), ('t', '\t'), ('r', '\r'), ('"', '"'), ('\'', '\''), ('\\', '\\')]

/-- What stands between the quotes of a literal, and the string that it stands for. -/
inductive Content : List Char → List Char → Prop
  | nil : Content [] []
  | plain {c : Char} {cs value : List Char} (quote : c ≠ '"') (backslash : c ≠ '\\')
      (rest : Content cs value) : Content (c :: cs) (c :: value)
  | replaced {c d : Char} {cs value : List Char} (pair : (c, d) ∈ replacements)
      (rest : Content cs value) : Content ('\\' :: c :: cs) (d :: value)
  | kept {c : Char} {cs value : List Char} (other : c ∉ replacements.map Prod.fst)
      (rest : Content cs value) : Content ('\\' :: c :: cs) ('\\' :: c :: value)

/-- The text is one complete literal. -/
def IsLiteral (cs : List Char) : Prop :=
  ∃ body value, cs = inQuotes body ∧ Content body value

/-- Behind a complete content there is a double quote, or a backslash and nothing else. -/
inductive Breaks : List Char → Prop
  | quote {cs value : List Char} (whole : Content cs value) (rest : List Char) :
      Breaks (cs ++ '"' :: rest)
  | backslash {cs value : List Char} (whole : Content cs value) : Breaks (cs ++ ['\\'])

/-- The text begins and ends with a double quote, but the one at the end does not close the
literal that the other one opens. -/
def Misquoted (cs : List Char) : Prop :=
  ∃ body, cs = inQuotes body ∧ Breaks body

/-! ### The content of a literal -/

theorem escaped?_eq_some_iff {c d : Char} : escaped? c = some d ↔ (c, d) ∈ replacements := by
  unfold escaped? replacements
  split <;> simp_all [eq_comm]

theorem escaped?_eq_none_iff {c : Char} : escaped? c = none ↔ c ∉ replacements.map Prod.fst := by
  rw [Option.eq_none_iff_forall_not_mem]
  simp only [Option.mem_def, escaped?_eq_some_iff, List.mem_map, Prod.exists, not_exists]
  constructor
  · rintro h c' d ⟨hmem, rfl⟩
    exact h d hmem
  · intro h d hmem
    exact h c d ⟨hmem, rfl⟩

/-- Escapes are undone in a content. -/
theorem Content.unescape_eq {cs value : List Char} (h : Content cs value) :
    unescape cs = value := by
  induction h with
  | nil => rfl
  | plain quote backslash rest ih => rw [unescape_cons backslash, ih]
  | replaced pair rest ih => rw [unescape, escaped?_eq_some_iff.mpr pair, ih]
  | kept other rest ih => rw [unescape, escaped?_eq_none_iff.mpr other, ih]

theorem Content.pair {cs value : List Char} (c : Char) (h : Content cs value) :
    ∃ longer, Content ('\\' :: c :: cs) longer := by
  cases hc : escaped? c with
  | some d => exact ⟨_, .replaced (escaped?_eq_some_iff.mp hc) h⟩
  | none => exact ⟨_, .kept (escaped?_eq_none_iff.mp hc) h⟩

/-- A scan of a content, which takes a backslash together with what stands behind it. -/
def isContent : List Char → Bool
  | [] => true
  | '\\' :: _ :: cs => isContent cs
  | c :: cs => c ≠ '"' && c ≠ '\\' && isContent cs

theorem isContent_cons {c : Char} (hbackslash : c ≠ '\\') (cs : List Char) :
    isContent (c :: cs) = (c ≠ '"' && isContent cs) := by
  rw [isContent]
  · simp [hbackslash]
  · intro _ _ h _
    exact hbackslash h

theorem Content.isContent_append {cs value : List Char} (h : Content cs value)
    (rest : List Char) : isContent (cs ++ rest) = isContent rest := by
  induction h with
  | nil => rfl
  | plain quote backslash _ ih =>
      rw [List.cons_append, isContent_cons backslash, ih]
      simp [quote]
  | replaced _ _ ih => exact ih
  | kept _ _ ih => exact ih

/-- What may stand in front of a content may stand in front of what breaks a literal. -/
theorem Breaks.front (before : List Char) {cs : List Char}
    (hbefore : ∀ {whole value}, Content whole value → ∃ longer, Content (before ++ whole) longer)
    (h : Breaks cs) : Breaks (before ++ cs) := by
  cases h with
  | quote whole rest =>
      obtain ⟨_, longer⟩ := hbefore whole
      rw [← List.append_assoc]
      exact .quote longer rest
  | backslash whole =>
      obtain ⟨_, longer⟩ := hbefore whole
      rw [← List.append_assoc]
      exact .backslash longer

/-- **A text is the content of a literal, or it breaks one.** -/
theorem content_or_breaks (cs : List Char) : (∃ value, Content cs value) ∨ Breaks cs := by
  induction cs using isContent.induct with
  | case1 => exact Or.inl ⟨[], .nil⟩
  | case2 c cs ih =>
      have hpair {whole value : List Char} (h : Content whole value) := h.pair c
      exact ih.imp (fun ⟨_, h⟩ => hpair h) (Breaks.front ['\\', c] hpair)
  | case3 c cs hpair ih =>
      by_cases hquote : c = '"'
      · subst hquote
        exact Or.inr (.quote .nil cs)
      by_cases hbackslash : c = '\\'
      · -- nothing stands behind the backslash, or this would be a pair
        cases cs with
        | nil =>
            subst hbackslash
            exact Or.inr (.backslash .nil)
        | cons d ds => exact absurd rfl (hpair d ds hbackslash)
      · have hplain {whole value : List Char} (h : Content whole value) :
            ∃ longer, Content (c :: whole) longer := ⟨_, .plain hquote hbackslash h⟩
        exact ih.imp (fun ⟨_, h⟩ => hplain h) (Breaks.front [c] hplain)

theorem Breaks.isContent_eq {cs : List Char} (h : Breaks cs) : isContent cs = false := by
  cases h with
  | quote whole rest => rw [whole.isContent_append]; rfl
  | backslash whole => rw [whole.isContent_append]; rfl

theorem isContent_iff {cs : List Char} : isContent cs = true ↔ ∃ value, Content cs value := by
  constructor
  · intro h
    rcases content_or_breaks cs with hcontent | hbreaks
    · exact hcontent
    · rw [hbreaks.isContent_eq] at h
      cases h
  · rintro ⟨value, h⟩
    have hall := h.isContent_append []
    rwa [List.append_nil] at hall

/-! ### Texts between double quotes -/

theorem between?_eq_some_iff {cs body : List Char} :
    between? '"' '"' cs = some body ↔ cs = inQuotes body := by
  constructor
  · intro h
    cases cs with
    | nil => cases h
    | cons c cs =>
        rw [between?] at h
        split at h
        · rename_i hends
          obtain ⟨rfl, hlast⟩ := hends
          obtain ⟨inner, rfl⟩ := List.getLast?_eq_some_iff.mp hlast
          rw [List.dropLast_concat] at h
          cases h
          rfl
        · cases h
  · rintro rfl
    exact between?_closed _ _ _

theorem inQuotes_injective {body body' : List Char} (h : inQuotes body = inQuotes body') :
    body = body' := by
  have hsame := between?_eq_some_iff.mpr h
  rw [between?_eq_some_iff.mpr rfl] at hsame
  exact Option.some.inj hsame

theorem isLiteral_iff {cs : List Char} :
    (between? '"' '"' cs).any isContent = true ↔ IsLiteral cs := by
  rw [Option.any_eq_true]
  simp only [between?_eq_some_iff, isContent_iff]
  constructor
  · rintro ⟨body, hbody, value, h⟩
    exact ⟨body, value, hbody, h⟩
  · rintro ⟨body, value, hbody, h⟩
    exact ⟨body, hbody, value, h⟩

instance (cs : List Char) : Decidable (IsLiteral cs) :=
  decidable_of_iff _ isLiteral_iff

theorem Misquoted.not_isLiteral {cs : List Char} (h : Misquoted cs) : ¬IsLiteral cs := by
  rintro ⟨body, value, rfl, hcontent⟩
  obtain ⟨body', hsame, hbreaks⟩ := h
  rw [← inQuotes_injective hsame] at hbreaks
  have hscan := isContent_iff.mpr ⟨value, hcontent⟩
  rw [hbreaks.isContent_eq] at hscan
  cases hscan

theorem misquoted_inQuotes {body : List Char} (h : ¬IsLiteral (inQuotes body)) :
    Misquoted (inQuotes body) := by
  rcases content_or_breaks body with ⟨value, hcontent⟩ | hbreaks
  · exact absurd ⟨body, value, rfl, hcontent⟩ h
  · exact ⟨body, rfl, hbreaks⟩

/-! ### Unquoting -/

theorem length_unescape_le (cs : List Char) : (unescape cs).length ≤ cs.length := by
  fun_induction unescape cs with
  | case1 c cs d hd ih => grind
  | case2 c cs hnone ih => grind
  | case3 c cs hpair ih => grind
  | case4 => grind

theorem unquote_inQuotes {raw body : List Char} (h : trim raw = inQuotes body) :
    unquote raw = unescape body := by
  have hbetween := between?_eq_some_iff.mpr h
  simp only [unquote, hbetween]

/-- A text is left as it is exactly when it does not begin and end with a double quote. -/
theorem unquote_eq_trim_iff {raw : List Char} :
    unquote raw = trim raw ↔ ∀ body, trim raw ≠ inQuotes body := by
  constructor
  · intro hsame body hbody
    have hlength := length_unescape_le body
    rw [← unquote_inQuotes hbody, hsame, hbody] at hlength
    simp only [inQuotes, List.length_append, List.length_cons, List.length_nil] at hlength
    omega
  · intro hnone
    have hbetween : between? '"' '"' (trim raw) = none := by
      rw [Option.eq_none_iff_forall_ne_some]
      exact fun body hbody => hnone body (between?_eq_some_iff.mp hbody)
    simp only [unquote, hbetween]

/--
**A literal is read as what it stands for, and any other text is left as it is unless it is
misquoted.**  In a literal each of the six letters that have a replacement is replaced together
with its backslash, and a backslash before anything else stays.
-/
theorem unquote_literal_or_kept (raw : List Char) :
    (∀ body value, trim raw = inQuotes body → Content body value → unquote raw = value) ∧
      (¬IsLiteral (trim raw) → (unquote raw = trim raw ↔ ¬Misquoted (trim raw))) ∧
      (Misquoted (trim raw) → ¬IsLiteral (trim raw)) := by
  refine ⟨fun body value hbody hcontent => ?_, fun hother => ?_, Misquoted.not_isLiteral⟩
  · rw [unquote_inQuotes hbody, hcontent.unescape_eq]
  · rw [unquote_eq_trim_iff]
    constructor
    · rintro hnone ⟨body, hbody, -⟩
      exact hnone body hbody
    · intro hnot body hbody
      rw [hbody] at hother hnot
      exact hnot (misquoted_inQuotes hother)

/-- A literal with a pair of each kind, laid out among blanks. -/
def greeting : List Char :=
  [' ', '"', '\\', '"', '\\', '\\', '\\', 'd', 'a', '\\', 'n', '"', '\n']

theorem unquote_literal_or_kept_greeting :
    trim greeting = inQuotes ['\\', '"', '\\', '\\', '\\', 'd', 'a', '\\', 'n'] ∧
      unquote greeting = ['"', '\\', '\\', 'd', 'a', '\n'] ∧
      ¬IsLiteral (trim " ROOT + \"/a\"".toList) ∧ ¬Misquoted (trim " ROOT + \"/a\"".toList) ∧
      Misquoted (trim "\"/a\" + \"/b\"".toList) := by
  have hcontent : Content ['\\', '"', '\\', '\\', '\\', 'd', 'a', '\\', 'n']
      ['"', '\\', '\\', 'd', 'a', '\n'] :=
    .replaced (by decide) (.replaced (by decide) (.kept (by decide)
      (.plain (by decide) (by decide) (.replaced (by decide) .nil))))
  have hsum : ¬IsLiteral (trim " ROOT + \"/a\"".toList) := by decide
  have hbroken : ¬IsLiteral (trim "\"/a\" + \"/b\"".toList) := by decide
  refine ⟨by decide, (unquote_literal_or_kept greeting).1 _ _ (by decide) hcontent, hsum,
    ((unquote_literal_or_kept _).2.1 hsum).mp (by decide), ?_⟩
  by_contra hnot
  exact absurd (((unquote_literal_or_kept _).2.1 hbroken).mpr hnot) (by decide)

/-- Two literals with a sign between them begin and end with a double quote, and lose both. -/
theorem not_kept_joined_literals :
    ¬∀ raw : List Char, ¬IsLiteral (trim raw) → unquote raw = trim raw := by
  intro hkept
  exact absurd (hkept "\"/users\" + \"/all\"".toList (by decide)) (by decide)

end ServiceAtlas.Literal
