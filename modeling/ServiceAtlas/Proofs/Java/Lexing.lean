/-
A text that is put together from tokens is cut into these tokens again.

Two tokens without a gap between them may run together: a word and a word, a number and a
point, a literal and a quote.  `Token.mayPrecede` says which character may come directly
behind a token, and where every token may precede the next one, nothing else has to be known
of a text.  White space and the slash of a comment may come behind anything.
-/
import Mathlib.Data.List.Chain
import Mathlib.Data.List.Infix
import ServiceAtlas.Java.Token

namespace ServiceAtlas.Java

open ServiceAtlas.Text

/-- What holds of all characters of a list is decided by looking at these alone, not at all
characters that there are. -/
theorem forall_mem_of_all {l : List Char} {p : Char → Prop} [DecidablePred p]
    (h : (l.all fun c => decide (p c)) = true) : ∀ c ∈ l, p c := fun c hc =>
  of_decide_eq_true (List.all_eq_true.mp h c hc)

/-! ### Gaps -/

/-- White space between tokens. -/
abbrev Spaces := {cs : List Char // ∀ c ∈ cs, isSpace c = true}

namespace Spaces

/-- No white space. -/
def none : Spaces := ⟨[], nofun⟩

/-- A single space. -/
def single : Spaces := ⟨[' '], forall_mem_of_all (by decide)⟩

/-- The gap that white space forms, if there is any. -/
def gaps (s : Spaces) : List Gap :=
  match s.val with
  | [] => []
  | c :: cs => [.blank (c :: cs)]

@[simp] theorem text_gaps (s : Spaces) : s.gaps.flatMap Gap.text = s.val := by
  obtain ⟨cs, hcs⟩ := s
  cases cs <;> simp [gaps, Gap.text]

end Spaces

/-- A documentation comment: what stands behind its opening mark, up to the first mark that
closes a comment. -/
structure DocComment where
  inner : List Char
  closes : ¬['*', '/'] <:+: '*' :: inner
  deriving DecidableEq

/-- The text of a documentation comment. -/
def DocComment.text (c : DocComment) : List Char :=
  '/' :: '*' :: '*' :: (c.inner ++ ['*', '/'])

/-- What stands in front of a token: white space, and perhaps a documentation comment with
white space behind it. -/
structure Spacing where
  before : Spaces
  comment : Option (DocComment × Spaces)

namespace Spacing

/-- The gaps of which a spacing consists. -/
def gaps (s : Spacing) : List Gap :=
  match s.comment with
  | none => s.before.gaps
  | some (c, behind) => s.before.gaps ++ .comment c.text :: behind.gaps

end Spacing

theorem throughCommentEnd_closed {cs : List Char} (h : ¬['*', '/'] <:+: cs) (rest : List Char) :
    throughCommentEnd (cs ++ '*' :: '/' :: rest) = (cs ++ ['*', '/'], rest) := by
  induction cs with
  | nil => rfl
  | cons c cs ih =>
      have hcs : ¬['*', '/'] <:+: cs := fun hin => h (List.infix_cons hin)
      rw [List.cons_append, throughCommentEnd, ih hcs]
      · rfl
      · rintro tail rfl htail
        cases cs with
        | nil => cases htail
        | cons d cs =>
            obtain ⟨rfl, -⟩ := List.cons.inj htail
            exact h ⟨[], cs, rfl⟩

theorem gaps_of_none {cs : List Char} (h : gap? cs = none) : gaps cs = ([], cs) := by
  rw [gaps, h]

/-- The gap at the beginning is the first one. -/
theorem gaps_of_some {cs rest : List Char} {g : Gap} (h : gap? cs = some (g, rest))
    (hlength : rest.length < cs.length) : gaps cs = (g :: (gaps rest).1, (gaps rest).2) := by
  rw [gaps, h]
  simp only [hlength, ↓reduceDIte]

theorem gaps_comment (c : DocComment) (rest : List Char) :
    gaps (c.text ++ rest) = (.comment c.text :: (gaps rest).1, (gaps rest).2) := by
  have hgap : gap? (c.text ++ rest) = some (.comment c.text, rest) := by
    have hend := throughCommentEnd_closed c.closes rest
    have htext : c.text ++ rest = '/' :: '*' :: (('*' :: c.inner) ++ '*' :: '/' :: rest) := by
      simp [DocComment.text]
    rw [htext, gap?, hend]
    simp [DocComment.text]
  refine gaps_of_some hgap ?_
  simp [DocComment.text]
  omega

theorem not_isSpace_slash : isSpace '/' = false := by decide

theorem gaps_spaces (s : Spaces) {rest : List Char} (h : ∀ c ∈ rest.head?, isSpace c = false) :
    gaps (s.val ++ rest) = (s.gaps ++ (gaps rest).1, (gaps rest).2) := by
  obtain ⟨cs, hcs⟩ := s
  cases cs with
  | nil => rfl
  | cons c cs =>
      have hc := hcs c List.mem_cons_self
      have hrest : rest.takeWhile isSpace = [] ∧ rest.dropWhile isSpace = rest := by
        cases rest with
        | nil => exact ⟨rfl, rfl⟩
        | cons d rest =>
            have hd := h d rfl
            exact ⟨List.takeWhile_cons_of_neg (by simp [hd]),
              List.dropWhile_cons_of_neg (by simp [hd])⟩
      have hmore : ∀ d ∈ cs, isSpace d = true := fun d hd => hcs d (List.mem_cons_of_mem _ hd)
      have hgap : gap? (c :: cs ++ rest) = some (.blank (c :: cs), rest) := by
        rw [List.cons_append, gap?]
        · rw [if_pos hc, List.takeWhile_append_of_pos hmore, List.dropWhile_append_of_pos hmore,
            hrest.1, hrest.2, List.append_nil]
        all_goals
          rintro tail rfl
          rw [not_isSpace_slash] at hc
          cases hc
      refine (gaps_of_some hgap ?_).trans rfl
      rw [List.length_append, List.length_cons]
      omega

/-- The gaps of a spacing are found in front of what is no gap. -/
theorem gaps_spacing (s : Spacing) {rest : List Char} (h : gap? rest = none)
    (hspace : ∀ c ∈ rest.head?, isSpace c = false) :
    gaps (s.gaps.flatMap Gap.text ++ rest) = (s.gaps, rest) := by
  obtain ⟨before, comment⟩ := s
  cases comment with
  | none =>
      show gaps (before.gaps.flatMap Gap.text ++ rest) = (before.gaps, rest)
      rw [Spaces.text_gaps, gaps_spaces before hspace, gaps_of_none h, List.append_nil]
  | some cb =>
      obtain ⟨c, behind⟩ := cb
      have htext : (before.gaps ++ .comment c.text :: behind.gaps).flatMap Gap.text ++ rest
          = before.val ++ (c.text ++ (behind.val ++ rest)) := by
        rw [List.flatMap_append, List.flatMap_cons, Spaces.text_gaps, Spaces.text_gaps]
        simp only [Gap.text, List.append_assoc]
      have hslash : ∀ d ∈ (c.text ++ (behind.val ++ rest)).head?, isSpace d = false := by
        rintro d hd
        cases hd
        exact not_isSpace_slash
      show gaps ((before.gaps ++ .comment c.text :: behind.gaps).flatMap Gap.text ++ rest)
        = (before.gaps ++ .comment c.text :: behind.gaps, rest)
      rw [htext, gaps_spaces before hslash, gaps_comment, gaps_spaces behind hspace,
        gaps_of_none h, List.append_nil]

/-! ### Lexemes -/

/-- A first character of a name and further ones. -/
def isName : List Char → Bool
  | [] => false
  | c :: cs => isNameStart c && cs.all isNamePart

theorem isNamePart_of_isName {cs : List Char} (h : isName cs = true) :
    ∀ c ∈ cs, isNamePart c = true := by
  cases cs with
  | nil => exact fun c hc => absurd hc List.not_mem_nil
  | cons c cs =>
      rw [isName, Bool.and_eq_true, List.all_eq_true] at h
      refine List.forall_mem_cons.mpr ⟨?_, h.2⟩
      rw [isNamePart, h.1, Bool.true_or, Bool.true_or, Bool.true_or]

/-- Characters behind the first digit of an integer: further digits, those of a radix prefix
or suffix, and underscores. -/
def isIntegerPart (c : Char) : Bool :=
  isAsciiDigit c || isAsciiLetter c || c == '_'

/-- A hexadecimal digit. -/
def isHexDigit (c : Char) : Bool :=
  isAsciiDigit c || ('a' ≤ c && c ≤ 'f') || ('A' ≤ c && c ≤ 'F')

/-- An octal digit. -/
def isOctalDigit (c : Char) : Bool :=
  '0' ≤ c && c ≤ '7'

/-- A binary digit. -/
def isBinaryDigit (c : Char) : Bool :=
  c == '0' || c == '1'

/-- Digits of a class, and underscores between digits. -/
def isDigits (p : Char → Bool) (cs : List Char) : Bool :=
  cs.head?.any p && cs.getLast?.any p && cs.all fun c => p c || c == '_'

/-- An integer to base sixteen, two, eight or ten; only a zero begins with a zero to base ten,
and it is one to base eight as well. -/
def isNumeral : List Char → Bool
  | '0' :: 'x' :: cs => isDigits isHexDigit cs
  | '0' :: 'X' :: cs => isDigits isHexDigit cs
  | '0' :: 'b' :: cs => isDigits isBinaryDigit cs
  | '0' :: 'B' :: cs => isDigits isBinaryDigit cs
  | '0' :: cs => isDigits isOctalDigit ('0' :: cs)
  | cs => isDigits isAsciiDigit cs

/-- The letter that makes an integer a long. -/
def isLongSuffix (c : Char) : Bool :=
  c == 'l' || c == 'L'

/-- An integer literal: a numeral, and perhaps the suffix of a long. -/
def isInteger (cs : List Char) : Bool :=
  isNumeral (if cs.getLast?.any isLongSuffix then cs.dropLast else cs)

theorem isIntegerPart_of_isHexDigit {c : Char} (h : isHexDigit c = true) :
    isIntegerPart c = true := by
  simp only [isHexDigit, Bool.or_eq_true, Bool.and_eq_true, decide_eq_true_eq] at h
  simp only [isIntegerPart, isAsciiLetter, Bool.or_eq_true, Bool.and_eq_true, decide_eq_true_eq]
  obtain (hdigit | ⟨hlow, hhigh⟩) | ⟨hlow, hhigh⟩ := h
  · exact .inl (.inl hdigit)
  · exact .inl (.inr (.inl ⟨hlow, Char.le_trans hhigh (by decide)⟩))
  · exact .inl (.inr (.inr ⟨hlow, Char.le_trans hhigh (by decide)⟩))

theorem isIntegerPart_of_isOctalDigit {c : Char} (h : isOctalDigit c = true) :
    isIntegerPart c = true := by
  simp only [isOctalDigit, Bool.and_eq_true, decide_eq_true_eq] at h
  have hdigit : isAsciiDigit c = true := by
    simp only [isAsciiDigit, Bool.and_eq_true, decide_eq_true_eq]
    exact ⟨h.1, Char.le_trans h.2 (by decide)⟩
  rw [isIntegerPart, hdigit, Bool.true_or, Bool.true_or]

theorem isIntegerPart_of_isBinaryDigit {c : Char} (h : isBinaryDigit c = true) :
    isIntegerPart c = true := by
  obtain rfl | rfl : c = '0' ∨ c = '1' := by simpa [isBinaryDigit] using h
  all_goals decide

theorem isIntegerPart_of_isDigits {p : Char → Bool} {cs : List Char} (h : isDigits p cs = true)
    (hp : ∀ c, p c = true → isIntegerPart c = true) : ∀ c ∈ cs, isIntegerPart c = true := by
  rw [isDigits, Bool.and_eq_true, List.all_eq_true] at h
  intro c hc
  obtain hdigit | hunderscore := Bool.or_eq_true_iff.mp (h.2 c hc)
  · exact hp c hdigit
  · obtain rfl := beq_iff_eq.mp hunderscore
    decide

theorem isIntegerPart_of_isNumeral {cs : List Char} (h : isNumeral cs = true) :
    ∀ c ∈ cs, isIntegerPart c = true := by
  have hprefixed {d : Char} {rest : List Char} (hd : isIntegerPart d = true)
      (hrest : ∀ c ∈ rest, isIntegerPart c = true) :
      ∀ c ∈ '0' :: d :: rest, isIntegerPart c = true :=
    List.forall_mem_cons.mpr ⟨by decide, List.forall_mem_cons.mpr ⟨hd, hrest⟩⟩
  unfold isNumeral at h
  split at h
  · exact hprefixed (by decide) (isIntegerPart_of_isDigits h fun c => isIntegerPart_of_isHexDigit)
  · exact hprefixed (by decide) (isIntegerPart_of_isDigits h fun c => isIntegerPart_of_isHexDigit)
  · exact hprefixed (by decide) (isIntegerPart_of_isDigits h fun c => isIntegerPart_of_isBinaryDigit)
  · exact hprefixed (by decide) (isIntegerPart_of_isDigits h fun c => isIntegerPart_of_isBinaryDigit)
  · exact isIntegerPart_of_isDigits h fun c => isIntegerPart_of_isOctalDigit
  · exact isIntegerPart_of_isDigits h fun c hc => by rw [isIntegerPart, hc, Bool.true_or, Bool.true_or]

theorem head?_isNumeral {cs : List Char} (h : isNumeral cs = true) :
    cs.head?.any isAsciiDigit = true := by
  unfold isNumeral at h
  split at h
  case h_6 =>
    rw [isDigits, Bool.and_eq_true, Bool.and_eq_true] at h
    exact h.1.1
  all_goals rfl

theorem isInteger_nil : isInteger [] = false :=
  rfl

/-- An integer begins with a digit, and nothing stands behind it that does not belong to one. -/
theorem isInteger_cons {c : Char} {cs : List Char} (h : isInteger (c :: cs) = true) :
    isAsciiDigit c = true ∧ ∀ d ∈ cs, isIntegerPart d = true := by
  unfold isInteger at h
  split at h
  · rename_i hsuffix
    obtain ⟨ds, l, hds⟩ := (List.eq_nil_or_concat (c :: cs)).resolve_left (List.cons_ne_nil c cs)
    rw [List.concat_eq_append] at hds
    rw [hds, List.getLast?_concat] at hsuffix
    rw [hds, List.dropLast_concat] at h
    have hlast : isIntegerPart l = true := by
      obtain rfl | rfl : l = 'l' ∨ l = 'L' := by simpa [isLongSuffix] using hsuffix
      all_goals decide
    cases ds with
    | nil => exact absurd h (by decide)
    | cons d ds =>
        obtain ⟨rfl, rfl⟩ := List.cons.inj hds
        refine ⟨head?_isNumeral h, fun e he => ?_⟩
        rcases List.mem_append.mp he with he | he
        · exact isIntegerPart_of_isNumeral h e (List.mem_cons_of_mem _ he)
        · rw [List.mem_singleton.mp he]
          exact hlast
  · exact ⟨head?_isNumeral h, fun d hd =>
      isIntegerPart_of_isNumeral h d (List.mem_cons_of_mem _ hd)⟩

example : isInteger "0x7F_FFL".toList = true ∧ isInteger "1abc".toList = false := by decide

/-- The characters that stand for themselves in a string literal. -/
def isPlainInLiteral (c : Char) : Bool :=
  c != '"' && c != '\\' && c != '\n' && c != '\r'

/-- The characters that may stand behind the backslash of an escape. -/
def escapeChars : List Char :=
  ['b', 't', 'n', 'f', 'r', 's', '"', '\'', '\\', '0', '1', '2', '3', '4', '5', '6', '7']

/-- A part of a string literal: a character, or an escape. -/
inductive LiteralPart where
  | plain (c : Char) (h : isPlainInLiteral c = true)
  | escape (c : Char) (h : c ∈ escapeChars)
  | unicode (digits : List Char) (h : digits.length = 4 ∧ digits.all isHexDigit = true)

/-- The source text of a part of a literal. -/
def LiteralPart.text : LiteralPart → List Char
  | plain c _ => [c]
  | escape c _ => ['\\', c]
  | unicode digits _ => '\\' :: 'u' :: digits

/-- The source text of a string literal. -/
def literalText (parts : List LiteralPart) : List Char :=
  '"' :: (parts.flatMap LiteralPart.text ++ ['"'])

/-- The separators and the operators; a slash may open a comment, and is left out. -/
def separators : List Char :=
  ['@', '.', ',', ';', '(', ')', '\x7b', '\x7d', '[', ']', '<', '>', '=', '?', '-', '&', '*', '+',
    '%', '|', '^', '!', '~', ':']

/-- The text is one token of the kind. -/
def TokenKind.Admits : TokenKind → List Char → Prop
  | .word, cs => isName cs = true
  | .number, cs => isInteger cs = true
  | .literal, cs => ∃ parts, cs = literalText parts
  | .mark, cs => ∃ c ∈ separators, cs = [c]

/-- The character may stand directly behind a token of the kind with the given text. -/
def TokenKind.mayPrecede (kind : TokenKind) (text : List Char) (c : Char) : Bool :=
  match kind with
  | .word => !isNamePart c
  | .number => !(isIntegerPart c || c == '.' || c == '+' || c == '-')
  | .literal => c != '"'
  | .mark => text != ['.'] || !isAsciiDigit c

/-- The characters that white space is made of. -/
def spaceChars : List Char :=
  ['\t', '\n', '\x0b', '\x0c', '\r', ' ']

theorem mem_spaceChars {c : Char} (h : isSpace c = true) : c ∈ spaceChars := by
  have hofNat : c = Char.ofNat c.toNat := (Char.ofNat_toNat c).symm
  simp only [isSpace, Bool.or_eq_true, Bool.and_eq_true, decide_eq_true_eq] at h
  rcases h with ⟨hlow, hhigh⟩ | rfl
  · obtain hn | hn | hn | hn | hn :
        c.toNat = 9 ∨ c.toNat = 10 ∨ c.toNat = 11 ∨ c.toNat = 12 ∨ c.toNat = 13 := by omega
    all_goals
      rw [hofNat, hn]
      decide
  · decide

/-- Characters that belong to no token in front of them. -/
def apartChars : List Char :=
  '/' :: ',' :: '\x7d' :: spaceChars

theorem mayPrecede_apart {c : Char} (h : c ∈ apartChars) (kind : TokenKind) (text : List Char) :
    kind.mayPrecede text c = true := by
  have hchars : ∀ d ∈ apartChars, isNamePart d = false ∧ isIntegerPart d = false
      ∧ d ≠ '.' ∧ d ≠ '+' ∧ d ≠ '-' ∧ d ≠ '"' ∧ isAsciiDigit d = false :=
    forall_mem_of_all (by decide)
  obtain ⟨hname, hinteger, hdot, hplus, hminus, hquote, hdigit⟩ := hchars c h
  cases kind <;> simp [TokenKind.mayPrecede, *]

/-- White space and comments may stand directly behind anything. -/
theorem mayPrecede_gap {c : Char} (h : isSpace c = true ∨ c = '/') (kind : TokenKind)
    (text : List Char) : kind.mayPrecede text c = true := by
  refine mayPrecede_apart ?_ kind text
  rcases h with h | rfl
  · exact List.mem_cons_of_mem _ (List.mem_cons_of_mem _ (List.mem_cons_of_mem _ (mem_spaceChars h)))
  · exact List.mem_cons_self

/-! ### Reading one token -/

theorem throughQuote_plain {cs : List Char} (h : ∀ c ∈ cs, isPlainInLiteral c = true)
    (rest : List Char) :
    throughQuote '"' (cs ++ rest)
      = (cs ++ (throughQuote '"' rest).1, (throughQuote '"' rest).2) := by
  induction cs with
  | nil => rfl
  | cons c cs ih =>
      have hc := h c List.mem_cons_self
      simp only [isPlainInLiteral, Bool.and_eq_true, bne_iff_ne] at hc
      rw [List.cons_append, throughQuote]
      · rw [if_neg hc.1.1.1, ih fun d hd => h d (List.mem_cons_of_mem _ hd)]
        rfl
      · exact fun d ds heq => absurd heq hc.1.1.2

theorem isPlainInLiteral_of_isHexDigit {c : Char} (h : isHexDigit c = true) :
    isPlainInLiteral c = true := by
  have hspecial : ∀ d ∈ ['"', '\\', '\n', '\r'], isHexDigit d = false :=
    forall_mem_of_all (by decide)
  have hne : ∀ d ∈ ['"', '\\', '\n', '\r'], c ≠ d := by
    rintro d hd rfl
    rw [hspecial c hd] at h
    cases h
  simp only [isPlainInLiteral, Bool.and_eq_true, bne_iff_ne]
  exact ⟨⟨⟨hne _ (by decide), hne _ (by decide)⟩, hne _ (by decide)⟩, hne _ (by decide)⟩

theorem throughQuote_part (part : LiteralPart) (rest : List Char) :
    throughQuote '"' (part.text ++ rest)
      = (part.text ++ (throughQuote '"' rest).1, (throughQuote '"' rest).2) := by
  cases part with
  | plain c h => exact throughQuote_plain (List.forall_mem_singleton.mpr h) rest
  | escape c h => rfl
  | unicode digits h =>
      have hplain : ∀ c ∈ digits, isPlainInLiteral c = true := fun c hc =>
        isPlainInLiteral_of_isHexDigit (List.all_eq_true.mp h.2 c hc)
      show throughQuote '"' ('\\' :: 'u' :: (digits ++ rest)) = _
      rw [throughQuote, throughQuote_plain hplain]
      rfl

theorem throughQuote_parts (parts : List LiteralPart) (rest : List Char) :
    throughQuote '"' (parts.flatMap LiteralPart.text ++ '"' :: rest)
      = (parts.flatMap LiteralPart.text ++ ['"'], rest) := by
  induction parts with
  | nil => rfl
  | cons part parts ih =>
      rw [List.flatMap_cons, List.append_assoc, throughQuote_part, ih, List.append_assoc]

/-- A literal does not open with three quotes unless one stands directly behind it. -/
theorem not_triple {parts : List LiteralPart} {rest : List Char}
    (h : ∀ c ∈ rest.head?, c ≠ '"') (tail : List Char) :
    literalText parts ++ rest ≠ '"' :: '"' :: '"' :: tail := by
  intro heq
  have heq := (List.cons.inj heq).2
  cases parts with
  | nil =>
      cases rest with
      | nil => cases heq
      | cons c rest =>
          obtain ⟨rfl, -⟩ := List.cons.inj (List.cons.inj heq).2
          exact h '"' rfl rfl
  | cons part parts =>
      cases part with
      | plain c hc =>
          obtain ⟨rfl, -⟩ := List.cons.inj heq
          cases hc
      | escape c hc => exact absurd (List.cons.inj heq).1 (by decide)
      | unicode digits hd => exact absurd (List.cons.inj heq).1 (by decide)

theorem lexeme?_cons {c : Char} (hc : c ≠ '"') (cs : List Char) :
    lexeme? (c :: cs)
      = if c = '\'' then some (.literal, c :: (throughQuote c cs).1, (throughQuote c cs).2)
        else if isNameStart c then
          some (.word, c :: cs.takeWhile isNamePart, cs.dropWhile isNamePart)
        else if startsNumber (c :: cs) then
          some (.number, c :: (numberTail c cs).1, (numberTail c cs).2)
        else some (.mark, [c], cs) := by
  rw [lexeme?]
  · simp only [hc, decide_false, Bool.false_or, decide_eq_true_eq]
  · rintro tail rfl
    exact absurd rfl hc

theorem takeWhile_exact {p : Char → Bool} {cs rest : List Char} (hcs : ∀ c ∈ cs, p c = true)
    (hrest : ∀ c ∈ rest.head?, p c = false) :
    (cs ++ rest).takeWhile p = cs ∧ (cs ++ rest).dropWhile p = rest := by
  rw [List.takeWhile_append_of_pos hcs, List.dropWhile_append_of_pos hcs]
  cases rest with
  | nil => simp
  | cons c rest =>
      have hc := hrest c rfl
      simp [hc]

theorem numberTail_exact {cs rest : List Char} (hcs : ∀ c ∈ cs, isIntegerPart c = true)
    (hrest : ∀ c ∈ rest.head?, TokenKind.number.mayPrecede [] c = true) :
    ∀ last, numberTail last (cs ++ rest) = (cs, rest) := by
  induction cs with
  | nil =>
      intro last
      cases rest with
      | nil => rfl
      | cons c rest =>
          have hc := hrest c rfl
          simp only [TokenKind.mayPrecede, isIntegerPart, Bool.not_eq_true', Bool.or_eq_false_iff,
            beq_eq_false_iff_ne] at hc
          obtain ⟨⟨⟨⟨⟨hdigit, hletter⟩, hunderscore⟩, hdot⟩, hplus⟩, hminus⟩ := hc
          simp [numberTail, *]
  | cons c cs ih =>
      intro last
      have hc := hcs c List.mem_cons_self
      simp only [isIntegerPart, Bool.or_eq_true, beq_iff_eq] at hc
      rw [List.cons_append, numberTail, ih fun d hd => hcs d (List.mem_cons_of_mem _ hd)]
      rw [if_pos]
      simp only [Bool.or_eq_true, decide_eq_true_eq]
      exact .inl (.inl hc)

theorem isNameStart_of_isAsciiDigit {c : Char} (h : isAsciiDigit c = true) :
    isNameStart c = false := by
  have hofNat : c = Char.ofNat c.toNat := (Char.ofNat_toNat c).symm
  simp only [isAsciiDigit, Bool.and_eq_true, decide_eq_true_eq] at h
  have hlow : 48 ≤ c.toNat := h.1
  have hhigh : c.toNat ≤ 57 := h.2
  obtain hn | hn | hn | hn | hn | hn | hn | hn | hn | hn :
      c.toNat = 48 ∨ c.toNat = 49 ∨ c.toNat = 50 ∨ c.toNat = 51 ∨ c.toNat = 52 ∨ c.toNat = 53
        ∨ c.toNat = 54 ∨ c.toNat = 55 ∨ c.toNat = 56 ∨ c.toNat = 57 := by omega
  all_goals
    rw [hofNat, hn]
    decide

theorem startsNumber_of_ne_dot {c : Char} (h : c ≠ '.') (cs : List Char) :
    startsNumber (c :: cs) = isAsciiDigit c := by
  cases cs with
  | nil => simp [startsNumber]
  | cons d ds =>
      rw [startsNumber]
      exact fun e es heq => absurd heq h

theorem startsNumber_dot {cs : List Char} (h : ∀ c ∈ cs.head?, isAsciiDigit c = false) :
    startsNumber ('.' :: cs) = false := by
  cases cs with
  | nil => rfl
  | cons c cs => exact h c rfl

/-- A text that is one token is read as such, if what follows may stand behind it. -/
theorem lexeme?_admitted {kind : TokenKind} {text : List Char} (h : kind.Admits text)
    {rest : List Char} (hrest : ∀ c ∈ rest.head?, kind.mayPrecede text c = true) :
    lexeme? (text ++ rest) = some (kind, text, rest) := by
  cases kind with
  | word =>
      cases text with
      | nil => cases h
      | cons c cs =>
          simp only [TokenKind.Admits, isName, Bool.and_eq_true, List.all_eq_true] at h
          have hquote : c ≠ '"' := by rintro rfl; exact absurd h.1 (by decide)
          have hsingle : c ≠ '\'' := by rintro rfl; exact absurd h.1 (by decide)
          obtain ⟨htake, hdrop⟩ := takeWhile_exact (p := isNamePart) h.2 fun d hd => by
            simpa [TokenKind.mayPrecede] using hrest d hd
          rw [List.cons_append, lexeme?_cons hquote, if_neg hsingle, if_pos h.1, htake, hdrop]
  | number =>
      cases text with
      | nil => cases h
      | cons c cs =>
          obtain ⟨hdigit, hparts⟩ := isInteger_cons h
          have hquote : c ≠ '"' := by rintro rfl; exact absurd hdigit (by decide)
          have hsingle : c ≠ '\'' := by rintro rfl; exact absurd hdigit (by decide)
          have hdot : c ≠ '.' := by rintro rfl; exact absurd hdigit (by decide)
          have hname := isNameStart_of_isAsciiDigit hdigit
          rw [List.cons_append, lexeme?_cons hquote, if_neg hsingle, hname,
            startsNumber_of_ne_dot hdot, hdigit, numberTail_exact hparts hrest]
          rfl
  | literal =>
      obtain ⟨parts, rfl⟩ := h
      have hquote : ∀ c ∈ rest.head?, c ≠ '"' := fun c hc => by
        simpa [TokenKind.mayPrecede] using hrest c hc
      have htext : literalText parts ++ rest
          = '"' :: (parts.flatMap LiteralPart.text ++ '"' :: rest) := by
        simp [literalText]
      rw [htext, lexeme?, throughQuote_parts]
      · rfl
      · rintro tail - htail
        exact not_triple hquote tail (by rw [htext, htail])
  | mark =>
      obtain ⟨c, hc, rfl⟩ := h
      have hmarks : ∀ d ∈ separators, d ≠ '"' ∧ d ≠ '\'' ∧ isNameStart d = false
          ∧ isAsciiDigit d = false := forall_mem_of_all (by decide)
      obtain ⟨hquote, hsingle, hname, hdigit⟩ := hmarks c hc
      have hnumber : startsNumber (c :: rest) = false := by
        by_cases hdot : c = '.'
        · subst hdot
          exact startsNumber_dot fun d hd => by simpa [TokenKind.mayPrecede] using hrest d hd
        · rw [startsNumber_of_ne_dot hdot, hdigit]
      rw [List.singleton_append, lexeme?_cons hquote, if_neg hsingle, hname, hnumber]
      rfl

/-- No gap begins where a token does. -/
theorem gap?_admitted {kind : TokenKind} {text : List Char} (h : kind.Admits text)
    (rest : List Char) :
    gap? (text ++ rest) = none ∧ ∀ c ∈ (text ++ rest).head?, isSpace c = false := by
  have hfirst : ∀ c ∈ '/' :: spaceChars, isNameStart c = false ∧ isAsciiDigit c = false
      ∧ c ≠ '"' ∧ c ∉ separators := forall_mem_of_all (by decide)
  obtain ⟨c, cs, rfl, hc⟩ : ∃ c cs, text = c :: cs ∧ c ∉ '/' :: spaceChars := by
    cases kind with
    | word =>
        cases text with
        | nil => cases h
        | cons c cs =>
            refine ⟨c, cs, rfl, fun hmem => ?_⟩
            simp [TokenKind.Admits, isName, (hfirst c hmem).1] at h
    | number =>
        cases text with
        | nil => cases h
        | cons c cs =>
            refine ⟨c, cs, rfl, fun hmem => ?_⟩
            exact Bool.false_ne_true ((hfirst c hmem).2.1.symm.trans (isInteger_cons h).1)
    | literal =>
        obtain ⟨parts, rfl⟩ := h
        exact ⟨'"', _, rfl, fun hmem => (hfirst _ hmem).2.2.1 rfl⟩
    | mark =>
        obtain ⟨c, hc, rfl⟩ := h
        exact ⟨c, [], rfl, fun hmem => (hfirst c hmem).2.2.2 hc⟩
  have hspace : isSpace c = false := by
    by_contra hspace
    exact hc (List.mem_cons_of_mem _ (mem_spaceChars (by simpa using hspace)))
  constructor
  · rw [List.cons_append, gap?]
    · rw [if_neg (by simp [hspace])]
    all_goals
      rintro tail rfl
      exact absurd List.mem_cons_self hc
  · rintro d hd
    obtain rfl : c = d := Option.some.inj hd
    exact hspace

/-! ### Reading all tokens -/

/-- The token is of a form that can be written, with a gap in front of it that can be, too. -/
structure Token.IsWritten (t : Token) : Prop where
  spacing : ∃ s : Spacing, t.gaps = s.gaps
  admits : t.kind.Admits t.text.toList

/-- The second token may follow the first one as it stands. -/
def Token.MayPrecede (t u : Token) : Prop :=
  ∀ c ∈ u.fullText.head?, t.kind.mayPrecede t.text.toList c = true

theorem TokenKind.Admits.ne_nil {kind : TokenKind} {text : List Char} (h : kind.Admits text) :
    text ≠ [] := by
  rintro rfl
  cases kind <;> simp [Admits, isName, isInteger_nil, literalText] at h

theorem Token.IsWritten.fullText_ne_nil {t : Token} (h : t.IsWritten) : t.fullText ≠ [] := by
  intro hnil
  exact h.admits.ne_nil (List.append_eq_nil_iff.mp hnil).2

theorem tokens_cons {t : Token} (ht : t.IsWritten) {rest : List Char}
    (hrest : ∀ c ∈ rest.head?, t.kind.mayPrecede t.text.toList c = true) :
    tokens (t.fullText ++ rest) = t :: tokens rest := by
  obtain ⟨⟨s, hs⟩, hadmits⟩ := ht
  obtain ⟨hgap, hspace⟩ := gap?_admitted hadmits rest
  have hgaps : gaps (t.fullText ++ rest) = (t.gaps, t.text.toList ++ rest) := by
    rw [Token.fullText, hs, List.append_assoc]
    exact gaps_spacing s hgap hspace
  have hlength : rest.length < (t.fullText ++ rest).length := by
    have := List.length_pos_iff.mpr hadmits.ne_nil
    simp only [Token.fullText, List.length_append]
    omega
  rw [tokens, hgaps]
  simp only [lexeme?_admitted hadmits hrest, hlength, ↓reduceDIte, String.ofList_toList]

theorem tokens_spaces (s : Spaces) : tokens s.val = [] := by
  have hgaps : gaps (s.val ++ []) = _ := gaps_spaces s nofun
  rw [List.append_nil] at hgaps
  rw [tokens, hgaps, gaps_of_none rfl]
  rfl

/-- **A text is cut into the tokens that it is put together from.** -/
theorem tokens_fullText {ts : List Token} (hwritten : ∀ t ∈ ts, t.IsWritten)
    (hchain : ts.IsChain Token.MayPrecede) (last : Spaces) :
    tokens (ts.flatMap Token.fullText ++ last.val) = ts := by
  induction ts with
  | nil => exact tokens_spaces last
  | cons t ts ih =>
      have ht := hwritten t List.mem_cons_self
      have hrest := ih (fun u hu => hwritten u (List.mem_cons_of_mem _ hu)) hchain.of_cons
      rw [List.flatMap_cons, List.append_assoc, tokens_cons ht, hrest]
      cases ts with
      | nil =>
          intro c hc
          exact mayPrecede_gap (.inl (last.property c (List.mem_of_mem_head? hc))) _ _
      | cons u us =>
          intro c hc
          have hu := (hwritten u (by simp)).fullText_ne_nil
          rw [List.flatMap_cons, List.append_assoc, List.head?_append_of_ne_nil _ hu] at hc
          exact (List.isChain_cons_cons.mp hchain).1 c hc

end ServiceAtlas.Java
