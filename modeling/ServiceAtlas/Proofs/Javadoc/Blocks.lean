/-
Blocks of a documentation comment.

A block begins with its tag and goes on to the next tag, whatever lines its text was broken over.
The text of a block is its words with single spaces between them, so it does not matter where the
lines end: what a block keeps are the words behind its tag (`Block.Carries`).  No inline tag and no
run of line breaks is left to replace in a text with single spaces that does not open one, and
cleaning changes nothing in it (`clean_eq`).

Each entry that is written opens a block and no line that continues it does, so `sections` returns
one block for each entry (`sections_wrapped`).  The induction is on the entries; what the blocks
behind an entry leave over is part of its own block, and that is at most an empty text.
-/
import ServiceAtlas.Proofs.Javadoc.Rows

namespace ServiceAtlas

namespace Text

/-- A pattern of two characters that lies in a text with a separator lies in one of its parts. -/
theorem infix_append_sep {a b sep : Char} (ha : a ≠ sep) (hb : b ≠ sep) {cs ds : List Char}
    (h : [a, b] <:+: cs ++ sep :: ds) : [a, b] <:+: cs ∨ [a, b] <:+: ds := by
  induction cs with
  | nil =>
      rw [List.nil_append, List.infix_cons_iff, List.cons_prefix_cons] at h
      rcases h with ⟨heq, -⟩ | hrest
      · exact absurd heq ha
      · exact Or.inr hrest
  | cons c cs ih =>
      rw [List.cons_append, List.infix_cons_iff] at h
      rcases h with hfront | hrest
      · left
        cases cs with
        | nil =>
            rw [List.nil_append, List.cons_prefix_cons, List.cons_prefix_cons] at hfront
            exact absurd hfront.2.1 hb
        | cons d cs =>
            rw [List.cons_append, List.cons_prefix_cons, List.cons_prefix_cons] at hfront
            obtain ⟨rfl, rfl, -⟩ := hfront
            exact ⟨[], cs, rfl⟩
      · rcases ih hrest with hleft | hright
        · exact Or.inl (List.infix_cons hleft)
        · exact Or.inr hright

end Text

namespace Javadoc

open ServiceAtlas.Text

/-! ### Cleaning -/

/-- What every inline tag begins with. -/
def inlineOpening : List Char :=
  ['\x7b', '@']

/-- More line breaks in a row than are kept. -/
def threeBreaks : List Char :=
  ['\n', '\n', '\n']

theorem inlineTag?_eq_none {cs : List Char} (h : ¬inlineOpening <+: cs) : inlineTag? cs = none := by
  unfold inlineTag?
  rw [List.findSome?_eq_none_iff]
  intro word _
  have hopening : ('\x7b' :: '@' :: word).isPrefixOf cs = false := by
    rw [Bool.eq_false_iff]
    intro hprefix
    rw [List.isPrefixOf_iff_prefix] at hprefix
    exact h ((List.prefix_append inlineOpening word).trans hprefix)
  simp [hopening]

theorem withoutInlineTags_eq {cs : List Char} (h : ¬inlineOpening <:+: cs) :
    withoutInlineTags 0 cs = cs := by
  induction cs with
  | nil => rfl
  | cons c cs ih =>
      rw [List.infix_cons_iff, not_or] at h
      rw [withoutInlineTags, inlineTag?_eq_none h.1]
      exact congrArg (c :: ·) (ih h.2)

/-- Breaks that were passed count as if they stood in front of the text. -/
theorem shortenBreaks_eq {cs : List Char} :
    ∀ run, ¬threeBreaks <:+: List.replicate run '\n' ++ cs → shortenBreaks run cs = cs := by
  induction cs with
  | nil => intro run _; rfl
  | cons c cs ih =>
      intro run h
      unfold shortenBreaks
      by_cases hc : c = '\n'
      · subst hc
        have hnext : List.replicate run '\n' ++ '\n' :: cs
            = List.replicate (run + 1) '\n' ++ cs := by
          rw [List.replicate_succ', List.append_assoc]
          rfl
        rw [hnext] at h
        have hrun : run < 2 := by
          by_contra hge
          refine h ?_
          obtain ⟨k, hk⟩ := Nat.exists_eq_add_of_le (by omega : 3 ≤ run + 1)
          rw [hk, ← List.replicate_append_replicate, List.append_assoc]
          exact (List.prefix_append threeBreaks _).isInfix
        rw [if_pos rfl, if_pos hrun, ih (run + 1) h]
      · have hrest : ¬threeBreaks <:+: cs := fun hin =>
          h (hin.trans ((List.suffix_cons c cs).trans (List.suffix_append _ _)).isInfix)
        rw [if_neg hc, ih 0 hrest]

/-- Cleaning only trims a text that opens no inline tag and has no three breaks in a row. -/
theorem clean_eq {cs : List Char} (hinline : ¬inlineOpening <:+: cs)
    (hbreaks : ¬threeBreaks <:+: cs) : clean cs = trim cs := by
  unfold clean
  rw [withoutInlineTags_eq hinline, shortenBreaks_eq 0 hbreaks]

/-! ### What a block is written with -/

/-- Text with single spaces between its words and no inline tag. -/
structure Phrase where
  text : List Char
  spaced : IsSpaced text
  plain : ¬inlineOpening <:+: text

/-- The name of a parameter. -/
structure ParamName where
  text : List Char
  word : IsWord text
  plain : ¬inlineOpening <:+: text

/-- What one block says. -/
inductive Entry where
  | param (name : ParamName) (text : Phrase)
  | returns (text : Phrase)
  | deprecated (text : Phrase)
  | since (text : Phrase)

namespace Entry

def tag : Entry → List Char
  | param _ _ => "param".toList
  | returns _ => "return".toList
  | deprecated _ => "deprecated".toList
  | since _ => "since".toList

/-- What is written behind the tag. -/
def content : Entry → List Char
  | param name text => name.text ++ ' ' :: text.text
  | returns text => text.text
  | deprecated text => text.text
  | since text => text.text

/-- The entry on one line. -/
def text (e : Entry) : List Char :=
  ('@' :: e.tag) ++ ' ' :: e.content

end Entry

/-- The line begins with an at sign and a character of a word. -/
def opensBlock : List Char → Bool
  | '@' :: c :: _ => isWordChar c
  | _ => false

/-- An entry broken over lines at spaces, so that no line but the first one opens a block. -/
structure Wrapped where
  entry : Entry
  first : List Char
  others : List (List Char)
  whole : join [' '] (first :: others) = entry.text
  unopened : ∀ l ∈ others, opensBlock l = false

def Wrapped.rows (w : Wrapped) : List (List Char) :=
  w.first :: w.others

/-! ### Lines that open a block -/

theorem blockStart?_eq_none {l : List Char} (h : opensBlock l = false) : blockStart? l = none := by
  unfold blockStart?
  split
  case h_1 rest =>
    cases rest with
    | nil => rfl
    | cons c rest =>
        have hc : isWordChar c = false := h
        rw [List.takeWhile_cons_of_neg (by simp [hc])]
  case h_2 => rfl

theorem opensBlock_of_isPrefix {l k : List Char} (hlk : l <+: k) (hk : opensBlock k = false) :
    opensBlock l = false := by
  unfold opensBlock
  split
  case h_1 c rest =>
    obtain ⟨tail, rfl⟩ := hlk
    exact hk
  case h_2 => rfl

/-- A line that opens no block still opens none when the blanks at its end are gone. -/
theorem blockStart?_trimmed {l : List Char} (h : opensBlock l = false) :
    blockStart? (trimEndWhere isBlank l) = none :=
  blockStart?_eq_none (opensBlock_of_isPrefix (trimEndWhere_isPrefix l) h)

theorem blockStart?_tagged {tag rest : List Char} (htag : tag ≠ [])
    (hword : ∀ c ∈ tag, isWordChar c = true) (hrest : rest.head?.any isWordChar = false) :
    blockStart? ('@' :: (tag ++ rest)) = some (tag, rest.dropWhile isBlank) := by
  have htake : rest.takeWhile isWordChar = [] := by
    cases rest with
    | nil => rfl
    | cons c rest => exact List.takeWhile_cons_of_neg (by simpa using hrest)
  have hdrop : rest.dropWhile isWordChar = rest := by
    cases rest with
    | nil => rfl
    | cons c rest => exact List.dropWhile_cons_of_neg (by simpa using hrest)
  obtain ⟨c, cs, rfl⟩ := List.exists_cons_of_ne_nil htag
  unfold blockStart?
  simp only [List.takeWhile_append_of_pos hword, List.dropWhile_append_of_pos hword, htake, hdrop,
    List.append_nil]

/-- The tags that entries are written with. -/
def tags : List (List Char) :=
  ["param".toList, "return".toList, "deprecated".toList, "since".toList]

theorem Entry.tag_mem (e : Entry) : e.tag ∈ tags := by
  cases e with
  | param => exact .head _
  | returns => exact .tail _ (.head _)
  | deprecated => exact .tail _ (.tail _ (.head _))
  | since => exact .tail _ (.tail _ (.tail _ (.head _)))

theorem Entry.tag_word (e : Entry) : e.tag ≠ [] ∧ ∀ c ∈ e.tag, isWordChar c = true := by
  have htags : ∀ tag ∈ tags, tag ≠ [] ∧ tag.all isWordChar = true := by decide
  obtain ⟨hne, hall⟩ := htags e.tag e.tag_mem
  exact ⟨hne, List.all_eq_true.mp hall⟩

theorem Entry.isWord_opening (e : Entry) : IsWord ('@' :: e.tag) := by
  have htags : ∀ tag ∈ tags, IsWord ('@' :: tag) := by decide
  exact htags e.tag e.tag_mem

/-- The first of several lines is not broken off before the first space. -/
theorem exists_front {front first behind : List Char} {others : List (List Char)}
    (hfront : ' ' ∉ front) (h : join [' '] (first :: others) = front ++ ' ' :: behind) :
    ∃ rest, first = front ++ rest ∧ (rest = [] ∨ ∃ cs, rest = ' ' :: cs) := by
  cases others with
  | nil => exact ⟨' ' :: behind, h, Or.inr ⟨behind, rfl⟩⟩
  | cons l others =>
      have hsplit : first ++ ' ' :: join [' '] (l :: others) = front ++ ' ' :: behind := by
        rw [← h, join, List.append_assoc]
        rfl
      rcases List.append_eq_append_iff.mp hsplit with ⟨cs, hcs, hspace⟩ | ⟨cs, hcs, hspace⟩
      · -- The front is longer than the line, unless nothing of it is left over.
        cases cs with
        | nil => exact ⟨[], by rw [hcs, List.append_nil, List.append_nil], Or.inl rfl⟩
        | cons c cs =>
            rw [List.cons_append, List.cons_eq_cons] at hspace
            rw [hcs, ← hspace.1] at hfront
            simp at hfront
      · refine ⟨cs, hcs, ?_⟩
        cases cs with
        | nil => exact Or.inl rfl
        | cons c cs =>
            rw [List.cons_append, List.cons_eq_cons] at hspace
            exact Or.inr ⟨cs, by rw [hspace.1]⟩

theorem trimEndWhere_behind {rest : List Char} (h : rest = [] ∨ ∃ cs, rest = ' ' :: cs) :
    (trimEndWhere isBlank rest).head?.any isWordChar = false := by
  obtain ⟨tail, htail⟩ := trimEndWhere_isPrefix (p := isBlank) rest
  cases htrim : trimEndWhere isBlank rest with
  | nil => rfl
  | cons c cs =>
      rw [htrim] at htail
      rcases h with rfl | ⟨ds, rfl⟩
      · cases htail
      · rw [List.cons_append, List.cons_eq_cons] at htail
        rw [htail.1]
        show isWordChar ' ' = false
        decide

theorem words_behind {word rest : List Char} (hword : IsWord word)
    (h : rest = [] ∨ ∃ cs, rest = ' ' :: cs) : words (word ++ rest) = word :: words rest := by
  rcases h with rfl | ⟨cs, rfl⟩
  · rw [List.append_nil, words_of_isWord hword]
    rfl
  · rw [words_append_blank rfl, words_of_isWord hword, words_blank rfl]
    rfl

/-- The first line of an entry opens a block with its tag, and the words behind the tag are those
of the entry. -/
theorem Wrapped.blockStart?_first (w : Wrapped) :
    ∃ text, blockStart? (trimEndWhere isBlank w.first) = some (w.entry.tag, text) ∧
      words text ++ w.others.flatMap words = words w.entry.content := by
  have hopening := w.entry.isWord_opening
  have hspace : ' ' ∉ '@' :: w.entry.tag := by
    intro h
    exact absurd (hopening.unblank ' ' h) (by decide)
  obtain ⟨rest, hfirst, hrest⟩ := exists_front hspace w.whole
  have htrim : trimEndWhere isBlank w.first
      = '@' :: (w.entry.tag ++ trimEndWhere isBlank rest) := by
    rw [hfirst, trimEndWhere_append]
    split
    · rename_i hnone
      rw [hnone, List.append_nil]
      exact trimEndWhere_of_getLast? hopening.getLast?_isBlank
    · rfl
  obtain ⟨htag, hword⟩ := w.entry.tag_word
  have hstart := blockStart?_tagged htag hword (trimEndWhere_behind hrest)
  refine ⟨(trimEndWhere isBlank rest).dropWhile isBlank, by rw [htrim, hstart], ?_⟩
  have hwords := congrArg words w.whole
  unfold Entry.text at hwords
  rw [words_join, List.flatMap_cons, hfirst, words_behind hopening hrest, words_append_blank rfl,
    words_of_isWord hopening, List.cons_append, List.singleton_append, List.cons_inj_right] at hwords
  rw [words_dropWhile_isBlank, words_trimEndWhere_isBlank, hwords]

/-! ### Sections -/

theorem sections_plain {ls : List (List Char)} (hls : ∀ l ∈ ls, blockStart? l = none)
    (rest : List (List Char)) :
    sections (ls ++ rest) = (ls ++ (sections rest).1, (sections rest).2) := by
  induction ls with
  | nil => rfl
  | cons l ls ih =>
      obtain ⟨hl, hls⟩ := List.forall_mem_cons.mp hls
      simp only [List.cons_append, sections, hl, ih hls]

theorem sections_block {line name text : List Char} (hline : blockStart? line = some (name, text))
    {ls : List (List Char)} (hls : ∀ l ∈ ls, blockStart? l = none) (rest : List (List Char)) :
    sections (line :: (ls ++ rest))
      = ([], ⟨name, text :: (ls ++ (sections rest).1)⟩ :: (sections rest).2) := by
  simp only [sections, hline, sections_plain hls]

/-- The block has the tag of the entry, and the words behind it. -/
structure Block.Carries (b : Block) (e : Entry) : Prop where
  name : b.name = e.tag
  words : words (join [' '] b.parts) = words e.content

theorem IsFoot.flatMap_words {ls : List (List Char)} (h : IsFoot ls) : ls.flatMap words = [] := by
  rcases h with rfl | rfl <;> rfl

/-- **Each entry is one block, and nothing but an empty text is left in front of the first.** -/
theorem sections_wrapped {foot : List (List Char)} (hfoot : IsFoot foot) (ws : List Wrapped) :
    IsFoot (sections ((ws.flatMap Wrapped.rows).map (trimEndWhere isBlank) ++ foot)).1 ∧
      List.Forall₂ Block.Carries
        (sections ((ws.flatMap Wrapped.rows).map (trimEndWhere isBlank) ++ foot)).2
        (ws.map Wrapped.entry) := by
  induction ws with
  | nil =>
      have hplain : ∀ l ∈ foot, blockStart? l = none := by
        rcases hfoot with rfl | rfl <;> simp [blockStart?]
      have hsections := sections_plain hplain []
      rw [List.append_nil] at hsections
      rw [List.flatMap_nil, List.map_nil, List.nil_append, hsections, sections, List.append_nil]
      exact ⟨hfoot, List.Forall₂.nil⟩
  | cons w ws ih =>
      obtain ⟨hleading, hblocks⟩ := ih
      obtain ⟨text, hopen, hwords⟩ := w.blockStart?_first
      have hothers : ∀ l ∈ w.others.map (trimEndWhere isBlank), blockStart? l = none := by
        rw [List.forall_mem_map]
        exact fun l hl => blockStart?_trimmed (w.unopened l hl)
      rw [List.flatMap_cons, Wrapped.rows, List.map_append, List.append_assoc, List.map_cons,
        List.cons_append, sections_block hopen hothers]
      refine ⟨Or.inl rfl, List.Forall₂.cons ⟨rfl, ?_⟩ hblocks⟩
      rw [words_join, List.flatMap_cons, List.flatMap_append, hleading.flatMap_words,
        List.append_nil, List.flatMap_map]
      simp only [words_trimEndWhere_isBlank]
      exact hwords

/-! ### The text of a block -/

/-- The space between a name and its text is gone if there is no text. -/
theorem squeeze_named (name : ParamName) (text : Phrase) :
    squeeze (name.text ++ ' ' :: text.text)
      = if text.text = [] then name.text else name.text ++ ' ' :: text.text := by
  have hname := isSpaced_of_isWord name.word
  split
  · rename_i hnone
    unfold squeeze
    rw [hnone, words_append_blank rfl, words_of_isWord name.word]
    rfl
  · rename_i hsome
    exact hname.append text.spaced name.word.ne_nil hsome

/-- No inline tag is opened where a name and a text meet. -/
theorem Entry.plain_content (e : Entry) : ¬inlineOpening <:+: squeeze e.content := by
  cases e with
  | returns text => rw [content, text.spaced]; exact text.plain
  | deprecated text => rw [content, text.spaced]; exact text.plain
  | since text => rw [content, text.spaced]; exact text.plain
  | param name text =>
      rw [content, squeeze_named]
      split
      · exact name.plain
      · intro h
        rcases infix_append_sep (by decide) (by decide) h with hname | htext
        · exact name.plain hname
        · exact text.plain htext

/-- **A block keeps the words of its entry, with single spaces between them.** -/
theorem Block.Carries.text {b : Block} {e : Entry} (h : b.Carries e) :
    b.text = squeeze e.content := by
  have hbreaks : ¬threeBreaks <:+: squeeze e.content := by
    intro hin
    have hfeed : '\n' ∈ squeeze e.content := hin.subset List.mem_cons_self
    exact absurd (eq_space_of_mem_squeeze hfeed (by decide)) (by decide)
  unfold Block.text
  rw [squeeze_congr h.words, clean_eq e.plain_content hbreaks]
  exact (isSpaced_squeeze e.content).trim_eq

end Javadoc

end ServiceAtlas
