/-
Reading an attribute gives back what was written.

Two readers share the source text of an attribute.  `items` cuts an array initializer at its
commas with a scan that knows when it stands inside a string literal, and `unquote` decodes
each piece with no memory of that scan.  They agree because a literal is `Whole` for the scan:
it begins and ends outside, whatever commas, braces, quotes and backslashes the string holds.

`Initializer` is every way of laying out a list of elements: blanks anywhere between the
tokens, and a comma behind the last element or not.  The scan of its body takes one element
at a time, so the induction is on the list of elements; the blanks in front of the first one
are generalised, since they are gone once the first comma is passed.
-/
import Mathlib.Data.List.TakeWhile
import ServiceAtlas.Declaration.Mark

namespace ServiceAtlas.Literal

open ServiceAtlas.Text

/-! ### What is written -/

/-- A run of blanks. -/
abbrev Blanks := {cs : List Char // cs.all isBlank = true}

/-- A text that neither begins nor ends with a blank. -/
structure Tight (cs : List Char) : Prop where
  ne_nil : cs ≠ []
  head : cs.head?.any isBlank = false
  last : cs.getLast?.any isBlank = false

/-- An expression other than a string literal, with no comma and no double quote in it. -/
structure Bare where
  text : List Char
  tight : Tight text
  comma : ',' ∉ text
  quote : '"' ∉ text

/-- An element of an attribute value: the literal of a string, or an expression. -/
inductive Element where
  | literal (s : String)
  | bare (b : Bare)

/-- How an element is written. -/
def Element.text : Element → List Char
  | literal s => quote s.toList
  | bare b => b.text

/-- What an element stands for. -/
def Element.value : Element → String
  | literal s => s
  | bare b => String.ofList b.text

/-- An element among blanks. -/
structure Padded where
  before : Blanks
  element : Element
  behind : Blanks

def Padded.text (p : Padded) : List Char :=
  p.before.val ++ (p.element.text ++ p.behind.val)

/-- Elements with a comma between neighbours. -/
def separated : List Padded → List Char
  | [] => []
  | [p] => p.text
  | p :: q :: rest => p.text ++ ',' :: separated (q :: rest)

/-- A comma behind the last element, if there is one, and the blanks behind it. -/
def trailing : Option Blanks → List Char
  | none => []
  | some gap => ',' :: gap.val

/-- An array initializer as it is laid out: blanks around it, blanks behind its opening brace,
its elements, and a trailing comma or none. -/
structure Initializer where
  before : Blanks
  lead : Blanks
  elements : List Padded
  comma : Option Blanks
  behind : Blanks

namespace Initializer

def body (i : Initializer) : List Char :=
  i.lead.val ++ (separated i.elements ++ trailing i.comma)

def text (i : Initializer) : List Char :=
  i.before.val ++ (('\x7b' :: i.body ++ ['\x7d']) ++ i.behind.val)

/-- What the elements stand for, in order. -/
def values (i : Initializer) : List String :=
  i.elements.map (·.element.value)

end Initializer

/-! ### Blanks around a text -/

theorem Blanks.isBlank (gap : Blanks) : ∀ c ∈ gap.val, Text.isBlank c = true :=
  List.all_eq_true.mp gap.property

theorem trim_blanks (gap : Blanks) : trim gap.val = [] := by
  have hnone : trimStartWhere isBlank gap.val = [] :=
    List.dropWhile_eq_nil_iff.mpr (Blanks.isBlank gap)
  unfold trim trimWhere
  rw [hnone]
  rfl

theorem dropWhile_tight {cs : List Char} (ht : Tight cs) (rest : List Char) :
    (cs ++ rest).dropWhile isBlank = cs ++ rest := by
  cases cs with
  | nil => exact absurd rfl ht.ne_nil
  | cons c cs =>
      have hc : isBlank c = false := ht.head
      rw [List.cons_append, List.dropWhile_cons_of_neg (by simp [hc])]

theorem Tight.reverse {cs : List Char} (ht : Tight cs) : Tight cs.reverse where
  ne_nil := fun hc => ht.ne_nil (List.reverse_eq_nil_iff.mp hc)
  head := by simpa using ht.last
  last := by simpa using ht.head

/-- Trimming finds a tight text between blanks. -/
theorem trim_padded (before behind : Blanks) {cs : List Char} (ht : Tight cs) :
    trim (before.val ++ (cs ++ behind.val)) = cs := by
  have hbehind : ∀ c ∈ behind.val.reverse, isBlank c = true := fun c hc =>
    Blanks.isBlank behind c (List.mem_reverse.mp hc)
  unfold trim trimWhere trimStartWhere trimEndWhere
  rw [List.dropWhile_append_of_pos (Blanks.isBlank before), dropWhile_tight ht _, List.reverse_append,
    List.dropWhile_append_of_pos hbehind]
  have hback := dropWhile_tight ht.reverse []
  rw [List.append_nil] at hback
  rw [hback, List.reverse_reverse]

theorem trim_tight {cs : List Char} (ht : Tight cs) : trim cs = cs := by
  have htrim := trim_padded ⟨[], by simp⟩ ⟨[], by simp⟩ ht
  simpa using htrim

theorem between?_closed (first last : Char) (cs : List Char) :
    between? first last (first :: cs ++ [last]) = some cs := by
  simp [between?]

theorem tight_closed {first last : Char} (hfirst : isBlank first = false)
    (hlast : isBlank last = false) (cs : List Char) : Tight (first :: cs ++ [last]) where
  ne_nil := by simp
  head := by simpa using hfirst
  last := by
    rw [List.getLast?_concat]
    exact hlast

theorem Element.tight (e : Element) : Tight e.text := by
  cases e with
  | literal s => exact tight_closed (by decide) (by decide) _
  | bare b => exact b.tight

/-! ### Decoding -/

theorem unescape_cons {c : Char} (hc : c ≠ '\\') (cs : List Char) :
    unescape (c :: cs) = c :: unescape cs := by
  rw [unescape]
  intro _ _ hbackslash _
  exact hc hbackslash

/-- Escapes are undone, whatever follows. -/
theorem unescape_escape_append (c : Char) (rest : List Char) :
    unescape (escape c ++ rest) = c :: unescape rest := by
  unfold escape
  split
  case h_6 hbackslash _ _ _ _ => exact unescape_cons hbackslash rest
  all_goals simp [unescape, escaped?]

theorem unescape_flatMap_escape (cs : List Char) : unescape (cs.flatMap escape) = cs := by
  induction cs with
  | nil => rfl
  | cons c rest ih => rw [List.flatMap_cons, unescape_escape_append, ih]

theorem unquote_quote (cs : List Char) : unquote (quote cs) = cs := by
  have htrim : trim (quote cs) = quote cs := trim_tight (tight_closed (by decide) (by decide) _)
  have hinner : between? '"' '"' (quote cs) = some (cs.flatMap escape) := between?_closed _ _ _
  simp only [unquote, htrim, hinner, unescape_flatMap_escape]

theorem unquote_bare (b : Bare) : unquote b.text = b.text := by
  have hnone : between? '"' '"' b.text = none := by
    cases htext : b.text with
    | nil => rfl
    | cons c cs =>
        have hc : c ≠ '"' := by
          rintro rfl
          exact b.quote (htext ▸ List.mem_cons_self)
        simp [between?, hc]
  simp only [unquote, trim_tight b.tight, hnone]

/-- **An element is read as what it stands for.** -/
theorem unquote_text (e : Element) : String.ofList (unquote e.text) = e.value := by
  cases e with
  | literal s =>
      show String.ofList (unquote (quote s.toList)) = s
      rw [unquote_quote, String.ofList_toList]
  | bare b =>
      show String.ofList (unquote b.text) = String.ofList b.text
      rw [unquote_bare]

/-! ### Texts that a scan for commas does not cut -/

/-- A text that a scan passes without a cut and behind which it stands outside again: it goes
in front of the first part of what follows. -/
def Whole (cs : List Char) : Prop :=
  ∀ rest first others, parts .outside rest = first :: others →
    parts .outside (cs ++ rest) = (cs ++ first) :: others

theorem Whole.nil : Whole [] := fun _ _ _ h => h

theorem Whole.append {cs ds : List Char} (hcs : Whole cs) (hds : Whole ds) : Whole (cs ++ ds) := by
  intro rest first others h
  have hboth := hcs _ _ _ (hds rest first others h)
  simpa only [List.append_assoc] using hboth

/-- Characters other than commas and double quotes leave the scan outside. -/
theorem whole_of_plain {cs : List Char} : ',' ∉ cs → '"' ∉ cs → Whole cs := by
  induction cs with
  | nil => intro _ _; exact Whole.nil
  | cons c tail ih =>
      intro hcomma hquote rest first others hrest
      rw [List.mem_cons, not_or] at hcomma hquote
      have htail := ih hcomma.2 hquote.2 rest first others hrest
      rw [List.cons_append, parts, if_neg (Ne.symm hcomma.1), Position.next,
        if_neg (Ne.symm hquote.1), htail]
      rfl

theorem Blanks.not_mem {c : Char} (hc : Text.isBlank c = false) (gap : Blanks) : c ∉ gap.val := by
  intro hmem
  rw [Blanks.isBlank gap c hmem] at hc
  cases hc

theorem Whole.blanks (gap : Blanks) : Whole gap.val :=
  whole_of_plain (Blanks.not_mem (by decide) gap) (Blanks.not_mem (by decide) gap)

/-- Inside a literal an escaped character is passed, and the scan is inside again. -/
theorem parts_inside_escape {c : Char} {rest first : List Char} {others : List (List Char)}
    (h : parts .inside rest = first :: others) :
    parts .inside (escape c ++ rest) = (escape c ++ first) :: others := by
  unfold escape
  split
  case h_6 hbackslash hquote _ _ _ =>
    have hstep : Position.next .inside c = .inside := by
      simp only [Position.next, if_neg hbackslash, if_neg hquote]
    simp [parts, hstep, h, onto]
  all_goals simp [parts, Position.next, h, onto]

theorem parts_inside_flatMap_escape {rest first : List Char} {others : List (List Char)}
    (h : parts .inside rest = first :: others) :
    ∀ cs : List Char, parts .inside (cs.flatMap escape ++ rest)
      = (cs.flatMap escape ++ first) :: others := by
  intro cs
  induction cs with
  | nil => exact h
  | cons c tail ih =>
      rw [List.flatMap_cons, List.append_assoc, List.append_assoc]
      exact parts_inside_escape ih

/-- **A literal is not cut**, whatever string it is the literal of. -/
theorem Whole.quote (cs : List Char) : Whole (quote cs) := by
  intro rest first others h
  have hclose : parts .inside ('"' :: rest) = ('"' :: first) :: others := by
    simp [parts, Position.next, h, onto]
  have hinner := parts_inside_flatMap_escape hclose cs
  have hopen : Position.next .outside '"' = .inside := rfl
  have htext : Literal.quote cs ++ rest = '"' :: (cs.flatMap escape ++ '"' :: rest) := by
    simp [Literal.quote]
  rw [htext, parts, if_neg (by decide), hopen, hinner]
  simp [Literal.quote, onto]

theorem Element.whole (e : Element) : Whole e.text := by
  cases e with
  | literal s => exact Whole.quote _
  | bare b => exact whole_of_plain b.comma b.quote

theorem Padded.whole (p : Padded) : Whole p.text :=
  (Whole.blanks p.before).append (p.element.whole.append (Whole.blanks p.behind))

/-! ### The items of a body -/

/-- The items between the commas of a body, as `items` finds them. -/
def found (cs : List Char) : List (List Char) :=
  ((parts .outside cs).map trim).filter fun item => !item.isEmpty

theorem parts_whole {cs : List Char} (hcs : Whole cs) : parts .outside cs = [cs] := by
  have hall := hcs [] [] [] rfl
  simpa using hall

theorem parts_whole_comma {cs : List Char} (hcs : Whole cs) (rest : List Char) :
    parts .outside (cs ++ ',' :: rest) = cs :: parts .outside rest := by
  have hcut : parts .outside (',' :: rest) = [] :: parts .outside rest := by
    rw [parts, if_pos rfl]
  have hall := hcs _ _ _ hcut
  rwa [List.append_nil] at hall

/-- A comma behind a whole text ends its item. -/
theorem found_comma {cs : List Char} (hcs : Whole cs) (rest : List Char) :
    found (cs ++ ',' :: rest) = found cs ++ found rest := by
  unfold found
  rw [parts_whole_comma hcs, parts_whole hcs, ← List.singleton_append, List.map_append,
    List.filter_append]

theorem found_blanks (gap : Blanks) : found gap.val = [] := by
  unfold found
  rw [parts_whole (Whole.blanks gap), List.map_singleton, trim_blanks]
  rfl

theorem found_trailing {cs : List Char} (hcs : Whole cs) (comma : Option Blanks) :
    found (cs ++ trailing comma) = found cs := by
  cases comma with
  | none => rw [trailing, List.append_nil]
  | some gap => rw [trailing, found_comma hcs, found_blanks, List.append_nil]

def Blanks.append (gap gap' : Blanks) : Blanks :=
  ⟨gap.val ++ gap'.val, by rw [List.all_append, gap.property, gap'.property]; rfl⟩

theorem found_padded (lead : Blanks) (p : Padded) :
    found (lead.val ++ p.text) = [p.element.text] := by
  have hwhole : Whole (lead.val ++ p.text) := (Whole.blanks lead).append p.whole
  have htrim := trim_padded (lead.append p.before) p.behind p.element.tight
  have htext : (lead.append p.before).val ++ (p.element.text ++ p.behind.val)
      = lead.val ++ p.text := List.append_assoc _ _ _
  rw [htext] at htrim
  unfold found
  rw [parts_whole hwhole, List.map_singleton, htrim]
  simp [p.element.tight.ne_nil]

theorem found_body (comma : Option Blanks) :
    ∀ (es : List Padded) (lead : Blanks),
      found (lead.val ++ (separated es ++ trailing comma)) = es.map (·.element.text) := by
  intro es
  induction es with
  | nil =>
      intro lead
      rw [separated, List.nil_append, found_trailing (Whole.blanks lead), found_blanks]
      rfl
  | cons p rest ih =>
      intro lead
      have hwhole : Whole (lead.val ++ p.text) := (Whole.blanks lead).append p.whole
      cases rest with
      | nil =>
          rw [separated, ← List.append_assoc, found_trailing hwhole, found_padded]
          rfl
      | cons q rest =>
          -- Behind the comma the body goes on without blanks of its own.
          have hrest := ih ⟨[], rfl⟩
          rw [List.nil_append] at hrest
          rw [separated, List.append_assoc, List.cons_append, ← List.append_assoc,
            found_comma hwhole, found_padded, hrest]
          rfl

theorem items_braced (before behind : Blanks) (body : List Char) :
    items (before.val ++ (('\x7b' :: body ++ ['\x7d']) ++ behind.val)) = found body := by
  have htight : Tight ('\x7b' :: body ++ ['\x7d']) := tight_closed (by decide) (by decide) _
  have htrim := trim_padded before behind htight
  simp only [items, htrim, between?_closed]
  rfl

/-- The items of an array initializer are its elements as they are written. -/
theorem items_text (i : Initializer) : items i.text = i.elements.map (·.element.text) := by
  rw [Initializer.text, items_braced]
  exact found_body i.comma i.elements i.lead

/-- A text is in braces. -/
def Braced (cs : List Char) : Prop :=
  cs.head? = some '\x7b' ∧ cs.getLast? = some '\x7d'

instance (cs : List Char) : Decidable (Braced cs) := inferInstanceAs (Decidable (_ ∧ _))

theorem between?_braces_eq_none {cs : List Char} (h : ¬Braced cs) :
    between? '\x7b' '\x7d' cs = none := by
  cases cs with
  | nil => rfl
  | cons c cs =>
      rw [between?, if_neg]
      rintro ⟨rfl, hlast⟩
      exact h ⟨rfl, by rw [List.getLast?_cons, hlast]; rfl⟩

theorem items_padded (p : Padded) (h : ¬Braced p.element.text) :
    items p.text = [p.element.text] := by
  have htrim : trim p.text = p.element.text := trim_padded p.before p.behind p.element.tight
  simp only [items, htrim, between?_braces_eq_none h]

/-! ### The first element -/

/-- The text stands alone or leads an array initializer, among blanks.  Behind the comma anything
may follow. -/
inductive Leads (text : List Char) : List Char → Prop
  | alone (before behind : Blanks) : Leads text (before.val ++ (text ++ behind.val))
  | only (before lead gap behind : Blanks) :
      Leads text (before.val ++
        (('\x7b' :: (lead.val ++ (text ++ gap.val)) ++ ['\x7d']) ++ behind.val))
  | first (before lead gap behind : Blanks) (others : List Char) :
      Leads text (before.val ++
        (('\x7b' :: (lead.val ++ (text ++ gap.val) ++ ',' :: others) ++ ['\x7d']) ++ behind.val))

/-- An element that leads is the first item. -/
theorem Leads.items {e : Element} {raw : List Char} (h : Leads e.text raw)
    (hbraces : ¬Braced e.text) : ∃ others, items raw = e.text :: others := by
  cases h with
  | alone before behind => exact ⟨[], items_padded ⟨before, e, behind⟩ hbraces⟩
  | only before lead gap behind =>
      rw [items_braced]
      exact ⟨[], found_padded ⟨[], rfl⟩ ⟨lead, e, gap⟩⟩
  | first before lead gap behind others =>
      have helement : found (lead.val ++ (e.text ++ gap.val)) = [e.text] :=
        found_padded ⟨[], rfl⟩ ⟨lead, e, gap⟩
      have hwhole : Whole (lead.val ++ (e.text ++ gap.val)) := Padded.whole ⟨lead, e, gap⟩
      rw [items_braced, found_comma hwhole, helement]
      exact ⟨found others, rfl⟩

theorem Leads.self (text : List Char) : Leads text text := by
  have halone : Leads text ([] ++ (text ++ [])) := Leads.alone ⟨[], rfl⟩ ⟨[], rfl⟩
  rwa [List.nil_append, List.append_nil] at halone

end ServiceAtlas.Literal

namespace ServiceAtlas.Mark

open ServiceAtlas.Literal

/-! ### Attributes -/

/-- The first key that is present decides, whatever the keys behind it hold. -/
theorem first?_of_present {a : Mark} {before : List String} {key raw : String}
    (habsent : ∀ k ∈ before, a.get? k = none) (hkey : a.get? key = some raw)
    (behind : List String) : a.first? (before ++ key :: behind) = some raw := by
  have hbefore : before.findSome? a.get? = none := List.findSome?_eq_none_iff.mpr habsent
  rw [first?, List.findSome?_append, hbefore, Option.none_or, List.findSome?_cons, hkey]

theorem texts_of_items {a : Mark} {keys : List String} {raw : List Char} {es : List Element}
    (hfirst : a.first? keys = some (String.ofList raw)) (hitems : items raw = es.map Element.text) :
    a.texts keys = es.map Element.value := by
  rw [texts, hfirst]
  simp only [String.toList_ofList, hitems, List.map_map]
  exact List.map_congr_left fun e _ => unquote_text e

theorem text?_of_items {a : Mark} {keys : List String} {raw : List Char} {es : List Element}
    (hfirst : a.first? keys = some (String.ofList raw)) (hitems : items raw = es.map Element.text) :
    a.text? keys = some ((es.map Element.value).headD "") := by
  rw [text?, hfirst, Option.map_some, firstText, String.toList_ofList, hitems]
  cases es with
  | nil => rfl
  | cons e rest => exact congrArg some (unquote_text e)

/--
**String attributes decode what was written.**  The first key that is present decides.  An
array initializer under it is read as its elements, literals as the strings they are literals
of and all else as it stands, however it is laid out; a single element without braces is read
as the array of it alone.
-/
theorem texts_of_written (a : Mark) (before : List String) (key : String) (behind : List String)
    (habsent : ∀ k ∈ before, a.get? k = none) :
    (∀ i : Initializer, a.get? key = some (String.ofList i.text) →
      a.texts (before ++ key :: behind) = i.values ∧
        a.text? (before ++ key :: behind) = some (i.values.headD "")) ∧
    (∀ p : Padded, ¬Braced p.element.text → a.get? key = some (String.ofList p.text) →
      a.texts (before ++ key :: behind) = [p.element.value] ∧
        a.text? (before ++ key :: behind) = some p.element.value) := by
  constructor
  · intro i hkey
    have hfirst := first?_of_present habsent hkey behind
    have hitems : items i.text = (i.elements.map (·.element)).map Element.text := by
      rw [items_text, List.map_map]
      rfl
    have hvalues : (i.elements.map (·.element)).map Element.value = i.values := List.map_map
    rw [← hvalues]
    exact ⟨texts_of_items hfirst hitems, text?_of_items hfirst hitems⟩
  · intro p hbraces hkey
    have hfirst := first?_of_present habsent hkey behind
    have hitems : items p.text = [p.element].map Element.text := items_padded p hbraces
    exact ⟨texts_of_items hfirst hitems, text?_of_items hfirst hitems⟩

/-- A constant with a blank behind it. -/
def root : Padded :=
  ⟨⟨[], by decide⟩, .bare ⟨"Paths.ROOT".toList, ⟨by decide, by decide, by decide⟩, by decide, by decide⟩,
    ⟨[' '], by decide⟩⟩

/-- A literal with a comma, braces, quotes and a backslash in it, and a constant, laid out with
blanks and a trailing comma. -/
def routes : Initializer where
  before := ⟨[' '], by decide⟩
  lead := ⟨['\n', '\t'], by decide⟩
  elements := [
    ⟨⟨[' '], by decide⟩, .literal "/\x7ba,\"b\"\x7d\\", ⟨[], by decide⟩⟩,
    ⟨⟨['\n'], by decide⟩,
      .bare ⟨"Paths.HOME".toList, ⟨by decide, by decide, by decide⟩, by decide, by decide⟩,
      ⟨[' ', ' '], by decide⟩⟩]
  comma := some ⟨[' '], by decide⟩
  behind := ⟨['\t'], by decide⟩

/-- An annotation that holds the two under two of its keys. -/
def mapping : Mark :=
  ⟨"GetMapping", .ofList [("name", "1"), ("path", String.ofList root.text),
    ("value", String.ofList routes.text)]⟩

theorem texts_of_written_mapping :
    (∀ k ∈ ["produces"], mapping.get? k = none) ∧
      mapping.get? "value" = some (String.ofList routes.text) ∧
      mapping.texts ["produces", "value", "name"] = ["/\x7ba,\"b\"\x7d\\", "Paths.HOME"] ∧
      mapping.text? ["produces", "value", "name"] = some "/\x7ba,\"b\"\x7d\\" ∧
      mapping.get? "path" = some (String.ofList root.text) ∧
      mapping.texts ["produces", "path", "value"] = ["Paths.ROOT"] := by
  have habsent : ∀ k ∈ ["produces"], mapping.get? k = none := by decide
  have hroutes : mapping.get? "value" = some (String.ofList routes.text) := rfl
  have hroot : mapping.get? "path" = some (String.ofList root.text) := rfl
  have hbraces : ¬Braced root.element.text := by decide
  obtain ⟨htexts, htext⟩ :=
    (texts_of_written mapping ["produces"] "value" ["name"] habsent).1 routes hroutes
  have hsingle :=
    (texts_of_written mapping ["produces"] "path" ["value"] habsent).2 root hbraces hroot
  exact ⟨habsent, hroutes, htexts, htext, hroot, hsingle.1⟩

end ServiceAtlas.Mark
