/-
The notation of generic types is unambiguous.

A type is written with its arguments between angle brackets and with commas between them.  Nothing
marks where a name ends but the character behind it, so the notation is unambiguous only for names
without these three marks.  For such names a text determines the type that it begins with, together
with the rest of the text, as long as the rest goes on with a comma or a closing bracket or not at
all; that is what has to be known of an argument, which is followed by one of the two.  A further
argument and the closing bracket begin differently, so the end of a list of arguments is seen from
one character.

References to written types have such names if the written names do, the base of arrays being one
itself.  So the text of a type in the model table says what type it is.
-/
import ServiceAtlas.Proofs.ModelSections

namespace ServiceAtlas

namespace TypeRef

/-- The name has no mark of the notation in it. -/
def IsPlainName (name : String) : Prop :=
  ∀ c ∈ name.toList, c ≠ '<' ∧ c ≠ '>' ∧ c ≠ ','

instance (name : String) : Decidable (IsPlainName name) :=
  List.decidableBAll _ name.toList

/-- Every base in the type, at any depth, is plain. -/
def IsPlain (t : TypeRef) : Prop :=
  ∀ p, t.Within p → IsPlainName p.base

theorem isPlain_mk_iff {base : String} {args : List TypeRef} :
    (mk base args).IsPlain ↔ IsPlainName base ∧ ∀ a ∈ args, a.IsPlain := by
  constructor
  · intro h
    exact ⟨h _ .refl, fun a ha p hp => h p (.head ha hp)⟩
  · rintro ⟨hbase, hargs⟩ p hp
    rcases hp.cases_head with rfl | ⟨a, ha, hp⟩
    · exact hbase
    · exact hargs a ha p hp

/-! ### Where a name and a type end -/

/-- A text that goes on with a mark, or not at all. -/
def EndsName (rest : List Char) : Prop :=
  ∀ c ∈ rest.head?, c = '<' ∨ c = '>' ∨ c = ','

/-- A text that goes on as it may behind an argument, or not at all. -/
def EndsType (rest : List Char) : Prop :=
  ∀ c ∈ rest.head?, c = '>' ∨ c = ','

theorem EndsType.endsName {rest : List Char} (h : EndsType rest) : EndsName rest :=
  fun c hc => Or.inr (h c hc)

/-- Names end at the first mark. -/
theorem name_append_inj {cs ds rest rest' : List Char}
    (hcs : ∀ c ∈ cs, c ≠ '<' ∧ c ≠ '>' ∧ c ≠ ',') (hds : ∀ c ∈ ds, c ≠ '<' ∧ c ≠ '>' ∧ c ≠ ',')
    (hrest : EndsName rest) (hrest' : EndsName rest') (h : cs ++ rest = ds ++ rest') :
    cs = ds ∧ rest = rest' := by
  induction cs generalizing ds with
  | nil =>
      cases ds with
      | nil => exact ⟨rfl, h⟩
      | cons d ds =>
          have hd := hds d List.mem_cons_self
          have hmark := hrest d (by simp [show rest = d :: (ds ++ rest') from h])
          simp [hd] at hmark
  | cons c cs ih =>
      rw [List.forall_mem_cons] at hcs
      cases ds with
      | nil =>
          have hmark := hrest' c (by simp [show rest' = c :: (cs ++ rest) from h.symm])
          simp [hcs.1] at hmark
      | cons d ds =>
          obtain ⟨rfl, htail⟩ := List.cons.inj h
          obtain ⟨rfl, hrests⟩ := ih hcs.2 (List.forall_mem_cons.mp hds).2 htail
          exact ⟨rfl, hrests⟩

/-- What stands behind the base. -/
def brackets : List TypeRef → List Char
  | [] => []
  | a :: as => '<' :: (a.text.toList ++ ((argsText as).toList ++ ['>']))

theorem toList_text (base : String) (args : List TypeRef) :
    (text (mk base args)).toList = base.toList ++ brackets args := by
  cases args <;> simp [text, brackets]

theorem toList_argsText_cons (a : TypeRef) (as : List TypeRef) :
    (argsText (a :: as)).toList = ',' :: ' ' :: (a.text.toList ++ (argsText as).toList) := by
  simp [argsText]

theorem endsName_brackets (args : List TypeRef) {rest : List Char} (hrest : EndsType rest) :
    EndsName (brackets args ++ rest) := by
  cases args with
  | nil => exact hrest.endsName
  | cons a as => simp [EndsName, brackets]

theorem endsType_argsText (args : List TypeRef) (rest : List Char) :
    EndsType ((argsText args).toList ++ '>' :: rest) := by
  cases args with
  | nil => simp [EndsType, argsText]
  | cons a as => simp [EndsType, toList_argsText_cons]

mutual

/-- A text determines the type that it begins with, and what follows the type. -/
theorem text_append_inj : ∀ {t t' : TypeRef} {rest rest' : List Char}, t.IsPlain → t'.IsPlain →
    EndsType rest → EndsType rest' → t.text.toList ++ rest = t'.text.toList ++ rest' →
    t = t' ∧ rest = rest'
  | .mk base args, .mk base' args', rest, rest', ht, ht', hrest, hrest', h => by
      rw [isPlain_mk_iff] at ht ht'
      rw [toList_text, toList_text, List.append_assoc, List.append_assoc] at h
      obtain ⟨hbase, hbrackets⟩ := name_append_inj ht.1 ht'.1 (endsName_brackets args hrest)
        (endsName_brackets args' hrest') h
      obtain ⟨rfl, hrests⟩ := brackets_append_inj ht.2 ht'.2 hrest hrest' hbrackets
      exact ⟨by rw [String.toList_inj.mp hbase], hrests⟩

theorem brackets_append_inj : ∀ {as as' : List TypeRef} {rest rest' : List Char},
    (∀ a ∈ as, a.IsPlain) → (∀ a ∈ as', a.IsPlain) → EndsType rest → EndsType rest' →
    brackets as ++ rest = brackets as' ++ rest' → as = as' ∧ rest = rest'
  | [], [], _, _, _, _, _, _, h => ⟨rfl, h⟩
  -- No opening bracket stands behind a type that has been written to its end.
  | [], _ :: _, _, _, _, _, hrest, _, h => by
      have hopen := congrArg List.head? h
      exact absurd (hrest '<' hopen) (by decide)
  | _ :: _, [], _, _, _, _, _, hend, h => by
      have hopen := congrArg List.head? h.symm
      exact absurd (hend '<' hopen) (by decide)
  | a :: as, a' :: as', rest, rest', hargs, hargs', _, _, h => by
      rw [List.forall_mem_cons] at hargs hargs'
      simp only [brackets, List.cons_append, List.append_assoc, List.nil_append, List.cons.injEq,
        true_and] at h
      obtain ⟨rfl, hothers⟩ := text_append_inj hargs.1 hargs'.1 (endsType_argsText as rest)
        (endsType_argsText as' rest') h
      obtain ⟨rfl, hrests⟩ := argsText_append_inj hargs.2 hargs'.2 hothers
      exact ⟨rfl, hrests⟩

/-- A list of arguments ends at the bracket that closes it. -/
theorem argsText_append_inj : ∀ {as as' : List TypeRef} {rest rest' : List Char},
    (∀ a ∈ as, a.IsPlain) → (∀ a ∈ as', a.IsPlain) →
    (argsText as).toList ++ '>' :: rest = (argsText as').toList ++ '>' :: rest' →
    as = as' ∧ rest = rest'
  | [], [], _, _, _, _, h => ⟨rfl, (List.cons.inj h).2⟩
  | [], _ :: _, _, _, _, _, h => by simp [argsText] at h
  | _ :: _, [], _, _, _, _, h => by simp [argsText] at h
  | a :: as, a' :: as', rest, rest', hargs, hargs', h => by
      rw [List.forall_mem_cons] at hargs hargs'
      simp only [toList_argsText_cons, List.cons_append, List.append_assoc, List.cons.injEq,
        true_and] at h
      obtain ⟨rfl, hothers⟩ := text_append_inj hargs.1 hargs'.1 (endsType_argsText as rest)
        (endsType_argsText as' rest') h
      obtain ⟨rfl, hrests⟩ := argsText_append_inj hargs.2 hargs'.2 hothers
      exact ⟨rfl, hrests⟩

end

theorem text_inj {t t' : TypeRef} (ht : t.IsPlain) (ht' : t'.IsPlain) (h : t.text = t'.text) :
    t = t' := by
  have hnone : EndsType [] := nofun
  exact (text_append_inj ht ht' hnone hnone (by rw [h])).1

/-! ### Written types -/

/-- References have plain bases if the names that are looked at are plain. -/
theorem isPlain_of_ofWritten {w : WrittenType} {r : TypeRef} (h : ofWritten w = .ok r)
    (hw : ∀ n, w.Visits n → IsPlainName n.name) : r.IsPlain := by
  intro p hp
  obtain ⟨n, hn, -, hresolved⟩ := exists_visited (P := fun _ => True) trivial
    (fun _ _ _ _ _ => trivial) h hp
  rw [base_ofWritten hresolved]
  split
  · decide
  · exact hw n hn

/--
**The text of a type says what type it is.**  Types whose bases have no brackets and no commas in
them have the same text only if they are the same.  So where the types of two properties are those
of written types with such names, the model table is given the same text for them only if they are
the same.
-/
theorem text_determines_type :
    (∀ t t' : TypeRef, t.IsPlain → t'.IsPlain → t.text = t'.text → t = t') ∧
    ∀ (w w' : WrittenType) (r r' : TypeRef), (∀ n, w.Visits n → IsPlainName n.name) →
      (∀ n, w'.Visits n → IsPlainName n.name) → ofWritten w = .ok r → ofWritten w' = .ok r' →
      ∀ p p' : Property, p.type = some r → p'.type = some r' →
        Report.typeText p = Report.typeText p' → r = r' := by
  refine ⟨fun t t' ht ht' => text_inj ht ht', ?_⟩
  intro w w' r r' hw hw' hr hr' p p' hp hp' htext
  rw [Report.typeText, Report.typeText, hp, hp'] at htext
  exact text_inj (isPlain_of_ofWritten hr hw) (isPlain_of_ofWritten hr' hw') htext

/-- With a comma in a name it could be either of two types. -/
example : (mk "Map" [mk "Book, User" []]).text = (mk "Map" [mk "Book" [], mk "User" []]).text := by
  decide

/-- Two types whose texts differ in the place of one bracket. -/
def loans : TypeRef × TypeRef :=
  (mk "Map" [mk "List" [mk "Book" []], mk "User" []],
    mk "Map" [mk "List" [mk "Book" [], mk "User" []]])

/-- Two ways to write a type, one of them with a wildcard. -/
def shelves : WrittenType × WrittenType :=
  (.mk "Shelf" [.arrayOf (.simple "Book"), .wildcard] false,
    .mk "Shelf" [.arrayOf (.simple "Book")] false)

theorem text_determines_type_loans :
    (loans.1.IsPlain ∧ loans.2.IsPlain ∧ loans.1.text ≠ loans.2.text) ∧
      (∀ n, shelves.1.Visits n → IsPlainName n.name) ∧
      (∀ n, shelves.2.Visits n → IsPlainName n.name) ∧
      ∃ r r', ofWritten shelves.1 = .ok r ∧ ofWritten shelves.2 = .ok r' ∧
        Report.typeText (.plain "top" (some r)) = Report.typeText (.plain "low" (some r')) ∧
        r = r' := by
  obtain ⟨htypes, hproperties⟩ := text_determines_type
  have hfirst : loans.1.IsPlain := by
    simp only [loans, isPlain_mk_iff, List.forall_mem_cons]
    exact ⟨by decide, ⟨by decide, ⟨by decide, nofun⟩, nofun⟩, ⟨by decide, nofun⟩, nofun⟩
  have hsecond : loans.2.IsPlain := by
    simp only [loans, isPlain_mk_iff, List.forall_mem_cons]
    exact ⟨by decide, ⟨by decide, ⟨by decide, nofun⟩, ⟨by decide, nofun⟩, nofun⟩, nofun⟩
  have hnames (w : WrittenType) (h : ∀ n ∈ w.postorder, IsPlainName n.name) :
      ∀ n, w.Visits n → IsPlainName n.name :=
    fun n hn => h n (WrittenType.mem_postorder_iff.mpr hn)
  have htop := hnames shelves.1 (by decide)
  have hlow := hnames shelves.2 (by decide)
  refine ⟨⟨hfirst, hsecond, fun htext => ?_⟩, htop, hlow, _, _, rfl, rfl, rfl, ?_⟩
  · have hsame := htypes _ _ hfirst hsecond htext
    simp [loans] at hsame
  · exact hproperties _ _ _ _ htop hlow rfl rfl (.plain "top" _) (.plain "low" _) rfl rfl rfl

end TypeRef

end ServiceAtlas
