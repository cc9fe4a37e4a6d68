/-
Dotted names.

A name that is qualified with a scope gives scope and name back, provided that it has no dots
itself, and so does a chain of names, the scope being given.  The last part of a dotted name
is what stands behind its last dot.
-/
import Mathlib.Data.List.Induction
import ServiceAtlas.Text.Split
import ServiceAtlas.Declaration

namespace ServiceAtlas

namespace Text

/-! ### Parts of a text -/

theorem afterLast_append (sep : Char) (cs ds : List Char) :
    afterLast sep (cs ++ sep :: ds) = afterLast sep ds := by
  have hcut : ∀ es : List Char, (es ++ sep :: cs.reverse).takeWhile (· ≠ sep)
      = es.takeWhile (· ≠ sep) := by
    intro es
    induction es with
    | nil => simp
    | cons e es ih => simp only [List.cons_append, List.takeWhile_cons, ih]
  simp only [afterLast, List.reverse_append, List.reverse_cons, List.append_assoc,
    List.singleton_append, hcut]

theorem afterLast_of_not_mem {sep : Char} {cs : List Char} (h : sep ∉ cs) :
    afterLast sep cs = cs := by
  have hkeep : ∀ c ∈ cs.reverse, decide (c ≠ sep) = true := fun c hc =>
    decide_eq_true fun heq => h (heq ▸ List.mem_reverse.mp hc)
  have htake : (cs.reverse ++ []).takeWhile _ = _ := List.takeWhile_append_of_pos hkeep
  rw [List.append_nil, List.takeWhile_nil, List.append_nil] at htake
  rw [afterLast, htake, List.reverse_reverse]

theorem joined_cons_cons (sep a b : String) (cs : List String) :
    joined sep (a :: b :: cs) = joined sep ((a ++ sep ++ b) :: cs) := by
  cases cs with
  | nil => rfl
  | cons c cs => simp [joined, String.append_assoc]

/-- Joined texts have the characters of the texts and of the separator. -/
theorem mem_joined_iff {c : Char} {sep : String} (hsep : c ∉ sep.toList) :
    ∀ ss : List String, c ∈ (joined sep ss).toList ↔ ∃ s ∈ ss, c ∈ s.toList
  | [] => by simp [joined]
  | [s] => by simp [joined]
  | s :: t :: rest => by
      rw [joined, String.toList_append, String.toList_append, List.mem_append, List.mem_append,
        mem_joined_iff hsep (t :: rest), or_iff_left hsep]
      simp only [List.mem_cons, exists_eq_or_imp]

end Text

/-! ### Qualified names -/

/-- The name is not empty and has no dots in it. -/
def Undotted (name : String) : Prop :=
  name ≠ "" ∧ '.' ∉ name.toList

instance (name : String) : Decidable (Undotted name) :=
  inferInstanceAs (Decidable (_ ∧ _))

@[simp] theorem qualify_empty (name : String) : qualify "" name = name := rfl

theorem qualify_of_ne_empty {scope : String} (h : scope ≠ "") (name : String) :
    qualify scope name = scope ++ "." ++ name := by
  rw [qualify, if_neg]
  simpa using h

/-- A qualified name gives its scope and the name back. -/
theorem qualify_inj {s t a b : String} (ha : Undotted a) (hb : Undotted b)
    (h : qualify s a = qualify t b) : s = t ∧ a = b := by
  have chars := congrArg String.toList h
  by_cases hs : s = "" <;> by_cases ht : t = ""
  · subst hs ht
    exact ⟨rfl, h⟩
  · rw [hs, qualify_empty, qualify_of_ne_empty ht] at chars
    exact absurd (by rw [chars]; simp) ha.2
  · rw [ht, qualify_empty, qualify_of_ne_empty hs] at chars
    exact absurd (by rw [← chars]; simp) hb.2
  · rw [qualify_of_ne_empty hs, qualify_of_ne_empty ht] at chars
    have hdot : s.toList ++ '.' :: a.toList = t.toList ++ '.' :: b.toList := by
      simpa using chars
    have hname : a.toList = b.toList := by
      rw [← Text.afterLast_of_not_mem ha.2, ← Text.afterLast_append '.' s.toList, hdot,
        Text.afterLast_append, Text.afterLast_of_not_mem hb.2]
    rw [hname] at hdot
    exact ⟨String.toList_injective (List.append_cancel_right hdot),
      String.toList_injective hname⟩

theorem length_lt_qualify {name : String} (h : name ≠ "") (scope : String) :
    scope.length < (qualify scope name).length := by
  by_cases hs : scope = ""
  · subst hs
    rw [qualify_empty]
    exact Nat.pos_of_ne_zero fun h0 => h (String.length_eq_zero_iff.mp h0)
  · have hdot : ".".length = 1 := rfl
    rw [qualify_of_ne_empty hs, String.length_append, String.length_append, hdot]
    omega

theorem length_le_foldl_qualify {names : List String} (h : ∀ n ∈ names, n ≠ "") :
    ∀ scope : String, scope.length ≤ (names.foldl qualify scope).length := by
  induction names with
  | nil => exact fun _ => Nat.le_refl _
  | cons n names ih =>
      intro scope
      have hstep := length_lt_qualify (h n List.mem_cons_self) scope
      have hrest := ih (fun m hm => h m (List.mem_cons_of_mem _ hm)) (qualify scope n)
      rw [List.foldl_cons]
      omega

/-- A chain of names can be told from the scope it leads to. -/
theorem foldl_qualify_injective {scope : String} {ns ms : List String}
    (hns : ∀ n ∈ ns, Undotted n) (hms : ∀ m ∈ ms, Undotted m)
    (h : ns.foldl qualify scope = ms.foldl qualify scope) : ns = ms := by
  have grows : ∀ {names : List String} {name : String}, (∀ n ∈ names ++ [name], Undotted n) →
      scope.length < ((names ++ [name]).foldl qualify scope).length := by
    intro names name hnames
    rw [List.foldl_append]
    exact Nat.lt_of_le_of_lt
      (length_le_foldl_qualify (fun n hn => (hnames n (by simp [hn])).1) scope)
      (length_lt_qualify (hnames name (by simp)).1 _)
  induction ns using List.reverseRecOn generalizing ms with
  | nil =>
      cases ms using List.reverseRecOn with
      | nil => rfl
      | append_singleton ms m =>
          have := grows hms
          rw [← h] at this
          exact absurd this (Nat.lt_irrefl _)
  | append_singleton ns n ih =>
      cases ms using List.reverseRecOn with
      | nil =>
          have := grows hns
          rw [h] at this
          exact absurd this (Nat.lt_irrefl _)
      | append_singleton ms m =>
          rw [List.foldl_append, List.foldl_append] at h
          obtain ⟨hscope, rfl⟩ := qualify_inj (hns n (by simp)) (hms m (by simp)) h
          rw [ih (fun a ha => hns a (by simp [ha])) (fun a ha => hms a (by simp [ha])) hscope]

/-- The part of a dotted chain that a scope is; the empty scope is none. -/
def scopeParts (scope : String) : List String :=
  if scope.isEmpty then [] else [scope]

/-- Qualifying names one after the other joins them with dots. -/
theorem foldl_qualify_eq_joined {names : List String} (h : ∀ n ∈ names, n ≠ "") :
    ∀ scope : String,
      names.foldl qualify scope = Text.joined "." (scopeParts scope ++ names) := by
  induction names with
  | nil =>
      intro scope
      by_cases hs : scope = ""
      · subst hs; rfl
      · simp [scopeParts, hs, Text.joined]
  | cons n names ih =>
      intro scope
      have hn := h n List.mem_cons_self
      rw [List.foldl_cons, ih fun m hm => h m (List.mem_cons_of_mem _ hm)]
      by_cases hs : scope = ""
      · subst hs
        simp [scopeParts, hn]
      · simp [scopeParts, hs, Text.joined_cons_cons, qualify_of_ne_empty hs]

end ServiceAtlas
