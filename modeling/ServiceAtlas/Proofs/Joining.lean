/-
Joining paths is associative, and segments do not see where paths were joined.

A join trims the path in front at its end and the path behind at its beginning.  The two trims
meet in a path that is joined on both sides, and they do not disturb each other: where such a
path has a character that is no slash, both leave the part between its outermost slashes, in
either order; where it has none, both leave nothing, and the two slashes that the joins write
become one.  So a path that is nothing but slashes counts for a single slash wherever it stands,
and only the empty path behind counts for nothing.

Segments are what slashes separate, so slashes more or less at either end are not seen in them.
-/
import ServiceAtlas.Endpoint.Path
import ServiceAtlas.Proofs.Trimming

namespace ServiceAtlas

namespace Path

/-! ### The two sides of a join -/

/-- A path without the slashes that it ends with. -/
def unended (path : List Char) : List Char :=
  Text.trimEndWhere (· = '/') path

/-- A path without the slashes that it begins with. -/
def unrooted (path : List Char) : List Char :=
  Text.trimStartWhere (· = '/') path

theorem joinChars_nil (base : List Char) : joinChars base [] = base :=
  rfl

theorem joinChars_of_ne_nil {relative : List Char} (hrelative : relative ≠ [])
    (base : List Char) :
    joinChars base relative = unended base ++ '/' :: unrooted relative :=
  if_neg (by simpa using hrelative)

/-- What a join leaves of the path in front is that path up to slashes at its end. -/
theorem exists_unended (path : List Char) :
    (∃ n, path = unended path ++ List.replicate n '/') ∧ (unended path).getLast? ≠ some '/' := by
  constructor
  · have hslashes : path.rtakeWhile (· = '/')
        = List.replicate (path.rtakeWhile (· = '/')).length '/' :=
      List.eq_replicate_of_mem fun c hc => by simpa using List.mem_rtakeWhile_imp hc
    refine ⟨(path.rtakeWhile (· = '/')).length, ?_⟩
    rw [← hslashes]
    exact List.rdropWhile_append_rtakeWhile.symm
  · intro hlast
    have hne : unended path ≠ [] := by
      intro hnone
      rw [hnone] at hlast
      cases hlast
    refine List.rdropWhile_last_not (· = '/') path hne ?_
    exact decide_eq_true ((List.getLast_eq_iff_getLast?_eq_some hne).mpr hlast)

/-- What a join leaves of the path behind is that path up to slashes at its beginning. -/
theorem exists_unrooted (path : List Char) :
    (∃ n, path = List.replicate n '/' ++ unrooted path) ∧ (unrooted path).head? ≠ some '/' := by
  constructor
  · have hslashes : path.takeWhile (· = '/')
        = List.replicate (path.takeWhile (· = '/')).length '/' :=
      List.eq_replicate_of_mem fun c hc => by simpa using List.mem_takeWhile_imp hc
    refine ⟨(path.takeWhile (· = '/')).length, ?_⟩
    rw [← hslashes]
    exact List.takeWhile_append_dropWhile.symm
  · intro hhead
    have hne : unrooted path ≠ [] := by
      intro hnone
      rw [hnone] at hhead
      cases hhead
    have hnot := List.head_dropWhile_not (· = '/') hne
    exact of_decide_eq_false hnot ((List.head_eq_iff_head?_eq_some hne).mpr hhead)

/-! ### Associativity -/

/-- A path between two others is trimmed on both sides, whichever join comes first. -/
theorem join_between {front rest : List Char} (hfront : unended front = front)
    (hrest : unrooted rest = rest) (middle : List Char) :
    unended (front ++ '/' :: unrooted middle) ++ '/' :: rest
      = front ++ '/' :: unrooted (unended middle ++ '/' :: rest) := by
  by_cases hslashes : unrooted middle = []
  · -- The path between is nothing but slashes, and so is what the first join leaves of it.
    have hended : unended middle = [] :=
      Text.trimEndWhere_eq_nil_iff.mpr (Text.trimStartWhere_eq_nil_iff.mp hslashes)
    have hlone : unended (front ++ ['/']) = front := by
      unfold unended
      rw [Text.trimEndWhere_append, if_pos (by decide)]
      exact hfront
    have hslash : unrooted ('/' :: rest) = rest := hrest
    rw [hslashes, hended, hlone, List.nil_append, hslash]
  · have hcore : unrooted (unended middle) = unended (unrooted middle) :=
      Text.trimStartWhere_trimEndWhere middle
    have hne : unended (unrooted middle) ≠ [] := by
      intro hnone
      have hall := Text.trimStartWhere_eq_nil_iff.mpr (Text.trimEndWhere_eq_nil_iff.mp hnone)
      exact hslashes ((Text.trimStartWhere_idempotent middle).symm.trans hall)
    have hfirst : unended (front ++ '/' :: unrooted middle)
        = front ++ '/' :: unended (unrooted middle) := by
      rw [List.append_cons]
      exact (Text.trimEndWhere_append _ _).trans ((if_neg hne).trans (List.append_cons ..).symm)
    have hsecond : unrooted (unended middle ++ '/' :: rest)
        = unended (unrooted middle) ++ '/' :: rest := by
      rw [← hcore] at hne ⊢
      exact (Text.trimStartWhere_append _ _).trans (if_neg hne)
    rw [hfirst, hsecond]
    simp

theorem joinChars_assoc (a b c : List Char) :
    joinChars (joinChars a b) c = joinChars a (joinChars b c) := by
  have hfront : unended (unended a) = unended a := Text.trimEndWhere_idempotent a
  have hrest : unrooted (unrooted c) = unrooted c := Text.trimStartWhere_idempotent c
  by_cases hc : c = []
  · rw [hc, joinChars_nil, joinChars_nil]
  · have hbc : joinChars b c ≠ [] := by simp [joinChars, hc]
    rw [joinChars_of_ne_nil hc, joinChars_of_ne_nil hbc, joinChars_of_ne_nil hc]
    by_cases hb : b = []
    · rw [hb, joinChars_nil]
      exact congrArg (unended a ++ '/' :: ·) hrest.symm
    · rw [joinChars_of_ne_nil hb]
      exact join_between hfront hrest b

/-! ### Segments -/

theorem segmentChars_append (cs ds : List Char) :
    segmentChars (cs ++ '/' :: ds) = segmentChars cs ++ segmentChars ds := by
  rw [segmentChars, Text.pieces_append, List.filter_append]
  rfl

theorem segmentChars_slashes (n : Nat) : segmentChars (List.replicate n '/') = [] := by
  induction n with
  | zero => rfl
  | succ n ih =>
      have hsplit := segmentChars_append [] (List.replicate n '/')
      rw [ih] at hsplit
      exact hsplit

theorem segmentChars_unended (path : List Char) :
    segmentChars (unended path) = segmentChars path := by
  obtain ⟨⟨n, hpath⟩, -⟩ := exists_unended path
  cases n with
  | zero => exact congrArg segmentChars (hpath.trans (List.append_nil _)).symm
  | succ n =>
      calc segmentChars (unended path)
          = segmentChars (unended path) ++ segmentChars (List.replicate n '/') := by
            rw [segmentChars_slashes, List.append_nil]
        _ = segmentChars (unended path ++ List.replicate (n + 1) '/') :=
            (segmentChars_append _ _).symm
        _ = segmentChars path := congrArg segmentChars hpath.symm

theorem segmentChars_unrooted (path : List Char) :
    segmentChars (unrooted path) = segmentChars path := by
  obtain ⟨⟨n, hpath⟩, -⟩ := exists_unrooted path
  cases n with
  | zero => exact congrArg segmentChars hpath.symm
  | succ n =>
      calc segmentChars (unrooted path)
          = segmentChars (List.replicate n '/') ++ segmentChars (unrooted path) := by
            rw [segmentChars_slashes, List.nil_append]
        _ = segmentChars (List.replicate n '/' ++ '/' :: unrooted path) :=
            (segmentChars_append _ _).symm
        _ = segmentChars path := by
            rw [List.append_cons, ← List.replicate_succ', ← hpath]

/-- **The segments of a joined path are those of its parts.** -/
theorem segmentChars_joinChars (base relative : List Char) :
    segmentChars (joinChars base relative) = segmentChars base ++ segmentChars relative := by
  by_cases hrelative : relative = []
  · rw [hrelative, joinChars_nil]
    exact (List.append_nil _).symm
  · rw [joinChars_of_ne_nil hrelative, segmentChars_append, segmentChars_unended,
      segmentChars_unrooted]

/--
**Paths are joined associatively, and splitting turns joining into concatenation.**  Joining the
empty path behind changes nothing.  Any other path is joined by one slash, which stands between
the path in front without the slashes at its end and the path behind without those at its
beginning.  It does not matter which of two joins comes first, and the segments of a joined path
are the segments of one part and then those of the other.
-/
theorem join_action (a b c : String) :
    join a "" = a ∧
    (b ≠ "" → ∃ front rest m n,
      a.toList = front ++ List.replicate m '/' ∧ front.getLast? ≠ some '/' ∧
      b.toList = List.replicate n '/' ++ rest ∧ rest.head? ≠ some '/' ∧
      (join a b).toList = front ++ '/' :: rest) ∧
    join (join a b) c = join a (join b c) ∧
    segments (join a b) = segments a ++ segments b := by
  refine ⟨?_, fun hb => ?_, ?_, ?_⟩
  · exact String.ofList_toList
  · obtain ⟨⟨m, ha⟩, hlast⟩ := exists_unended a.toList
    obtain ⟨⟨n, hrelative⟩, hhead⟩ := exists_unrooted b.toList
    have hne : b.toList ≠ [] := by simpa using hb
    refine ⟨_, _, m, n, ha, hlast, hrelative, hhead, ?_⟩
    rw [join, String.toList_ofList, joinChars_of_ne_nil hne]
  · simp only [join, String.toList_ofList, joinChars_assoc]
  · simp only [segments, join, String.toList_ofList, segmentChars_joinChars, List.map_append]

end Path

end ServiceAtlas
