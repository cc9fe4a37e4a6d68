/-
Which quoted values of flags are read as they stand.

A value is cut at its commas, and before that a list of servers at its semicolons, without a look
at the quotes.  So nothing that is read contains a comma, and nothing in a server a semicolon; a
quoted value that contains one is lost.  Any other quoted value comes back whole, with its blanks
and its equals signs: the quotes keep the blanks, and a pair is cut at its first equals sign.

Both halves are proved once for lists of pairs and used for titles, versions and servers.
-/
import ServiceAtlas.Proofs.Literal
import ServiceAtlas.Proofs.OrderedMap
import ServiceAtlas.Proofs.Trimming
import ServiceAtlas.Settings.Flags

namespace ServiceAtlas

namespace Text

/-- A piece has characters of the text only, and not the separator. -/
theorem mem_of_mem_pieces {sep c : Char} {cs p : List Char} (hp : p ∈ pieces sep cs)
    (hc : c ∈ p) : c ∈ cs ∧ c ≠ sep := by
  induction cs generalizing p with
  | nil =>
      rw [List.mem_singleton.mp hp] at hc
      cases hc
  | cons d cs ih =>
      obtain ⟨q, qs, hq⟩ := List.exists_cons_of_ne_nil (pieces_ne_nil sep cs)
      have hlater {r : List Char} (hr : r ∈ q :: qs) (hcr : c ∈ r) : c ∈ d :: cs ∧ c ≠ sep :=
        (ih (hq ▸ hr) hcr).imp_left (List.mem_cons_of_mem d)
      by_cases hd : d = sep
      · rw [pieces, if_pos hd, hq] at hp
        rcases List.mem_cons.mp hp with rfl | hp
        · cases hc
        · exact hlater hp hc
      · rw [pieces, if_neg hd, hq] at hp
        rcases List.mem_cons.mp hp with rfl | hp
        · rcases List.mem_cons.mp hc with rfl | hc
          · exact ⟨List.mem_cons_self, hd⟩
          · exact hlater List.mem_cons_self hc
        · exact hlater (List.mem_cons_of_mem q hp) hc

/-- Parts without the separator are cut where they were joined. -/
theorem pieces_join {sep : Char} {ps : List (List Char)} (hne : ps ≠ [])
    (h : ∀ p ∈ ps, sep ∉ p) : pieces sep (join [sep] ps) = ps := by
  induction ps with
  | nil => exact absurd rfl hne
  | cons p rest ih =>
      obtain ⟨hp, hrest⟩ := List.forall_mem_cons.mp h
      cases rest with
      | nil => exact pieces_of_not_mem hp
      | cons q rest =>
          rw [join, List.append_assoc, List.singleton_append, pieces_append,
            pieces_of_not_mem hp, ih (List.cons_ne_nil q rest) hrest]
          rfl

theorem mem_of_mem_join {sep c : Char} {ps : List (List Char)} (hc : c ∈ join [sep] ps) :
    c = sep ∨ ∃ p ∈ ps, c ∈ p := by
  induction ps with
  | nil => cases hc
  | cons p rest ih =>
      cases rest with
      | nil => exact Or.inr ⟨p, List.mem_singleton_self p, hc⟩
      | cons q rest =>
          rw [join, List.append_assoc, List.singleton_append, List.mem_append,
            List.mem_cons] at hc
          rcases hc with hp | hsep | hrest
          · exact Or.inr ⟨p, List.mem_cons_self, hp⟩
          · exact Or.inl hsep
          · exact (ih hrest).imp_right fun ⟨r, hr, hcr⟩ => ⟨r, List.mem_cons_of_mem p hr, hcr⟩

theorem mem_of_mem_trimWhere {p : Char → Bool} {c : Char} {cs : List Char}
    (hc : c ∈ trimWhere p cs) : c ∈ cs := by
  unfold trimWhere trimEndWhere trimStartWhere at hc
  have hstart := List.mem_reverse.mp ((List.dropWhile_sublist p).subset (List.mem_reverse.mp hc))
  exact (List.dropWhile_sublist p).subset hstart

theorem mem_of_mem_cut {sep c : Char} {cs behind : List Char} (h : (cut sep cs).2 = some behind)
    (hc : c ∈ behind) : c ∈ cs := by
  induction cs with
  | nil => cases h
  | cons d cs ih =>
      rw [cut] at h
      split at h
      · cases h
        exact List.mem_cons_of_mem d hc
      · exact List.mem_cons_of_mem d (ih h)

theorem trimWhere_of_forall {p : Char → Bool} {cs : List Char} (h : ∀ c ∈ cs, p c = false) :
    trimWhere p cs = cs := by
  have hstart : trimStartWhere p cs = cs := by
    cases cs with
    | nil => rfl
    | cons c cs => exact List.dropWhile_cons_of_neg (by simp [h c List.mem_cons_self])
  rw [trimWhere, hstart]
  refine trimEndWhere_of_getLast? ?_
  rw [Option.any_eq_false_iff_get]
  intro hsome
  exact h _ (List.mem_of_getLast? (Option.some_get hsome).symm)

/-- Of a quoted text without quotes only the quotes around it are trimmed. -/
theorem trimWhere_quotes {cs : List Char} (h : '"' ∉ cs) :
    trimWhere (· = '"') ('"' :: cs ++ ['"']) = cs := by
  have hend : ∀ c ∈ ['"'], decide (c = '"') = true := by simp
  have hinside : ∀ c ∈ cs, decide (c = '"') = false := by
    intro c hc
    rw [decide_eq_false_iff_not]
    rintro rfl
    exact h hc
  rw [List.cons_append, ← List.singleton_append, trimWhere_append_left hend,
    trimWhere_append_right hend, trimWhere_of_forall hinside]

end Text

namespace Flags

open ServiceAtlas.Text

/-! ### Pairs -/

/-- A key and a quoted value. -/
def assignment (pair : String × String) : List Char :=
  pair.1.toList ++ '=' :: ('"' :: pair.2.toList ++ ['"'])

/-- Pairs with a comma between neighbours. -/
def assignments (pairs : List (String × String)) : List Char :=
  join [','] (pairs.map assignment)

/-- A key that can be told from what stands around it. -/
structure IsKey (key : String) : Prop where
  tight : trim key.toList = key.toList
  comma : ',' ∉ key.toList
  semicolon : ';' ∉ key.toList
  equals : '=' ∉ key.toList

/-- The keys that flags give can be told. -/
theorem isKey_of_mem {key : String} (h : key ∈ ["title", "version", "url", "description"]) :
    IsKey key := by
  have hkeys : ∀ k ∈ ["title", "version", "url", "description"], trim k.toList = k.toList ∧
      ',' ∉ k.toList ∧ ';' ∉ k.toList ∧ '=' ∉ k.toList := by decide
  obtain ⟨htight, hcomma, hsemicolon, hequals⟩ := hkeys key h
  exact ⟨htight, hcomma, hsemicolon, hequals⟩

theorem not_mem_assignment {c : Char} {pair : String × String} (hkey : c ∉ pair.1.toList)
    (hvalue : c ∉ pair.2.toList) (hequals : c ≠ '=') (hquote : c ≠ '"') : c ∉ assignment pair := by
  unfold assignment
  simp only [List.mem_append, List.mem_cons, List.not_mem_nil, or_false, not_or]
  exact ⟨hkey, hequals, ⟨hquote, hvalue⟩, hquote⟩

theorem pair?_assignment {pair : String × String} (hkey : IsKey pair.1)
    (hquote : '"' ∉ pair.2.toList) : pair? (assignment pair) = some pair := by
  have htrim : trim ('"' :: pair.2.toList ++ ['"']) = '"' :: pair.2.toList ++ ['"'] :=
    Literal.trim_tight (Literal.tight_closed (by decide) (by decide) _)
  unfold pair? assignment
  rw [cut_append hkey.equals]
  dsimp only
  rw [htrim, hkey.tight, trimWhere_quotes hquote, String.ofList_toList, String.ofList_toList]

theorem mem_of_pair? {part : List Char} {key text : String}
    (h : pair? part = some (key, text)) {c : Char} (hc : c ∈ text.toList) : c ∈ part := by
  unfold pair? at h
  split at h
  · cases h
  · rename_i before behind hcut
    cases h
    rw [String.toList_ofList] at hc
    have hbehind : c ∈ behind := mem_of_mem_trimWhere (mem_of_mem_trimWhere hc)
    exact mem_of_mem_cut (by rw [hcut]) hbehind

/-- What is read under a key has characters of the value only, and no comma. -/
theorem mem_of_get?_pairs {value : List Char} {key text : String}
    (h : (pairs value).get? key = some text) {c : Char} (hc : c ∈ text.toList) :
    c ∈ value ∧ c ≠ ',' := by
  obtain ⟨part, hpart, hpair⟩ := List.mem_filterMap.mp (OrderedMap.mem_of_get?_ofList h)
  exact mem_of_mem_pieces hpart (mem_of_pair? hpair hc)

/-- Quoted values under different keys come back exactly if none of them has a comma. -/
theorem pairs_assignments_iff {ps : List (String × String)} (hne : ps ≠ [])
    (hkeys : ∀ p ∈ ps, IsKey p.1) (hdistinct : (ps.map Prod.fst).Nodup)
    (hquotes : ∀ p ∈ ps, '"' ∉ p.2.toList) :
    pairs (assignments ps) = .ofList ps ↔ ∀ p ∈ ps, ',' ∉ p.2.toList := by
  constructor
  · intro hpairs p hp hcomma
    have hget : (OrderedMap.ofList ps).get? p.1 = some p.2 :=
      OrderedMap.get?_foldl_insert_of_mem hdistinct hp _
    rw [← hpairs] at hget
    exact (mem_of_get?_pairs hget hcomma).2 rfl
  · intro hcommas
    have hparts : ∀ part ∈ ps.map assignment, ',' ∉ part := by
      intro part hpart
      obtain ⟨p, hp, rfl⟩ := List.mem_map.mp hpart
      exact not_mem_assignment (hkeys p hp).comma (hcommas p hp) (by decide) (by decide)
    have hread : (ps.map assignment).filterMap pair? = ps := by
      rw [List.filterMap_map]
      refine (List.filterMap_congr fun p hp => ?_).trans (List.filterMap_some)
      exact pair?_assignment (hkeys p hp) (hquotes p hp)
    rw [pairs, assignments, pieces_join (by simpa using hne) hparts, hread]

/-! ### Servers -/

/-- The entries of a map of texts, as a check of a record sees them. -/
def entriesOf (m : OrderedMap String String) : List (Key × Json) :=
  m.entries.map fun e => (.text e.1, .str e.2)

theorem lookup_entriesOf (m : OrderedMap String String) (name : String) :
    Check.lookup name (entriesOf m) = (m.get? name).map .str := by
  unfold entriesOf OrderedMap.get?
  induction m.entries with
  | nil => rfl
  | cons e rest ih =>
      rw [List.map_cons, Check.lookup, List.lookup_cons]
      by_cases he : e.1 = name
      · rw [if_pos (congrArg Key.text he), beq_iff_eq.mpr he.symm]
        rfl
      · rw [if_neg (by simpa using he), ih, beq_false_of_ne (Ne.symm he)]

theorem memberOr_entriesOf (m : OrderedMap String String) (fallback name : String) :
    Check.memberOr fallback [name] Check.text (entriesOf m)
      = .valid ((m.get? name).getD fallback) := by
  rw [Check.memberOr, Check.firstOf, lookup_entriesOf]
  cases m.get? name <;> rfl

theorem member_entriesOf {m : OrderedMap String String} {name text : String}
    (h : m.get? name = some text) :
    Check.member [name] Check.text (entriesOf m) = .valid text := by
  rw [Check.member, Check.firstOf, lookup_entriesOf, h]
  rfl

theorem extras_entriesOf {m : OrderedMap String String} {names : List String}
    (h : ∀ k ∈ m.keys, k ∈ names) : Check.extras names (entriesOf m) = [] := by
  unfold OrderedMap.keys at h
  unfold entriesOf
  generalize m.entries = es at h ⊢
  induction es with
  | nil => rfl
  | cons e rest ih =>
      rw [List.map_cons] at h
      obtain ⟨he, hrest⟩ := List.forall_mem_cons.mp h
      rw [List.map_cons, Check.extras, if_pos (by simpa using he)]
      exact ih hrest

/-- Pairs with a `url` are a server if all of their keys are those of a server. -/
theorem check_server {m : OrderedMap String String} {url : String}
    (hurl : m.get? "url" = some url) :
    (∀ s, Server.check (Json.ofMap .str m) = .valid s →
        s = ⟨url, (m.get? "description").getD ""⟩) ∧
      ((∀ k ∈ m.keys, k ∈ ["url", "description"]) →
        Server.check (Json.ofMap .str m) = .valid ⟨url, (m.get? "description").getD ""⟩) := by
  have hrecord : Check.record (Json.ofMap .str m) = .valid (entriesOf m) := by
    show Checked.valid _ = _
    rw [List.map_map]
    rfl
  have hcheck : Server.check (Json.ofMap .str m)
      = if (Check.extras ["url", "description"] (entriesOf m)).isEmpty then
          .valid ⟨url, (m.get? "description").getD ""⟩
        else .invalid (Check.extras ["url", "description"] (entriesOf m)) := by
    rw [Server.check, Check.closed, hrecord, Checked.andThen, member_entriesOf hurl,
      memberOr_entriesOf]
    cases Check.extras ["url", "description"] (entriesOf m) <;> rfl
  rw [hcheck]
  constructor
  · intro s hs
    split at hs
    · cases hs
      rfl
    · cases hs
  · intro hkeys
    rw [extras_entriesOf hkeys, if_pos List.isEmpty_nil]

/-- An entry is a server with the last values of its keys. -/
theorem get?_of_server {entry : List Char} {s : Server} (h : server entry = .ok s) :
    (pairs entry).get? "url" = some s.url ∧
      s.description = ((pairs entry).get? "description").getD "" := by
  unfold server at h
  extract_lets found at h
  split at h
  · rename_i hcontains
    obtain ⟨url, hurl⟩ := OrderedMap.mem_keys_iff.mp (OrderedMap.contains_iff.mp hcontains)
    split at h
    · rename_i s' hcheck
      cases h
      rw [(check_server hurl).1 s hcheck]
      exact ⟨hurl, rfl⟩
    · cases h
  · cases h

theorem server_eq_ok {entry : List Char} {url : String} (hurl : (pairs entry).get? "url" = some url)
    (hkeys : ∀ k ∈ (pairs entry).keys, k ∈ ["url", "description"]) :
    server entry = .ok ⟨url, ((pairs entry).get? "description").getD ""⟩ := by
  have hcontains : (pairs entry).contains "url" = true :=
    OrderedMap.contains_iff.mpr (OrderedMap.mem_keys_iff.mpr ⟨url, hurl⟩)
  rw [server, if_pos hcontains, (check_server hurl).2 hkeys]

/-- Each server of a list is one of the entries. -/
theorem mem_of_serverList {entries : List (List Char)} {ss : List Server}
    (h : serverList entries = .ok ss) : ∀ s ∈ ss, ∃ entry ∈ entries, server entry = .ok s := by
  induction entries generalizing ss with
  | nil =>
      cases h
      nofun
  | cons entry rest ih =>
      rw [serverList] at h
      cases hfirst : server entry with
      | error f =>
          rw [hfirst] at h
          cases h
      | ok s =>
          cases hrest : serverList rest with
          | error f =>
              rw [hfirst, hrest] at h
              cases h
          | ok ss' =>
              rw [hfirst, hrest] at h
              cases h
              refine List.forall_mem_cons.mpr ⟨⟨entry, List.mem_cons_self, hfirst⟩, fun s' hs' => ?_⟩
              obtain ⟨entry', hentry, hs⟩ := ih hrest s' hs'
              exact ⟨entry', List.mem_cons_of_mem entry hentry, hs⟩

theorem serverList_map {α : Type} {text : α → List Char} {value : α → Server} {as : List α}
    (h : ∀ a ∈ as, server (text a) = .ok (value a)) :
    serverList (as.map text) = .ok (as.map value) := by
  induction as with
  | nil => rfl
  | cons a rest ih =>
      obtain ⟨ha, hrest⟩ := List.forall_mem_cons.mp h
      rw [List.map_cons, serverList, ha, ih hrest]
      rfl

/-! ### Lists of servers -/

/-- A server as a flag gives it. -/
structure Entry where
  url : String
  description : Option String

/-- The members of a server that are given. -/
def Entry.pairs (e : Entry) : List (String × String) :=
  ("url", e.url) :: (e.description.map fun d => ("description", d)).toList

/-- The server that is given; a description that is left out is empty. -/
def Entry.server (e : Entry) : Server :=
  ⟨e.url, e.description.getD ""⟩

/-- A value that flags give for servers. -/
def serversText (es : List Entry) : List Char :=
  join [';'] (es.map fun e => assignments e.pairs)

/-- Neither of the given texts contains the character. -/
def Entry.Without (e : Entry) (c : Char) : Prop :=
  c ∉ e.url.toList ∧ ∀ d ∈ e.description, c ∉ d.toList

instance (e : Entry) (c : Char) : Decidable (e.Without c) :=
  inferInstanceAs (Decidable (_ ∧ _))

theorem mem_pairs_iff {e : Entry} {p : String × String} :
    p ∈ e.pairs ↔ p = ("url", e.url) ∨ ∃ d, e.description = some d ∧ p = ("description", d) := by
  unfold Entry.pairs
  cases e.description <;> simp

theorem Entry.Without.not_mem {e : Entry} {c : Char} (h : e.Without c) :
    ∀ p ∈ e.pairs, c ∉ p.2.toList := by
  intro p hp
  rcases mem_pairs_iff.mp hp with rfl | ⟨d, hd, rfl⟩
  · exact h.1
  · exact h.2 d hd

theorem isKey_of_mem_pairs {e : Entry} : ∀ p ∈ e.pairs, IsKey p.1 := by
  intro p hp
  rcases mem_pairs_iff.mp hp with rfl | ⟨d, -, rfl⟩
  · exact isKey_of_mem (by simp)
  · exact isKey_of_mem (by simp)

theorem nodup_pairs (e : Entry) : (e.pairs.map Prod.fst).Nodup := by
  unfold Entry.pairs
  cases e.description <;> simp

/-- What is under the two keys of a server that is given, and that there are no others. -/
theorem get?_ofList_pairs (e : Entry) :
    (OrderedMap.ofList e.pairs).get? "url" = some e.url ∧
      (OrderedMap.ofList e.pairs).get? "description" = e.description ∧
      ∀ k ∈ (OrderedMap.ofList e.pairs).keys, k ∈ ["url", "description"] := by
  unfold Entry.pairs
  cases e.description with
  | none => exact ⟨rfl, rfl, fun k hk => List.mem_cons.mpr (Or.inl (List.mem_singleton.mp hk))⟩
  | some d => exact ⟨rfl, rfl, fun k hk => hk⟩

theorem server_assignments {e : Entry} (hquotes : e.Without '"') (hcommas : e.Without ',') :
    server (assignments e.pairs) = .ok e.server := by
  have hpairs : pairs (assignments e.pairs) = .ofList e.pairs :=
    (pairs_assignments_iff (List.cons_ne_nil _ _) isKey_of_mem_pairs (nodup_pairs e)
      hquotes.not_mem).mpr hcommas.not_mem
  obtain ⟨hurl, hdescription, hkeys⟩ := get?_ofList_pairs e
  rw [← hpairs] at hurl hdescription hkeys
  rw [server_eq_ok hurl hkeys, hdescription]
  rfl

/-- A server that is given begins with a letter and ends with a quote. -/
theorem tight_assignments (e : Entry) : Literal.Tight (assignments e.pairs) := by
  have hclosed : ∃ body, assignments e.pairs = 'u' :: body ++ ['"'] := by
    unfold assignments Entry.pairs
    cases e.description with
    | none => exact ⟨"rl".toList ++ '=' :: '"' :: e.url.toList, by simp [join, assignment]⟩
    | some d =>
        refine ⟨"rl".toList ++ '=' :: ('"' :: e.url.toList ++ ['"']) ++ ','
          :: ("description".toList ++ '=' :: '"' :: d.toList), ?_⟩
        simp [join, assignment]
  obtain ⟨body, hbody⟩ := hclosed
  rw [hbody]
  exact Literal.tight_closed (by decide) (by decide) body

theorem semicolon_not_mem {e : Entry} (h : e.Without ';') : ';' ∉ assignments e.pairs := by
  intro hmem
  rcases mem_of_mem_join hmem with heq | ⟨part, hpart, hsemicolon⟩
  · cases heq
  · obtain ⟨p, hp, rfl⟩ := List.mem_map.mp hpart
    exact not_mem_assignment (isKey_of_mem_pairs p hp).semicolon (h.not_mem p hp) (by decide)
      (by decide) hsemicolon

/-- What is read of a server has neither a comma nor a semicolon in it. -/
theorem ne_of_mem_servers {value : List Char} {ss : List Server} (h : servers value = .ok ss)
    {s : Server} (hs : s ∈ ss) {c : Char} (hc : c ∈ s.url.toList ∨ c ∈ s.description.toList) :
    c ≠ ',' ∧ c ≠ ';' := by
  obtain ⟨entry, hentry, hserver⟩ := mem_of_serverList h s hs
  obtain ⟨part, hpart, rfl⟩ := List.mem_map.mp (List.mem_filter.mp hentry).1
  obtain ⟨hurl, hdescription⟩ := get?_of_server hserver
  have hread : c ∈ trim part ∧ c ≠ ',' := by
    rcases hc with hc | hc
    · exact mem_of_get?_pairs hurl hc
    · cases hget : (pairs (trim part)).get? "description" with
      | none =>
          rw [hdescription, hget] at hc
          cases hc
      | some d =>
          rw [hdescription, hget] at hc
          exact mem_of_get?_pairs hget hc
  exact ⟨hread.2, (mem_of_mem_pieces hpart (mem_of_mem_trimWhere hread.1)).2⟩

/-- Given servers come back exactly if none of their texts has a comma or a semicolon. -/
theorem servers_text_iff {es : List Entry} (hquotes : ∀ e ∈ es, e.Without '"') :
    servers (serversText es) = .ok (es.map Entry.server) ↔
      ∀ e ∈ es, e.Without ',' ∧ e.Without ';' := by
  constructor
  · intro h e he
    have hne {c : Char} := ne_of_mem_servers h (List.mem_map_of_mem he) (c := c)
    have hurl {c : Char} (hc : c ∈ e.url.toList) := hne (Or.inl hc)
    have hdescription {c : Char} {d : String} (hd : e.description = some d) (hc : c ∈ d.toList) :=
      hne (c := c) (Or.inr (by rw [Entry.server, hd]; exact hc))
    exact ⟨⟨fun hc => (hurl hc).1 rfl, fun d hd hc => (hdescription hd hc).1 rfl⟩,
      fun hc => (hurl hc).2 rfl, fun d hd hc => (hdescription hd hc).2 rfl⟩
  · intro hplain
    cases es with
    | nil => rfl
    | cons e rest =>
        have hparts : ∀ part ∈ (e :: rest).map (fun e => assignments e.pairs), ';' ∉ part := by
          intro part hpart
          obtain ⟨e', he', rfl⟩ := List.mem_map.mp hpart
          exact semicolon_not_mem (hplain e' he').2
        have htrimmed : ((e :: rest).map fun e => assignments e.pairs).map trim
            = (e :: rest).map fun e => assignments e.pairs := by
          rw [List.map_map]
          exact List.map_congr_left fun e' _ => Literal.trim_tight (tight_assignments e')
        have hkept : ((e :: rest).map fun e => assignments e.pairs).filter
            (fun entry => !entry.isEmpty) = (e :: rest).map fun e => assignments e.pairs := by
          refine List.filter_eq_self.mpr fun entry hentry => ?_
          obtain ⟨e', -, rfl⟩ := List.mem_map.mp hentry
          simpa using (tight_assignments e').ne_nil
        rw [servers, serversText, pieces_join (by simp) hparts, htrimmed, hkept]
        exact serverList_map fun e' he' => server_assignments (hquotes e' he') (hplain e' he').1

/-! ### Titles, versions and servers -/

/-- A value that a flag gives for the title and the version of a document. -/
def infoText (title version : String) : List Char :=
  assignments [("title", title), ("version", version)]

/--
**Quoted values come back exactly if they have no separators.**  A title and a version are read
as they stand if and only if neither has a comma, and servers if and only if none of their texts
has a comma or a semicolon.
-/
theorem quoted_values_iff (title version : String) (es : List Entry)
    (htitle : '"' ∉ title.toList) (hversion : '"' ∉ version.toList)
    (hservers : ∀ e ∈ es, e.Without '"') :
    (pairs (infoText title version) = .ofList [("title", title), ("version", version)] ↔
        ',' ∉ title.toList ∧ ',' ∉ version.toList) ∧
      (servers (serversText es) = .ok (es.map Entry.server) ↔
        ∀ e ∈ es, e.Without ',' ∧ e.Without ';') := by
  refine ⟨?_, servers_text_iff hservers⟩
  have hall {P : String × String → Prop} :
      (∀ p ∈ [("title", title), ("version", version)], P p)
        ↔ P ("title", title) ∧ P ("version", version) := by simp
  have hkeys : ∀ p ∈ [("title", title), ("version", version)], IsKey p.1 :=
    hall.mpr ⟨isKey_of_mem (by simp), isKey_of_mem (by simp)⟩
  rw [infoText, pairs_assignments_iff (by simp) hkeys (by simp) (hall.mpr ⟨htitle, hversion⟩)]
  exact hall

example : infoText "My API" "2.1.0" = "title=\"My API\",version=\"2.1.0\"".toList := by decide

/-- Servers with blanks, an equals sign and apostrophes in their texts. -/
def mirrors : List Entry :=
  [⟨"https://a/v1?mode=full", some " main 'site' "⟩, ⟨" https://b ", none⟩]

theorem quoted_values_iff_mirrors :
    ('"' ∉ " Orders; a=b ".toList ∧ '"' ∉ "".toList ∧
        pairs (infoText " Orders; a=b " "")
          = .ofList [("title", " Orders; a=b "), ("version", "")]) ∧
      (∀ e ∈ mirrors, e.Without '"') ∧ servers (serversText mirrors)
        = .ok [⟨"https://a/v1?mode=full", " main 'site' "⟩, ⟨" https://b ", ""⟩] := by
  have htitle : '"' ∉ " Orders; a=b ".toList := by decide
  have hversion : '"' ∉ "".toList := by decide
  have hmirrors : ∀ e ∈ mirrors, e.Without '"' := by decide
  obtain ⟨hinfo, hservers⟩ := quoted_values_iff _ _ mirrors htitle hversion hmirrors
  exact ⟨⟨htitle, hversion, hinfo.mpr (by decide)⟩, hmirrors, hservers.mpr (by decide)⟩

/-- A title with a comma and a server with a semicolon are not read as they stand. -/
theorem not_whole_with_separators :
    (¬∀ title version : String, '"' ∉ title.toList → '"' ∉ version.toList →
        pairs (infoText title version) = .ofList [("title", title), ("version", version)]) ∧
      ¬∀ es : List Entry, es ≠ [] → (∀ e ∈ es, e.Without '"') →
        servers (serversText es) = .ok (es.map Entry.server) := by
  constructor
  · intro h
    have hget := congrArg (·.get? "title") (h "Orders, Shop" "2.1.0" (by decide) (by decide))
    exact absurd hget (by decide)
  · intro h
    have hread := h [⟨"https://a/v1;v=2", none⟩] (by simp) (by decide)
    exact absurd (servers_text_iff (by decide) |>.mp hread) (by decide)

end Flags

end ServiceAtlas
