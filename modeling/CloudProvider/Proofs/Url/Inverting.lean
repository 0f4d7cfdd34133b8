import CloudProvider.Http.Client
import CloudProvider.Proofs.Url.Segments
import CloudProvider.Proofs.Url.Slashes

/-!
# Segments are found again in a URL

The URL of plain segments has the path of the base, without slashes at its end, and then one component
for each segment, which stands for it. So different segments have different URLs.

* `Text.decodeUtf8?_utf8OfText`: the bytes of a text are read as the text.
* `Url.Spells.unique`: components stand for one list of segments.
* `Url.free_of_parse`: the segments that are read have no slashes in them.
* `Url.stem`, `Url.Follows`: a URL with segments behind the path of a base.
* `Client.url_inverts`: the URLs of a client.
-/

namespace CloudProvider
set_option autoImplicit false

/-! ## Bytes -/

namespace Text

theorem scalar?_of_toNat {least n : Nat} {c : Char} (hleast : least ≤ n) (hn : n = c.toNat)
    (rest : Option (List Char)) :
    (do return (← scalar? least n) :: (← rest)) = (c :: ·) <$> rest := by
  subst hn
  have hscalar : scalar? least c.toNat = some c := by
    rw [scalar?, dif_pos ⟨hleast, c.valid⟩]
    exact congrArg some (Char.ext (UInt32.toNat_inj.mp rfl))
  rw [hscalar]
  cases rest <;> rfl

theorem decodeUtf8?_utf8OfChar (c : Char) (bytes : List Nat) :
    decodeUtf8? (utf8OfChar c ++ bytes) = (c :: ·) <$> decodeUtf8? bytes := by
  have hc : c.toNat < 0x110000 := by
    rcases c.valid with h | h
    · exact Nat.lt_of_lt_of_le h (by decide)
    · exact h.2
  have hcontinues (k : Nat) : isContinuation (0x80 + k % 64) = true := by
    simp only [isContinuation, Bool.and_eq_true, decide_eq_true_eq]
    omega
  simp only [utf8OfChar]
  split
  · next h1 =>
    rw [List.singleton_append, decodeUtf8?.eq_def]
    simp only [h1, if_true]
    exact scalar?_of_toNat (Nat.zero_le _) rfl _
  · split
    · next h2 =>
      rw [List.cons_append, List.singleton_append, decodeUtf8?, if_neg (by omega),
        if_pos (by simp; omega)]
      simp only [hcontinues, if_true]
      exact scalar?_of_toNat (by omega) (by omega) _
    · split
      · next h3 =>
        simp only [List.cons_append, List.nil_append]
        rw [decodeUtf8?, if_neg (by omega), if_neg (by simp; omega), if_pos (by simp; omega)]
        simp only [hcontinues, Bool.and_self, if_true]
        exact scalar?_of_toNat (by omega) (by omega) _
      · simp only [List.cons_append, List.nil_append]
        rw [decodeUtf8?, if_neg (by omega), if_neg (by simp; omega), if_neg (by simp; omega),
          if_pos (by simp; omega)]
        simp only [hcontinues, Bool.and_self, if_true]
        exact scalar?_of_toNat (by omega) (by omega) _

theorem decodeUtf8?_utf8OfText (cs : List Char) : decodeUtf8? (utf8OfText cs) = some cs := by
  induction cs with
  | nil => rfl
  | cons c cs ih =>
    have hcons : utf8OfText (c :: cs) = utf8OfChar c ++ utf8OfText cs := rfl
    rw [hcons, decodeUtf8?_utf8OfChar, ih]
    rfl

end Text

namespace Url

/-! ## Components -/

/-- Components stand for one list of segments only. -/
theorem Spells.unique {segments segments' : List String} {components : List (List Char)}
    (h : Spells segments components) (h' : Spells segments' components) : segments = segments' := by
  induction components generalizing segments segments' with
  | nil =>
    cases segments with
    | cons => cases h
    | nil =>
      cases segments' with
      | cons => cases h'
      | nil => rfl
  | cons component components ih =>
    cases segments with
    | nil => cases h
    | cons segment segments =>
      cases segments' with
      | nil => cases h'
      | cons segment' segments' =>
        have hbytes := congrArg Text.decodeUtf8? (h.1.decodes.symm.trans h'.1.decodes)
        rw [Text.decodeUtf8?_utf8OfText, Text.decodeUtf8?_utf8OfText] at hbytes
        rw [String.toList_inj.mp (Option.some.inj hbytes), ih h.2 h'.2]

theorem Spells.free {segments : List String} {components : List (List Char)}
    (h : Spells segments components) : ∀ component ∈ components, component ≠ [] ∧ '/' ∉ component := by
  induction components generalizing segments with
  | nil => simp
  | cons component components ih =>
    cases segments with
    | nil => cases h
    | cons segment segments =>
      rw [List.forall_mem_cons]
      exact ⟨⟨h.1.nonempty, h.1.free '/' (by simp)⟩, ih h.2⟩

theorem splitOn_components {components : List (List Char)}
    (hfree : ∀ component ∈ components, '/' ∉ component)
    {front : List Char} (hfront : '/' ∉ front) :
    (front ++ components.flatMap ('/' :: ·)).splitOn '/' = front :: components := by
  induction components generalizing front with
  | nil => rw [List.flatMap_nil, List.append_nil, List.splitOn_eq_singleton hfront]
  | cons component components ih =>
    obtain ⟨hcomponent, hrest⟩ := List.forall_mem_cons.mp hfree
    rw [List.flatMap_cons, List.cons_append, List.splitOn_append_cons_self_of_not_mem hfront,
      ih hrest hcomponent]

theorem not_mem_of_mem_splitOn {c : Char} {cs piece : List Char} (h : piece ∈ cs.splitOn c) :
    c ∉ piece := by
  induction cs generalizing piece with
  | nil =>
    rw [List.splitOn_nil, List.mem_singleton] at h
    simp [h]
  | cons d cs ih =>
    rw [List.splitOn_cons_eq_if_modifyHead] at h
    split at h
    · rcases List.mem_cons.mp h with rfl | h
      · exact List.not_mem_nil
      · exact ih h
    · next hne =>
      obtain ⟨first, rest, hpieces⟩ := List.exists_cons_of_ne_nil (List.splitOn_ne_nil c cs)
      rw [hpieces] at h ih
      rcases List.mem_cons.mp h with rfl | h
      · have hd : c ≠ d := by
          rintro rfl
          exact hne (beq_self_eq_true c)
        simpa [hd] using ih List.mem_cons_self
      · exact ih (List.mem_cons_of_mem _ h)

/-! ## Segments that are read -/

theorem free_of_resolve {pieces path : List (List Char)} (hpieces : ∀ piece ∈ pieces, '/' ∉ piece)
    (hpath : ∀ segment ∈ path, '/' ∉ segment) : ∀ segment ∈ resolve path pieces, '/' ∉ segment := by
  induction pieces generalizing path with
  | nil => exact hpath
  | cons piece rest ih =>
    obtain ⟨hpiece, hrest⟩ := List.forall_mem_cons.mp hpieces
    have hup : ∀ segment ∈ path.dropLast, '/' ∉ segment := fun segment hs =>
      hpath segment (List.dropLast_subset _ hs)
    have hadd {levels : List (List Char)} (hlevels : ∀ segment ∈ levels, '/' ∉ segment) {cs : List Char}
        (hcs : '/' ∉ cs) : ∀ segment ∈ levels ++ [cs], '/' ∉ segment := by
      rw [List.forall_mem_append, List.forall_mem_singleton]
      exact ⟨hlevels, hcs⟩
    rw [resolve]
    refine ih hrest ?_
    split
    · split
      · exact hadd hup List.not_mem_nil
      · exact hup
    · split
      · split
        · exact hadd hpath List.not_mem_nil
        · exact hpath
      · exact hadd hpath (free_of_encode_of_not_mem (by simp) hpiece)

theorem free_of_parsePath (special : Bool) (cs : List Char) :
    ∀ segment ∈ parsePath special cs, '/' ∉ segment := by
  have hpieces : ∀ piece ∈ splitPath special cs, '/' ∉ piece := fun piece hp =>
    not_mem_of_mem_splitOn hp
  unfold parsePath
  split
  · split <;> simp
  · next rest heq =>
    rw [heq] at hpieces
    exact free_of_resolve (List.forall_mem_cons.mp hpieces).2 (by simp)
  · exact free_of_resolve hpieces (by simp)

/-- What is asked over HTTP is read with segments that have no slashes in them. -/
theorem free_of_parse {text : String} {u : Url} (h : parse text = .ok u) (hhttp : u.isHttp = true) :
    isSpecial u.scheme = true ∧
      ∃ path, u.path = .segments path ∧ ∀ segment ∈ path, '/' ∉ segment := by
  obtain ⟨scheme, rest, -, -, hspecial, hhosted⟩ := parse_of_isHttp h hhttp
  refine ⟨(parseHosted_scheme hhosted).symm ▸ hspecial, ?_⟩
  simp only [parseHosted, bind, Except.bind] at hhosted
  split at hhosted
  · cases hhosted
  · obtain rfl := Except.ok.inj hhosted
    exact ⟨_, rfl, free_of_parsePath _ _⟩

/-! ## Paths without slashes at the end -/

/-- The path of a URL in writing, without slashes at its end. -/
def stem (u : Url) : List Char :=
  u.path.chars.rdropWhile (· == '/')

theorem rdropWhile_chars {path : List (List Char)} (hfree : ∀ segment ∈ path, '/' ∉ segment) :
    (path.flatMap ('/' :: ·)).rdropWhile (· == '/') =
      (path.rdropWhile List.isEmpty).flatMap ('/' :: ·) := by
  induction path using List.reverseRecOn with
  | nil => rfl
  | append_singleton path segment ih =>
    have hpath : ∀ segment ∈ path, '/' ∉ segment := fun s hs => hfree s (List.mem_append_left _ hs)
    have hsegment : '/' ∉ segment := hfree segment (by simp)
    rw [List.flatMap_append, List.flatMap_singleton]
    rcases List.eq_nil_or_concat segment with rfl | ⟨front, c, rfl⟩
    · rw [List.rdropWhile_concat_pos _ _ _ rfl, List.rdropWhile_concat_pos _ _ _ rfl, ih hpath]
    · rw [List.concat_eq_append] at hsegment ⊢
      have hc : ¬ (c == '/') = true := by
        intro heq
        exact hsegment (by simp [beq_iff_eq.mp heq])
      have hne : ¬ (front ++ [c]).isEmpty = true := by simp
      rw [List.rdropWhile_concat_neg _ _ _ hne, List.flatMap_append, List.flatMap_singleton,
        ← List.cons_append, ← List.append_assoc, List.rdropWhile_concat_neg (· == '/') _ _ hc]

theorem root_withoutEmptyEnd (path : List (List Char)) :
    root (withoutEmptyEnd true path) = path.rdropWhile List.isEmpty := by
  rw [withoutEmptyEnd_eq]
  by_cases hempty : path.rdropWhile List.isEmpty = []
  · rw [hempty]
    rfl
  · have hlast := List.rdropWhile_last_not List.isEmpty path hempty
    have hroot : path.rdropWhile List.isEmpty ≠ [[]] := by
      intro heq
      simp [heq] at hlast
    simp [hempty, root, hroot]

/-! ## URLs with segments behind a base -/

/-- The URL has the path of the base, without slashes at its end, and then one component for each
segment, which stands for it. A path of nothing is the root. Everything else is that of the base. -/
structure Follows (base : Url) (segments : List String) (u : Url) : Prop where
  path : ∃ rest components,
    u.path.chars = (if base.stem ++ rest = [] then ['/'] else base.stem ++ rest) ∧
      rest.splitOn '/' = [] :: components ∧ Spells segments components
  scheme : u.scheme = base.scheme
  authority : u.authority = base.authority
  query : u.query = base.query
  fragment : u.fragment = base.fragment

theorem follows_extend {base : Url} {path : List (List Char)} (hpath : base.path = .segments path)
    (hfree : ∀ segment ∈ path, '/' ∉ segment) (hspecial : isSpecial base.scheme = true)
    {segments : List String} (hplain : ∀ segment ∈ segments, Plain segment) :
    base.Follows segments (base.trimmed.extend segments) := by
  have htrimmed : base.trimmed = { base with path := .segments (withoutEmptyEnd true path) } := by
    rw [trimmed, hpath, hspecial]
  have hstem : base.stem = (path.rdropWhile List.isEmpty).flatMap ('/' :: ·) := by
    rw [stem, hpath]
    exact rdropWhile_chars hfree
  have hspells : Spells segments (segments.map (component true)) := .of_plain hplain
  have hcomponents : ∀ c ∈ segments.map (component true), '/' ∉ c := fun c hc => (hspells.free c hc).2
  rw [htrimmed]
  refine ⟨⟨(segments.map (component true)).flatMap ('/' :: ·), _, ?_,
    splitOn_components hcomponents List.not_mem_nil, hspells⟩, rfl, rfl, rfl, rfl⟩
  cases segments with
  | nil =>
    simp only [extend, List.foldl_nil, List.map_nil, List.flatMap_nil, List.append_nil, UrlPath.chars,
      hstem, withoutEmptyEnd_eq]
    cases path.rdropWhile List.isEmpty <;> simp
  | cons name segments =>
    have hrest : ((name :: segments).map (component true)).flatMap ('/' :: ·) ≠ [] := by
      simp
    rw [extend_plain rfl (List.cons_ne_nil _ _) hplain, root_withoutEmptyEnd, hstem, hspecial,
      UrlPath.chars, List.flatMap_append, if_neg fun hnil => hrest (List.append_eq_nil_iff.mp hnil).2]

theorem Follows.path_unique {base u : Url} {a b : List String} (ha : base.Follows a u)
    {u' : Url} (hb : base.Follows b u') (hpath : u.path.chars = u'.path.chars) : a = b := by
  obtain ⟨rest, components, hchars, hsplit, hspells⟩ := ha.path
  obtain ⟨rest', components', hchars', hsplit', hspells'⟩ := hb.path
  have hnot {rest : List Char} {segments : List String} {components : List (List Char)}
      (hsplit : rest.splitOn '/' = [] :: components) (hspells : Spells segments components) :
      rest ≠ ['/'] := by
    rintro rfl
    obtain rfl := (List.cons.inj hsplit).2
    exact (hspells.free [] List.mem_cons_self).1 rfl
  have hrest : rest = rest' := by
    rw [hchars, hchars'] at hpath
    split at hpath <;> split at hpath
    · next hnil hnil' =>
      rw [(List.append_eq_nil_iff.mp hnil).2, (List.append_eq_nil_iff.mp hnil').2]
    · next hnil _ =>
      rw [(List.append_eq_nil_iff.mp hnil).1] at hpath
      exact absurd hpath.symm (hnot hsplit' hspells')
    · next hnil' =>
      rw [(List.append_eq_nil_iff.mp hnil').1] at hpath
      exact absurd hpath (hnot hsplit hspells)
    · exact List.append_cancel_left hpath
  rw [hrest, hsplit'] at hsplit
  obtain rfl := (List.cons.inj hsplit).2
  exact hspells.unique hspells'

/-- What follows a base in two URLs of one text are the same segments. -/
theorem Follows.unique {base u u' : Url} {a b : List String} (ha : base.Follows a u)
    (hb : base.Follows b u') (htext : u.text = u'.text) : a = b := by
  have hchars : u.chars = u'.chars := String.ofList_inj.mp htext
  simp only [chars, ha.scheme, ha.authority, ha.query, ha.fragment, hb.scheme, hb.authority, hb.query,
    hb.fragment] at hchars
  have hparts := (List.cons.inj (List.append_cancel_left hchars)).2
  exact ha.path_unique hb
    (List.append_cancel_left (List.append_cancel_right (List.append_cancel_right hparts)))

end Url

namespace Client

open Url

theorem new_ok {apiUrl token : String} {project : Option String} {retry : RetryPolicy} {c : Client} :
    Client.new apiUrl token project retry = .ok c ↔
      Text.isBlankText token = false ∧ ∃ base, Url.parse apiUrl = .ok base ∧ base.canExtend = true ∧
        c = ⟨base.trimmed, token, project, retry⟩ := by
  unfold Client.new
  cases Text.isBlankText token with
  | true => simp
  | false =>
    cases Url.parse apiUrl with
    | error e => simp
    | ok base =>
      cases hextends : base.canExtend with
      | false => simp [hextends]
      | true => simp [hextends, @eq_comm Client c]

/-- The URL of plain segments has one component for each of them behind the path of the API, so that
other segments have another URL. How many slashes the path of the API ends with does not matter. -/
theorem url_inverts {apiUrl token : String} {project : Option String} {retry : RetryPolicy} {c : Client}
    (hnew : Client.new apiUrl token project retry = .ok c) (hhttp : c.base.isHttp = true) :
    ∃ base, Url.parse apiUrl = .ok base ∧
      (∀ segments, (∀ segment ∈ segments, Plain segment) → base.Follows segments (c.url segments)) ∧
      (∀ a b, (∀ segment ∈ a, Plain segment) → (∀ segment ∈ b, Plain segment) →
        (c.url a).text = (c.url b).text → a = b) ∧
      ∀ apiUrl', SameButSlashes apiUrl apiUrl' → Client.new apiUrl' token project retry = .ok c := by
  obtain ⟨htoken, base, hparse, hextends, rfl⟩ := new_ok.mp hnew
  have hhttp' : base.isHttp = true := by
    revert hhttp
    rw [isHttp, isHttp, trimmed]
    split <;> exact id
  obtain ⟨hspecial, path, hpath, hfree⟩ := free_of_parse hparse hhttp'
  have hfollows : ∀ segments, (∀ segment ∈ segments, Plain segment) →
      base.Follows segments (base.trimmed.extend segments) :=
    fun segments hplain => follows_extend hpath hfree hspecial hplain
  refine ⟨base, hparse, hfollows, ?_, ?_⟩
  · intro a b ha hb htext
    exact (hfollows a ha).unique (hfollows b hb) htext
  · intro apiUrl' hslashes
    obtain ⟨base', hparse', htrimmed, hextends'⟩ := hslashes.trimmed_parse hparse hhttp'
    exact new_ok.mpr ⟨htoken, base', hparse', hextends', by rw [htrimmed]⟩

/-- Slashes in front of a query, and an identity with most characters that mean something in a URL. -/
theorem url_inverts_slashes :
    ∃ c base,
      Client.new "https://api.example.test/v1//?tier=a" "secret" none .default = .ok c ∧
      Url.parse "https://api.example.test/v1//?tier=a" = .ok base ∧
      base.Follows ["dns", "domains", "a/b%2F?#\\@é"] (c.url ["dns", "domains", "a/b%2F?#\\@é"]) ∧
      Client.new "https://api.example.test/v1?tier=a" "secret" none .default = .ok c := by
  have hhttp : (match Client.new "https://api.example.test/v1//?tier=a" "secret" none .default with
      | .ok c => c.base.isHttp
      | .error _ => false) = true := by decide +kernel
  cases hnew : Client.new "https://api.example.test/v1//?tier=a" "secret" none .default with
  | error e =>
    rw [hnew] at hhttp
    cases hhttp
  | ok c =>
    rw [hnew] at hhttp
    obtain ⟨base, hparse, hfollows, -, hslashes⟩ := url_inverts hnew hhttp
    have hends : PathEnds "https://api.example.test/v1".toList ('?' :: "tier=a".toList) :=
      ⟨by decide, by decide, fun d hd => .inl (Option.some.inj hd).symm⟩
    have hsame := sameButSlashes_of_text hends (by simp) 2 0
    exact ⟨c, base, rfl, hparse, hfollows _ (by decide +kernel), hslashes _ hsame⟩

end Client

end CloudProvider
