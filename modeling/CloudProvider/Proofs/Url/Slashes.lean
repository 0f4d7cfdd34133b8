import CloudProvider.Url.Basic
import Mathlib.Data.List.DropRight
import Mathlib.Data.List.TakeDrop

/-!
# Slashes at the end of a path

Texts of URLs of the well-known schemes that differ in the number of slashes at the end of the path are
read as URLs that differ in empty segments at the end of the path, and trimming leaves no difference.

* `Url.withoutEmptyEnd_append`, `Url.withoutEmptyEnd_parsePath`: what is trimmed from a path.
* `Url.PathEnds`, `Url.splitTail_append`, `Url.parseHosted_slashes`, `Url.splitScheme?_append`: how the
  parts of a URL are found around the slashes.
* `Url.SameButSlashes`, `Url.sameButSlashes_of_text`: texts with more or fewer slashes there.
* `Url.SameButSlashes.trimmed_parse`: they are read as one URL, but for these slashes.
-/

namespace CloudProvider.Url
set_option autoImplicit false

variable {special : Bool}

/-! ## Paths -/

theorem withoutEmptyEnd_eq (special : Bool) (path : List (List Char)) :
    withoutEmptyEnd special path =
      if (path.rdropWhile List.isEmpty).isEmpty && special then [[]]
      else path.rdropWhile List.isEmpty := rfl

theorem withoutEmptyEnd_append (path : List (List Char)) (n : Nat) :
    withoutEmptyEnd special (path ++ List.replicate n []) = withoutEmptyEnd special path := by
  induction n with
  | zero => rw [List.replicate_zero, List.append_nil]
  | succ n ih =>
    rw [List.replicate_succ', ← List.append_assoc, withoutEmptyEnd_eq,
      List.rdropWhile_concat_pos _ _ _ rfl]
    exact ih

theorem resolve_empties (path : List (List Char)) (n : Nat) :
    resolve path (List.replicate n []) = path ++ List.replicate n [] := by
  induction n generalizing path with
  | zero => simp [resolve]
  | succ n ih =>
    have hdots : isDotDot [] = false ∧ isDot [] = false := by decide
    rw [List.replicate_succ, resolve, hdots.1, hdots.2]
    simp only [Bool.false_eq_true, if_false, ih]
    simp [encode]

theorem withoutEmptyEnd_resolve (pieces path : List (List Char)) (n : Nat) :
    withoutEmptyEnd special (resolve path (pieces ++ List.replicate n [])) =
      withoutEmptyEnd special (resolve path pieces) := by
  induction pieces generalizing path with
  | nil => rw [List.nil_append, resolve_empties, withoutEmptyEnd_append, resolve]
  | cons segment rest ih =>
    cases n with
    | zero => rw [List.replicate_zero, List.append_nil]
    | succ n =>
      cases rest with
      | cons next rest =>
        rw [List.cons_append, resolve, resolve]
        exact ih _
      | nil =>
        -- A dot at the end leaves an empty segment, and one in front of a slash leaves the slash.
        have hone (path : List (List Char)) :
            withoutEmptyEnd special (path ++ [[]]) = withoutEmptyEnd special path :=
          withoutEmptyEnd_append path 1
        have hmore : (List.replicate (n + 1) ([] : List Char)).isEmpty = false := rfl
        rw [List.singleton_append, resolve, hmore, resolve_empties, withoutEmptyEnd_append, resolve,
          resolve]
        cases isDotDot segment <;> cases isDot segment <;> simp [climb, hone]

theorem splitPath_slashes (cs : List Char) (n : Nat) :
    splitPath special (cs ++ List.replicate n '/') = splitPath special cs ++ List.replicate n [] := by
  induction n with
  | zero => simp
  | succ n ih =>
    have hslash : (if (special && decide ('/' = '\\')) = true then '/' else '/') = '/' := ite_self _
    simp only [splitPath] at ih ⊢
    rw [List.replicate_succ', ← List.append_assoc, List.map_append, List.map_singleton, hslash,
      List.splitOn_append_cons_self, ih, List.splitOn_nil, List.replicate_succ', List.append_assoc]

theorem withoutEmptyEnd_parsePath (cs : List Char) (n : Nat) :
    withoutEmptyEnd true (parsePath true (cs ++ List.replicate n '/')) =
      withoutEmptyEnd true (parsePath true cs) := by
  cases n with
  | zero => rw [List.replicate_zero, List.append_nil]
  | succ n =>
    have hsplit : splitPath true (cs ++ List.replicate (n + 1) '/') =
        splitPath true cs ++ List.replicate (n + 1) [] := splitPath_slashes cs (n + 1)
    have hne : splitPath true cs ≠ [] := List.splitOn_ne_nil _ _
    simp only [parsePath, hsplit]
    rcases hpieces : splitPath true cs with _ | ⟨_ | ⟨c, piece⟩, rest⟩
    · exact absurd hpieces hne
    · cases rest with
      | nil =>
        exact withoutEmptyEnd_resolve [] [] (n + 1)
      | cons next rest =>
        exact withoutEmptyEnd_resolve (next :: rest) [] (n + 1)
    · exact withoutEmptyEnd_resolve ((c :: piece) :: rest) [] (n + 1)

/-! ## Parts of a URL in front of slashes -/

/-- The characters are those of a query and a fragment, or none. -/
def StartsTail (cs : List Char) : Prop :=
  ∀ c, cs.head? = some c → c = '?' ∨ c = '#'

/-- The path ends between the two parts of a text: there are no query and no fragment in the first one,
and nothing else is in the second one. -/
structure PathEnds (front tail : List Char) : Prop where
  question : '?' ∉ front
  hash : '#' ∉ front
  tail : StartsTail tail

theorem PathEnds.of_subset {front front' tail : List Char} (h : PathEnds front tail)
    (hsubset : ∀ c ∈ front', c ∈ front) : PathEnds front' tail where
  question hmem := h.question (hsubset _ hmem)
  hash hmem := h.hash (hsubset _ hmem)
  tail := h.tail

theorem head?_slashes {tail : List Char} (htail : StartsTail tail) (n : Nat) :
    ∀ c, (List.replicate n '/' ++ tail).head? = some c → c = '/' ∨ c = '?' ∨ c = '#' := by
  intro c hc
  cases n with
  | zero => exact .inr (htail c (by simpa using hc))
  | succ n => exact .inl (Option.some.inj hc).symm

theorem upTo_eq (stop : Char → Bool) (cs : List Char) :
    upTo stop cs = (cs.takeWhile (!stop ·), cs.dropWhile (!stop ·)) :=
  List.span_eq_takeWhile_dropWhile _ _

theorem upTo_append {stop : Char → Bool} {front : List Char} (h : ∀ c ∈ front, stop c = false)
    (rest : List Char) :
    upTo stop (front ++ rest) = (front ++ (upTo stop rest).1, (upTo stop rest).2) := by
  have hnot : ∀ c ∈ front, (!stop c) = true := fun c hc => by rw [h c hc]; rfl
  rw [upTo_eq, upTo_eq, List.takeWhile_append_of_pos hnot, List.dropWhile_append_of_pos hnot]

theorem upTo_of_stop {stop : Char → Bool} {cs : List Char}
    (h : ∀ c, cs.head? = some c → stop c = true) : upTo stop cs = ([], cs) := by
  cases cs with
  | nil => rfl
  | cons c rest =>
    have hc : (!stop c) = false := by rw [h c rfl]; rfl
    rw [upTo_eq, List.takeWhile_cons, List.dropWhile_cons, hc]
    rfl

theorem exists_upTo (stop : Char → Bool) (cs : List Char) :
    ∃ front rest, cs = front ++ rest ∧ (∀ c ∈ front, stop c = false) ∧
      ∀ c, rest.head? = some c → stop c = true := by
  refine ⟨cs.takeWhile (!stop ·), cs.dropWhile (!stop ·), List.takeWhile_append_dropWhile.symm, ?_, ?_⟩
  · intro c hc
    have hall := List.all_eq_true.mp (List.all_takeWhile (p := (!stop ·)) (l := cs)) c hc
    simpa using hall
  · intro c hc
    have hhead := List.head?_dropWhile_not (!stop ·) cs
    rw [hc] at hhead
    simpa using hhead

theorem splitTail_append {tail : List Char} (htail : StartsTail tail) :
    ∃ query fragment, ∀ path : List Char, '?' ∉ path → '#' ∉ path →
      splitTail special (path ++ tail) = (path, query, fragment) := by
  have hquery : upTo (· == '?') (upTo (· == '#') tail).1 = ([], (upTo (· == '#') tail).1) := by
    refine upTo_of_stop fun c hc => ?_
    cases tail with
    | nil => cases hc
    | cons d rest =>
      rw [upTo_eq, List.takeWhile_cons] at hc
      rcases htail d rfl with rfl | rfl
      · exact beq_iff_eq.mpr (Option.some.inj hc).symm
      · cases hc
  refine ⟨(splitTail special tail).2.1, (splitTail special tail).2.2, fun path hquestion hhash => ?_⟩
  have hfree {d : Char} (hd : d ∉ path) : ∀ c ∈ path, (c == d) = false := by
    intro c hc
    exact beq_eq_false_iff_ne.mpr fun heq => hd (heq ▸ hc)
  simp only [splitTail, upTo_append (hfree hhash), upTo_append (hfree hquestion), hquery,
    List.append_nil]

theorem parseAuthority_more {scheme : String} (hspecial : isSpecial scheme = true) (cs : List Char)
    (more : Bool) : parseAuthority scheme cs more = parseAuthority scheme cs true := by
  cases more with
  | true => rfl
  | false =>
    simp only [parseAuthority, hspecial]
    rcases splitCredentials cs with ⟨before, place⟩
    by_cases hempty : before = some [] ∧ place = []
    · obtain ⟨rfl, rfl⟩ := hempty
      rfl
    · have hno (more : Bool) : (decide (before = some []) && place.isEmpty && more) = false := by
        cases more with
        | false => exact Bool.and_false _
        | true => simpa using hempty
      simp only [hno]

/-- What slashes in front of the query and the fragment change is the path. -/
theorem parseHosted_slashes {scheme : String} (hspecial : isSpecial scheme = true)
    {front tail : List Char} (h : PathEnds front tail) :
    ∃ authority path query fragment, ∀ n,
      parseHosted scheme (front ++ List.replicate n '/' ++ tail) =
        (authority : Except ParseError Authority).map fun a =>
          ⟨scheme, some a, .segments (parsePath true (path ++ List.replicate n '/')), query,
            fragment⟩ := by
  obtain ⟨place, path, rfl, hplace, hpath⟩ := exists_upTo (endsAuthority true) front
  obtain ⟨query, fragment, htails⟩ := @splitTail_append true tail h.tail
  refine ⟨parseAuthority scheme place true, path, query, fragment, fun n => ?_⟩
  have hends : ∀ c, (path ++ List.replicate n '/' ++ tail).head? = some c →
      endsAuthority true c = true := by
    intro c hc
    cases path with
    | cons d path => exact hpath c hc
    | nil => rcases head?_slashes h.tail n c hc with rfl | rfl | rfl <;> rfl
  have hauthority : upTo (endsAuthority true) (place ++ path ++ List.replicate n '/' ++ tail) =
      (place, path ++ List.replicate n '/' ++ tail) := by
    rw [List.append_assoc place, List.append_assoc place, upTo_append hplace, upTo_of_stop hends,
      List.append_nil]
  have hfree {d : Char} (hd : d ∉ place ++ path) (hne : d ≠ '/') :
      d ∉ path ++ List.replicate n '/' := by
    simp only [List.mem_append, not_or, List.mem_replicate] at hd ⊢
    exact ⟨hd.2, fun hslash => hne hslash.2⟩
  simp only [parseHosted, hspecial, hauthority, parseAuthority_more hspecial place,
    htails _ (hfree h.question (by decide)) (hfree h.hash (by decide))]
  cases parseAuthority scheme place true <;> rfl

/-! ## Schemes -/

theorem splitScheme?_of_mem {cs : List Char} {c : Char} (hc : c ∈ (upTo (· == ':') cs).1)
    (hno : (c.isAlphanum || ['+', '-', '.'].contains c) = false) : splitScheme? cs = none := by
  unfold splitScheme?
  rcases hcut : upTo (· == ':') cs with ⟨name, rest⟩
  rw [hcut] at hc
  have hall : (name.all fun c => c.isAlphanum || ['+', '-', '.'].contains c) = false :=
    List.all_eq_false.mpr ⟨c, hc, by rw [hno]; exact Bool.false_ne_true⟩
  dsimp only
  split
  · rw [hall, Bool.and_false]
    rfl
  · rfl

theorem splitScheme?_append (front : List Char) {rest : List Char}
    (hrest : ∀ c, rest.head? = some c → c = '/' ∨ c = '?' ∨ c = '#') :
    splitScheme? (front ++ rest) =
      (splitScheme? front).map fun (scheme, more) => (scheme, more ++ rest) := by
  obtain ⟨name, more, rfl, hname, hmore⟩ := exists_upTo (· == ':') front
  cases more with
  | cons c more =>
    have hsplit (cs : List Char) : upTo (· == ':') (name ++ c :: cs) = (name, c :: cs) := by
      rw [upTo_append hname, upTo_of_stop (by simpa using hmore), List.append_nil]
    rw [List.append_assoc, List.cons_append]
    simp only [splitScheme?, hsplit]
    cases name with
    | nil => rfl
    | cons d name =>
      dsimp only
      split <;> rfl
  | nil =>
    have hnone : splitScheme? name = none := by
      have hsplit : upTo (· == ':') (name ++ []) = (name, []) := by
        rw [upTo_append hname, upTo_eq]
        simp
      rw [List.append_nil] at hsplit
      simp only [splitScheme?, hsplit]
    rw [List.append_nil, hnone, Option.map_none]
    cases rest with
    | nil => rw [List.append_nil, hnone]
    | cons c rest =>
      -- A colon that follows on slashes, a query or a fragment ends no scheme.
      have hc : (c.isAlphanum || ['+', '-', '.'].contains c) = false ∧ (c == ':') = false := by
        rcases hrest c rfl with rfl | rfl | rfl <;> decide
      refine splitScheme?_of_mem (c := c) ?_ hc.1
      rw [upTo_append hname, upTo_eq, List.takeWhile_cons, hc.2]
      simp

theorem splitScheme?_rest {cs rest : List Char} {scheme : String}
    (h : splitScheme? cs = some (scheme, rest)) : ∀ c ∈ rest, c ∈ cs := by
  intro c hc
  obtain ⟨name, more, rfl, hname, hmore⟩ := exists_upTo (· == ':') cs
  simp only [splitScheme?, upTo_append hname, upTo_of_stop hmore] at h
  split at h
  · split at h
    · obtain ⟨-, rfl⟩ := Prod.mk.inj (Option.some.inj h)
      simp [hc]
    · cases h
  · cases h

theorem parseHosted_scheme {scheme : String} {cs : List Char} {u : Url}
    (h : parseHosted scheme cs = .ok u) : u.scheme = scheme := by
  simp only [parseHosted, bind, Except.bind] at h
  split at h
  · cases h
  · obtain rfl := Except.ok.inj h
    rfl

theorem parseFile_scheme {cs : List Char} {u : Url} (h : parseFile cs = .ok u) : u.scheme = "file" := by
  simp only [parseFile, bind, Except.bind] at h
  split at h
  · cases h
  · obtain rfl := Except.ok.inj h
    rfl

theorem parseOther_scheme {scheme : String} {cs : List Char} {u : Url}
    (h : parseOther scheme cs = .ok u) : u.scheme = scheme := by
  unfold parseOther at h
  split at h
  · exact parseHosted_scheme h
  · dsimp only at h
    split at h <;> obtain rfl := Except.ok.inj h <;> rfl

/-- What is read as a URL that can be asked over HTTP has a host behind the slashes of its scheme. -/
theorem parse_of_isHttp {text : String} {u : Url} (h : parse text = .ok u) (hhttp : u.isHttp = true) :
    ∃ scheme rest, splitScheme? (significant text) = some (scheme, rest) ∧ scheme ≠ "file" ∧
      isSpecial scheme = true ∧
      parseHosted scheme (rest.dropWhile fun c => c = '/' || c = '\\') = .ok u := by
  unfold parse at h
  split at h
  · cases h
  · next scheme rest hscheme =>
    have hnot : ¬ isSpecial u.scheme = false := by
      simp only [isHttp, Bool.or_eq_true, decide_eq_true_eq] at hhttp
      rcases hhttp with heq | heq <;> rw [heq] <;> decide
    split at h
    · next hfile =>
      rw [isHttp, parseFile_scheme h] at hhttp
      cases hhttp
    · next hfile =>
      split at h
      · next hspecial => exact ⟨scheme, rest, hscheme, hfile, hspecial, h⟩
      · next hspecial =>
        rw [parseOther_scheme h] at hnot
        exact absurd (Bool.eq_false_iff.mpr hspecial) hnot

/-! ## Texts -/

/-- The characters that count in the texts are the same but for the number of slashes at the end of the
path. -/
def SameButSlashes (text text' : String) : Prop :=
  ∃ front tail m n, PathEnds front tail ∧ significant text = front ++ List.replicate m '/' ++ tail ∧
    significant text' = front ++ List.replicate n '/' ++ tail

/-- The character does not count at the ends of a text. -/
def isEdge (c : Char) : Bool := c.toNat ≤ 32

theorem significant_eq (cs : List Char) :
    significant (String.ofList cs) =
      ((cs.dropWhile isEdge).rdropWhile isEdge).filter (!isDropped ·) := by
  rw [significant, String.toList_ofList]
  rfl

theorem rdropWhile_stop {p : Char → Bool} {c : Char} (hc : p c = false) (front rest : List Char) :
    (front ++ c :: rest).rdropWhile p = front ++ c :: rest.rdropWhile p := by
  have hstop : (rest.reverse ++ c :: front.reverse).dropWhile p =
      rest.reverse.dropWhile p ++ c :: front.reverse := by
    rw [List.dropWhile_append, List.dropWhile_cons_of_neg (by simp [hc])]
    split
    · next hempty => rw [List.isEmpty_iff.mp hempty, List.nil_append]
    · rfl
  simp [List.rdropWhile, hstop]

variable {front tail : List Char}

theorem dropWhile_isEdge (htail : StartsTail tail) (n : Nat) :
    (front ++ (List.replicate n '/' ++ tail)).dropWhile isEdge =
      front.dropWhile isEdge ++ (List.replicate n '/' ++ tail) := by
  have hrest : (List.replicate n '/' ++ tail).dropWhile isEdge = List.replicate n '/' ++ tail := by
    have hhead := head?_slashes htail n
    cases hcs : List.replicate n '/' ++ tail with
    | nil => rfl
    | cons c rest =>
      rw [hcs] at hhead
      rcases hhead c rfl with rfl | rfl | rfl <;> rfl
  rw [List.dropWhile_append, hrest]
  split
  · next hempty => rw [List.isEmpty_iff.mp hempty, List.nil_append]
  · rfl

theorem rdropWhile_isEdge (htail : StartsTail tail)
    (hend : tail = [] → ∀ c, front.getLast? = some c → isEdge c = false) (n : Nat) :
    (front ++ (List.replicate n '/' ++ tail)).rdropWhile isEdge =
      front ++ (List.replicate n '/' ++ tail.rdropWhile isEdge) := by
  rw [← List.append_assoc, ← List.append_assoc]
  cases tail with
  | cons c rest =>
    have hc : isEdge c = false := by rcases htail c rfl with rfl | rfl <;> rfl
    rw [rdropWhile_stop hc]
    exact congrArg _ (rdropWhile_stop hc [] rest).symm
  | nil =>
    simp only [List.append_nil, List.rdropWhile_nil]
    cases n with
    | succ n =>
      rw [List.replicate_succ', ← List.append_assoc]
      exact rdropWhile_stop rfl _ []
    | zero =>
      rw [List.replicate_zero, List.append_nil, List.rdropWhile_eq_self_iff]
      intro hne hedge
      cases hedge.symm.trans (hend rfl _ (List.getLast?_eq_some_getLast hne))

/-- Slashes at the end of the path are written before the query and the fragment. If neither follows, the
path does not end in a blank, which would not count without a slash behind it. -/
theorem sameButSlashes_of_text (h : PathEnds front tail)
    (hend : tail = [] → ∀ c, front.getLast? = some c → 32 < c.toNat) (m n : Nat) :
    SameButSlashes (String.ofList (front ++ (List.replicate m '/' ++ tail)))
      (String.ofList (front ++ (List.replicate n '/' ++ tail))) := by
  have hkept : tail = [] → ∀ c, (front.dropWhile isEdge).getLast? = some c → isEdge c = false := by
    intro hnil c hc
    have hsplit := List.takeWhile_append_dropWhile (p := isEdge) (l := front)
    have hlast : front.getLast? = some c := by
      rw [← hsplit, List.getLast?_append, hc]
      rfl
    exact decide_eq_false (Nat.not_le_of_gt (hend hnil c hlast))
  have hsignificant (k : Nat) :
      significant (String.ofList (front ++ (List.replicate k '/' ++ tail))) =
        (front.dropWhile isEdge).filter (!isDropped ·) ++ List.replicate k '/' ++
          (tail.rdropWhile isEdge).filter (!isDropped ·) := by
    rw [significant_eq, dropWhile_isEdge h.tail, rdropWhile_isEdge h.tail hkept, List.filter_append,
      List.filter_append, List.filter_replicate_of_pos (by decide), List.append_assoc]
  have hsubset : ∀ c ∈ (front.dropWhile isEdge).filter (!isDropped ·), c ∈ front :=
    fun c hc => List.dropWhile_subset _ (List.mem_of_mem_filter hc)
  have htail : StartsTail ((tail.rdropWhile isEdge).filter (!isDropped ·)) := by
    cases tail with
    | nil => exact h.tail
    | cons c rest =>
      have hc : isEdge c = false ∧ (!isDropped c) = true := by
        rcases h.tail c rfl with rfl | rfl <;> decide
      intro d hd
      rw [show (c :: rest).rdropWhile isEdge = c :: rest.rdropWhile isEdge from
        rdropWhile_stop hc.1 [] rest, List.filter_cons, if_pos hc.2] at hd
      exact h.tail d hd
  exact ⟨_, _, m, n, { h.of_subset hsubset with tail := htail }, hsignificant m, hsignificant n⟩

/-! ## Reading -/

/-- The slashes belong to those behind the scheme if there is nothing else in between. -/
theorem dropWhile_slashes (htail : StartsTail tail) (n : Nat) :
    ∃ k, (front ++ (List.replicate n '/' ++ tail)).dropWhile (fun c => c = '/' || c = '\\') =
      front.dropWhile (fun c => c = '/' || c = '\\') ++ List.replicate k '/' ++ tail := by
  have htail' : tail.dropWhile (fun c => c = '/' || c = '\\') = tail := by
    cases tail with
    | nil => rfl
    | cons c tail => rcases htail c rfl with rfl | rfl <;> rfl
  cases hempty : front.dropWhile (fun c => c = '/' || c = '\\') with
  | nil => exact ⟨0, by simp [List.dropWhile_append, hempty, htail']⟩
  | cons c place => exact ⟨n, by simp [List.dropWhile_append, hempty]⟩

/-- A URL that can be asked over HTTP is read with the same parts, whatever the number of slashes. -/
theorem SameButSlashes.trimmed_parse {text text' : String} (h : SameButSlashes text text') {u : Url}
    (hparse : parse text = .ok u) (hhttp : u.isHttp = true) :
    ∃ u', parse text' = .ok u' ∧ u'.trimmed = u.trimmed ∧ u'.canExtend = true := by
  obtain ⟨front, tail, m, n, hends, htext, htext'⟩ := h
  obtain ⟨scheme, rest, hscheme, hfile, hspecial, -⟩ := parse_of_isHttp hparse hhttp
  -- Both texts have the scheme that stands in front of the slashes.
  rw [htext, List.append_assoc, splitScheme?_append front (head?_slashes hends.tail m)] at hscheme
  obtain ⟨⟨name, more⟩, hname, hsame⟩ := Option.map_eq_some_iff.mp hscheme
  obtain ⟨rfl, rfl⟩ := Prod.mk.inj hsame
  have hread (text : String) (n : Nat)
      (htext : significant text = front ++ List.replicate n '/' ++ tail) :
      ∃ k, parse text = parseHosted name
        (more.dropWhile (fun c => c = '/' || c = '\\') ++ List.replicate k '/' ++ tail) := by
    obtain ⟨k, hk⟩ := @dropWhile_slashes more tail hends.tail n
    refine ⟨k, ?_⟩
    rw [parse, htext, List.append_assoc, splitScheme?_append front (head?_slashes hends.tail n), hname]
    simp only [Option.map_some, hfile, hspecial, if_false, if_true, hk]
  obtain ⟨authority, path, query, fragment, hhosted⟩ :=
    parseHosted_slashes hspecial (hends.of_subset fun c hc =>
      splitScheme?_rest hname c (List.dropWhile_subset (fun c => c = '/' || c = '\\') hc))
  obtain ⟨j, hj⟩ := hread text m htext
  obtain ⟨k, hk⟩ := hread text' n htext'
  rw [hj, hhosted j] at hparse
  rw [hk, hhosted k]
  cases authority with
  | error e => cases hparse
  | ok a =>
    obtain rfl := Except.ok.inj hparse
    refine ⟨_, rfl, ?_, rfl⟩
    simp only [trimmed, hspecial, withoutEmptyEnd_parsePath]

end CloudProvider.Url
