import CloudProvider.Proofs.Json.Normalize
import CloudProvider.Proofs.Json.Reading
import CloudProvider.Schema.Wire

/-!
# Reading what is printed

* `Json.ordered`: the value that is read, with the members of objects in order.
* `Json.FloatsReread`: every float is the one that its text is read as.
* `Json.Reads.value`: a value is read as it is written, whatever follows.
* `Json.parse_compact`: so is a whole text.
* `Json.le_toNat_chars`: a value is written without control characters.
-/

namespace CloudProvider
set_option autoImplicit false

/-! ## Values that are read back -/

mutual

/-- The members of each object in the order of their keys, at every depth. Of two with one key the
later stays. -/
def Json.ordered : Json → Json
  | .array items => .array (Json.orderedItems items)
  | .object members => .object (Keyed.ofList (Json.orderedMembers members))
  | v => v

def Json.orderedItems : List Json → List Json
  | [] => []
  | v :: rest => v.ordered :: Json.orderedItems rest

def Json.orderedMembers : List (String × Json) → List (String × Json)
  | [] => []
  | (key, v) :: rest => (key, v.ordered) :: Json.orderedMembers rest

end

mutual

/-- Every float of a value, at any depth, is the one that its text is read as. -/
def Json.FloatsReread : Json → Prop
  | .number (.float x) => Json.parse x.text = .ok (.number (.float x))
  | .array items => Json.ItemsReread items
  | .object members => Json.MembersReread members
  | _ => True

def Json.ItemsReread : List Json → Prop
  | [] => True
  | v :: rest => v.FloatsReread ∧ Json.ItemsReread rest

def Json.MembersReread : List (String × Json) → Prop
  | [] => True
  | (_, v) :: rest => v.FloatsReread ∧ Json.MembersReread rest

end

namespace Json

/-! ## Strings -/

theorem hexValue?_digitChar : ∀ n < 16, hexValue? (Nat.digitChar n) = some n := by
  decide

theorem escaped_cases (c : Char) :
    (∃ cs, escaped c = '\\' :: cs) ∨
      escaped c = [c] ∧ c ≠ '"' ∧ c ≠ '\\' ∧ ¬ c.toNat < 32 := by
  rw [escaped]
  iterate 8
    split
    · exact .inl ⟨_, rfl⟩
  next hquote hslash _ _ _ _ _ hcontrol => exact .inr ⟨rfl, hquote, hslash, hcontrol⟩

namespace Reads

variable {rest : List Char}

theorem fourDigits {n : Nat} (hn : n < 256) (rest : List Char) :
    Reads Json.fourDigits
      ('0' :: '0' :: Nat.digitChar (n / 16) :: Nat.digitChar (n % 16) :: rest) n rest := by
  intro cur hcur
  obtain ⟨_, line, column⟩ := cur
  subst hcur
  refine ⟨⟨rest, line, column + 4⟩, ?_, rfl⟩
  have hvalue : ((0 * 16 + 0) * 16 + n / 16) * 16 + n % 16 = n := by omega
  have hzero : hexValue? '0' = some 0 := rfl
  have hhigh := hexValue?_digitChar (n / 16) (by omega)
  have hlow := hexValue?_digitChar (n % 16) (by omega)
  simp only [Json.fourDigits, StateT.run_bind, StateT.run_get, StateT.run_set, StateT.run_pure,
    pure_bind, hzero, hhigh, hlow, hvalue]
  rfl

theorem hexEscape {c : Char} (h : c.toNat < 32) (rest : List Char) :
    Reads Json.hexEscape ((escapedControl c).drop 2 ++ rest) c rest := by
  rw [Json.hexEscape]
  refine (fourDigits (by omega) rest).bind ?_
  rw [if_neg (by simp; omega), if_pos (by simp; omega), Char.ofNat_toNat]
  exact .pure _ _

theorem escape {c : Char} {cs : List Char} (h : escaped c = '\\' :: cs) (rest : List Char) :
    Reads Json.escape (cs ++ rest) c rest := by
  rw [escaped] at h
  rw [Json.escape]
  iterate 7
    split at h
    · next hc =>
      cases h
      subst hc
      exact (Reads.take _ rest).bind (.pure _ _)
  split at h
  · next hc =>
    cases h
    exact (Reads.take 'u' _).bind (hexEscape hc rest)
  · next hquote hslash _ _ _ _ _ _ =>
    cases h
    exact absurd rfl hslash

theorem stringRest {cs : List Char} {fuel : Nat} (h : cs.length < fuel) (rest : List Char) :
    Reads (Json.stringRest fuel) (cs.flatMap escaped ++ '"' :: rest) cs rest := by
  induction cs generalizing fuel with
  | nil =>
    cases fuel with
    | zero => cases h
    | succ fuel =>
      rw [Json.stringRest]
      exact (Reads.peek _).bind ((Reads.drop '"' rest).bind (.pure _ _))
  | cons c cs ih =>
    cases fuel with
    | zero => cases h
    | succ fuel =>
      have hrest := ih (Nat.lt_of_succ_lt_succ h)
      rw [Json.stringRest, List.flatMap_cons, List.append_assoc]
      rcases escaped_cases c with ⟨more, hmore⟩ | ⟨hsame, hquote, hslash, hcontrol⟩
      · rw [hmore]
        exact (Reads.peek _).bind ((Reads.drop '\\' _).bind
          ((escape hmore _).bind (hrest.bind (.pure _ _))))
      · rw [hsame]
        refine (Reads.peek _).bind ?_
        rw [List.cons_append, List.head?_cons]
        split
        · next heq => cases heq
        · next heq => exact absurd (Option.some.inj heq) hquote
        · next heq => exact absurd (Option.some.inj heq) hslash
        · next heq =>
          cases heq
          refine (Reads.drop c _).bind ?_
          rw [if_neg hcontrol]
          exact hrest.bind (.pure _ _)

theorem length_flatMap_escaped (cs : List Char) : cs.length ≤ (cs.flatMap escaped).length := by
  induction cs with
  | nil => exact Nat.le_refl 0
  | cons c cs ih =>
    have hone : 1 ≤ (escaped c).length := by
      rcases escaped_cases c with ⟨more, hmore⟩ | ⟨hsame, -⟩
      · simp [hmore]
      · simp [hsame]
    rw [List.flatMap_cons, List.length_append, List.length_cons]
    omega

theorem stringBody (s : String) (rest : List Char) :
    Reads Json.stringBody (s.toList.flatMap escaped ++ '"' :: rest) s rest := by
  intro cur hcur
  have hfuel : s.toList.length < cur.rest.length + 1 := by
    have hle := length_flatMap_escaped s.toList
    rw [hcur, List.length_append]
    omega
  obtain ⟨cur', hrun, hrest⟩ := stringRest hfuel rest cur hcur
  refine ⟨cur', ?_, hrest⟩
  simp only [Json.stringBody, StateT.run_bind, StateT.run_get, pure_bind, hrun]
  change Except.ok (String.ofList s.toList, cur') = _
  rw [String.ofList_toList]

end Reads

/-! ## First characters -/

theorem head_number (n : Number) (h : (number n).FloatsReread) :
    ∃ c cs, numberChars n = c :: cs ∧ (c = '-' || Text.isDigit c) = true := by
  cases n with
  | int n =>
    rw [numberChars, integerChars]
    split
    · exact ⟨_, _, rfl, rfl⟩
    · obtain ⟨c, cs, hcs, -⟩ := toDigits_eq_cons n.val.natAbs
      refine ⟨c, cs, hcs, ?_⟩
      rw [isDigit_of_mem_toDigits (hcs ▸ List.mem_cons_self ..), Bool.or_true]
  | float x =>
    rw [FloatsReread] at h
    obtain ⟨c, cs, hcs, hc, -⟩ := Reads.float h endsNumber_nil
    exact ⟨c, cs, hcs, hc⟩

theorem head_chars (v : Json) (h : v.FloatsReread) :
    ∃ c cs, v.chars = c :: cs ∧ isSpace c = false ∧ c ≠ ']' := by
  cases v with
  | number n =>
    obtain ⟨c, cs, hcs, hc⟩ := head_number n h
    have hnumber := isNumberChar_of_first hc
    refine ⟨c, cs, hcs, isSpace_of_isNumberChar hnumber, ?_⟩
    rintro rfl
    cases hnumber
  | bool b => cases b <;> exact ⟨_, _, rfl, rfl, by decide⟩
  | array items => cases items <;> exact ⟨_, _, rfl, rfl, by decide⟩
  | object members => rcases members with _ | ⟨⟨k, x⟩, rest⟩ <;> exact ⟨_, _, rfl, rfl, by decide⟩
  | _ => exact ⟨_, _, rfl, rfl, by decide⟩

theorem length_chars_pos (v : Json) (h : v.FloatsReread) : 0 < v.chars.length := by
  obtain ⟨c, cs, hcs, -⟩ := head_chars v h
  rw [hcs]
  exact Nat.succ_pos _

theorem length_itemsChars_pos (items : List Json) : 0 < (itemsChars items).length := by
  cases items <;> exact Nat.succ_pos _

theorem endsNumber_items (items : List Json) (rest : List Char) :
    EndsNumber (itemsChars items ++ rest) := by
  cases items <;> exact endsNumber_cons (by decide) _

theorem endsNumber_members (members : List (String × Json)) (rest : List Char) :
    EndsNumber (membersChars members ++ rest) := by
  rcases members with _ | ⟨⟨k, v⟩, members⟩ <;> exact endsNumber_cons (by decide) _

namespace Reads

variable {rest : List Char}

theorem deeper {c : Char} {levels : Nat} (h : 1 < levels) (rest : List Char) :
    Reads (Json.deeper levels) (c :: rest) (levels - 1) rest := by
  rw [Json.deeper, if_neg (by omega)]
  exact (Reads.drop c rest).bind (.pure _ _)

theorem closeList (rest : List Char) : Reads Json.closeList (']' :: rest) () rest :=
  (Reads.peekToken (by decide) rest).bind (.drop ']' rest)

theorem closeObject (rest : List Char) : Reads Json.closeObject ('\x7d' :: rest) () rest :=
  (Reads.peekToken (by decide) rest).bind (.drop '\x7d' rest)

theorem colon (rest : List Char) : Reads Json.colon (':' :: rest) () rest :=
  (Reads.peekToken (by decide) rest).bind (.drop ':' rest)

theorem noMoreItems (first : Bool) (rest : List Char) :
    Reads (Json.moreItems first) (']' :: rest) false (']' :: rest) :=
  (Reads.peekToken (by decide) rest).bind (.pure _ _)

theorem moreItems_first {c : Char} (hspace : isSpace c = false) (hc : c ≠ ']') (rest : List Char) :
    Reads (Json.moreItems true) (c :: rest) true (c :: rest) := by
  refine (Reads.peekToken hspace rest).bind ?_
  split
  · next heq => exact absurd (Option.some.inj heq) hc
  · exact .pure _ _
  · exact .pure _ _
  · next heq => cases heq

theorem moreItems_next {c : Char} (hspace : isSpace c = false) (hc : c ≠ ']') (rest : List Char) :
    Reads (Json.moreItems false) (',' :: c :: rest) true (c :: rest) := by
  refine (Reads.peekToken (by decide) _).bind ((Reads.drop ',' _).bind ?_)
  refine (Reads.peekToken hspace rest).bind ?_
  split
  · next heq => exact absurd (Option.some.inj heq) hc
  · exact .pure _ _
  · next heq => cases heq

theorem noMoreMembers (first : Bool) (rest : List Char) :
    Reads (Json.moreMembers first) ('\x7d' :: rest) false ('\x7d' :: rest) :=
  (Reads.peekToken (by decide) rest).bind (.pure _ _)

theorem moreMembers_first (rest : List Char) :
    Reads (Json.moreMembers true) ('"' :: rest) true ('"' :: rest) :=
  (Reads.peekToken (by decide) rest).bind (.pure _ _)

theorem moreMembers_next (rest : List Char) :
    Reads (Json.moreMembers false) (',' :: '"' :: rest) true ('"' :: rest) :=
  (Reads.peekToken (by decide) _).bind ((Reads.drop ',' _).bind
    ((Reads.peekToken (by decide) rest).bind (.pure _ _)))

theorem number (n : Number) (h : (Json.number n).FloatsReread) (hrest : EndsNumber rest) :
    Reads Json.readNumber (numberChars n ++ rest) n rest := by
  cases n with
  | int n => exact integer n hrest
  | float x =>
    rw [FloatsReread] at h
    obtain ⟨-, -, -, -, hread⟩ := Reads.float h hrest
    exact hread

mutual

/-- A value is read as it is written, but for the order of members. -/
theorem value : ∀ (v : Json) (fuel levels : Nat) (rest : List Char), v.chars.length < fuel →
    v.depth < levels → v.FloatsReread → EndsNumber rest →
      Reads (Json.value fuel levels) (v.chars ++ rest) v.ordered rest
  | v, 0, _, _, hfuel, _, _, _ => by cases hfuel
  | .null, fuel + 1, levels, rest, _, _, _, _ => by
    rw [Json.value]
    exact (Reads.peekToken (by decide) _).bind
      ((Reads.drop 'n' _).bind ((Reads.word ['u', 'l', 'l'] rest).bind (.pure _ _)))
  | .bool true, fuel + 1, levels, rest, _, _, _, _ => by
    rw [Json.value]
    exact (Reads.peekToken (by decide) _).bind
      ((Reads.drop 't' _).bind ((Reads.word ['r', 'u', 'e'] rest).bind (.pure _ _)))
  | .bool false, fuel + 1, levels, rest, _, _, _, _ => by
    rw [Json.value]
    exact (Reads.peekToken (by decide) _).bind
      ((Reads.drop 'f' _).bind ((Reads.word ['a', 'l', 's', 'e'] rest).bind (.pure _ _)))
  | .string s, fuel + 1, levels, rest, _, _, _, _ => by
    rw [Json.value, chars, stringChars, List.append_assoc]
    exact (Reads.peekToken (by decide) _).bind
      ((Reads.drop '"' _).bind ((Reads.stringBody s rest).bind (.pure _ _)))
  | .number n, fuel + 1, levels, rest, _, _, hfloats, hrest => by
    obtain ⟨c, cs, hcs, hc⟩ := head_number n hfloats
    have hread := number n hfloats hrest
    change Reads _ (numberChars n ++ rest) (Json.number n) rest
    rw [hcs] at hread ⊢
    exact value_number hread hc fuel levels
  | .array [], fuel + 2, levels, rest, hfuel, hdepth, _, _ => by
    rw [Json.value]
    refine (Reads.peekToken (by decide) _).bind ((deeper hdepth _).bind ?_)
    refine Reads.bind ?_ (.pure _ _)
    rw [Json.items]
    exact (noMoreItems true rest).bind ((closeList rest).bind (.pure _ _))
  | .array (x :: xs), fuel + 2, levels, rest, hfuel, hdepth, hfloats, _ => by
    obtain ⟨c, cs, hcs, hspace, hc⟩ := head_chars x hfloats.1
    have hpositive := length_chars_pos x hfloats.1
    have hitems := length_itemsChars_pos xs
    simp only [chars, List.length_cons, List.length_append] at hfuel
    change max x.depth (itemsDepth xs) + 1 < levels at hdepth
    have hfirst := value x fuel (levels - 1) (itemsChars xs ++ rest)
      (by omega) (by omega) hfloats.1 (endsNumber_items xs rest)
    have hothers := items xs fuel (levels - 1) rest (by omega) (by omega)
      hfloats.2
    have hmore : Reads (Json.moreItems true) (x.chars ++ (itemsChars xs ++ rest)) true
        (x.chars ++ (itemsChars xs ++ rest)) := by
      rw [hcs]
      exact moreItems_first hspace hc _
    rw [Json.value, chars, List.cons_append, List.append_assoc]
    refine (Reads.peekToken (by decide) _).bind ((deeper (by omega) _).bind ?_)
    refine Reads.bind ?_ (.pure _ _)
    rw [Json.items]
    exact hmore.bind (hfirst.bind (hothers.bind (.pure _ _)))
  | .object [], fuel + 2, levels, rest, hfuel, hdepth, _, _ => by
    rw [Json.value]
    refine (Reads.peekToken (by decide) _).bind ((deeper hdepth _).bind ?_)
    refine Reads.bind ?_ (.pure _ _)
    rw [Json.members]
    exact (noMoreMembers true rest).bind ((closeObject rest).bind (.pure _ _))
  | .object ((k, x) :: xs), fuel + 2, levels, rest, hfuel, hdepth, hfloats, _ => by
    simp only [chars, List.length_cons, List.length_append] at hfuel
    change max x.depth (membersDepth xs) + 1 < levels at hdepth
    have hfirst := value x fuel (levels - 1) (membersChars xs ++ rest)
      (by omega) (by omega) hfloats.1 (endsNumber_members xs rest)
    have hothers := members xs fuel (levels - 1) [(k, x.ordered)] rest
      (by omega) (by omega) hfloats.2
    rw [Json.value, chars, stringChars]
    simp only [List.append_assoc, List.cons_append, List.nil_append]
    refine (Reads.peekToken (by decide) _).bind ((deeper (by omega) _).bind ?_)
    refine Reads.bind ?_ (.pure _ _)
    rw [Json.members]
    exact (moreMembers_first _).bind ((Reads.drop '"' _).bind
      ((stringBody k _).bind ((colon _).bind (hfirst.bind hothers))))
  | .array items, 1, _, _, hfuel, _, _, _ => by
    cases items <;> simp [chars] at hfuel
  | .object members, 1, _, _, hfuel, _, _, _ => by
    rcases members with _ | ⟨⟨k, v⟩, members⟩ <;> simp [chars] at hfuel

theorem items : ∀ (xs : List Json) (fuel levels : Nat) (rest : List Char),
    (itemsChars xs).length < fuel → itemsDepth xs < levels → ItemsReread xs →
      Reads (Json.items fuel levels false) (itemsChars xs ++ rest) (orderedItems xs) rest
  | xs, 0, _, _, hfuel, _, _ => by cases hfuel
  | [], fuel + 1, levels, rest, _, _, _ => by
    rw [Json.items]
    exact (noMoreItems false rest).bind ((closeList rest).bind (.pure _ _))
  | x :: xs, fuel + 1, levels, rest, hfuel, hdepth, hfloats => by
    obtain ⟨c, cs, hcs, hspace, hc⟩ := head_chars x hfloats.1
    simp only [itemsChars, List.length_cons, List.length_append] at hfuel
    change max x.depth (itemsDepth xs) < levels at hdepth
    have hfirst := value x fuel levels (itemsChars xs ++ rest)
      (by omega) (by omega) hfloats.1 (endsNumber_items xs rest)
    have hothers := items xs fuel levels rest (by omega) (by omega)
      hfloats.2
    have hmore : Reads (Json.moreItems false) (',' :: (x.chars ++ (itemsChars xs ++ rest))) true
        (x.chars ++ (itemsChars xs ++ rest)) := by
      rw [hcs]
      exact moreItems_next hspace hc _
    rw [Json.items, itemsChars, List.cons_append, List.append_assoc]
    exact hmore.bind (hfirst.bind (hothers.bind (.pure _ _)))

theorem members : ∀ (xs : List (String × Json)) (fuel levels : Nat) (read : Keyed Json)
    (rest : List Char), (membersChars xs).length < fuel → membersDepth xs < levels →
      MembersReread xs →
      Reads (Json.members fuel levels false read) (membersChars xs ++ rest)
        ((orderedMembers xs).foldl (fun read entry => read.insert entry.1 entry.2) read) rest
  | xs, 0, _, _, _, hfuel, _, _ => by cases hfuel
  | [], fuel + 1, levels, read, rest, _, _, _ => by
    rw [Json.members]
    exact (noMoreMembers false rest).bind ((closeObject rest).bind (.pure _ _))
  | (k, x) :: xs, fuel + 1, levels, read, rest, hfuel, hdepth, hfloats => by
    simp only [membersChars, List.length_cons, List.length_append] at hfuel
    change max x.depth (membersDepth xs) < levels at hdepth
    have hfirst := value x fuel levels (membersChars xs ++ rest)
      (by omega) (by omega) hfloats.1 (endsNumber_members xs rest)
    have hothers := members xs fuel levels (read.insert k x.ordered) rest
      (by omega) (by omega) hfloats.2
    rw [Json.members, membersChars, stringChars]
    simp only [List.append_assoc, List.cons_append, List.nil_append]
    exact (moreMembers_next _).bind ((Reads.drop '"' _).bind
      ((stringBody k _).bind ((colon _).bind (hfirst.bind hothers))))

end

end Reads

/-! ## Whole texts -/

mutual

theorem ordered_of_sorted : ∀ (v : Json), v.Sorted → v.ordered = v
  | .array items, h => congrArg array (orderedItems_of_sorted items h)
  | .object members, h => by
    rw [ordered, orderedMembers_of_sorted members h.2, Keyed.ofList_of_ordered h.1]
  | .null, _ | .bool _, _ | .number _, _ | .string _, _ => rfl

theorem orderedItems_of_sorted : ∀ (items : List Json), SortedItems items →
    orderedItems items = items
  | [], _ => rfl
  | v :: rest, h => by
    rw [orderedItems, ordered_of_sorted v h.1, orderedItems_of_sorted rest h.2]

theorem orderedMembers_of_sorted : ∀ (members : List (String × Json)), SortedMembers members →
    orderedMembers members = members
  | [], _ => rfl
  | (key, v) :: rest, h => by
    rw [orderedMembers, ordered_of_sorted v h.1, orderedMembers_of_sorted rest h.2]

end

/-- A value that the reader is not too shallow for is read as it is printed. -/
theorem parse_compact {v : Json} (hdepth : v.depth < nestingLimit) (hfloats : v.FloatsReread) :
    parse v.compact = .ok v.ordered := by
  have htext : v.compact.toList = v.chars := String.toList_ofList
  refine Reads.readText ?_
  have hread := Reads.value v (2 * v.chars.length + 2) nestingLimit [] (by omega) hdepth hfloats
    endsNumber_nil
  rwa [List.append_nil, ← htext] at hread

/-! ## Control characters -/

theorem le_toNat_of_all {cs : List Char} (h : cs.all (32 ≤ ·.toNat) = true) :
    ∀ c ∈ cs, 32 ≤ c.toNat := by
  simpa using h

theorem le_toNat_digitChar : ∀ n < 16, 32 ≤ (Nat.digitChar n).toNat := by
  decide

theorem le_toNat_of_isDigit {c : Char} (h : Text.isDigit c = true) : 32 ≤ c.toNat := by
  simp only [Text.isDigit, Bool.and_eq_true, decide_eq_true_eq, Char.le_def,
    UInt32.le_iff_toNat_le] at h
  exact Nat.le_trans (by decide) h.1

theorem le_toNat_of_isNumberChar {c : Char} (h : isNumberChar c = true) : 32 ≤ c.toNat := by
  have hothers : ∀ d ∈ ['.', 'e', 'E', '+', '-'], 32 ≤ d.toNat := le_toNat_of_all (by decide)
  rw [isNumberChar, Bool.or_eq_true, List.contains_iff_mem] at h
  exact h.elim le_toNat_of_isDigit (hothers c)

theorem le_toNat_numberChars (n : Number) : ∀ c ∈ numberChars n, 32 ≤ c.toNat := by
  cases n with
  | int n =>
    have hdigits : ∀ c ∈ Nat.toDigits 10 n.val.natAbs, 32 ≤ c.toNat := fun c hc =>
      le_toNat_of_isDigit (isDigit_of_mem_toDigits hc)
    rw [numberChars, integerChars]
    split
    · exact List.forall_mem_cons.mpr ⟨by decide, hdigits⟩
    · exact hdigits
  | float x => exact fun c hc => le_toNat_of_isNumberChar (isNumberChar_text x c hc)

theorem le_toNat_escaped (c : Char) : ∀ d ∈ escaped c, 32 ≤ d.toNat := by
  rw [escaped]
  iterate 7
    split
    · exact le_toNat_of_all (by decide)
  split
  · next hcontrol =>
    refine List.forall_mem_append.mpr ⟨le_toNat_of_all (by decide), List.forall_mem_cons.mpr
      ⟨le_toNat_digitChar _ (by omega), List.forall_mem_singleton.mpr ?_⟩⟩
    exact le_toNat_digitChar _ (by omega)
  · next hcontrol =>
    rw [List.forall_mem_singleton]
    exact Nat.le_of_not_lt hcontrol

theorem le_toNat_stringChars (s : String) : ∀ c ∈ stringChars s, 32 ≤ c.toNat := by
  have hescaped : ∀ c ∈ s.toList.flatMap escaped, 32 ≤ c.toNat := by
    intro c hc
    obtain ⟨d, -, hd⟩ := List.mem_flatMap.mp hc
    exact le_toNat_escaped d c hd
  exact List.forall_mem_append.mpr
    ⟨List.forall_mem_cons.mpr ⟨by decide, hescaped⟩, le_toNat_of_all (by decide)⟩

mutual

theorem le_toNat_chars : ∀ (v : Json), ∀ c ∈ v.chars, 32 ≤ c.toNat
  | .null => le_toNat_of_all (by decide)
  | .bool true | .bool false => le_toNat_of_all (by decide)
  | .string s => le_toNat_stringChars s
  | .number n => le_toNat_numberChars n
  | .array [] => le_toNat_of_all (by decide)
  | .array (x :: xs) =>
    List.forall_mem_cons.mpr ⟨by decide,
      List.forall_mem_append.mpr ⟨le_toNat_chars x, le_toNat_itemsChars xs⟩⟩
  | .object [] => le_toNat_of_all (by decide)
  | .object ((k, x) :: xs) =>
    List.forall_mem_cons.mpr ⟨by decide, List.forall_mem_append.mpr ⟨le_toNat_stringChars k,
      List.forall_mem_cons.mpr ⟨by decide,
        List.forall_mem_append.mpr ⟨le_toNat_chars x, le_toNat_membersChars xs⟩⟩⟩⟩

theorem le_toNat_itemsChars : ∀ (xs : List Json), ∀ c ∈ itemsChars xs, 32 ≤ c.toNat
  | [] => le_toNat_of_all (by decide)
  | x :: xs =>
    List.forall_mem_cons.mpr ⟨by decide,
      List.forall_mem_append.mpr ⟨le_toNat_chars x, le_toNat_itemsChars xs⟩⟩

theorem le_toNat_membersChars : ∀ (xs : List (String × Json)), ∀ c ∈ membersChars xs, 32 ≤ c.toNat
  | [] => le_toNat_of_all (by decide)
  | (k, x) :: xs =>
    List.forall_mem_cons.mpr ⟨by decide, List.forall_mem_append.mpr ⟨le_toNat_stringChars k,
      List.forall_mem_cons.mpr ⟨by decide,
        List.forall_mem_append.mpr ⟨le_toNat_chars x, le_toNat_membersChars xs⟩⟩⟩⟩

end

end Json

end CloudProvider
