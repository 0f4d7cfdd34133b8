import CloudProvider.Json.Printer
import CloudProvider.Json.Shape
import CloudProvider.Proofs.Json.Decode

/-!
# Reading numbers

* `Reads`: what a step reads and where it stops, whatever the place.
* `Local`: a step that reads a text in the same way inside a longer one.
* `Local.readNumber`: numbers are read so, up to what does not go on them.
* `Reads.integer`: an integer is read as it is written.
* `Reads.float`: so is a float whose text is read as the float on its own.
-/

namespace CloudProvider.Json
set_option autoImplicit false

variable {α β : Type}

theorem run_bind_ok {r : Reader α} {f : α → Reader β} {cur cur' : Cursor} {b : β}
    (h : (r >>= f).run cur = .ok (b, cur')) :
    ∃ a mid, r.run cur = .ok (a, mid) ∧ (f a).run mid = .ok (b, cur') := by
  rw [StateT.run_bind] at h
  obtain ⟨⟨a, mid⟩, hfirst, hrest⟩ := bind_ok.mp h
  exact ⟨a, mid, hfirst, hrest⟩

/-- From before these characters the step gives a value, and stops before those, whatever the place. -/
def Reads (r : Reader α) (before : List Char) (a : α) (after : List Char) : Prop :=
  ∀ cur : Cursor, cur.rest = before → ∃ cur', r.run cur = .ok (a, cur') ∧ cur'.rest = after

namespace Reads

variable {r : Reader α} {f : α → Reader β} {a : α} {b : β} {before mid after rest : List Char}

theorem bind (hr : Reads r before a mid) (hf : Reads (f a) mid b after) :
    Reads (r >>= f) before b after := by
  intro cur hcur
  obtain ⟨next, hrun, hnext⟩ := hr cur hcur
  obtain ⟨cur', hrun', hcur'⟩ := hf next hnext
  exact ⟨cur', by rw [StateT.run_bind, hrun]; exact hrun', hcur'⟩

theorem pure (a : α) (before : List Char) : Reads (Pure.pure a) before a before :=
  fun cur hcur => ⟨cur, rfl, hcur⟩

theorem past_rest (c : Char) (rest : List Char) (cur : Cursor) : (cur.past c rest).rest = rest := by
  rw [Cursor.past]
  split <;> rfl

theorem peek (before : List Char) : Reads Json.peek before before.head? before := by
  intro cur hcur
  exact ⟨cur, by rw [← hcur]; rfl, hcur⟩

theorem take (c : Char) (rest : List Char) : Reads Json.take (c :: rest) (some c) rest := by
  intro cur hcur
  refine ⟨cur.past c rest, ?_, past_rest ..⟩
  obtain ⟨_, line, column⟩ := cur
  subst hcur
  rfl

theorem drop (c : Char) (rest : List Char) : Reads Json.drop (c :: rest) () rest :=
  (take c rest).bind (.pure _ _)

theorem pastWhile_of_not {p : Char → Bool} {c : Char} (h : p c = false) (rest : List Char)
    (cur : Cursor) : cur.pastWhile p (c :: rest) = cur := by
  simp [Cursor.pastWhile, h]

theorem peekToken {c : Char} (h : isSpace c = false) (rest : List Char) :
    Reads Json.peekToken (c :: rest) (some c) (c :: rest) := by
  intro cur hcur
  refine ⟨cur, ?_, hcur⟩
  obtain ⟨_, line, column⟩ := cur
  subst hcur
  change (Json.peek.run (Cursor.pastWhile isSpace (c :: rest) _)) = _
  rw [pastWhile_of_not h]
  rfl

theorem word (cs rest : List Char) : Reads (Json.word cs) (cs ++ rest) () rest := by
  induction cs with
  | nil => exact .pure _ _
  | cons c cs ih =>
    refine (take c (cs ++ rest)).bind ?_
    dsimp only
    rw [if_pos rfl]
    exact ih

end Reads

/-! ## Digits -/

theorem pastWhile_rest (p : Char → Bool) : ∀ (cs : List Char) (cur : Cursor), cur.rest = cs →
    (cur.pastWhile p cs).rest = cs.dropWhile p
  | [], _, h => h
  | c :: cs, cur, h => by
    rw [Cursor.pastWhile, List.dropWhile_cons]
    split
    · exact pastWhile_rest p cs _ (Reads.past_rest ..)
    · exact h

theorem Reads.takeDigits (before : List Char) :
    Reads Json.takeDigits before (before.takeWhile Text.isDigit) (before.dropWhile Text.isDigit) := by
  intro cur hcur
  refine ⟨_, ?_, pastWhile_rest _ _ _ hcur⟩
  rw [← hcur]
  rfl

/-! ## Numbers inside texts -/

/-- A character that may go on a number. -/
def isNumberChar (c : Char) : Bool :=
  Text.isDigit c || ['.', 'e', 'E', '+', '-'].contains c

/-- What follows does not go on a number. -/
def EndsNumber (rest : List Char) : Prop :=
  ∀ c ∈ rest.head?, isNumberChar c = false

theorem endsNumber_nil : EndsNumber [] := by
  rintro c ⟨⟩

theorem endsNumber_cons {c : Char} (h : isNumberChar c = false) (rest : List Char) :
    EndsNumber (c :: rest) := by
  rintro d ⟨⟩
  exact h

theorem EndsNumber.takeWhile {rest : List Char} (h : EndsNumber rest) :
    rest.takeWhile Text.isDigit = [] := by
  cases rest with
  | nil => rfl
  | cons c rest =>
    have hc := h c rfl
    simp only [isNumberChar, Bool.or_eq_false_iff] at hc
    rw [List.takeWhile_cons, hc.1]
    rfl

theorem EndsNumber.dropWhile {rest : List Char} (h : EndsNumber rest) :
    rest.dropWhile Text.isDigit = rest := by
  have happend := List.takeWhile_append_dropWhile (p := Text.isDigit) (l := rest)
  rwa [h.takeWhile] at happend

/-- The step reads a text in the same way if something follows that does not go on a number. -/
def Local (r : Reader α) (cs : List Char) : Prop :=
  ∀ (cur : Cursor) (a : α) (cur' : Cursor), cur.rest = cs → r.run cur = .ok (a, cur') →
    cur'.rest <:+ cs ∧ ∀ rest, EndsNumber rest → Reads r (cs ++ rest) a (cur'.rest ++ rest)

namespace Local

variable {r : Reader α} {f : α → Reader β} {cs : List Char}

theorem bind (hr : Local r cs) (hf : ∀ a cs', Local (f a) cs') : Local (r >>= f) cs := by
  intro cur b cur' hcur hrun
  obtain ⟨a, mid, hfirst, hnext⟩ := run_bind_ok hrun
  obtain ⟨hsuffix, hreads⟩ := hr cur a mid hcur hfirst
  obtain ⟨hsuffix', hreads'⟩ := hf a mid.rest mid b cur' rfl hnext
  exact ⟨hsuffix'.trans hsuffix, fun rest hrest => (hreads rest hrest).bind (hreads' rest hrest)⟩

theorem pure (a : α) (cs : List Char) : Local (Pure.pure a) cs := by
  intro cur b cur' hcur hrun
  obtain ⟨rfl, rfl⟩ := Prod.mk.inj (Except.ok.inj hrun)
  exact ⟨hcur ▸ List.suffix_rfl, fun rest _ => hcur ▸ .pure _ _⟩

theorem of_fails (h : ∀ cur, ∃ e, r.run cur = .error e) : Local r cs := by
  intro cur a cur' _ hrun
  obtain ⟨e, he⟩ := h cur
  rw [he] at hrun
  cases hrun

theorem failHere (f : Fault) (cs : List Char) : Local (α := α) (Json.failHere f) cs :=
  of_fails fun _ => ⟨_, rfl⟩

theorem failsAfter (r : Reader α) (f : Fault) (cs : List Char) :
    Local (r >>= fun _ => (Json.failHere f : Reader β)) cs := by
  refine of_fails fun cur => ?_
  rw [StateT.run_bind]
  cases r.run cur <;> exact ⟨_, rfl⟩

theorem drop (c : Char) (cs : List Char) : Local Json.drop (c :: cs) := by
  intro cur a cur' hcur hrun
  obtain ⟨next, hnext, hrest⟩ := Reads.drop c cs cur hcur
  rw [hnext] at hrun
  obtain ⟨rfl, rfl⟩ := Prod.mk.inj (Except.ok.inj hrun)
  rw [hrest]
  exact ⟨List.suffix_cons c cs, fun rest _ => .drop c _⟩

theorem peek {f : Option Char → Reader β} (hsome : ∀ c rest, cs = c :: rest → Local (f (some c)) cs)
    (hnone : cs = [] → Local (f none) [])
    (hsame : cs = [] → ∀ c, isNumberChar c = false → f (some c) = f none) :
    Local (Json.peek >>= f) cs := by
  intro cur b cur' hcur hrun
  replace hrun : (f cs.head?).run cur = .ok (b, cur') := by rw [← hcur]; exact hrun
  have hpeek (rest : List Char) : Reads Json.peek (cs ++ rest) (cs ++ rest).head? (cs ++ rest) :=
    .peek _
  cases cs with
  | cons c cs =>
    obtain ⟨hsuffix, hreads⟩ := hsome c cs rfl cur b cur' hcur hrun
    exact ⟨hsuffix, fun rest hrest => (hpeek rest).bind (hreads rest hrest)⟩
  | nil =>
    obtain ⟨hsuffix, hreads⟩ := hnone rfl cur b cur' hcur hrun
    refine ⟨hsuffix, fun rest hrest => (hpeek rest).bind ?_⟩
    have hf : f rest.head? = f none := by
      cases rest with
      | nil => rfl
      | cons c rest => exact hsame rfl c (hrest c rfl)
    rw [List.nil_append, hf]
    exact hreads rest hrest

theorem take {f : Option Char → Reader β} (hsome : ∀ c rest, cs = c :: rest → Local (f (some c)) rest)
    (hnone : ∀ cur, ∃ e, (f none).run cur = .error e) : Local (Json.take >>= f) cs := by
  intro cur b cur' hcur hrun
  cases cs with
  | nil =>
    obtain ⟨_, line, column⟩ := cur
    subst hcur
    obtain ⟨e, he⟩ := hnone ⟨[], line, column⟩
    cases he.symm.trans hrun
  | cons c cs =>
    obtain ⟨mid, hmid, hrest⟩ := Reads.take c cs cur hcur
    rw [StateT.run_bind, hmid] at hrun
    obtain ⟨hsuffix, hreads⟩ := hsome c cs rfl mid b cur' hrest hrun
    exact ⟨hsuffix.trans (List.suffix_cons c cs),
      fun rest hends => (Reads.take c (cs ++ rest)).bind (hreads rest hends)⟩

theorem takeWhile_append {rest : List Char} (hrest : EndsNumber rest) (cs : List Char) :
    (cs ++ rest).takeWhile Text.isDigit = cs.takeWhile Text.isDigit ∧
      (cs ++ rest).dropWhile Text.isDigit = cs.dropWhile Text.isDigit ++ rest := by
  induction cs with
  | nil => exact ⟨hrest.takeWhile, hrest.dropWhile⟩
  | cons c cs ih =>
    rw [List.cons_append, List.takeWhile_cons, List.takeWhile_cons, List.dropWhile_cons,
      List.dropWhile_cons, ih.1, ih.2]
    split <;> exact ⟨rfl, rfl⟩

theorem takeDigits (cs : List Char) : Local Json.takeDigits cs := by
  intro cur a cur' hcur hrun
  obtain ⟨next, hnext, hrest⟩ := Reads.takeDigits cs cur hcur
  rw [hnext] at hrun
  obtain ⟨rfl, rfl⟩ := Prod.mk.inj (Except.ok.inj hrun)
  rw [hrest]
  refine ⟨List.dropWhile_suffix _, fun rest hends => ?_⟩
  obtain ⟨htake, hdrop⟩ := takeWhile_append hends cs
  have hreads := Reads.takeDigits (cs ++ rest)
  rwa [htake, hdrop] at hreads

theorem digits {f : Cursor → Reader β}
    (hf : ∀ cur cur' : Cursor, cur.rest.takeWhile Text.isDigit = cur'.rest.takeWhile Text.isDigit →
      f cur = f cur')
    (h : ∀ cur : Cursor, cur.rest = cs → Local (f cur) cs) : Local (get >>= f) cs := by
  intro cur b cur' hcur hrun
  obtain ⟨hsuffix, hreads⟩ := h cur hcur cur b cur' hcur hrun
  refine ⟨hsuffix, fun rest hends cur₂ hcur₂ => ?_⟩
  obtain ⟨cur₃, hrun₃, hcur₃⟩ := hreads rest hends cur₂ hcur₂
  refine ⟨cur₃, ?_, hcur₃⟩
  rw [hf cur cur₂ (by rw [hcur, hcur₂, (takeWhile_append hends cs).1])] at hrun₃
  exact hrun₃

theorem floatOf (negative : Bool) (significand : Nat) (exponent : Int) (cs : List Char) :
    Local (Json.floatOf negative significand exponent) cs := by
  rw [Json.floatOf]
  split
  · exact pure _ _
  · exact failHere _ _

theorem integerOf (negative : Bool) (significand : Nat) (cs : List Char) :
    Local (Json.integerOf negative significand) cs := by
  rw [Json.integerOf]
  split
  · split
    · exact pure _ _
    · exact floatOf _ _ _ _
  · split
    · exact pure _ _
    · exact floatOf _ _ _ _

theorem sign {f : Bool → Reader β} (hf : ∀ negative cs, Local (f negative) cs) (cs : List Char) :
    Local (do
      let negative ← match ← Json.peek with
        | some '+' => do Json.drop; Pure.pure false
        | some '-' => do Json.drop; Pure.pure true
        | _ => Pure.pure false
      f negative) cs := by
  refine peek (fun c rest hcs => ?_) (fun _ => hf false []) (fun _ c hc => ?_)
  · subst hcs
    dsimp only
    split
    · exact (drop _ rest).bind fun _ cs => hf false cs
    · exact (drop _ rest).bind fun _ cs => hf true cs
    · exact hf false _
  · dsimp only
    split
    · next heq => cases heq; cases hc
    · next heq => cases heq; cases hc
    · rfl

theorem exponentPart (negative : Bool) (significand : Nat) (start : Int) (c : Char) (cs : List Char) :
    Local (Json.exponentPart negative significand start) (c :: cs) := by
  rw [Json.exponentPart]
  refine (drop c cs).bind fun _ cs => sign (fun negativeExponent cs => ?_) cs
  refine take (fun c rest _ => ?_) fun cur => ⟨_, rfl⟩
  dsimp only
  split
  · exact failHere _ _
  · refine digits (fun cur cur' h => by rw [h]) fun cur hcur => ?_
    split
    · exact (takeDigits rest).bind fun _ cs => floatOf _ _ _ cs
    · split
      · exact failsAfter _ _ _
      · exact (takeDigits rest).bind fun _ cs => pure _ cs

theorem fractionPart (negative : Bool) (significand : Nat) (before : Int) (c : Char) (cs : List Char) :
    Local (Json.fractionPart negative significand before) (c :: cs) := by
  rw [Json.fractionPart]
  refine (drop c cs).bind fun _ cs => (takeDigits cs).bind fun digits cs => ?_
  split
  · refine of_fails fun cur => ?_
    obtain ⟨_ | ⟨c, rest⟩, line, column⟩ := cur <;> exact ⟨_, rfl⟩
  · refine peek (fun c rest hcs => ?_) (fun _ => floatOf _ _ _ _) (fun _ c hc => ?_)
    · subst hcs
      split
      · exact exponentPart _ _ _ _ _
      · exact exponentPart _ _ _ _ _
      · exact floatOf _ _ _ _
    · dsimp only
      split
      · next heq => cases heq; cases hc
      · next heq => cases heq; cases hc
      · rfl

/-- The digits of an integer after the first one, which come alone if it is a zero. -/
theorem integerDigits {c : Char} {f : List Char → Reader β} (hf : ∀ digits cs, Local (f digits) cs)
    (cs : List Char) :
    Local (do
      let digits ←
        if c = '0' then
          match ← Json.peek with
          | some d => if Text.isDigit d then Json.failNext .invalidNumber else Pure.pure []
          | none => Pure.pure []
        else Json.takeDigits
      f digits) cs := by
  dsimp only
  split
  · refine peek (fun d rest hcs => ?_) (fun _ => hf [] []) (fun _ d hd => ?_)
    · dsimp only
      split
      · exact of_fails fun _ => ⟨_, rfl⟩
      · exact hf [] cs
    · simp only [isNumberChar, Bool.or_eq_false_iff] at hd
      dsimp only
      rw [hd.1]
      rfl
  · exact (takeDigits cs).bind fun digits cs => hf digits cs

theorem unsignedNumber (negative : Bool) (cs : List Char) :
    Local (Json.unsignedNumber negative) cs := by
  rw [Json.unsignedNumber]
  refine take (fun c rest _ => ?_) fun cur => ⟨_, rfl⟩
  dsimp only
  split
  · exact failHere _ _
  · refine integerDigits (fun digits cs => ?_) rest
    refine peek (fun c rest hcs => ?_) (fun _ => ?_) (fun _ c hc => ?_)
    · subst hcs
      split
      · exact fractionPart _ _ _ _ _
      · exact exponentPart _ _ _ _ _
      · exact exponentPart _ _ _ _ _
      · split
        · exact integerOf _ _ _
        · exact floatOf _ _ _ _
    · dsimp only
      split
      · exact integerOf _ _ _
      · exact floatOf _ _ _ _
    · dsimp only
      split
      · next heq => cases heq; cases hc
      · next heq => cases heq; cases hc
      · next heq => cases heq; cases hc
      · rfl

theorem readNumber (c : Char) (cs : List Char) : Local Json.readNumber (c :: cs) := by
  rw [Json.readNumber]
  refine peek (fun d rest hcs => ?_) (fun h => by cases h) (fun h => by cases h)
  split
  · exact (drop c cs).bind fun _ cs => unsignedNumber true cs
  · exact unsignedNumber false _

end Local

/-! ## Integers -/

theorem isDigit_of_mem_toDigits {c : Char} {n : Nat} (h : c ∈ Nat.toDigits 10 n) :
    Text.isDigit c = true :=
  Nat.isDigit_of_mem_toDigits (by decide) (by decide) h

theorem natOfDigits_toDigits (n : Nat) : Text.natOfDigits 0 (Nat.toDigits 10 n) = n :=
  Nat.ofDigitChars_ten_toDigits

theorem toDigits_eq_cons (n : Nat) :
    ∃ c cs, Nat.toDigits 10 n = c :: cs ∧ (c = '0' → cs = []) := by
  induction n using Nat.strongRecOn with
  | ind n ih =>
    by_cases hn : n < 10
    · exact ⟨_, [], Nat.toDigits_of_lt_base hn, fun _ => rfl⟩
    · obtain ⟨c, cs, hcs, hzero⟩ := ih (n / 10) (by omega)
      refine ⟨c, cs ++ [(n % 10).digitChar], ?_, fun hc => ?_⟩
      · rw [Nat.toDigits_of_base_le (by decide) (by omega), hcs, List.cons_append]
      · -- the digits before the last would be a zero alone
        have hvalue := natOfDigits_toDigits (n / 10)
        rw [hcs, hzero hc, hc] at hvalue
        have hpositive : 0 < n / 10 := by omega
        exact absurd hvalue (Nat.ne_of_lt hpositive)

theorem natOfDigits_le (n : Nat) (cs : List Char) : n ≤ Text.natOfDigits n cs := by
  induction cs generalizing n with
  | nil => exact Nat.le_refl n
  | cons c cs ih =>
    have hle := ih (10 * n + Text.digitValue c)
    change n ≤ Text.natOfDigits (10 * n + Text.digitValue c) cs
    omega

theorem accumulate_eq (n : Nat) (cs : List Char) (h : Text.natOfDigits n cs < UInt64.size) :
    accumulate n cs = (Text.natOfDigits n cs, cs.length, true) := by
  induction cs generalizing n with
  | nil => rfl
  | cons c cs ih =>
    have hle := natOfDigits_le (10 * n + Text.digitValue c) cs
    have hsmall : ¬ UInt64.size ≤ 10 * n + Text.digitValue c := by
      change Text.natOfDigits (10 * n + Text.digitValue c) cs < _ at h
      omega
    rw [accumulate, if_neg hsmall, ih _ h]
    rfl

namespace Reads

variable {f : Option Char → Reader β} {b : β} {rest after : List Char}

theorem peek_end (hrest : EndsNumber rest)
    (hsame : ∀ c, isNumberChar c = false → f (some c) = f none) (h : Reads (f none) rest b after) :
    Reads (Json.peek >>= f) rest b after := by
  refine (Reads.peek rest).bind ?_
  cases rest with
  | nil => exact h
  | cons c rest =>
    rw [List.head?_cons, hsame c (hrest c rfl)]
    exact h

theorem integerDigits {c : Char} {cs : List Char} {f : List Char → Reader β}
    (hdigits : ∀ d ∈ cs, Text.isDigit d = true) (hzero : c = '0' → cs = [])
    (hrest : EndsNumber rest) (h : Reads (f cs) rest b after) :
    Reads (do
      let digits ←
        if c = '0' then
          match ← Json.peek with
          | some d => if Text.isDigit d then Json.failNext .invalidNumber else Pure.pure []
          | none => Pure.pure []
        else Json.takeDigits
      f digits) (cs ++ rest) b after := by
  dsimp only
  split
  · next hc =>
    obtain rfl := hzero hc
    refine peek_end hrest (fun d hd => ?_) h
    simp only [isNumberChar, Bool.or_eq_false_iff] at hd
    dsimp only
    rw [hd.1]
    rfl
  · refine Reads.bind ?_ h
    have htake := Reads.takeDigits (cs ++ rest)
    rwa [List.takeWhile_append_of_pos hdigits, hrest.takeWhile, List.append_nil,
      List.dropWhile_append_of_pos hdigits, hrest.dropWhile] at htake

/-- A number that fits 64 bits is read to its last digit. -/
theorem unsignedNumber {negative : Bool} {n : Nat} {x : Number} (hn : n < UInt64.size)
    (hrest : EndsNumber rest) (hx : Reads (integerOf negative n) rest x rest) :
    Reads (Json.unsignedNumber negative) (Nat.toDigits 10 n ++ rest) x rest := by
  obtain ⟨c, cs, hcs, hzero⟩ := toDigits_eq_cons n
  have hall : ∀ d ∈ c :: cs, Text.isDigit d = true := by
    rw [← hcs]
    exact fun d hd => isDigit_of_mem_toDigits hd
  obtain ⟨hfirst, hothers⟩ := List.forall_mem_cons.mp hall
  have haccumulate : accumulate 0 (c :: cs) = (n, cs.length + 1, true) := by
    have hvalue := natOfDigits_toDigits n
    rw [hcs] at hvalue
    rw [accumulate_eq 0 _ (by rw [hvalue]; exact hn), hvalue]
    rfl
  rw [hcs, Json.unsignedNumber]
  refine (Reads.take c (cs ++ rest)).bind ?_
  dsimp only
  rw [hfirst]
  refine integerDigits hothers hzero hrest ?_
  rw [haccumulate]
  refine peek_end hrest (fun d hd => ?_) hx
  dsimp only
  split
  · next heq => cases heq; cases hd
  · next heq => cases heq; cases hd
  · next heq => cases heq; cases hd
  · rfl

theorem integerOf_eq {negative : Bool} {m : Nat} {n : Integer}
    (hn : n.val = if negative then -(m : Int) else m) (hm : negative = true → 0 < m)
    (rest : List Char) : Reads (Json.integerOf negative m) rest (.int n) rest := by
  obtain ⟨val, hlower, hupper⟩ := n
  dsimp only at hn
  subst hn
  rw [Json.integerOf]
  cases negative with
  | true =>
    rw [if_pos rfl] at hlower
    rw [if_pos rfl, dif_pos ⟨hm rfl, by omega⟩]
    exact pure _ _
  | false =>
    rw [if_neg (by decide)] at hupper
    rw [if_neg (by decide), dif_pos (by omega)]
    exact pure _ _

theorem integer (n : Integer) (hrest : EndsNumber rest) :
    Reads Json.readNumber (integerChars n.val ++ rest) (.int n) rest := by
  have hlower := n.lower
  have hupper := n.upper
  rw [integerChars, Json.readNumber]
  split
  · next hneg =>
    refine (Reads.peek _).bind ((Reads.drop '-' _).bind ?_)
    exact unsignedNumber (by rw [UInt64.size]; omega) hrest
      (integerOf_eq (by rw [if_pos rfl]; omega) (fun _ => by omega) rest)
  · next hneg =>
    have hread : Reads (Json.unsignedNumber false) (Nat.toDigits 10 n.val.natAbs ++ rest) (.int n)
        rest :=
      unsignedNumber (by rw [UInt64.size]; omega) hrest
        (integerOf_eq (by rw [if_neg (by decide)]; omega) (fun h => by cases h) rest)
    obtain ⟨c, cs, hcs, -⟩ := toDigits_eq_cons n.val.natAbs
    have hdigit : Text.isDigit c = true :=
      isDigit_of_mem_toDigits (hcs ▸ List.mem_cons_self ..)
    rw [hcs] at hread ⊢
    refine (Reads.peek _).bind ?_
    rw [List.cons_append, List.head?_cons]
    split
    · next heq => cases heq; cases hdigit
    · exact hread

end Reads

/-! ## Floating-point numbers -/

theorem isNumberChar_of_isDigit {c : Char} (h : Text.isDigit c = true) : isNumberChar c = true := by
  rw [isNumberChar, h, Bool.true_or]

theorem isNumberChar_stripZeros {n : Nat} :
    ∀ c ∈ Binary64.stripZeros (Nat.toDigits 10 n), isNumberChar c = true := by
  intro c hc
  have hmem := (List.dropWhile_sublist _).subset (List.mem_reverse.mp hc)
  exact isNumberChar_of_isDigit (isDigit_of_mem_toDigits (List.mem_reverse.mp hmem))

theorem isNumberChar_pointed {digits : List Char} (h : ∀ c ∈ digits, isNumberChar c = true)
    (whole : Int) : ∀ c ∈ Binary64.pointed digits whole, isNumberChar c = true := by
  have hzero : isNumberChar '0' = true := by decide
  have hpoint : isNumberChar '.' = true := by decide
  rw [Binary64.pointed]
  split
  · simp only [List.forall_mem_cons, List.forall_mem_append, List.mem_replicate]
    exact ⟨hzero, hpoint, fun c hc => hc.2 ▸ hzero, h⟩
  · split
    · simp only [List.forall_mem_cons, List.forall_mem_append, List.mem_replicate]
      exact ⟨⟨h, fun c hc => hc.2 ▸ hzero⟩, hpoint, hzero, by simp⟩
    · simp only [List.forall_mem_cons, List.forall_mem_append]
      exact ⟨fun c hc => h c (List.mem_of_mem_take hc), hpoint,
        fun c hc => h c (List.mem_of_mem_drop hc)⟩

theorem isNumberChar_exponentText (n : Int) :
    ∀ c ∈ Binary64.exponentText n, isNumberChar c = true := by
  have hdigits : ∀ c ∈ Nat.toDigits 10 n.natAbs, isNumberChar c = true := fun c hc =>
    isNumberChar_of_isDigit (isDigit_of_mem_toDigits hc)
  rw [Binary64.exponentText]
  refine List.forall_mem_cons.mpr ⟨by split <;> decide, ?_⟩
  split
  · exact List.forall_mem_cons.mpr ⟨by decide, hdigits⟩
  · exact hdigits

theorem isNumberChar_exponential {digits : List Char} (h : ∀ c ∈ digits, isNumberChar c = true)
    (leading : Int) : ∀ c ∈ Binary64.exponential digits leading, isNumberChar c = true := by
  have hexponent : ∀ c ∈ 'e' :: Binary64.exponentText leading, isNumberChar c = true :=
    List.forall_mem_cons.mpr ⟨by decide, isNumberChar_exponentText leading⟩
  rcases digits with _ | ⟨d, _ | ⟨d', rest⟩⟩
  · exact hexponent
  · exact List.forall_mem_cons.mpr ⟨h d (List.mem_cons_self ..), hexponent⟩
  · obtain ⟨hd, hrest⟩ := List.forall_mem_cons.mp h
    exact List.forall_mem_append.mpr
      ⟨List.forall_mem_cons.mpr ⟨hd, List.forall_mem_cons.mpr ⟨by decide, hrest⟩⟩, hexponent⟩

theorem isNumberChar_text (x : Binary64) : ∀ c ∈ x.text.toList, isNumberChar c = true := by
  have hmagnitude : ∀ c ∈ x.magnitudeText, isNumberChar c = true := by
    rw [Binary64.magnitudeText]
    split
    · exact List.all_eq_true.mp (by decide)
    · dsimp only
      split
      · exact isNumberChar_pointed isNumberChar_stripZeros _
      · exact isNumberChar_exponential isNumberChar_stripZeros _
  rw [Binary64.text, String.toList_ofList]
  split
  · exact List.forall_mem_cons.mpr ⟨by decide, hmagnitude⟩
  · exact hmagnitude

theorem isSpace_of_isNumberChar {c : Char} (h : isNumberChar c = true) : isSpace c = false := by
  refine Bool.eq_false_iff.mpr fun hspace => ?_
  simp only [isSpace, Bool.or_eq_true, decide_eq_true_eq] at hspace
  rcases hspace with ((rfl | rfl) | rfl) | rfl <;> cases h

theorem isNumberChar_of_first {c : Char} (h : (c = '-' || Text.isDigit c) = true) :
    isNumberChar c = true := by
  simp only [Bool.or_eq_true, decide_eq_true_eq] at h
  rcases h with rfl | h
  · rfl
  · exact isNumberChar_of_isDigit h

theorem value_dispatch {c : Char} (hc : isNumberChar c = true) (fuel levels : Nat) :
    ∃ next : Option Char → Reader Json, value (fuel + 1) levels = (peekToken >>= next) ∧
      next (some c) = if c = '-' || Text.isDigit c then (do return number (← readNumber))
        else failNext .expectedValue := by
  rw [value]
  refine ⟨_, rfl, ?_⟩
  split
  case h_1 heq => cases heq
  case h_8 heq =>
    cases heq
    rfl
  all_goals
    next heq =>
      cases heq
      cases hc

theorem Reads.value_number {c : Char} {cs rest : List Char} {n : Number}
    (h : Reads Json.readNumber (c :: cs) n rest) (hc : (c = '-' || Text.isDigit c) = true)
    (fuel levels : Nat) : Reads (value (fuel + 1) levels) (c :: cs) (number n) rest := by
  have hnumber := isNumberChar_of_first hc
  obtain ⟨next, heq, hnext⟩ := value_dispatch hnumber fuel levels
  rw [heq]
  refine (peekToken (isSpace_of_isNumberChar hnumber) cs).bind ?_
  rw [hnext, if_pos hc]
  exact h.bind (.pure _ _)

theorem Reads.peekBlank (before : List Char) :
    Reads Json.peekToken before (before.dropWhile isSpace).head? (before.dropWhile isSpace) := by
  intro cur hcur
  have hrest := pastWhile_rest isSpace _ cur hcur
  refine ⟨_, ?_, hrest⟩
  rw [← hrest, ← hcur]
  rfl

theorem isSpace_of_finish {cur cur' : Cursor} (h : finish.run cur = .ok ((), cur')) :
    ∀ c ∈ cur.rest, isSpace c = true := by
  obtain ⟨next, hnext, -⟩ := Reads.peekBlank cur.rest cur rfl
  rw [finish, StateT.run_bind, hnext] at h
  have happend := List.takeWhile_append_dropWhile (p := isSpace) (l := cur.rest)
  cases hleft : cur.rest.dropWhile isSpace with
  | nil =>
    rw [hleft, List.append_nil] at happend
    rw [← happend]
    exact fun c hc => List.all_eq_true.mp List.all_takeWhile c hc
  | cons c rest =>
    rw [hleft] at h
    cases h

theorem readText_ok {read : Nat → Reader α} {text : String} {a : α}
    (h : readText read text = .ok a) :
    ∃ cur, (read (2 * text.toList.length + 2)).run (Cursor.start text) = .ok (a, cur) ∧
      ∀ c ∈ cur.rest, isSpace c = true := by
  rw [readText] at h
  cases hwhole : (do
      let result ← read (Cursor.start text).steps
      finish
      return result : Reader α).run (Cursor.start text) with
  | error e =>
    rw [hwhole] at h
    cases h
  | ok result =>
    rw [hwhole] at h
    change Except.ok result.1 = .ok a at h
    obtain ⟨b, cur, hread, hrest⟩ := run_bind_ok hwhole
    obtain ⟨_, last, hfinish, hlast⟩ := run_bind_ok hrest
    obtain rfl : b = a := (congrArg Prod.fst (Except.ok.inj hlast)).trans (Except.ok.inj h)
    exact ⟨cur, hread, isSpace_of_finish hfinish⟩

/-- A reader that reads all characters of a text reads the text. -/
theorem Reads.readText {read : Nat → Reader α} {text : String} {a : α}
    (h : Reads (read (2 * text.toList.length + 2)) text.toList a []) :
    Json.readText read text = .ok a := by
  obtain ⟨cur, hrun, hcur⟩ := (h.bind (((Reads.peekBlank []).bind (.pure () _)).bind (.pure a _)) :
    Reads (do let result ← read (2 * text.toList.length + 2); finish; return result) _ _ _)
      (Cursor.start text) rfl
  exact congrArg (Except.map (·.1)) hrun

theorem number_of_value {c : Char} {cs : List Char} {cur cur' : Cursor} {v : Json}
    {fuel levels : Nat} (hc : isNumberChar c = true) (hcur : cur.rest = c :: cs)
    (h : (value (fuel + 1) levels).run cur = .ok (v, cur')) :
    (c = '-' || Text.isDigit c) = true ∧ ∃ start n, start.rest = c :: cs ∧
      readNumber.run start = .ok (n, cur') ∧ v = number n := by
  obtain ⟨next, heq, hnext⟩ := value_dispatch hc fuel levels
  obtain ⟨start, hstart, hrestart⟩ := Reads.peekToken (isSpace_of_isNumberChar hc) cs cur hcur
  rw [heq, StateT.run_bind, hstart] at h
  change (next (some c)).run start = _ at h
  rw [hnext] at h
  split at h
  · next hfirst =>
    obtain ⟨n, last, hnumber, hlast⟩ := run_bind_ok h
    obtain ⟨rfl, rfl⟩ := Prod.mk.inj (Except.ok.inj hlast)
    exact ⟨hfirst, start, n, hrestart, hnumber, rfl⟩
  · cases h

/-- The text of a float that it is read from on its own is read so in every text. -/
theorem Reads.float {x : Binary64} {rest : List Char}
    (h : parse x.text = .ok (number (.float x))) (hrest : EndsNumber rest) :
    ∃ c cs, x.text.toList = c :: cs ∧ (c = '-' || Text.isDigit c) = true ∧
      Reads Json.readNumber (x.text.toList ++ rest) (.float x) rest := by
  have hchars := isNumberChar_text x
  obtain ⟨cur, hrun, hblank⟩ := readText_ok h
  cases htext : x.text.toList with
  | nil =>
    obtain ⟨start, hstart, -⟩ := Reads.peekBlank [] (Cursor.start x.text) htext
    rw [value, StateT.run_bind, hstart] at hrun
    cases hrun
  | cons c cs =>
    rw [htext] at hchars
    have hc := hchars c (List.mem_cons_self ..)
    obtain ⟨hfirst, start, n, hstart, hnumber, hn⟩ := number_of_value hc htext hrun
    obtain rfl := Json.number.inj hn
    obtain ⟨hsuffix, hreads⟩ := Local.readNumber c cs start _ cur hstart hnumber
    have hdone : cur.rest = [] := by
      cases hleft : cur.rest with
      | nil => rfl
      | cons d left =>
        have hmem : d ∈ cur.rest := hleft ▸ List.mem_cons_self ..
        have hnumberChar := hchars d (hsuffix.subset hmem)
        exact absurd (hblank d hmem) (by rw [isSpace_of_isNumberChar hnumberChar]; decide)
    have hread := hreads rest hrest
    rw [hdone] at hread
    exact ⟨c, cs, rfl, hfirst, hread⟩

end CloudProvider.Json
