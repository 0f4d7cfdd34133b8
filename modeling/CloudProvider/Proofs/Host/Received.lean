import CloudProvider.Host.Service
import CloudProvider.Proofs.Json.Compact

/-!
# Answers as the host reads them

* `Received`: an answer on the side of the host, where the result and the error may be missing.
* `Received.same`: equality of such answers.
* `Answer.received`: what the host is to read.
* `Answer.Legible`: answers that can be read back.
* `Received.parse_line`: the host reads what was answered.
* `Answer.le_toNat_line`: an answer is written on one line.
-/

namespace CloudProvider
open Json
set_option autoImplicit false

/-- An answer as the host reads it. -/
structure Received where
  id : UInt64
  result : Option Json
  error : Option String

namespace Received

def shape : Shape :=
  .record "struct Response"
    [("id", true, .natural), ("result", false, .any), ("error", false, .optionalText)]

def decoder : Decoder Received :=
  Record.decoder "struct Response" <|
    Received.mk <$> Record.required "id" Decode.uint64
      <*> Record.optional "result" Decode.any
      <*> Record.optional "error" Decode.text

/-- The answer on a line, or what is wrong with the line. -/
def parse (line : String) : Except String Received :=
  match parseShape shape line with
  | .error e => .error e.message
  | .ok v => (decoder v).mapError Mismatch.message

/-- Equality of answers, for which the two zeros are one number. -/
def same (r r' : Received) : Bool :=
  r.id = r'.id && sameOption r.result r'.result && r.error = r'.error

theorem same_refl (r : Received) : r.same r = true := by
  simp [same, sameOption_refl]

end Received

/-- What the host is to read. Objects come with their members in order. -/
def Answer.received (a : Answer) : Received where
  id := a.id
  result := a.outcome.toOption.map Json.ordered
  error := match a.outcome with
    | .ok _ => none
    | .error text => some text

theorem Answer.result_or_error (a : Answer) : a.received.result.isSome = !a.received.error.isSome := by
  obtain ⟨id, outcome⟩ := a
  cases outcome <;> rfl

/-- The answer is read back as another one. -/
def Answer.misread (a : Answer) : Bool :=
  match Received.parse a.line with
  | .ok r => !r.same a.received
  | .error _ => false

theorem Answer.exists_of_misread {a : Answer} (h : a.misread = true) :
    ∃ r, Received.parse a.line = .ok r ∧ r ≠ a.received := by
  rw [misread] at h
  split at h
  · next r hr =>
    refine ⟨r, hr, ?_⟩
    rintro rfl
    rw [Received.same_refl] at h
    cases h
  · cases h

/-- The result is nested no deeper than the host can read, and its floats are those that their texts
are read as. -/
def Answer.Legible (a : Answer) : Prop :=
  ∀ v, a.outcome = .ok v → v.depth + 1 < nestingLimit ∧ v.FloatsReread

namespace Json.Reads

variable {fields : List (String × Bool × Shape)} {name : String} {needed first : Bool} {shape : Shape}
  {v out : Json} {read : Keyed Json} {fuel levels : Nat} {before text rest after : List Char}

theorem readMember (hfield : fields.lookup name = some (needed, shape))
    (hnew : read.contains name = false)
    (hmore : Reads (moreMembers first) before true (stringChars name ++ ':' :: text))
    (hv : Reads (shape.read fuel levels) text v rest)
    (hrest : Reads (readMembers fuel levels fields false (read.insert name v)) rest out after) :
    Reads (readMembers (fuel + 1) levels fields first read) before out after := by
  rw [readMembers]
  refine hmore.bind ?_
  rw [stringChars]
  simp only [List.append_assoc, List.cons_append, List.nil_append]
  refine (Reads.drop '"' _).bind ((stringBody name _).bind ?_)
  rw [hfield]
  dsimp only
  rw [hnew]
  exact (colon text).bind (hv.bind hrest)

end Json.Reads

/-! ## Reading answers -/

namespace Received

theorem readNatural (id : UInt64) {rest : List Char} (hrest : EndsNumber rest) :
    Json.Reads Json.readNatural (chars (Json.uint64 id) ++ rest) (Json.uint64 id) rest := by
  obtain ⟨c, cs, hcs, hc⟩ := head_number (.int (.ofUInt64 id)) trivial
  have hread := Json.Reads.integer (.ofUInt64 id) hrest
  change Json.Reads _ (numberChars (.int (.ofUInt64 id)) ++ rest) _ _
  change Json.Reads _ (numberChars (.int (.ofUInt64 id)) ++ rest) _ _ at hread
  rw [hcs] at hread ⊢
  refine (Json.Reads.peekToken (isSpace_of_isNumberChar (isNumberChar_of_first hc)) _).bind ?_
  dsimp only
  rw [if_pos hc]
  refine hread.bind ?_
  change Json.Reads (checked Decode.uint64 (Json.uint64 id)) _ _ _
  rw [checked, Decode.uint64_exact.reads id]
  exact .pure _ _

theorem read_members {key : String} {part : Shape} {v w : Json} {line : String} {id : UInt64}
    (hline : line.toList = (Json.object [("id", .uint64 id), (key, v)]).chars)
    (hfield : [("id", true, Shape.natural), ("result", false, .any),
      ("error", false, .optionalText)].lookup key = some (false, part))
    (hnew : Keyed.contains key [("id", Json.uint64 id)] = false)
    (hid : Keyed.contains "id" (Keyed.insert key w [("id", Json.uint64 id)]) = true)
    (hv : ∀ fuel, v.chars.length < fuel →
      Json.Reads (part.read (fuel + 1) 127) (v.chars ++ ['\x7d']) w ['\x7d']) :
    parseShape shape line = .ok (.object (Keyed.insert key w [("id", .uint64 id)])) := by
  obtain ⟨fuel, hfuel, hsteps⟩ : ∃ fuel, v.chars.length < fuel ∧
      2 * line.toList.length + 2 = fuel + 4 := by
    refine ⟨2 * line.toList.length - 2, ?_, ?_⟩ <;>
    · simp only [hline, chars, membersChars, List.length_cons, List.length_append]
      omega
  have hclose : Json.Reads (readMembers (fuel + 1) 127 [("id", true, Shape.natural),
      ("result", false, .any), ("error", false, .optionalText)] false
      (Keyed.insert key w [("id", .uint64 id)])) ['\x7d']
      (.object (Keyed.insert key w [("id", .uint64 id)])) [] := by
    rw [readMembers]
    refine (Json.Reads.noMoreMembers false []).bind ?_
    have hcomplete : missingField [("id", true, Shape.natural), ("result", false, .any),
        ("error", false, .optionalText)] (Keyed.insert key w [("id", .uint64 id)]) = none := by
      simp [missingField, hid]
    rw [hcomplete]
    exact (Json.Reads.closeObject []).bind (.pure _ _)
  refine Json.Reads.readText ?_
  rw [hsteps, hline, shape, Shape.read]
  refine (Json.Reads.peekToken (by decide) _).bind ((Json.Reads.deeper (by decide) _).bind ?_)
  refine Json.Reads.readMember rfl rfl (Json.Reads.moreMembers_first _) ?_
    (Json.Reads.readMember hfield hnew (Json.Reads.moreMembers_next _) (hv fuel hfuel) hclose)
  rw [Shape.read]
  exact readNatural id (endsNumber_cons (by decide) _)

theorem decoder_ok {members : Keyed Json} {id : UInt64} {result : Option Json} {error : Option String}
    (hordered : Keyed.Ordered members) (hid : members.get? "id" = some (.uint64 id))
    (hresult : (Record.optional "result" Decode.any).build (Record.ofMembers members) = .ok result)
    (herror : (Record.optional "error" Decode.text).build (Record.ofMembers members) = .ok error) :
    decoder (.object members) = .ok ⟨id, result, error⟩ := by
  refine Record.Checked.decoder_ok ?_ hordered ?_
  · exact .seq (.seq (.map (Record.checked_field _ _ _) _) (Record.checked_field _ _ _))
      (Record.checked_field _ _ _)
  · exact Record.seq_ok.mpr ⟨_, _, Record.seq_ok.mpr ⟨_, _, Record.map_ok.mpr
      ⟨id, Record.required_reads Decode.uint64_exact.reads hid, rfl⟩, hresult, rfl⟩, herror, rfl⟩

/-- The host reads what was answered. -/
theorem parse_line {a : Answer} (h : a.Legible) (hresult : ∀ v, a.outcome = .ok v → v ≠ .null) :
    parse a.line = .ok a.received := by
  have htext : a.line.toList = (Json.object [("id", .uint64 a.id), a.body]).chars :=
    String.toList_ofList
  obtain ⟨id, outcome⟩ := a
  cases outcome with
  | error text =>
    have hpart : ∀ fuel, (Json.string text).chars.length < fuel →
        Json.Reads (Shape.optionalText.read (fuel + 1) 127) ((Json.string text).chars ++ ['\x7d'])
          (.string text) ['\x7d'] := by
      intro fuel _
      rw [Shape.read, chars, stringChars, List.append_assoc]
      refine (Json.Reads.peekToken (by decide) _).bind ?_
      exact (Json.Reads.peekToken (by decide) _).bind ((Json.Reads.drop '"' _).bind
        ((Json.Reads.stringBody text _).bind (.pure _ _)))
    rw [parse, read_members htext rfl rfl rfl hpart]
    have hordered : Keyed.Ordered [("error", Json.string text), ("id", Json.uint64 id)] :=
      show List.Pairwise (· < ·) ["error", "id"] by decide
    exact congrArg (Except.mapError Mismatch.message) (decoder_ok hordered rfl rfl rfl)
  | ok v =>
    obtain ⟨hdepth, hfloats⟩ := h v rfl
    have hpart : ∀ fuel, v.chars.length < fuel →
        Json.Reads (Shape.any.read (fuel + 1) 127) (v.chars ++ ['\x7d']) v.ordered ['\x7d'] := by
      intro fuel hfuel
      rw [Shape.read]
      exact Json.Reads.value v fuel 127 ['\x7d'] hfuel (Nat.lt_of_succ_lt_succ hdepth) hfloats
        (endsNumber_cons (by decide) _)
    have hnull : v.ordered.isNull = false := by
      cases v with
      | null => exact absurd rfl (hresult .null rfl)
      | _ => rfl
    rw [parse, read_members htext rfl rfl rfl hpart]
    have hordered : Keyed.Ordered [("id", Json.uint64 id), ("result", v.ordered)] :=
      show List.Pairwise (· < ·) ["id", "result"] by decide
    exact congrArg (Except.mapError Mismatch.message)
      (decoder_ok hordered rfl (Decode.optional_eq hnull) rfl)

end Received

theorem Answer.le_toNat_line (a : Answer) : ∀ c ∈ a.line.toList, 32 ≤ c.toNat := by
  rw [line, compact, String.toList_ofList]
  exact le_toNat_chars _

end CloudProvider
