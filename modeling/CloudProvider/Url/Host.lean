import CloudProvider.Text.Lowercase
import CloudProvider.Url.Encode

/-!
# Hosts

- `ParseError`: why a text is no URL.
- `asciiName?`: a domain name in ASCII.
- `shortAddress`: an address of four numbers, some of which may be left out.
- `parseHost`: the host of a URL of a well-known scheme.
- `parseOtherHost`: the host of any other URL.
-/

namespace CloudProvider.Url
set_option autoImplicit false

/-- Why a text is no URL. -/
inductive ParseError where
  | emptyHost
  | internationalName
  | port
  | shortAddress
  | longAddress
  | hostCharacter
  | relative
deriving DecidableEq

def ParseError.message : ParseError → String
  | emptyHost => "empty host"
  | internationalName => "invalid international domain name"
  | port => "invalid port number"
  | shortAddress => "invalid IPv4 address"
  | longAddress => "invalid IPv6 address"
  | hostCharacter => "invalid domain character"
  | relative => "relative URL without a base"

/-! ## Names -/

/-- The digit that stands for a number below 36: letters first. -/
def letterDigit (n : Nat) : Char :=
  if n < 26 then Char.ofNat (97 + n) else Char.ofNat (22 + n)

/-- Halves the distance `delta` until it is small, and counts the steps. -/
def shrink (delta : Nat) : Nat → Nat
  | 0 => 0
  | fuel + 1 => if 455 < delta then 36 + shrink (delta / 35) fuel else 36 * delta / (delta + 38)

/-- The bias after a distance, of which `count` characters have been written. -/
def bias (delta count : Nat) (first : Bool) : Nat :=
  let delta := if first then delta / 700 else delta / 2
  let delta := delta + delta / count
  shrink delta delta

/-- A distance in digits of growing weight. -/
def digitsFrom (bias k q : Nat) : Nat → List Char
  | 0 => []
  | fuel + 1 =>
    let t := if k ≤ bias then 1 else if bias + 26 ≤ k then 26 else k - bias
    if q < t then [letterDigit q]
    else letterDigit (t + (q - t) % (36 - t)) :: digitsFrom bias (k + 36) ((q - t) / (36 - t)) fuel

/-- How far the writing of a name has come. -/
structure Encoding where
  written : List Char
  delta : Nat
  bias : Nat
  count : Nat

/-- Passes one character of the name while characters with code `n` are written. -/
def Encoding.pass (n basic : Nat) (e : Encoding) (c : Char) : Encoding :=
  if c.toNat < n then { e with delta := e.delta + 1 }
  else if c.toNat = n then
    { written := e.written ++ digitsFrom e.bias 36 e.delta (e.delta + 1)
      delta := 0
      bias := Url.bias e.delta (e.count + 1) (e.count = basic)
      count := e.count + 1 }
  else e

/-- Writes the characters from code `n` on, the lowest code first. -/
def Encoding.run (label : List Char) (basic n : Nat) (e : Encoding) : Nat → Encoding
  | 0 => e
  | fuel + 1 =>
    match (label.filter fun c => n ≤ c.toNat).map Char.toNat |>.min? with
    | none => e
    | some m =>
      let e := { e with delta := e.delta + (m - n) * (e.count + 1) }
      let e := label.foldl (Encoding.pass m basic) e
      Encoding.run label basic (m + 1) { e with delta := e.delta + 1 } fuel

/-- A label in ASCII: its ASCII characters, then the places and codes of the others. -/
def asciiLabel (label : List Char) : List Char :=
  let ascii := label.filter fun c => c.toNat < 128
  if ascii.length = label.length then label
  else
    let start := if ascii.isEmpty then [] else ascii ++ ['-']
    let e := Encoding.run label ascii.length 128 ⟨start, 0, 72, ascii.length⟩ label.length
    ['x', 'n', '-', '-'] ++ e.written

/-- The characters that no name has. -/
def forbiddenInName (c : Char) : Bool :=
  isControl c ||
    [' ', '#', '/', ':', '<', '>', '?', '@', '[', '\\', ']', '^', '|', '%', '\x60', '\x7b',
      '\x7d'].contains c

/-- A domain name in lower case and in ASCII. No other mapping of characters is made. -/
def asciiName? (name : List Char) : Option (List Char) :=
  let lower := (Text.lowercase (String.ofList name)).toList.map fun c =>
    if c = '\u3002' || c = '\uff0e' || c = '\uff61' then '.' else c
  let ascii := List.intercalate ['.'] ((lower.splitOn '.').map asciiLabel)
  if ascii.any forbiddenInName then none else some ascii

/-! ## Addresses of numbers -/

/-- A number in decimal, or in hexadecimal after `0x`, or in octal after `0`. -/
def readPart? (cs : List Char) : Option Nat :=
  let digits (base : Nat) (cs : List Char) : Option Nat :=
    if cs.all fun c => ((Address.hexValue? c).map (decide <| · < base)).getD false then
      some (cs.foldl (fun n c => base * n + (Address.hexValue? c).getD 0) 0)
    else none
  match cs with
  | [] => none
  | '0' :: 'x' :: rest | '0' :: 'X' :: rest => digits 16 rest
  | '0' :: c :: rest => digits 8 (c :: rest)
  | cs => digits 10 cs

/-- The labels of a name, an empty one at the end aside. -/
def labels (name : List Char) : List (List Char) :=
  let parts := name.splitOn '.'
  if parts.getLast? = some [] then parts.dropLast else parts

/-- The name has to be an address, because its last label is a number. -/
def endsInNumber (name : List Char) : Bool :=
  match (labels name).getLast? with
  | none => false
  | some last => (!last.isEmpty && last.all Text.isDigit) || (readPart? last).isSome

/-- The address of up to four numbers, of which the last fills the bytes that are left. -/
def shortAddress? (name : List Char) : Option Nat := do
  let parts := labels name
  if 4 < parts.length then none
  else
    let numbers ← parts.mapM readPart?
    let last ← numbers.getLast?
    let front := numbers.dropLast
    if front.any (255 < ·) || Nat.pow 256 (4 - front.length) ≤ last then none
    else some (front.zipIdx.foldr (fun (n, i) rest => n * Nat.pow 256 (3 - i) + rest) last)

/-! ## Hosts -/

/-- A long address in brackets. -/
def longHost? (cs : List Char) : Option (List Char) :=
  match cs.getLast? with
  | some ']' =>
    (Address.parseAs? .v6 (String.ofList cs.dropLast)).map fun a =>
      '[' :: (Address.compressed (Address.toGroups 65536 8 a.value) ++ [']'])
  | _ => none

/-- The host of a URL of a well-known scheme. -/
def parseHost : List Char → Except ParseError (List Char)
  | '[' :: rest =>
    match longHost? rest with
    | some host => .ok host
    | none => .error .longAddress
  | cs =>
    match (Text.decodeUtf8? (decode cs)).bind asciiName? with
    | none => .error .internationalName
    | some [] => .error .emptyHost
    | some name =>
      if endsInNumber name then
        match shortAddress? name with
        | some n => .ok (Address.quadChars n)
        | none => .error .shortAddress
      else .ok name

/-- The characters that no host has. -/
def forbiddenInHost (c : Char) : Bool :=
  ['\x00', '\t', '\n', '\r', ' ', '#', '/', ':', '<', '>', '?', '@', '[', '\\', ']', '^',
    '|'].contains c

/-- The host of a URL of any other scheme. -/
def parseOtherHost : List Char → Except ParseError (List Char)
  | '[' :: rest =>
    match longHost? rest with
    | some host => .ok host
    | none => .error .longAddress
  | cs => if cs.any forbiddenInHost then .error .hostCharacter else .ok (encode isControl cs)

end CloudProvider.Url
