import SpatialQuery.Text.Hex
import SpatialQuery.Text.Unit

/-!
# Encodings

Texts are handed over as bytes in UTF-8, which has no room for surrogates.  Bytes of unknown origin may
be in any of five encodings, which a mark in front or the zeros among the first of them tell apart.  A
decoder lets surrogates pass and stops at bytes that make up no code point; where bytes are only shown,
the replacement character stands for such bytes.
-/

set_option autoImplicit false

namespace SpatialQuery.Text

/-! ## Surrogates in the way -/

/-- The first row of surrogates in a text. -/
structure SurrogateFault where
  first : Nat
  last : Nat
  /-- The first of them, by its distance from the first surrogate of all. -/
  offset : Nat
deriving DecidableEq

def surrogateFaultFrom? : Nat → List Mark → Option SurrogateFault
  | _, [] => none
  | place, .char _ :: rest => surrogateFaultFrom? (place + 1) rest
  | place, .surrogate offset :: rest =>
    some ⟨place, place + (rest.takeWhile Mark.isSurrogate).length, offset.val⟩

def SurrogateFault.message (f : SurrogateFault) : String :=
  let what :=
    if f.first = f.last then
      "character '\\u" ++ String.ofList (hexDigits 4 (0xD800 + f.offset)) ++ "' in position " ++
        toString f.first
    else "characters in position " ++ toString f.first ++ "-" ++ toString f.last
  "'utf-8' codec can't encode " ++ what ++ ": surrogates not allowed"

/-- The text as a string, which can be encoded, or the surrogates in the way. -/
def ordinary (t : Text) : Except SurrogateFault String :=
  match surrogateFaultFrom? 0 t.marks with
  | some fault => .error fault
  | none => .ok (String.ofList t.shown)

/-! ## Characters in UTF-8 -/

/-- The bytes that may follow the first byte of a character, up to the last one. -/
def following? (first : UInt8) : Option (List (UInt8 × UInt8)) :=
  let any : UInt8 × UInt8 := (0x80, 0xBF)
  if first < 0x80 then some []
  else if first < 0xC2 then none
  else if first < 0xE0 then some [any]
  else if first = 0xE0 then some [(0xA0, 0xBF), any]
  else if first = 0xED then some [(0x80, 0x9F), any]
  else if first < 0xF0 then some [any, any]
  else if first = 0xF0 then some [(0x90, 0xBF), any, any]
  else if first < 0xF4 then some [any, any, any]
  else if first = 0xF4 then some [(0x80, 0x8F), any, any]
  else none

def matching : List (UInt8 × UInt8) → List UInt8 → List UInt8
  | (low, high) :: expected, b :: rest =>
    if low ≤ b && b ≤ high then b :: matching expected rest else []
  | _, _ => []

def codeOf (first : UInt8) (others : List UInt8) : Nat :=
  let lead := match others.length with
    | 0 => first.toNat
    | 1 => first.toNat % 0x20
    | 2 => first.toNat % 0x10
    | _ => first.toNat % 0x08
  others.foldl (fun code b => code * 0x40 + b.toNat % 0x40) lead

/-- The characters of bytes in UTF-8.  The replacement character stands for bytes that start a character
and do not end it, and for each byte that starts none. -/
def ofUtf8 : List UInt8 → List Char
  | [] => []
  | first :: rest =>
    match following? first with
    | none => '\uFFFD' :: ofUtf8 rest
    | some expected =>
      let found := matching expected rest
      (if found.length = expected.length then Char.ofNat (codeOf first found) else '\uFFFD') ::
        ofUtf8 (rest.drop found.length)
termination_by bytes => bytes.length
decreasing_by all_goals (simp only [List.length_cons, List.length_drop]; omega)

/-! ## Bytes of unknown origin -/

structure Bytes where
  list : List UInt8
deriving DecidableEq

/-- A string is sent in UTF-8. -/
instance : Coe String Bytes := ⟨fun s => ⟨s.toUTF8.toList⟩⟩

def Bytes.shown (bytes : Bytes) : String := String.ofList (ofUtf8 bytes.list)

inductive Encoding where
  | utf8
  | utf16 (highFirst : Bool)
  | utf32 (highFirst : Bool)
deriving DecidableEq

def Encoding.name : Encoding → String
  | .utf8 => "utf-8"
  | .utf16 true => "utf-16-be"
  | .utf16 false => "utf-16-le"
  | .utf32 true => "utf-32-be"
  | .utf32 false => "utf-32-le"

/-- The encoding that the first bytes tell, and how many of them are a mark of it and no part of the
text. -/
def encodingOf : List UInt8 → Encoding × Nat
  | 0x00 :: 0x00 :: 0xFE :: 0xFF :: _ => (.utf32 true, 4)
  | 0xFF :: 0xFE :: 0x00 :: 0x00 :: _ => (.utf32 false, 4)
  | 0xFE :: 0xFF :: _ => (.utf16 true, 2)
  | 0xFF :: 0xFE :: _ => (.utf16 false, 2)
  | 0xEF :: 0xBB :: 0xBF :: _ => (.utf8, 3)
  | [a, b] => (if a = 0 then .utf16 true else if b = 0 then .utf16 false else .utf8, 0)
  | a :: b :: c :: d :: _ =>
    (if a = 0 then (if b = 0 then .utf32 true else .utf16 true)
      else if b = 0 then (if c = 0 ∧ d = 0 then .utf32 false else .utf16 false)
      else .utf8, 0)
  | _ => (.utf8, 0)

/-- Bytes that make up no code point, with their place. -/
structure DecodeFault where
  encoding : Encoding
  place : Nat
  bytes : List UInt8
  reason : String
deriving DecidableEq

def DecodeFault.message (f : DecodeFault) : String :=
  let what := match f.bytes with
    | [b] => "byte 0x" ++ String.ofList (hexDigits 2 b.toNat) ++ " in position " ++ toString f.place
    | bytes => "bytes in position " ++ toString f.place ++ "-" ++
        toString (f.place + bytes.length - 1)
  "'" ++ f.encoding.name ++ "' codec can't decode " ++ what ++ ": " ++ f.reason

def truncated : String := "truncated data"

def unit (highFirst : Bool) (a b : UInt8) : UInt16 :=
  if highFirst then (a.toNat * 0x100 + b.toNat).toUInt16 else (b.toNat * 0x100 + a.toNat).toUInt16

def unitsFrom (highFirst : Bool) : Nat → List UInt8 → Except DecodeFault (List Piece)
  | _, [] => .ok []
  | place, [a] => .error ⟨.utf16 highFirst, place, [a], truncated⟩
  | place, a :: b :: rest =>
    match unitsFrom highFirst (place + 2) rest with
    | .ok pieces => .ok (.unit (unit highFirst a b) :: pieces)
    | .error fault => .error fault

/-- The code points of bytes from a place on, four bytes each. -/
def wideMarksFrom (highFirst : Bool) : Nat → List UInt8 → Except DecodeFault (List Mark)
  | _, [] => .ok []
  | place, a :: b :: c :: d :: rest =>
    let high := unit highFirst a b
    let low := unit highFirst c d
    let code := if highFirst then high.toNat * 0x10000 + low.toNat
      else low.toNat * 0x10000 + high.toNat
    if code < 0x110000 then
      match wideMarksFrom highFirst (place + 4) rest with
      | .ok marks => .ok (markOfCode code :: marks)
      | .error fault => .error fault
    else .error ⟨.utf32 highFirst, place, [a, b, c, d], "code point not in range(0x110000)"⟩
  | place, bytes => .error ⟨.utf32 highFirst, place, bytes, truncated⟩

/-- A surrogate in three bytes, which UTF-8 has no room for. -/
def passed? (first : UInt8) : List UInt8 → Option Mark
  | a :: b :: _ =>
    if first = 0xED && 0xA0 ≤ a && a ≤ 0xBF && 0x80 ≤ b && b ≤ 0xBF then
      some (markOfCode (codeOf first [a, b]))
    else none
  | _ => none

/-- The first character in UTF-8 and how many bytes it takes after the first one; or the bytes that make up
none, and why. -/
def strictMark (first : UInt8) (rest : List UInt8) : Except (List UInt8 × String) (Mark × Nat) :=
  match following? first with
  | none => .error ([first], "invalid start byte")
  | some expected =>
    let found := matching expected rest
    if found.length = expected.length then
      .ok (.char (Char.ofNat (codeOf first found)), found.length)
    else if found.length = rest.length then .error (first :: found, "unexpected end of data")
    else .error (first :: found, "invalid continuation byte")

/-- The same, where a surrogate may stand for itself. -/
def narrowMark (first : UInt8) (rest : List UInt8) : Except (List UInt8 × String) (Mark × Nat) :=
  match passed? first rest with
  | some mark => .ok (mark, 2)
  | none => strictMark first rest

/-- The code points of bytes in UTF-8 from a place on, after some that the code point before has taken. -/
def marksFrom (mark : UInt8 → List UInt8 → Except (List UInt8 × String) (Mark × Nat)) (place : Nat) :
    Nat → List UInt8 → Except DecodeFault (List Mark)
  | _, [] => .ok []
  | taken + 1, _ :: rest => marksFrom mark (place + 1) taken rest
  | 0, first :: rest =>
    match mark first rest with
    | .error (bytes, reason) => .error ⟨.utf8, place, bytes, reason⟩
    | .ok (one, taken) =>
      match marksFrom mark (place + 1) taken rest with
      | .ok marks => .ok (one :: marks)
      | .error fault => .error fault

/-- Reads bytes in UTF-8.  A mark in front is a character like others. -/
def decodeUtf8 (bytes : Bytes) : Except DecodeFault Text :=
  (marksFrom strictMark 0 0 bytes.list).map Text.mk

/-- Reads bytes in the encoding that they seem to be in.  A mark in front of UTF-8 counts for no place. -/
def decode (bytes : Bytes) : Except DecodeFault Text :=
  let (encoding, signed) := encodingOf bytes.list
  let rest := bytes.list.drop signed
  match encoding with
  | .utf8 => (marksFrom narrowMark 0 0 rest).map Text.mk
  | .utf16 highFirst => (unitsFrom highFirst signed rest).map fun pieces => ⟨joined pieces⟩
  | .utf32 highFirst => (wideMarksFrom highFirst signed rest).map Text.mk

end SpatialQuery.Text
