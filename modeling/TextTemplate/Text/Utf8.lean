import TextTemplate.Text.Integer
import TextTemplate.Text.Quoted

/-!
Reading and writing UTF-8. The bytes of a character are a lead byte and one to three continuation bytes;
overlong forms, surrogates and code points above U+10FFFF are refused at the earliest byte that shows them.
Surrogates are not written either.
-/

namespace TextTemplate.Text

inductive DecodeReason where
  | start
  | continuation
  | unfinished
  deriving DecidableEq, Repr

def DecodeReason.text : DecodeReason → String
  | start => "invalid start byte"
  | continuation => "invalid continuation byte"
  | unfinished => "unexpected end of data"

structure DecodeError where
  position : Nat
  first : Nat
  count : Nat
  reason : DecodeReason
  deriving DecidableEq, Repr

def DecodeError.message (error : DecodeError) : String :=
  let place :=
    if error.count = 1 then
      " byte 0x".toList ++ hex 2 error.first ++ " in position ".toList ++ natural error.position
    else
      " bytes in position ".toList ++ natural error.position ++ ['-']
        ++ natural (error.position + error.count - 1)
  "'utf-8' codec can't decode" ++ String.ofList place ++ ": " ++ error.reason.text

structure ByteFault where
  count : Nat
  reason : DecodeReason

/-- How many continuation bytes follow a lead byte, the range of the first of them, and the bits that the
lead byte contributes. -/
def leadByte? (lead : Nat) : Option (Nat × Nat × Nat × Nat) :=
  if 0xc2 ≤ lead && lead ≤ 0xdf then some (1, 0x80, 0xbf, lead - 0xc0)
  else if 0xe0 ≤ lead && lead ≤ 0xef then
    some (2, if lead = 0xe0 then 0xa0 else 0x80, if lead = 0xed then 0x9f else 0xbf, lead - 0xe0)
  else if 0xf0 ≤ lead && lead ≤ 0xf4 then
    some (3, if lead = 0xf0 then 0x90 else 0x80, if lead = 0xf4 then 0x8f else 0xbf, lead - 0xf0)
  else none

def continuation (wanted least greatest taken code : Nat) (bytes : List Nat) : Except ByteFault Nat :=
  match wanted with
  | 0 => .ok code
  | wanted + 1 =>
    match bytes with
    | [] => .error ⟨taken, .unfinished⟩
    | byte :: rest =>
      if least ≤ byte && byte ≤ greatest then
        continuation wanted 0x80 0xbf (taken + 1) (64 * code + (byte - 0x80)) rest
      else .error ⟨taken, .continuation⟩

/-- The characters of bytes of which the first `skip` were read with the character before them. -/
def decodeFrom (position skip : Nat) : List Nat → Except DecodeError (List Char)
  | [] => .ok []
  | byte :: rest =>
    match skip with
    | skip + 1 => decodeFrom (position + 1) skip rest
    | 0 =>
      if byte < 0x80 then (decodeFrom (position + 1) 0 rest).map (Char.ofNat byte :: ·)
      else
        match leadByte? byte with
        | none => .error ⟨position, byte, 1, .start⟩
        | some (wanted, least, greatest, bits) =>
          match continuation wanted least greatest 1 bits rest with
          | .error fault => .error ⟨position, byte, fault.count, fault.reason⟩
          | .ok code => (decodeFrom (position + 1) wanted rest).map (Char.ofNat code :: ·)

def decode (bytes : List Nat) : Except DecodeError (List Char) :=
  decodeFrom 0 0 bytes

/-- Decoding as bytes arrive: an unfinished character at the end is looked at on its own, so its place is
counted from itself. -/
def decodeStream (bytes : List Nat) : Except DecodeError (List Char) :=
  (decode bytes).mapError fun error =>
    if error.reason = .unfinished then { error with position := 0 } else error

structure EncodeError where
  position : Nat
  first : Fin 2048
  count : Nat
  deriving DecidableEq, Repr

def EncodeError.message (error : EncodeError) : String :=
  let place :=
    if error.count = 1 then
      " '".toList ++ escapedPoint (.surrogate error.first) ++ "' in position ".toList ++ natural error.position
    else
      "s in position ".toList ++ natural error.position ++ ['-']
        ++ natural (error.position + error.count - 1)
  "'utf-8' codec can't encode character" ++ String.ofList place ++ ": surrogates not allowed"

def isSurrogate : CodePoint → Bool
  | .char _ => false
  | .surrogate _ => true

def encodeFrom (position : Nat) : Text → Except EncodeError (List Char)
  | [] => .ok []
  | .char c :: rest => (encodeFrom (position + 1) rest).map (c :: ·)
  | .surrogate index :: rest => .error ⟨position, index, (rest.takeWhile isSurrogate).length + 1⟩

def encode (text : Text) : Except EncodeError String :=
  (encodeFrom 0 text).map String.ofList

def unifyNewlines : List Char → List Char
  | [] => []
  | '\r' :: '\n' :: rest => '\n' :: unifyNewlines rest
  | '\r' :: rest => '\n' :: unifyNewlines rest
  | c :: rest => c :: unifyNewlines rest

end TextTemplate.Text
