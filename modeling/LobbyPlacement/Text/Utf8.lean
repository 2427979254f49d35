/-!
# UTF-8

Text as bytes and back. `next` reads one scalar value and refuses over-long forms, surrogates and
values past U+10FFFF; strict and lossy decoding both iterate it.
-/

namespace LobbyPlacement.Text.Utf8

abbrev Bytes := List UInt8

def encode (s : String) : Bytes := s.toList.flatMap String.utf8EncodeChar

/-- What the front of a byte string holds. A broken sequence has the length of its longest start
that some well-formed sequence shares, at least one byte. -/
inductive Front
  | done
  | scalar (c : Char) (width : Nat)
  | broken (width : Nat)

def isContinuation (b : UInt8) : Bool := 0x80 ≤ b && b ≤ 0xbf

/-- The second bytes that may follow a lead byte of a longer sequence. -/
def secondFits (lead second : UInt8) : Bool :=
  if lead = 0xe0 then 0xa0 ≤ second && second ≤ 0xbf
  else if lead = 0xed then 0x80 ≤ second && second ≤ 0x9f
  else if lead = 0xf0 then 0x90 ≤ second && second ≤ 0xbf
  else if lead = 0xf4 then 0x80 ≤ second && second ≤ 0x8f
  else isContinuation second

/-- The value of continuation bytes after the bits of the lead byte. -/
def scalarValue (lead : Nat) (tail : Bytes) : Char :=
  Char.ofNat (tail.foldl (fun value b => value * 64 + b.toNat % 64) lead)

def next : Bytes → Front
  | [] => .done
  | b :: rest =>
    if b < 0x80 then .scalar (Char.ofNat b.toNat) 1
    else if 0xc2 ≤ b && b ≤ 0xdf then
      match rest with
      | c :: _ => if isContinuation c then .scalar (scalarValue (b.toNat % 32) [c]) 2 else .broken 1
      | [] => .broken 1
    else if 0xe0 ≤ b && b ≤ 0xef then
      match rest with
      | c :: d :: _ =>
        if !secondFits b c then .broken 1
        else if isContinuation d then .scalar (scalarValue (b.toNat % 16) [c, d]) 3
        else .broken 2
      | [c] => if secondFits b c then .broken 2 else .broken 1
      | [] => .broken 1
    else if 0xf0 ≤ b && b ≤ 0xf4 then
      match rest with
      | c :: d :: e :: _ =>
        if !secondFits b c then .broken 1
        else if !isContinuation d then .broken 2
        else if isContinuation e then .scalar (scalarValue (b.toNat % 8) [c, d, e]) 4
        else .broken 3
      | [c, d] =>
        if !secondFits b c then .broken 1 else if isContinuation d then .broken 3 else .broken 2
      | [c] => if secondFits b c then .broken 2 else .broken 1
      | [] => .broken 1
    else .broken 1

/-- `skip` bytes of the front still belong to the scalar before. The error is the number of bytes
before the first broken sequence. -/
def decodeFrom (position : Nat) : (skip : Nat) → Bytes → Except Nat (List Char)
  | _, [] => .ok []
  | skip + 1, _ :: rest => decodeFrom (position + 1) skip rest
  | 0, b :: rest =>
    match next (b :: rest) with
    | .scalar c width => (decodeFrom (position + 1) (width - 1) rest).map (c :: ·)
    | _ => .error position

def decode (bytes : Bytes) : Except Nat String := (decodeFrom 0 0 bytes).map String.ofList

def decodeLossyFrom : (skip : Nat) → Bytes → List Char
  | _, [] => []
  | skip + 1, _ :: rest => decodeLossyFrom skip rest
  | 0, b :: rest =>
    match next (b :: rest) with
    | .scalar c width => c :: decodeLossyFrom (width - 1) rest
    | .broken width => '\uFFFD' :: decodeLossyFrom (width - 1) rest
    | .done => []

/-- Decoding with each broken sequence replaced by U+FFFD. -/
def decodeLossy (bytes : Bytes) : String := String.ofList (decodeLossyFrom 0 bytes)

end LobbyPlacement.Text.Utf8
