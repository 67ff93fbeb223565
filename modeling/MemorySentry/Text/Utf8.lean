/-!
# Text in bytes

Bytes are cut into pieces: characters in UTF-8, and stray bytes that belong to no character. Stray
bytes that could have begun a character stay together in one piece, so that a reader who puts one
replacement character for each piece loses as little as possible.
-/

namespace MemorySentry.Text.Utf8

/-- A piece of a sequence of bytes. -/
inductive Piece where
  /-- A character. -/
  | char (c : Char)
  /-- Some bytes that belong to no character. -/
  | stray (count : Nat)
deriving DecidableEq

/-- The number of bytes after the first one of a character, by its first byte; none if no character
starts with it. -/
def tailLength? (first : Nat) : Option Nat :=
  if first < 0x80 then some 0
  else if first < 0xc2 then none
  else if first < 0xe0 then some 1
  else if first < 0xf0 then some 2
  else if first < 0xf5 then some 3
  else none

/-- Whether a byte may come second after a first byte. The ranges leave out long forms, surrogates
and numbers above the last character. -/
def maySecond (first second : Nat) : Bool :=
  let least := if first = 0xe0 then 0xa0 else if first = 0xf0 then 0x90 else 0x80
  let greatest := if first = 0xed then 0x9f else if first = 0xf4 then 0x8f else 0xbf
  least ≤ second && second ≤ greatest

/-- The bits that the first byte of a character with `tail` more bytes holds. -/
def firstBits (first tail : Nat) : Nat :=
  match tail with
  | 0 => first
  | 1 => first % 0x20
  | 2 => first % 0x10
  | _ => first % 0x08

/-- The piece at the start of a character of which `taken` bytes are known, with the bits `value`
so far; `missing` more bytes are due. -/
def pieceFrom (taken value : Nat) : (missing : Nat) → List UInt8 → Piece × List UInt8
  | 0, rest => (.char (Char.ofNat value), rest)
  | _ + 1, [] => (.stray taken, [])
  | missing + 1, b :: rest =>
    if 0x80 ≤ b.toNat ∧ b.toNat ≤ 0xbf then
      pieceFrom (taken + 1) (value * 64 + b.toNat % 64) missing rest
    else (.stray taken, b :: rest)

/-- The first piece and the bytes after it. -/
def firstPiece (b : UInt8) (rest : List UInt8) : Piece × List UInt8 :=
  match tailLength? b.toNat with
  | none => (.stray 1, rest)
  | some 0 => (.char (Char.ofNat b.toNat), rest)
  | some (tail + 1) =>
    match rest with
    | [] => (.stray 1, [])
    | second :: _ =>
      if maySecond b.toNat second.toNat then
        pieceFrom 1 (firstBits b.toNat (tail + 1)) (tail + 1) rest
      else (.stray 1, rest)

/-- The first pieces, at most `fuel` of them. -/
def piecesUpTo : (fuel : Nat) → List UInt8 → List Piece
  | 0, _ => []
  | _ + 1, [] => []
  | fuel + 1, b :: rest =>
    let (piece, rest) := firstPiece b rest
    piece :: piecesUpTo fuel rest

/-- The pieces of a sequence of bytes. There are at most as many as bytes. -/
def pieces (bytes : List UInt8) : List Piece :=
  piecesUpTo bytes.length bytes

/-- The character of a piece, if it is one. -/
def Piece.char? : Piece → Option Char
  | .char c => some c
  | .stray _ => none

/-- The characters of a piece, with `none` for each byte that belongs to none. -/
def Piece.symbols : Piece → List (Option Char)
  | .char c => [some c]
  | .stray count => List.replicate count none

/-- The text of bytes, if they are text. -/
def decode? (bytes : List UInt8) : Option String :=
  ((pieces bytes).mapM Piece.char?).map String.ofList

/-- The character that stands for bytes that belong to no character. -/
def replacement : Char := '\ufffd'

/-- The text of bytes, with a replacement character for each piece that is no character. -/
def decodeLossy (bytes : List UInt8) : String :=
  String.ofList ((pieces bytes).map fun p => p.char?.getD replacement)

/-- The characters of bytes, and `none` for each byte that belongs to no character. -/
def symbols (bytes : List UInt8) : List (Option Char) :=
  (pieces bytes).flatMap Piece.symbols

/-- The bytes of a text. -/
def encode (s : String) : List UInt8 :=
  s.toUTF8.toList

end MemorySentry.Text.Utf8
