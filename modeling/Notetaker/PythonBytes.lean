import Notetaker.PythonText

/-!
# Python bytes as lists of bytes

`decodeUtf8` is `bytes.decode` with `errors="replace"`: what does not continue a character becomes one
replacement character for each longest beginning of a character. `byteLines` are the lines that a
stream reader returns, each with its line feed; only the last one can be without.
-/

open PythonText

namespace PythonBytes

abbrev Bytes := List UInt8

/-- The decoder between two bytes: the continuation bytes still to come, the bits so far and the range
of the next byte. -/
structure Utf8Decoder where
  needed : ℕ
  bits : ℕ
  low : ℕ
  high : ℕ
  deriving DecidableEq

def betweenCharacters : Utf8Decoder := ⟨0, 0, 0x80, 0xbf⟩

def replacementCharacter : Char := Char.ofNat 0xfffd

def decodeLead (b : ℕ) : Text × Utf8Decoder :=
  if b < 0x80 then ([Char.ofNat b], betweenCharacters)
  else if b < 0xc2 then ([replacementCharacter], betweenCharacters)
  else if b < 0xe0 then ([], ⟨1, b - 0xc0, 0x80, 0xbf⟩)
  else if b < 0xf0 then
    ([], ⟨2, b - 0xe0, if b = 0xe0 then 0xa0 else 0x80, if b = 0xed then 0x9f else 0xbf⟩)
  else if b < 0xf5 then
    ([], ⟨3, b - 0xf0, if b = 0xf0 then 0x90 else 0x80, if b = 0xf4 then 0x8f else 0xbf⟩)
  else ([replacementCharacter], betweenCharacters)

/-- A byte that does not continue the character is read again between characters. -/
def decodeByte (d : Utf8Decoder) (b : ℕ) : Text × Utf8Decoder :=
  if d.needed = 0 then decodeLead b
  else if d.low ≤ b ∧ b ≤ d.high then
    if d.needed = 1 then ([Char.ofNat (d.bits * 64 + (b - 0x80))], betweenCharacters)
    else ([], ⟨d.needed - 1, d.bits * 64 + (b - 0x80), 0x80, 0xbf⟩)
  else (replacementCharacter :: (decodeLead b).1, (decodeLead b).2)

def decodeFrom : Utf8Decoder → Bytes → Text
  | d, [] => if d.needed = 0 then [] else [replacementCharacter]
  | d, b :: bs => (decodeByte d b.toNat).1 ++ decodeFrom (decodeByte d b.toNat).2 bs

/-- `raw.decode(errors="replace")` -/
def decodeUtf8 (raw : Bytes) : Text := decodeFrom betweenCharacters raw

def lineFeed : UInt8 := 10

def byteLines : Bytes → List Bytes
  | [] => []
  | b :: bs =>
      if b = lineFeed then [b] :: byteLines bs
      else
        match byteLines bs with
        | [] => [[b]]
        | line :: lines => (b :: line) :: lines

def lineSize (raw : Bytes) : ℕ := (raw.takeWhile (· ≠ lineFeed)).length

theorem flatten_byteLines (stream : Bytes) : (byteLines stream).flatten = stream := by
  induction stream with
  | nil => rfl
  | cons b bs ih =>
      rw [byteLines]
      split_ifs
      · rw [List.flatten_cons, ih, List.singleton_append]
      · cases hlines : byteLines bs with
        | nil =>
            rw [hlines] at ih
            rw [← ih]
            rfl
        | cons line lines =>
            rw [hlines] at ih
            rw [← ih]
            rfl

theorem byteLines_eq_singleton {stream : Bytes} (hne : stream ≠ []) (h : lineFeed ∉ stream) :
    byteLines stream = [stream] := by
  induction stream with
  | nil => exact absurd rfl hne
  | cons b bs ih =>
      rw [List.mem_cons, not_or] at h
      rw [byteLines, if_neg (Ne.symm h.1)]
      cases bs with
      | nil => rfl
      | cons c cs =>
          rw [ih (List.cons_ne_nil c cs) h.2]

theorem lineSize_eq_length {raw : Bytes} (h : lineFeed ∉ raw) : lineSize raw = raw.length := by
  rw [lineSize, List.takeWhile_eq_self_iff.2]
  intro b hb
  have hne : b ≠ lineFeed := fun hfeed => h (hfeed ▸ hb)
  simpa using hne

/-- A euro sign, a byte that begins no character, and a character that breaks off. -/
example : decodeUtf8 [0xe2, 0x82, 0xac, 0xff, 0xe2, 0x82, 0x41] =
    ['€', replacementCharacter, replacementCharacter, 'A'] := by decide

end PythonBytes
