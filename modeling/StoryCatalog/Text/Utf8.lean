import StoryCatalog.Text.Wide

/-!
# UTF-8

Bytes are read strictly: no overlong form, no surrogate, nothing beyond the last code point. The
first fault is reported with the positions of the bytes that could have begun a character. A text is
written unless it holds half a surrogate pair; in the name of a file some halves stand for a byte each.
-/

namespace StoryCatalog.Text

inductive DecodingFault where
  | invalidStart
  | invalidContinuation
  | unexpectedEnd
  deriving DecidableEq, Repr

/-- A fault in the bytes from `start` up to and without `stop`; `first` is the byte at `start`. -/
structure DecodingError where
  fault : DecodingFault
  first : UInt8
  start : Nat
  stop : Nat
  deriving DecidableEq, Repr

def DecodingFault.reason : DecodingFault → String
  | .invalidStart => "invalid start byte"
  | .invalidContinuation => "invalid continuation byte"
  | .unexpectedEnd => "unexpected end of data"

def DecodingError.message (e : DecodingError) : String :=
  if e.stop = e.start + 1 then
    "'utf-8' codec can't decode byte 0x" ++ String.ofList (hexDigits e.first.toNat 2) ++ " in position " ++
      toString e.start ++ ": " ++ e.fault.reason
  else
    "'utf-8' codec can't decode bytes in position " ++ toString e.start ++ "-" ++
      toString (e.stop - 1) ++ ": " ++ e.fault.reason

def isContinuation (b : UInt8) : Bool :=
  0x80 ≤ b && b ≤ 0xBF

/-- The low six bits of a continuation byte. -/
def payload (b : UInt8) : Nat :=
  b.toNat % 64

/-- Whether `b` may be the second byte after `first`: the narrower ranges keep out overlong forms,
surrogates and code points past the last. -/
def isSecond (first b : UInt8) : Bool :=
  isContinuation b && !(first == 0xE0 && b < 0xA0) && !(first == 0xED && b ≥ 0xA0) &&
    !(first == 0xF0 && b < 0x90) && !(first == 0xF4 && b ≥ 0x90)

/-- The bytes at `pos` and after as characters. -/
def decodeFrom (pos : Nat) : List UInt8 → Except DecodingError (List Char)
  | [] => .ok []
  | a :: rest =>
    let fail (fault : DecodingFault) (width : Nat) : Except DecodingError (List Char) :=
      .error ⟨fault, a, pos, pos + width⟩
    if a < 0x80 then (Char.ofNat a.toNat :: ·) <$> decodeFrom (pos + 1) rest
    else if a < 0xC2 || a > 0xF4 then fail .invalidStart 1
    else if a < 0xE0 then
      match rest with
      | [] => fail .unexpectedEnd 1
      | b :: rest =>
        if !isContinuation b then fail .invalidContinuation 1
        else (Char.ofNat (a.toNat % 32 * 64 + payload b) :: ·) <$> decodeFrom (pos + 2) rest
    else if a < 0xF0 then
      match rest with
      | [] => fail .unexpectedEnd 1
      | [b] => if !isSecond a b then fail .invalidContinuation 1 else fail .unexpectedEnd 2
      | b :: c :: rest =>
        if !isSecond a b then fail .invalidContinuation 1
        else if !isContinuation c then fail .invalidContinuation 2
        else (Char.ofNat (a.toNat % 16 * 4096 + payload b * 64 + payload c) :: ·) <$>
          decodeFrom (pos + 3) rest
    else
      match rest with
      | [] => fail .unexpectedEnd 1
      | [b] => if !isSecond a b then fail .invalidContinuation 1 else fail .unexpectedEnd 2
      | [b, c] =>
        if !isSecond a b then fail .invalidContinuation 1
        else if !isContinuation c then fail .invalidContinuation 2
        else fail .unexpectedEnd 3
      | b :: c :: d :: rest =>
        if !isSecond a b then fail .invalidContinuation 1
        else if !isContinuation c then fail .invalidContinuation 2
        else if !isContinuation d then fail .invalidContinuation 3
        else (Char.ofNat (a.toNat % 8 * 262144 + payload b * 4096 + payload c * 64 + payload d) :: ·)
          <$> decodeFrom (pos + 4) rest

def decodeUtf8 (bytes : List UInt8) : Except DecodingError (List Char) :=
  decodeFrom 0 bytes

/-- The bytes of a text. -/
def encodeUtf8 (text : String) : List UInt8 :=
  text.toUTF8.toList

/-- Halves in a row that cannot be written, `first` at `start` and the last before `stop`. -/
structure EncodingError where
  first : Half
  start : Nat
  stop : Nat
  deriving DecidableEq, Repr

def EncodingError.message (e : EncodingError) : String :=
  if e.stop = e.start + 1 then
    "'utf-8' codec can't encode character '" ++ String.ofList e.first.escape ++ "' in position " ++
      toString e.start ++ ": surrogates not allowed"
  else
    "'utf-8' codec can't encode characters in position " ++ toString e.start ++ "-" ++
      toString (e.stop - 1) ++ ": surrogates not allowed"

/-- How many halves stand at the front. -/
def halfCount : List TextUnit → Nat
  | .lone _ :: rest => halfCount rest + 1
  | _ => 0

/-- The first halves at `pos` and after that cannot be written, where those of a kind can. -/
def faultFrom? (written : Half → Bool) (pos : Nat) : List TextUnit → Option EncodingError
  | [] => none
  | .char _ :: rest => faultFrom? written (pos + 1) rest
  | .lone half :: rest =>
    if written half then faultFrom? written (pos + 1) rest
    else some ⟨half, pos, pos + halfCount rest + 1⟩

/-- What keeps a text from being encoded. -/
def encodingFault? (text : WideText) : Option EncodingError :=
  faultFrom? (fun _ => false) 0 text.units

/-- What keeps a text from being the path of a file. -/
def pathFault? (text : WideText) : Option EncodingError :=
  faultFrom? (·.byte?.isSome) 0 text.units

theorem faultFrom?_chars (written : Half → Bool) (pos : Nat) (chars : List Char) :
    faultFrom? written pos (chars.map .char) = none := by
  induction chars generalizing pos with
  | nil => rfl
  | cons c chars ih => exact ih (pos + 1)

@[simp] theorem encodingFault?_whole (text : String) : encodingFault? (.whole text) = none :=
  faultFrom?_chars ..

@[simp] theorem pathFault?_whole (text : String) : pathFault? (.whole text) = none :=
  faultFrom?_chars ..

end StoryCatalog.Text
