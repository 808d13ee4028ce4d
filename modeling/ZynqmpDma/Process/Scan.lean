import Mathlib.Data.List.Basic

namespace ZynqmpDma

def isspace (c : Char) : Bool :=
  c = ' ' || c = '\t' || c = '\n' || c = '\x0b' || c = '\x0c' || c = '\r'

def digitValue (c : Char) : ℕ :=
  if '0' ≤ c ∧ c ≤ '9' then c.toNat - '0'.toNat
  else if 'a' ≤ c ∧ c ≤ 'f' then c.toNat - 'a'.toNat + 10
  else if 'A' ≤ c ∧ c ≤ 'F' then c.toNat - 'A'.toNat + 10
  else 0

def isDecDigit (c : Char) : Bool := '0' ≤ c && c ≤ '9'

def isHexDigit (c : Char) : Bool :=
  ('0' ≤ c && c ≤ '9') || ('a' ≤ c && c ≤ 'f') || ('A' ≤ c && c ≤ 'F')

def digitsValue (base : ℕ) (digits : List Char) : ℕ :=
  digits.foldl (fun value c => base * value + digitValue c) 0

def takeSign : List Char → Bool × List Char
  | '-' :: rest => (true, rest)
  | '+' :: rest => (false, rest)
  | text => (false, text)

def dropHexPrefix : List Char → List Char
  | '0' :: 'x' :: c :: rest => if isHexDigit c then c :: rest else '0' :: 'x' :: c :: rest
  | '0' :: 'X' :: c :: rest => if isHexDigit c then c :: rest else '0' :: 'X' :: c :: rest
  | text => text

/-- The low 32 bits of the scanned number; without a digit the target keeps its value. -/
def storeScanned (base : ℕ) (negative : Bool) (digits : List Char) (target : BitVec 32) :
    BitVec 32 :=
  if digits = [] then target
  else if negative then -BitVec.ofNat 32 (digitsValue base digits)
  else BitVec.ofNat 32 (digitsValue base digits)

def scanD (text : List Char) (target : BitVec 32) : BitVec 32 :=
  let (negative, rest) := takeSign (text.dropWhile isspace)
  storeScanned 10 negative (rest.takeWhile isDecDigit) target

def scanX (text : List Char) (target : BitVec 32) : BitVec 32 :=
  let (negative, rest) := takeSign (text.dropWhile isspace)
  storeScanned 16 negative ((dropHexPrefix rest).takeWhile isHexDigit) target

end ZynqmpDma
