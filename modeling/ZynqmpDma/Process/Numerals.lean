import ZynqmpDma.Process.Mapping

namespace ZynqmpDma

def decimal (text : List Char) : Option ℕ :=
  if text ≠ [] ∧ text.all isDecDigit then some (digitsValue 10 text) else none

def hexDigits : List Char → List Char
  | '0' :: 'x' :: digits => digits
  | '0' :: 'X' :: digits => digits
  | digits => digits

def hexadecimal (text : List Char) : Option ℕ :=
  if hexDigits text ≠ [] ∧ (hexDigits text).all isHexDigit then
    some (digitsValue 16 (hexDigits text))
  else none

theorem isHexDigit_of_isDecDigit {c : Char} (digit : isDecDigit c = true) :
    isHexDigit c = true := by
  simp only [isHexDigit, isDecDigit] at digit ⊢
  simp only [digit, Bool.true_or]

theorem isspace_of_isHexDigit {c : Char} (digit : isHexDigit c = true) : isspace c = false := by
  by_contra space
  simp only [isspace, Bool.or_eq_true, decide_eq_true_eq, Bool.not_eq_false] at space
  rcases space with ((((rfl | rfl) | rfl) | rfl) | rfl) | rfl <;> revert digit <;> decide

theorem ne_of_isHexDigit {c : Char} (other : Char) (digit : isHexDigit c = true)
    (noDigit : isHexDigit other = false) : c ≠ other := by
  rintro rfl
  rw [digit] at noDigit
  cases noDigit

theorem takeSign_digit {c : Char} (digit : isHexDigit c = true) (rest : List Char) :
    takeSign ((c :: rest).dropWhile isspace) = (false, c :: rest) := by
  have minus := ne_of_isHexDigit '-' digit (by decide)
  have plus := ne_of_isHexDigit '+' digit (by decide)
  rw [List.dropWhile_cons_of_neg (by rw [isspace_of_isHexDigit digit]; decide)]
  unfold takeSign
  split
  · exact absurd (List.cons.inj ‹_›).1 minus
  · exact absurd (List.cons.inj ‹_›).1 plus
  · rfl

theorem takeWhile_digits {isDigit : Char → Bool} {digits rest : List Char}
    (all : digits.all isDigit = true) (stop : isDigit '\n' = false) :
    (digits ++ '\n' :: rest).takeWhile isDigit = digits := by
  rw [List.takeWhile_append_of_pos (List.all_eq_true.mp all),
    List.takeWhile_cons_of_neg (by rw [stop]; decide), List.append_nil]

theorem scanD_of_decimal {text rest : List Char} {n : ℕ} (target : BitVec 32)
    (number : decimal text = some n) : scanD (text ++ '\n' :: rest) target = BitVec.ofNat 32 n := by
  unfold decimal at number
  split at number
  next digits =>
    rcases digits with ⟨nonempty, all⟩
    obtain ⟨c, cs, rfl⟩ := List.exists_cons_of_ne_nil nonempty
    have first : isDecDigit c = true := List.all_eq_true.mp all c List.mem_cons_self
    have sign := takeSign_digit (isHexDigit_of_isDecDigit first) (cs ++ '\n' :: rest)
    rw [← List.cons_append] at sign
    simp only [scanD, sign, takeWhile_digits all (by decide), storeScanned, nonempty, ite_false,
      Bool.false_eq_true]
    cases number
    rfl
  next => cases number

theorem dropHexPrefix_cons {a b : Char} (rest : List Char) (lower : b ≠ 'x') (upper : b ≠ 'X') :
    dropHexPrefix (a :: b :: rest) = a :: b :: rest := by
  unfold dropHexPrefix
  split
  · exact absurd (List.cons.inj (List.cons.inj ‹_›).2).1 lower
  · exact absurd (List.cons.inj (List.cons.inj ‹_›).2).1 upper
  · rfl

theorem dropHexPrefix_digits {c : Char} {digits rest : List Char}
    (all : digits.all isHexDigit = true) :
    dropHexPrefix (c :: digits ++ '\n' :: rest) = c :: digits ++ '\n' :: rest := by
  cases digits with
  | nil => exact dropHexPrefix_cons rest (by decide) (by decide)
  | cons d digits =>
    have digit : isHexDigit d = true := List.all_eq_true.mp all d List.mem_cons_self
    exact dropHexPrefix_cons _ (ne_of_isHexDigit 'x' digit (by decide))
      (ne_of_isHexDigit 'X' digit (by decide))

/-- `sscanf` skips the prefix exactly where the number has one. -/
theorem dropHexPrefix_eq {text rest : List Char} (nonempty : hexDigits text ≠ [])
    (all : (hexDigits text).all isHexDigit = true) :
    dropHexPrefix (text ++ '\n' :: rest) = hexDigits text ++ '\n' :: rest := by
  unfold hexDigits at nonempty all ⊢
  split at nonempty
  next digits =>
    obtain ⟨c, cs, rfl⟩ := List.exists_cons_of_ne_nil nonempty
    have digit : isHexDigit c = true := List.all_eq_true.mp all c List.mem_cons_self
    simp only [List.cons_append, dropHexPrefix, digit, ite_true]
  next digits =>
    obtain ⟨c, cs, rfl⟩ := List.exists_cons_of_ne_nil nonempty
    have digit : isHexDigit c = true := List.all_eq_true.mp all c List.mem_cons_self
    simp only [List.cons_append, dropHexPrefix, digit, ite_true]
  next text noLower noUpper =>
    obtain ⟨c, cs, rfl⟩ := List.exists_cons_of_ne_nil nonempty
    simp only [List.all_cons, Bool.and_eq_true] at all
    exact dropHexPrefix_digits all.2

theorem hexDigits_head {text : List Char} (nonempty : hexDigits text ≠ [])
    (all : (hexDigits text).all isHexDigit = true) :
    ∃ c cs, text = c :: cs ∧ isHexDigit c = true := by
  unfold hexDigits at nonempty all
  split at nonempty
  next digits => exact ⟨'0', _, rfl, by decide⟩
  next digits => exact ⟨'0', _, rfl, by decide⟩
  next text noLower noUpper =>
    obtain ⟨c, cs, rfl⟩ := List.exists_cons_of_ne_nil nonempty
    simp only [List.all_cons, Bool.and_eq_true] at all
    exact ⟨c, cs, rfl, all.1⟩

theorem scanX_of_hexadecimal {text rest : List Char} {n : ℕ} (target : BitVec 32)
    (number : hexadecimal text = some n) :
    scanX (text ++ '\n' :: rest) target = BitVec.ofNat 32 n := by
  unfold hexadecimal at number
  split at number
  next digits =>
    rcases digits with ⟨nonempty, all⟩
    obtain ⟨c, cs, shape, first⟩ := hexDigits_head nonempty all
    have sign := takeSign_digit first (cs ++ '\n' :: rest)
    rw [← List.cons_append, ← shape] at sign
    simp only [scanX, sign, dropHexPrefix_eq nonempty all, takeWhile_digits all (by decide),
      storeScanned, nonempty, ite_false, Bool.false_eq_true]
    cases number
    rfl
  next => cases number

example : scanX ['0', 'x', '7', 'f', '0', '\n'] 0 = 0x7F0 := by decide

theorem Attr.buffer_line {attr : Attr} {line : List Char} (text : attr.text = line ++ ['\n'])
    (short : line.length + 1 < 1024) (noNul : '\x00' ∉ line) :
    ∃ rest, attr.buffer = line ++ '\n' :: rest := by
  have length : (line ++ ['\n']).length ≤ 1024 := by
    rw [List.length_append, List.length_singleton]
    omega
  have filled : attr.text.take 1024 = line ++ ['\n'] := by
    rw [text, List.take_of_length_le length]
  have printable : ∀ c ∈ line ++ ['\n'], decide (c ≠ '\x00') = true := by
    intro c member
    rcases List.mem_append.mp member with member | member
    · exact decide_eq_true fun nul => noNul (nul ▸ member)
    · rw [List.mem_singleton.mp member]
      decide
  rw [buffer, filled, List.takeWhile_append_of_pos printable, List.append_assoc]
  exact ⟨_, rfl⟩

theorem notMem_nul_of_decimal {text : List Char} {n : ℕ} (number : decimal text = some n) :
    '\x00' ∉ text := by
  unfold decimal at number
  split at number
  next digits =>
    intro member
    have digit := List.all_eq_true.mp digits.2 _ member
    revert digit
    decide
  next => cases number

theorem notMem_nul_of_hexadecimal {text : List Char} {n : ℕ}
    (number : hexadecimal text = some n) : '\x00' ∉ text := by
  unfold hexadecimal at number
  split at number
  next digits =>
    have absent : '\x00' ∉ hexDigits text := by
      intro member
      have digit := List.all_eq_true.mp digits.2 _ member
      revert digit
      decide
    intro member
    apply absent
    unfold hexDigits
    split
    · simpa using member
    · simpa using member
    · exact member
  next => cases number

end ZynqmpDma
