import Anslp.Lib.Words

/-!
# Message buffers and information element errors

The buffer every element of a message is read from and written to, and the
errors that reading and writing report.  A buffer has fewer than `2 ^ 32` bytes
and a position; reading and writing fail when too few bytes are left and leave
the position alone then.

Main results:

- Theorem {lit}`write_bind_write`: two writes in a row are one write.
- Theorems {lit}`decode32_eq` and {lit}`decode32_error_iff`: reading a word.

Current gaps:

- None for the functions that objects and messages use.
-/

namespace Anslp

/-- The categories of information elements the errors refer to. -/
inductive Category
  | anslpMsg
  | anslpObject
deriving DecidableEq, Repr

/-- Errors that parsing and serializing report. -/
inductive IEError
  | wrongType
  | wrongSubtype
  | objSetFailed
  | checkFailed
  | msgTooShort (category : Category) (pos : Nat)
  | pduSyntaxError (category : Category) (type subtype : UInt16) (pos : Nat) (text : String)
deriving DecidableEq, Repr

/-- The list that errors found while parsing are appended to. -/
abbrev IEErrorList := List IEError

/-- Append an error. -/
def IEErrorList.put (err : IEErrorList) (e : IEError) : IEErrorList :=
  err ++ [e]

/-- The only error of a buffer: too few bytes are left. -/
inductive NetMsgError
  | tooShort
deriving DecidableEq, Repr

/-- A buffer with the bytes before and after its position. -/
@[ext]
structure NetMsg where
  done : List UInt8
  left : List UInt8
  size_lt : done.length + left.length < 2 ^ 32

namespace NetMsg

/-- The position, counted from the start of the buffer. -/
def pos (m : NetMsg) : Nat :=
  m.done.length

/-- Number of bytes from the position to the end. -/
def bytesLeft (m : NetMsg) : Nat :=
  m.left.length

/-- Move the position forward, to the end of the buffer at most. -/
def advance (m : NetMsg) (n : Nat) : NetMsg where
  done := m.done ++ m.left.take n
  left := m.left.drop n
  size_lt := by
    have h := m.size_lt
    simp only [List.length_append, List.length_take, List.length_drop]
    omega

/-- Read a 32 bit word without moving the position. -/
def peek32 (m : NetMsg) : Except NetMsgError UInt32 :=
  match m.left with
  | b₀ :: b₁ :: b₂ :: b₃ :: _ => .ok (Words.word32 b₀ b₁ b₂ b₃)
  | _ => .error .tooShort

/-- Read a 32 bit word and move the position behind it. -/
def decode32 (m : NetMsg) : Except NetMsgError (UInt32 × NetMsg) :=
  match m.peek32 with
  | .ok w => .ok (w, m.advance 4)
  | .error e => .error e

/-- Overwrite the bytes at the position and move it behind them. -/
def write (m : NetMsg) (bs : List UInt8) : Except NetMsgError NetMsg :=
  if h : bs.length ≤ m.left.length then
    .ok {
      done := m.done ++ bs
      left := m.left.drop bs.length
      size_lt := by
        have hm := m.size_lt
        simp only [List.length_append, List.length_drop]
        omega }
  else .error .tooShort

/-- Write one byte. -/
def encode8 (m : NetMsg) (b : UInt8) : Except NetMsgError NetMsg :=
  m.write [b]

/-- Write a 16 bit word. -/
def encode16 (m : NetMsg) (w : UInt16) : Except NetMsgError NetMsg :=
  m.write (Words.bytes16 w)

/-- Write a 32 bit word. -/
def encode32 (m : NetMsg) (w : UInt32) : Except NetMsgError NetMsg :=
  m.write (Words.bytes32 w)

/-- A buffer that holds exactly the given bytes, with its position at the start. -/
def ofBytes (bs : List UInt8) (h : bs.length < 2 ^ 32) : NetMsg where
  done := []
  left := bs
  size_lt := by simpa using h

/-- A fresh buffer with room for the given number of bytes. -/
def alloc (n : Nat) (h : n < 2 ^ 32) : NetMsg :=
  ofBytes (List.replicate n 0) (by simpa using h)

/-- The bytes written since a position, as a buffer to be read. -/
def writtenFrom (m : NetMsg) (start : Nat) : NetMsg where
  done := []
  left := m.done.drop start
  size_lt := by
    have h := m.size_lt
    simp only [List.length_nil, List.length_drop]
    omega

/-! ## Reading -/

@[simp]
theorem left_advance (m : NetMsg) (n : Nat) : (m.advance n).left = m.left.drop n :=
  rfl

@[simp]
theorem pos_advance (m : NetMsg) (n : Nat) :
    (m.advance n).pos = m.pos + min n m.left.length := by
  simp [advance, pos]

/-- Moving forward twice. -/
theorem advance_advance (m : NetMsg) (j k : Nat) :
    (m.advance j).advance k = m.advance (j + k) := by
  ext1
  · simp only [advance, List.append_assoc, List.take_add]
  · simp only [advance, List.drop_drop]

/-- What is left behind a word. -/
theorem left_advance_four {m : NetMsg} {w : UInt32} {rest : List UInt8}
    (h : m.left = Words.bytes32 w ++ rest) : (m.advance 4).left = rest := by
  simp [h, Words.bytes32]

@[simp]
theorem bytesLeft_alloc {n : Nat} (h : n < 2 ^ 32) : (alloc n h).bytesLeft = n := by
  simp [alloc, ofBytes, bytesLeft]

theorem bytesLeft_lt (m : NetMsg) : m.bytesLeft < 2 ^ 32 := by
  have h := m.size_lt
  simp only [bytesLeft]
  omega

/-- Four bytes at the position are read as their big-endian word. -/
theorem peek32_eq {m : NetMsg} {w : UInt32} {rest : List UInt8}
    (h : m.left = Words.bytes32 w ++ rest) : m.peek32 = .ok w := by
  simp only [peek32, h, Words.bytes32, List.cons_append, List.nil_append]
  rw [Words.word32_bytes32]

theorem decode32_eq {m : NetMsg} {w : UInt32} {rest : List UInt8}
    (h : m.left = Words.bytes32 w ++ rest) : m.decode32 = .ok (w, m.advance 4) := by
  simp only [decode32, peek32_eq h]

/-- A successful read found the bytes of its word. -/
theorem left_of_peek32 {m : NetMsg} {w : UInt32} (h : m.peek32 = .ok w) :
    ∃ rest, m.left = Words.bytes32 w ++ rest := by
  unfold peek32 at h
  split at h
  · rename_i b₀ b₁ b₂ b₃ rest heq
    cases h
    exact ⟨rest, by rw [heq, Words.bytes32_word32]; rfl⟩
  · cases h

/-- Reading fails exactly when fewer than four bytes are left. -/
theorem peek32_error_iff {m : NetMsg} {e : NetMsgError} :
    m.peek32 = .error e ↔ m.bytesLeft < 4 := by
  cases e
  constructor
  · intro h
    by_contra hlen
    unfold peek32 at h
    split at h
    · cases h
    · rename_i hshort
      rcases hm : m.left with _ | ⟨b₀, _ | ⟨b₁, _ | ⟨b₂, _ | ⟨b₃, rest⟩⟩⟩⟩
      · simp [bytesLeft, hm] at hlen
      · simp [bytesLeft, hm] at hlen
      · simp [bytesLeft, hm] at hlen
      · simp [bytesLeft, hm] at hlen
      · exact hshort b₀ b₁ b₂ b₃ rest hm
  · intro hlen
    cases h : m.peek32 with
    | error e => rfl
    | ok w =>
        obtain ⟨rest, hrest⟩ := left_of_peek32 h
        simp only [bytesLeft, hrest, List.length_append, Words.length_bytes32] at hlen
        omega

theorem decode32_error_iff {m : NetMsg} {e : NetMsgError} :
    m.decode32 = .error e ↔ m.bytesLeft < 4 := by
  rw [← peek32_error_iff (e := e), decode32]
  cases m.peek32 <;> simp

/-! ## Writing -/

theorem write_eq {m : NetMsg} (bs : List UInt8) (h : bs.length ≤ m.bytesLeft) :
    ∃ m', m.write bs = .ok m' ∧ m'.done = m.done ++ bs ∧ m'.left = m.left.drop bs.length := by
  have hlen : bs.length ≤ m.left.length := h
  cases hw : m.write bs with
  | error e => simp [write, hlen] at hw
  | ok m' =>
      simp only [write, hlen, ↓reduceDIte, Except.ok.injEq] at hw
      subst hw
      exact ⟨_, rfl, rfl, rfl⟩

/-- What a successful write leaves. -/
theorem of_write {m m' : NetMsg} {bs : List UInt8} (h : m.write bs = .ok m') :
    bs.length ≤ m.bytesLeft ∧ m'.done = m.done ++ bs ∧ m'.left = m.left.drop bs.length := by
  unfold write at h
  split at h
  · rename_i hlen
    cases h
    exact ⟨hlen, rfl, rfl⟩
  · cases h

/-- What was written since the position before a write are the bytes of the write. -/
theorem left_writtenFrom {m m' : NetMsg} {bs : List UInt8} (h : m.write bs = .ok m') :
    (m'.writtenFrom m.pos).left = bs := by
  obtain ⟨_, hdone, _⟩ := of_write h
  simp [writtenFrom, hdone, pos]

theorem write_error {m : NetMsg} {bs : List UInt8} (h : m.bytesLeft < bs.length) :
    m.write bs = .error .tooShort := by
  simp only [bytesLeft] at h
  simp [write, Nat.not_le.mpr h]

/-- Two writes in a row are one write. -/
theorem write_bind_write (m : NetMsg) (as bs : List UInt8) :
    (m.write as >>= fun m' => m'.write bs) = m.write (as ++ bs) := by
  by_cases hab : (as ++ bs).length ≤ m.bytesLeft
  · have ha : as.length ≤ m.bytesLeft := by
      simp only [List.length_append] at hab
      omega
    obtain ⟨m₁, h₁, hdone₁, hleft₁⟩ := write_eq as ha
    have hb : bs.length ≤ m₁.bytesLeft := by
      simp only [bytesLeft, hleft₁, List.length_drop] at hab ⊢
      simp only [List.length_append] at hab
      omega
    obtain ⟨m₂, h₂, hdone₂, hleft₂⟩ := write_eq bs hb
    obtain ⟨m₃, h₃, hdone₃, hleft₃⟩ := write_eq (as ++ bs) hab
    rw [h₃]
    simp only [h₁, bind, Except.bind, h₂, Except.ok.injEq]
    ext1
    · rw [hdone₂, hdone₁, hdone₃, List.append_assoc]
    · rw [hleft₂, hleft₁, hleft₃, List.drop_drop, List.length_append]
  · rw [write_error (Nat.not_le.mp hab)]
    by_cases ha : as.length ≤ m.bytesLeft
    · obtain ⟨m₁, h₁, _, hleft₁⟩ := write_eq as ha
      simp only [h₁, bind, Except.bind]
      apply write_error
      simp only [bytesLeft, hleft₁, List.length_drop]
      simp only [bytesLeft, List.length_append] at hab ha
      omega
    · rw [write_error (Nat.not_le.mp ha)]
      rfl

theorem write_append_eq_ok_iff {m m'' : NetMsg} {as bs : List UInt8} :
    m.write (as ++ bs) = .ok m'' ↔ ∃ m', m.write as = .ok m' ∧ m'.write bs = .ok m'' := by
  rw [← write_bind_write]
  cases m.write as <;> simp [bind, Except.bind]

theorem write_nil (m : NetMsg) : m.write [] = .ok m := by
  obtain ⟨m', h, hdone, hleft⟩ := write_eq (m := m) [] (Nat.zero_le _)
  rw [h, Except.ok.injEq]
  ext1
  · simpa using hdone
  · simpa using hleft

end NetMsg

end Anslp
