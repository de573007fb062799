namespace SqlGateway.Text.Utf8

abbrev Bytes := List UInt8

def continuation (n : Nat) : UInt8 := (0x80 + n % 0x40).toUInt8

def encodeChar (c : Char) : Bytes :=
  let n := c.toNat
  if n < 0x80 then [n.toUInt8]
  else if n < 0x800 then [(0xc0 + n / 0x40).toUInt8, continuation n]
  else if n < 0x10000 then
    [(0xe0 + n / 0x1000).toUInt8, continuation (n / 0x40), continuation n]
  else
    [(0xf0 + n / 0x40000).toUInt8, continuation (n / 0x1000), continuation (n / 0x40),
      continuation n]

def encodeChars (cs : List Char) : Bytes := cs.flatMap encodeChar

def encode (s : String) : Bytes := encodeChars s.toList

def size : List Char → Nat
  | [] => 0
  | c :: cs => c.utf8Size + size cs

/-- What a first octet announces: its own bits, and the range of each octet that has to follow. -/
def announced (b : Nat) : Option (Nat × List (Nat × Nat)) :=
  let tail := (0x80, 0xbf)
  if b < 0x80 then some (b, [])
  else if b < 0xc2 then none
  else if b < 0xe0 then some (b - 0xc0, [tail])
  else if b == 0xe0 then some (0, [(0xa0, 0xbf), tail])
  else if b == 0xed then some (0xd, [(0x80, 0x9f), tail])
  else if b < 0xf0 then some (b - 0xe0, [tail, tail])
  else if b == 0xf0 then some (0, [(0x90, 0xbf), tail, tail])
  else if b < 0xf4 then some (b - 0xf0, [tail, tail, tail])
  else if b == 0xf4 then some (4, [(0x80, 0x8f), tail, tail])
  else none

def follow (n : Nat) : List (Nat × Nat) → Bytes → Option Nat × Bytes
  | [], bs => (some n, bs)
  | _ :: _, [] => (none, [])
  | (lo, hi) :: rs, b :: bs =>
    if lo ≤ b.toNat ∧ b.toNat ≤ hi then follow (n * 0x40 + b.toNat % 0x40) rs bs
    else (none, b :: bs)

theorem follow_length_le (n : Nat) (rs : List (Nat × Nat)) (bs : Bytes) :
    (follow n rs bs).2.length ≤ bs.length := by
  fun_induction follow n rs bs with
  | case1 => simp
  | case2 => simp
  | case3 n lo hi rs b bs _ ih => simp; omega
  | case4 => simp

def head (b : UInt8) (bs : Bytes) : Option Nat × Bytes :=
  match announced b.toNat with
  | some (n, ranges) => follow n ranges bs
  | none => (none, bs)

theorem head_length_le (b : UInt8) (bs : Bytes) : (head b bs).2.length ≤ bs.length := by
  unfold head
  split
  · exact follow_length_le _ _ _
  · simp

/-- Each longest start of a character that breaks off reads as one U+FFFD. -/
def decodeLossy : Bytes → List Char
  | [] => []
  | b :: bs =>
    have := head_length_le b bs
    (match (head b bs).1 with
      | some n => Char.ofNat n
      | none => '\ufffd') :: decodeLossy (head b bs).2
termination_by bs => bs.length
decreasing_by simp; omega

/-- Fails on the first start of a character that breaks off. -/
def decodeChars? : Bytes → Option (List Char)
  | [] => some []
  | b :: bs =>
    have := head_length_le b bs
    match (head b bs).1 with
    | some n => (decodeChars? (head b bs).2).map (Char.ofNat n :: ·)
    | none => none
termination_by bs => bs.length
decreasing_by simp; omega

def lossy (bs : Bytes) : String := String.ofList (decodeLossy bs)

def decode? (bs : Bytes) : Option String := (decodeChars? bs).map String.ofList

end SqlGateway.Text.Utf8
