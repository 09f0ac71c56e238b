/-! UTF-8, read strictly or with U+FFFD in place of what is malformed. -/
namespace ReleaseAudit
namespace Text
namespace Utf8

/-- What a first byte announces: the bytes still to come, the bounds of the next one and the
bits of the code point gathered so far. -/
structure Lead where
  more : Nat
  low : Nat
  high : Nat
  bits : Nat
  deriving DecidableEq, Repr

def lead? (b : UInt8) : Option Lead :=
  let n := b.toNat
  if n ≤ 0x7f then some ⟨0, 0x80, 0xbf, n⟩
  else if n ≤ 0xc1 then none
  else if n ≤ 0xdf then some ⟨1, 0x80, 0xbf, n % 0x20⟩
  else if n = 0xe0 then some ⟨2, 0xa0, 0xbf, 0⟩
  else if n = 0xed then some ⟨2, 0x80, 0x9f, 0xd⟩
  else if n ≤ 0xef then some ⟨2, 0x80, 0xbf, n % 0x10⟩
  else if n = 0xf0 then some ⟨3, 0x90, 0xbf, 0⟩
  else if n ≤ 0xf3 then some ⟨3, 0x80, 0xbf, n % 8⟩
  else if n = 0xf4 then some ⟨3, 0x80, 0x8f, 4⟩
  else none

/-- The continuation bytes that `l` still asks for. A byte that cannot continue the character ends
it: the answer is then `none`, and the byte is left for the next character. -/
def continue? : (more low high bits : Nat) → List UInt8 → Option Char × List UInt8
  | 0, _, _, bits, bs => (some (Char.ofNat bits), bs)
  | _ + 1, _, _, _, [] => (none, [])
  | more + 1, low, high, bits, b :: bs =>
    if low ≤ b.toNat && b.toNat ≤ high then
      continue? more 0x80 0xbf (bits * 0x40 + b.toNat % 0x40) bs
    else (none, b :: bs)

theorem continue?_length (more low high bits : Nat) (bs : List UInt8) :
    (continue? more low high bits bs).2.length ≤ bs.length := by
  fun_induction continue? more low high bits bs <;> simp_all
  omega

def step (b : UInt8) (bs : List UInt8) : Option Char × List UInt8 :=
  match lead? b with
  | some l => continue? l.more l.low l.high l.bits bs
  | none => (none, bs)

theorem step_length (b : UInt8) (bs : List UInt8) : (step b bs).2.length ≤ bs.length := by
  unfold step
  split
  · exact continue?_length ..
  · exact Nat.le_refl _

/-- The characters of a byte sequence in order, `none` for each longest malformed piece. -/
def characters : List UInt8 → List (Option Char)
  | [] => []
  | b :: bs => (step b bs).1 :: characters (step b bs).2
termination_by bs => bs.length
decreasing_by
  have := step_length b bs
  simp only [List.length_cons]
  omega

def decode? (bytes : List UInt8) : Option String :=
  ((characters bytes).mapM id).map String.ofList

def decodeLossy (bytes : List UInt8) : String :=
  String.ofList ((characters bytes).map (·.getD '\ufffd'))

/-- The index of the first malformed piece of a byte sequence, and its length if it is not that the
bytes end too early. -/
def firstFlaw? (index : Nat) : List UInt8 → Option (Nat × Option Nat)
  | [] => none
  | b :: bs =>
    let rest := (step b bs).2
    let taken := bs.length + 1 - rest.length
    if (step b bs).1.isSome then firstFlaw? (index + taken) rest
    else if rest = [] && (lead? b).isSome then some (index, none)
    else some (index, some taken)
termination_by bs => bs.length
decreasing_by
  have := step_length b bs
  simp only [List.length_cons]
  omega

def size : List Char → Nat
  | [] => 0
  | c :: cs => c.utf8Size + size cs

end Utf8
end Text
end ReleaseAudit
