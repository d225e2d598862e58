namespace BuildMatrix.Text.Utf8

def encodeChar (c : Char) : List UInt8 :=
  let n := c.toNat
  if n < 0x80 then [n.toUInt8]
  else if n < 0x800 then [(0xC0 + n / 0x40).toUInt8, (0x80 + n % 0x40).toUInt8]
  else if n < 0x10000 then
    [(0xE0 + n / 0x1000).toUInt8, (0x80 + n / 0x40 % 0x40).toUInt8, (0x80 + n % 0x40).toUInt8]
  else
    [(0xF0 + n / 0x40000).toUInt8, (0x80 + n / 0x1000 % 0x40).toUInt8,
      (0x80 + n / 0x40 % 0x40).toUInt8, (0x80 + n % 0x40).toUInt8]

def encode (s : List Char) : List UInt8 := s.flatMap encodeChar

def bytesOf (s : String) : List UInt8 := encode s.toList

/-- Between two characters, or inside one: the bits read so far, the range of the next byte and
how many bytes are due after it. -/
inductive State where
  | between
  | inside (bits low high due : Nat)

def lead (b : Nat) : List (Option Char) × State :=
  if b < 0x80 then ([some (Char.ofNat b)], .between)
  else if b < 0xC2 then ([none], .between)
  else if b < 0xE0 then ([], .inside (b - 0xC0) 0x80 0xBF 0)
  else if b = 0xE0 then ([], .inside 0 0xA0 0xBF 1)
  else if b = 0xED then ([], .inside 0xD 0x80 0x9F 1)
  else if b < 0xF0 then ([], .inside (b - 0xE0) 0x80 0xBF 1)
  else if b = 0xF0 then ([], .inside 0 0x90 0xBF 2)
  else if b < 0xF4 then ([], .inside (b - 0xF0) 0x80 0xBF 2)
  else if b = 0xF4 then ([], .inside 4 0x80 0x8F 2)
  else ([none], .between)

/-- A byte outside the range that is due ends an ill-formed part and is read afresh. -/
def feed : State → Nat → List (Option Char) × State
  | .between, b => lead b
  | .inside bits low high due, b =>
    if low ≤ b ∧ b ≤ high then
      let bits := bits * 0x40 + (b - 0x80)
      match due with
      | 0 => ([some (Char.ofNat bits)], .between)
      | due + 1 => ([], .inside bits 0x80 0xBF due)
    else
      let (out, state) := lead b
      (none :: out, state)

def unitsFrom : State → List UInt8 → List (Option Char)
  | .between, [] => []
  | .inside .., [] => [none]
  | state, b :: bs =>
    let (out, state) := feed state b.toNat
    out ++ unitsFrom state bs

/-- The characters that a byte string holds, with `none` for each ill-formed part; such a part is
as long as the beginning of a character can be. -/
def units (bytes : List UInt8) : List (Option Char) := unitsFrom .between bytes

def decode? (bytes : List UInt8) : Option (List Char) := (units bytes).mapM id

/-- Each ill-formed part shown as U+FFFD. -/
def decodeLossy (bytes : List UInt8) : List Char := (units bytes).map (·.getD '\uFFFD')

def textOf (bytes : List UInt8) : String := String.ofList (decodeLossy bytes)

end BuildMatrix.Text.Utf8
