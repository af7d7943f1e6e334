/-!
# Network addresses

IP addresses and ports, read from their usual text and written in their shortest. A host may also
be a name; only an IPv6 address goes in brackets before a port.
-/

namespace GoldenCapture

inductive IpAddress where
  | v4 (a b c d : Nat)
  /-- Eight groups of sixteen bits. -/
  | v6 (groups : List Nat)
deriving DecidableEq, Repr

/-- Where a listener is bound. -/
structure SocketAddress where
  ip : IpAddress
  /-- The zone of a link-local address; zero for none. -/
  zone : Nat := 0
  port : UInt16
deriving DecidableEq, Repr

namespace IpAddress

/-! ## Reading -/

def digit? (radix : Nat) (c : Char) : Option Nat :=
  let n := c.toNat
  let d :=
    if 48 ≤ n ∧ n ≤ 57 then n - 48
    else if 97 ≤ n ∧ n ≤ 122 then n - 87
    else if 65 ≤ n ∧ n ≤ 90 then n - 55
    else radix
  if d < radix then some d else none

/-- The digits at the start of the input, and the rest. -/
def digits (radix : Nat) : List Char → List Nat × List Char
  | [] => ([], [])
  | c :: rest =>
    match digit? radix c with
    | none => ([], c :: rest)
    | some d =>
      let (ds, rest) := digits radix rest
      (d :: ds, rest)

/-- A number below `bound`. -/
def number? (radix bound : Nat) (input : List Char) : Option (Nat × List Char) :=
  let (ds, rest) := digits radix input
  let n : Nat := ds.foldl (fun n d => radix * n + d) 0
  if ds.isEmpty || bound ≤ n then none else some (n, rest)

def mark? (c : Char) : List Char → Option (List Char)
  | d :: rest => if c = d then some rest else none
  | [] => none

/-- A decimal number below 256 without a leading zero. -/
def octet? (input : List Char) : Option (Nat × List Char) :=
  let (ds, rest) := digits 10 input
  if 3 < ds.length || (1 < ds.length && ds.head? == some 0) then none
  else (number? 10 256 input).map fun (n, _) => (n, rest)

def v4? (input : List Char) : Option ((Nat × Nat × Nat × Nat) × List Char) := do
  let (a, input) ← octet? input
  let (b, input) ← octet? (← mark? '.' input)
  let (c, input) ← octet? (← mark? '.' input)
  let (d, input) ← octet? (← mark? '.' input)
  return ((a, b, c, d), input)

/-- Up to four hexadecimal digits. -/
def group? (input : List Char) : Option (Nat × List Char) :=
  if 4 < (digits 16 input).1.length then none else number? 16 65536 input

/-- Up to `room` groups with colons between them, whether the last two of them were written as an
IPv4 address, and the rest. -/
def groups : Nat → Bool → List Char → List Nat × Bool × List Char
  | 0, _, input => ([], false, input)
  | room + 1, first, input =>
    match if first then some input else mark? ':' input with
    | none => ([], false, input)
    | some start =>
      match if 0 < room then v4? start else none with
      | some ((a, b, c, d), rest) => ([256 * a + b, 256 * c + d], true, rest)
      | none =>
        match group? start with
        | none => ([], false, input)
        | some (g, rest) =>
          let (gs, dotted, rest) := groups room false rest
          (g :: gs, dotted, rest)

/-- Eight groups, a run of which may be left out at a double colon. -/
def v6? (input : List Char) : Option (List Nat × List Char) :=
  let (head, dotted, rest) := groups 8 true input
  if head.length = 8 then some (head, rest)
  else if dotted then none
  else do
    let rest ← mark? ':' (← mark? ':' rest)
    let (tail, _, rest) := groups (7 - head.length) true rest
    return (head ++ List.replicate (8 - head.length - tail.length) 0 ++ tail, rest)

/-- The address that a whole text stands for. -/
def parse? (s : String) : Option IpAddress :=
  match v4? s.toList with
  | some ((a, b, c, d), []) => some (v4 a b c d)
  | _ =>
    match v6? s.toList with
    | some (gs, []) => some (v6 gs)
    | _ => none

/-! ## Writing -/

def v4Text (a b c d : Nat) : String := s!"{a}.{b}.{c}.{d}"

def groupText (g : Nat) : String := String.ofList (Nat.toDigits 16 g)

def groupsText (gs : List Nat) : String := String.intercalate ":" (gs.map groupText)

/-- The number of zeros that a list starts with. -/
def zerosAt (gs : List Nat) : Nat := (gs.takeWhile (· = 0)).length

/-- Start and length of the longest run of zeros, the first of several. -/
def longestZeros (gs : List Nat) : Nat × Nat :=
  (List.range gs.length).foldl
    (fun best i => if best.2 < zerosAt (gs.drop i) then (i, zerosAt (gs.drop i)) else best) (0, 0)

def v6Text (gs : List Nat) : String :=
  match gs with
  | [0, 0, 0, 0, 0, 65535, a, b] => "::ffff:" ++ v4Text (a / 256) (a % 256) (b / 256) (b % 256)
  | gs =>
    let (start, length) := longestZeros gs
    if 1 < length then
      groupsText (gs.take start) ++ "::" ++ groupsText (gs.drop (start + length))
    else groupsText gs

def text : IpAddress → String
  | v4 a b c d => v4Text a b c d
  | v6 gs => v6Text gs

end IpAddress

namespace SocketAddress

/-- Every address of this machine, at a port. -/
def anyAddress (port : UInt16) : SocketAddress := ⟨.v4 0 0 0 0, 0, port⟩

def text (a : SocketAddress) : String :=
  match a.ip with
  | .v4 .. => s!"{a.ip.text}:{a.port}"
  | .v6 .. =>
    let zone := if a.zone = 0 then "" else "%" ++ toString a.zone
    s!"[{a.ip.text}{zone}]:{a.port}"

def port? (input : List Char) : Option UInt16 := do
  let (n, rest) ← IpAddress.number? 10 65536 (← IpAddress.mark? ':' input)
  guard rest.isEmpty
  return UInt16.ofNat n

/-- The zone behind an address, if there is one. -/
def zone? (input : List Char) : Option (Nat × List Char) :=
  match input with
  | '%' :: rest => IpAddress.number? 10 UInt32.size rest
  | input => some (0, input)

/-- The socket address that a whole text stands for. -/
def parse? (s : String) : Option SocketAddress :=
  match s.toList with
  | '[' :: rest => do
    let (gs, rest) ← IpAddress.v6? rest
    let (zone, rest) ← zone? rest
    return ⟨.v6 gs, zone, ← port? (← IpAddress.mark? ']' rest)⟩
  | input => do
    let ((a, b, c, d), rest) ← IpAddress.v4? input
    return ⟨.v4 a b c d, 0, ← port? rest⟩

end SocketAddress

/-! ## Endpoints -/

/-- Host and port as one text. -/
def hostPort (host : String) (port : UInt16) : String :=
  match IpAddress.parse? host with
  | some (.v6 _) => s!"[{host}]:{port}"
  | _ => s!"{host}:{port}"

/-- The address of an HTTP server at a host and port. -/
def hostPortHttp (host : String) (port : UInt16) : String := "http://" ++ hostPort host port

end GoldenCapture
