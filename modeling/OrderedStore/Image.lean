import OrderedStore.Keyspace
import OrderedStore.Status

/-!
# The engine file

An engine file begins with a header of 320 bytes: a mark, and two commit slots that
each begin with the version of the format.  The entries of the keyspace follow.
`Image.encode` writes a whole file, and `Image.judge` says what the engine makes of
the bytes it finds when it opens one: a keyspace, or a fault.
-/

set_option autoImplicit false

namespace OrderedStore.Image

/-- The mark at the beginning of every engine file. -/
def mark : Bytes := [0x72, 0x65, 0x64, 0x62, 0x1A, 0x0A, 0xA9, 0x0D, 0x0A]

/-- The length of the header. -/
def headerLength : Nat := 320

/-- Where the two commit slots begin. -/
def slotOffsets : List Nat := [64, 192]

/-- The header of a file in the current format. -/
def header : Bytes :=
  mark ++ List.replicate 55 0 ++ [2] ++ List.replicate 127 0 ++ [2] ++ List.replicate 127 0

/-! ## Writing -/

/-- A number as `width` bytes, lowest first. -/
def littleEndian : Nat → Nat → Bytes
  | 0, _ => []
  | width + 1, n => UInt8.ofNat (n % 256) :: littleEndian width (n / 256)

/-- One entry: both lengths, then both byte strings. -/
def encodeEntry (e : Entry) : Bytes :=
  littleEndian 8 e.1.length ++ littleEndian 8 e.2.length ++ e.1 ++ e.2

/-- A whole engine file. -/
def encode (m : Keyspace) : Bytes :=
  header ++ littleEndian 8 m.size ++ m.entries.flatMap encodeEntry

/-! ## Reading -/

/-- The number that `width` bytes hold, lowest first, and what follows them. -/
def takeNumber? : Nat → Bytes → Option (Nat × Bytes)
  | 0, bytes => some (0, bytes)
  | _ + 1, [] => none
  | width + 1, b :: rest =>
    (takeNumber? width rest).map fun (high, rest) => (b.toNat + 256 * high, rest)

/-- The first `count` bytes and what follows them. -/
def takeBytes? (count : Nat) (bytes : Bytes) : Option (Bytes × Bytes) :=
  if count ≤ bytes.length then some (bytes.take count, bytes.drop count) else none

/-- One entry and what follows it. -/
def takeEntry? (bytes : Bytes) : Option (Entry × Bytes) := do
  let (keyLength, bytes) ← takeNumber? 8 bytes
  let (valueLength, bytes) ← takeNumber? 8 bytes
  let (key, bytes) ← takeBytes? keyLength bytes
  let (value, bytes) ← takeBytes? valueLength bytes
  pure ((key, value), bytes)

/-- As many entries as announced, with nothing after them. -/
def takeEntries? : Nat → Bytes → Option (List Entry)
  | 0, bytes => if bytes = [] then some [] else none
  | count + 1, bytes => do
    let (e, bytes) ← takeEntry? bytes
    let rest ← takeEntries? count bytes
    pure (e :: rest)

/-- The keyspace of a file whose header has been accepted. -/
def decodeBody? (bytes : Bytes) : Option Keyspace := do
  let (count, bytes) ← takeNumber? 8 (bytes.drop headerLength)
  let entries ← takeEntries? count bytes
  if h : Ascending entries then some ⟨entries, h⟩ else none

/-- Refuses versions of the format that the engine does not read. -/
def checkVersion (version : Nat) : Except Fault Unit :=
  if version = 1 then .error (.upgradeRequired version)
  else if version = 2 ∨ version = 3 then .ok ()
  else .error (.corrupted s!"Expected file format version <= 3, found {version}")

/-- Checks the commit slots in their order. -/
def checkSlots (bytes : Bytes) : List Nat → Except Fault Unit
  | [] => .ok ()
  | offset :: rest =>
    match checkVersion (bytes.getD offset 0).toNat with
    | .error fault => .error fault
    | .ok () => checkSlots bytes rest

/-- What the engine makes of a file that it opens.  An empty file is a new database
where one may be created. -/
def judge (create : Bool) (bytes : Bytes) : Except Fault Keyspace :=
  if bytes = [] then
    if create then .ok .empty else .error (.io "invalid data")
  else if bytes.take mark.length ≠ mark then .error (.io "invalid data")
  else if bytes.length < headerLength then .error (.io "failed to fill whole buffer")
  else match checkSlots bytes slotOffsets with
    | .error fault => .error fault
    | .ok () =>
      match decodeBody? bytes with
      | some m => .ok m
      | none => .error (.corrupted "the engine file is damaged")

end OrderedStore.Image
