import OrderedStore.Cursor

/-!
# Walking over entries

`Walker` is what a walk needs of the thing it moves: to move it, to see the entry it
is on, and to ask how the last positioning went.  Two walks are defined over it.
`polls` is a forward scan from wherever the thing stands, one entry at a time, that
ends for good after a failure or after the last entry.  `select` gathers the entries
of a range, forward or backward, up to a limit.
-/

set_option autoImplicit false

namespace OrderedStore

/-- A thing that moves over entries. -/
structure Walker (σ : Type) where
  move : Move → σ → σ × Except Error Unit
  entry? : σ → Option Entry
  status : σ → Except Error Unit
  /-- Has the thing never been positioned? -/
  isUnpositioned : σ → Bool

/-- How far a forward scan has come. -/
structure Scan where
  started : Bool
  done : Bool
  deriving DecidableEq, Repr

/-- A scan that has not been asked for anything. -/
def Scan.fresh : Scan := ⟨false, false⟩

/-- Which entries to select. -/
structure Range where
  /-- The first key of a forward range, the last of a backward one. -/
  start : Option Bytes
  limit : Option Nat
  backward : Bool
  deriving DecidableEq, Repr

namespace Walker

variable {σ : Type}

/-! ## Scanning forward -/

/-- The move with which a scan goes on.  It begins where the thing stands, and at the
first entry if the thing stands nowhere. -/
def scanMove (w : Walker σ) (scan : Scan) (s : σ) : σ × Except Error Unit :=
  if scan.started then w.move .next s
  else if w.isUnpositioned s then w.move .first s
  else (s, w.status s)

/-- One turn of a scan: an entry, a failure, or nothing more. -/
def poll (w : Walker σ) (scan : Scan) (s : σ) :
    Scan × σ × Option (Except Error Entry) :=
  if scan.done then (scan, s, none)
  else match w.scanMove scan s with
    | (s, .error e) => (⟨true, true⟩, s, some (.error e))
    | (s, .ok ()) =>
      match w.entry? s with
      | some entry => (⟨true, false⟩, s, some (.ok entry))
      | none => (⟨true, true⟩, s, none)

/-- So many turns of a scan, with what each of them gave. -/
def polls (w : Walker σ) : Nat → Scan → σ → σ × List (Option (Except Error Entry))
  | 0, _, s => (s, [])
  | n + 1, scan, s =>
    let (scan, s, item) := w.poll scan s
    let (s, items) := w.polls n scan s
    (s, item :: items)

/-- Every item of a scan over at most `size` entries. -/
def items (w : Walker σ) (size : Nat) (s : σ) : σ × List (Except Error Entry) :=
  let (s, polled) := w.polls (size + 2) .fresh s
  (s, polled.filterMap id)

/-! ## Selecting a range -/

/-- Moves, and then goes on unless the move failed. -/
def thenMove {α : Type} (w : Walker σ) (m : Move) (s : σ)
    (go : σ → σ × Except Error α) : σ × Except Error α :=
  match w.move m s with
  | (s, .error e) => (s, .error e)
  | (s, .ok ()) => go s

/-- Positions at the first entry of a range.  Going backward from a key that is not
there begins at the entry before it, and at the last entry if no key comes after. -/
def approach (w : Walker σ) (range : Range) (s : σ) : σ × Except Error Unit :=
  match range.start, range.backward with
  | some key, false => w.move (.seek key) s
  | none, false => w.move .first s
  | none, true => w.move .last s
  | some key, true =>
    w.thenMove (.seek key) s fun s =>
      match w.entry? s with
      | none => w.move .last s
      | some entry => if entry.1 = key then (s, .ok ()) else w.move .prev s

/-- Gathers entries, at most `room` of them, from where the thing stands. -/
def gather (w : Walker σ) (step : Move) : Nat → σ → σ × Except Error (List Entry)
  | 0, s => (s, .ok [])
  | room + 1, s =>
    match w.entry? s with
    | none => (s, .ok [])
    | some entry =>
      w.thenMove step s fun s =>
        let (s, rest) := w.gather step room s
        (s, rest.map (entry :: ·))

/-- The entries of a range over at most `size` entries.  A failure at any point
leaves nothing of what was gathered. -/
def select (w : Walker σ) (range : Range) (size : Nat) (s : σ) :
    σ × Except Error (List Entry) :=
  match w.approach range s with
  | (s, .error e) => (s, .error e)
  | (s, .ok ()) =>
    let room := match range.limit with
      | some limit => min limit size
      | none => size
    match w.gather (if range.backward then .prev else .next) room s with
    | (s, .error e) => (s, .error e)
    | (s, .ok entries) => (s, (w.status s).map fun _ => entries)

end Walker

/-- A cursor over a view that answers each question in the same way whenever it is
asked. -/
def Cursor.walker (reader : Option Reader) : Walker Cursor where
  move := Cursor.move reader
  entry? := Cursor.entry? reader.isSome
  status := Cursor.status reader.isSome
  isUnpositioned := (· = .unpositioned)

end OrderedStore
