/-!
# Handle tokens

A host refers to the things of a store by tokens, which are numbers of 64 bits.  From
the top, a token holds a tag of eight bits for the kind of the thing, the
generation of its slot in 24 bits, and the index of the slot plus one in 32 bits.
Zero is the null token and stands for nothing.
-/

set_option autoImplicit false

namespace OrderedStore

/-- The kinds of things that hosts hold. -/
inductive HandleKind where
  | database
  | iterator
  | snapshot
  | batch
  deriving DecidableEq, Repr

namespace HandleKind

/-- The tag of a kind in its tokens. -/
def tag : HandleKind → Nat
  | .database => 1
  | .iterator => 2
  | .snapshot => 3
  | .batch => 4

/-- The name of a kind in messages. -/
def name : HandleKind → String
  | .database => "database"
  | .iterator => "iterator"
  | .snapshot => "snapshot"
  | .batch => "write batch"

end HandleKind

/-- What hosts hold in the place of a thing. -/
abbrev Token := UInt64

namespace Token

/-- The number of generations of a slot. -/
def generations : Nat := 0x1000000

/-- The number of values of the part of a token that holds the slot. -/
def places : Nat := 0x100000000

/-- The token of a slot in one of its generations. -/
def make (kind : HandleKind) (generation index : Nat) : Token :=
  UInt64.ofNat kind.tag * 0x100000000000000 + UInt64.ofNat generation * 0x100000000
    + UInt64.ofNat (index + 1)

/-- The tag of the kind. -/
def tag (t : Token) : Nat := (t / 0x100000000000000).toNat

/-- The generation of the slot. -/
def generation (t : Token) : Nat := (t / 0x100000000 % 0x1000000).toNat

/-- The index of the slot; none where the part of the slot is zero. -/
def index? (t : Token) : Option Nat :=
  match (t % 0x100000000).toNat with
  | 0 => none
  | place + 1 => some place

end Token

/-- Why a token stands for nothing, or why none can be given. -/
inductive HandleFault where
  | null (kind : HandleKind)
  /-- The token is of another kind. -/
  | wrongKind (kind : HandleKind)
  /-- The thing has been released, or there never was one. -/
  | stale (kind : HandleKind)
  /-- Every slot is taken. -/
  | exhausted (kind : HandleKind)
  deriving DecidableEq, Repr

/-- The fault in words. -/
def HandleFault.text : HandleFault → String
  | .null kind => "null " ++ kind.name ++ " handle"
  | .wrongKind kind => "handle is not a " ++ kind.name ++ " handle"
  | .stale kind => "stale or unknown " ++ kind.name ++ " handle"
  | .exhausted kind => "too many live " ++ kind.name ++ " handles"

end OrderedStore
