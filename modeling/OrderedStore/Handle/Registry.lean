import OrderedStore.Handle.Token

/-!
# Registries of handles

A registry keeps the things of one kind in numbered slots.  Removing a thing moves its
slot on to the next generation and frees it for reuse, the last freed slot first;
a slot that has been through all generations is never used again.  So a token
whose thing has been removed finds nothing, whatever its slot holds later.
-/

set_option autoImplicit false

namespace OrderedStore

/-- A place for one thing. -/
structure Slot (α : Type) where
  generation : Nat
  entry : Option α
  deriving Repr

/-- The things of one kind. -/
structure Registry (α : Type) where
  kind : HandleKind
  slots : Array (Slot α)
  /-- The vacant slots that may be used again, last freed first. -/
  free : List Nat
  deriving Repr

namespace Registry

variable {α : Type}

/-- A registry with nothing in it. -/
def empty (kind : HandleKind) : Registry α := ⟨kind, #[], []⟩

/-- The greatest number of slots. -/
def slotLimit : Nat := Token.places - 1

/-- The last generation of a slot. -/
def lastGeneration : Nat := Token.generations - 1

/-- The generation that a slot is in. -/
def generationAt (slots : Array (Slot α)) (index : Nat) : Nat :=
  match slots[index]? with
  | some slot => slot.generation
  | none => 0

/-- Puts a thing into a slot. -/
def Slot.fill (entry : α) (slot : Slot α) : Slot α := ⟨slot.generation, some entry⟩

/-- Adds a thing and gives its token. -/
def insert : Registry α → α → Registry α × Except HandleFault Token
  | ⟨kind, slots, index :: free⟩, entry =>
    let token := Token.make kind (generationAt slots index) index
    (⟨kind, slots.modify index (Slot.fill entry), free⟩, .ok token)
  | ⟨kind, slots, []⟩, entry =>
    if slots.size < slotLimit then
      (⟨kind, slots.push ⟨0, some entry⟩, []⟩, .ok (Token.make kind 0 slots.size))
    else (⟨kind, slots, []⟩, .error (.exhausted kind))

/-- The slot that a token stands for, with the thing in it. -/
def locate (r : Registry α) (t : Token) : Except HandleFault (Nat × α) :=
  if t = 0 then .error (.null r.kind)
  else if t.tag ≠ r.kind.tag then .error (.wrongKind r.kind)
  else
    match t.index? with
    | none => .error (.stale r.kind)
    | some index =>
      match r.slots[index]? with
      | some ⟨generation, some entry⟩ =>
        if generation = t.generation then .ok (index, entry) else .error (.stale r.kind)
      | _ => .error (.stale r.kind)

/-- The thing that a token stands for. -/
def get (r : Registry α) (t : Token) : Except HandleFault α := (r.locate t).map (·.2)

/-- A slot after its thing has been taken out. -/
def Slot.vacate (slot : Slot α) : Slot α :=
  ⟨if slot.generation < lastGeneration then slot.generation + 1 else slot.generation, none⟩

/-- Takes the thing out of a slot and frees the slot, unless it has had its last
generation. -/
def vacate : Registry α → Nat → Registry α
  | ⟨kind, slots, free⟩, index =>
    let reusable := generationAt slots index < lastGeneration
    ⟨kind, slots.modify index Slot.vacate, if reusable then index :: free else free⟩

/-- Removes the thing that a token stands for, and gives it back. -/
def remove (r : Registry α) (t : Token) : Registry α × Except HandleFault α :=
  match r.locate t with
  | .ok (index, entry) => (r.vacate index, .ok entry)
  | .error fault => (r, .error fault)

/-- The indices of the slots whose things satisfy a condition, in their order. -/
def matching (r : Registry α) (p : α → Bool) : List Nat :=
  (List.range r.slots.size).filter fun index =>
    match r.slots[index]? with
    | some ⟨_, some entry⟩ => p entry
    | _ => false

/-- The thing in a slot. -/
def entryAt (r : Registry α) (index : Nat) : Option α := (r.slots[index]?).bind Slot.entry

/-- Removes every thing that satisfies a condition, and gives them back in the order of
their slots. -/
def removeWhere (r : Registry α) (p : α → Bool) : Registry α × List α :=
  let indices := r.matching p
  (indices.foldl vacate r, indices.filterMap r.entryAt)

/-- Changes the thing that a token stands for. -/
def modify (r : Registry α) (t : Token) (f : α → α) : Registry α :=
  match r.locate t with
  | .ok (index, entry) => { r with slots := r.slots.modify index (Slot.fill (f entry)) }
  | .error _ => r

/-- The number of things. -/
def size (r : Registry α) : Nat :=
  r.slots.toList.countP fun slot => slot.entry.isSome

end Registry

end OrderedStore
