/-!
# Options of an open database

Sizes are in bytes, and zero stands for the engine's own choice.  `describe` lists
the options one to a line.
-/

set_option autoImplicit false

namespace OrderedStore

/-- How to open a database. -/
structure Options where
  createIfMissing : Bool := true
  errorIfExists : Bool := false
  paranoidChecks : Bool := false
  cacheSize : Nat := 0
  blockSize : Nat := 0
  writeBufferSize : Nat := 0
  deriving DecidableEq, Repr, Inhabited

namespace Options

/-- The capacity of the block cache; zero asks for none. -/
def cache (options : Options) : Option Nat :=
  if options.cacheSize > 0 then some options.cacheSize else none

/-- Names and values of the options, in their order. -/
def fields (options : Options) : List (String × String) :=
  [("create_if_missing", toString options.createIfMissing),
   ("error_if_exists", toString options.errorIfExists),
   ("paranoid_checks", toString options.paranoidChecks),
   ("cache_size", toString options.cacheSize),
   ("block_size", toString options.blockSize),
   ("write_buffer_size", toString options.writeBufferSize)]

/-- The options in words, one to a line. -/
def describe (options : Options) : String :=
  String.join (options.fields.map fun (name, value) => name ++ ": " ++ value ++ "\n")

end Options

end OrderedStore
