import OrderedStore.Gateway.Routine
import OrderedStore.Log.Line

/-!
# The writer behind log lines

The text of an event goes to a host through a writer of its own.  It takes the text in
whatever chunks it comes, and the host hears nothing of them.  Once the text is complete the
writer takes the blanks off its end, one after the other; unless nothing remains, it calls
the host with strings that end at a NUL.  `Line.ofChunks` says what this comes to as a whole.
-/

set_option autoImplicit false

namespace OrderedStore

/-- Bytes as a string that ends at its first NUL; there is none for bytes with a NUL
inside. -/
def Bytes.terminated? (bytes : Bytes) : Option Bytes :=
  if 0 ∈ bytes then none else some bytes

/-- Is there a last byte, and is it blank? -/
def Line.endsInBlank (bytes : Bytes) : Bool := bytes.getLast?.any isBlank

/-- A writer with what it has of its line. -/
structure Writer where
  level : Level
  target : String
  line : Bytes
  deriving DecidableEq, Repr

namespace Writer

/-- A writer for an event of this level and target. -/
def forEvent (level : Level) (target : String) : Writer := ⟨level, target, []⟩

/-- A writer for no event in particular. -/
def plain : Writer := forEvent .info ""

/-- What is asked of a writer before its line is complete. -/
inductive Request where
  | write (chunk : Bytes)
  | flush
  deriving DecidableEq, Repr

/-- The bytes that a request brings. -/
def Request.bytes : Request → Bytes
  | .write chunk => chunk
  | .flush => []

/-- What a request makes of a writer, and how many bytes the writer has taken. -/
def answer (w : Writer) : Request → Writer × Nat
  | .write chunk => ({ w with line := w.line ++ chunk }, chunk.length)
  | .flush => (w, 0)

/-- One request after the other. -/
def answerAll (w : Writer) : List Request → Writer × List Nat
  | [] => (w, [])
  | request :: rest =>
    let (next, taken) := w.answer request
    let (last, others) := next.answerAll rest
    (last, taken :: others)

/-- Takes the last byte off as long as it is blank. -/
def popBlanks (line : Bytes) : Bytes :=
  if Line.endsInBlank line then popBlanks line.dropLast else line
termination_by line.length
decreasing_by
  rename_i hblank
  have hne : line ≠ [] := by
    rintro rfl
    exact Bool.false_ne_true hblank
  rw [List.length_dropLast]
  exact Nat.sub_lt (List.length_pos_iff.mpr hne) Nat.one_pos

/-- The calls that the host receives when the line is complete. -/
def drop (w : Writer) : List Line :=
  let line := popBlanks w.line
  if line.isEmpty then []
  else
    let message := (Bytes.terminated? (line.filter (· ≠ 0))).getD []
    let target := (terminated? (withoutNul w.target)).getD ""
    [⟨w.level, target, message⟩]

end Writer

end OrderedStore
