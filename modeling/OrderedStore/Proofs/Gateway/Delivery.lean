import Mathlib.Data.List.DropRight
import OrderedStore.Gateway.Writer
import OrderedStore.Proofs.Gateway.Routine
import OrderedStore.Proofs.Text.Plain

/-!
# Which lines reach a host, and as what

A writer takes the blanks off the end of its line before it leaves out the NULs, and looks
in between whether anything remains.  So NULs that stand behind a blank, or behind nothing,
shield it: the message then ends in a blank, or it is empty.  `Line.Veils` is about such lines.
They are the only ones that are not delivered faithfully, as their bytes without NULs and then
without the blanks at the end.  `Writer.delivery_exact` says so for all chunks that a line can
come in, and by `Filter.faithful_deliver` it takes a NUL in the text of an event to get there.
-/

set_option autoImplicit false

namespace OrderedStore

namespace Line

variable {bytes kept front nuls blanks : Bytes} {b : UInt8}

/-! ## The end of a line -/

theorem endsInBlank_concat (bytes : Bytes) (b : UInt8) :
    endsInBlank (bytes ++ [b]) = isBlank b := by
  rw [endsInBlank, List.getLast?_concat, Option.any_some]

theorem endsInBlank_append (front : Bytes) (hne : kept ≠ []) :
    endsInBlank (front ++ kept) = endsInBlank kept := by
  rw [endsInBlank, List.getLast?_append_of_ne_nil front hne, endsInBlank]

theorem trimEnd_concat (bytes : Bytes) (b : UInt8) :
    trimEnd (bytes ++ [b]) = if isBlank b then trimEnd bytes else bytes ++ [b] :=
  List.rdropWhile_concat isBlank bytes b

/-- What is kept of a line if the blanks at its end are taken off. -/
def Trims (bytes kept : Bytes) : Prop :=
  endsInBlank kept = false ∧ ∃ blanks, (∀ b ∈ blanks, isBlank b) ∧ bytes = kept ++ blanks

theorem trims_trimEnd (bytes : Bytes) : Trims bytes (trimEnd bytes) := by
  induction bytes using List.reverseRecOn with
  | nil => exact ⟨rfl, [], List.forall_mem_nil _, rfl⟩
  | append_singleton bytes b ih =>
    rw [trimEnd_concat]
    cases hb : isBlank b with
    | true =>
      obtain ⟨hlast, blanks, hblanks, heq⟩ := ih
      refine ⟨hlast, blanks ++ [b], ?_, ?_⟩
      · exact List.forall_mem_append.mpr ⟨hblanks, List.forall_mem_singleton.mpr hb⟩
      · rw [if_pos rfl, ← List.append_assoc, ← heq]
    | false =>
      rw [if_neg Bool.false_ne_true]
      exact ⟨(endsInBlank_concat bytes b).trans hb, [], List.forall_mem_nil _,
        (List.append_nil _).symm⟩

/-- A line can be trimmed in one way only. -/
theorem Trims.trimEnd_eq (h : Trims bytes kept) : trimEnd bytes = kept := by
  obtain ⟨hlast, blanks, hblanks, rfl⟩ := h
  induction blanks using List.reverseRecOn with
  | nil =>
    rw [List.append_nil]
    rcases List.eq_nil_or_concat' kept with rfl | ⟨init, b, rfl⟩
    · rfl
    · rw [endsInBlank_concat] at hlast
      rw [trimEnd_concat, hlast, if_neg Bool.false_ne_true]
  | append_singleton blanks b ih =>
    obtain ⟨hblanks, hb⟩ := List.forall_mem_append.mp hblanks
    rw [← List.append_assoc, trimEnd_concat, if_pos (List.forall_mem_singleton.mp hb), ih hblanks]

/-! ## Three kinds of lines -/

/-- A byte of text is neither NUL nor blank. -/
def IsText (b : UInt8) : Prop := b ≠ 0 ∧ isBlank b = false

/-- There is text in the line, and only NULs and then blanks come behind its last byte `b`. -/
def Shows (bytes front : Bytes) (b : UInt8) : Prop :=
  IsText b ∧ ∃ nuls blanks, (∀ b ∈ nuls, b = 0) ∧ (∀ b ∈ blanks, isBlank b) ∧
    bytes = front ++ [b] ++ nuls ++ blanks

/-- NULs keep a blank, or the beginning of the line, apart from the blanks at its end. -/
def Veils (bytes front : Bytes) : Prop :=
  (front = [] ∨ endsInBlank front) ∧ ∃ nuls blanks, nuls ≠ [] ∧ (∀ b ∈ nuls, b = 0) ∧
    (∀ b ∈ blanks, isBlank b) ∧ bytes = front ++ nuls ++ blanks

theorem endsInBlank_nuls (hnuls : ∀ b ∈ nuls, b = 0) : endsInBlank nuls = false := by
  rcases List.eq_nil_or_concat' nuls with rfl | ⟨init, b, rfl⟩
  · rfl
  · obtain rfl : b = 0 := hnuls b (List.mem_append_right init (List.mem_singleton_self b))
    rw [endsInBlank_concat]
    rfl

/-- Nothing that NULs stand behind is trimmed. -/
theorem trims_append_nuls (hlast : nuls = [] → endsInBlank front = false)
    (hnuls : ∀ b ∈ nuls, b = 0) (hblanks : ∀ b ∈ blanks, isBlank b) :
    Trims (front ++ nuls ++ blanks) (front ++ nuls) := by
  refine ⟨?_, blanks, hblanks, rfl⟩
  by_cases hne : nuls = []
  · rw [hne, List.append_nil, hlast hne]
  · rw [endsInBlank_append front hne, endsInBlank_nuls hnuls]

/-- A byte string without the NULs at its end. -/
theorem exists_append_nuls (bytes : Bytes) :
    ∃ front nuls, (front = [] ∨ ∃ init b, b ≠ 0 ∧ front = init ++ [b]) ∧ (∀ b ∈ nuls, b = 0) ∧
      bytes = front ++ nuls := by
  induction bytes using List.reverseRecOn with
  | nil => exact ⟨[], [], .inl rfl, List.forall_mem_nil _, rfl⟩
  | append_singleton bytes b ih =>
    by_cases hb : b = 0
    · obtain ⟨front, nuls, hfront, hnuls, rfl⟩ := ih
      refine ⟨front, nuls ++ [b], hfront, ?_, List.append_assoc ..⟩
      exact List.forall_mem_append.mpr ⟨hnuls, List.forall_mem_singleton.mpr hb⟩
    · exact ⟨bytes ++ [b], [], .inr ⟨bytes, b, hb, rfl⟩, List.forall_mem_nil _,
        (List.append_nil _).symm⟩

/-- Every line is blank, shows its text to the end, or is veiled. -/
theorem blank_or_shows_or_veils (bytes : Bytes) :
    (∀ b ∈ bytes, isBlank b) ∨ (∃ front b, Shows bytes front b) ∨ ∃ front, Veils bytes front := by
  obtain ⟨hlast, blanks, hblanks, hbytes⟩ := trims_trimEnd bytes
  obtain ⟨front, nuls, hfront, hnuls, hkept⟩ := exists_append_nuls (trimEnd bytes)
  rw [hkept] at hbytes hlast
  -- With NULs between them, what ends in front and the blanks behind do not know of each other.
  by_cases hne : nuls = []
  · subst hne
    rw [List.append_nil] at hlast
    rcases hfront with rfl | ⟨init, b, hb, rfl⟩
    · exact .inl (hbytes ▸ hblanks)
    · rw [endsInBlank_concat] at hlast
      exact .inr (.inl ⟨init, b, ⟨hb, hlast⟩, [], blanks, hnuls, hblanks, hbytes⟩)
  · rcases hfront with rfl | ⟨init, b, hb, rfl⟩
    · exact .inr (.inr ⟨[], .inl rfl, nuls, blanks, hne, hnuls, hblanks, hbytes⟩)
    · cases hblank : isBlank b with
      | true =>
        have hfront : endsInBlank (init ++ [b]) = true := (endsInBlank_concat init b).trans hblank
        exact .inr (.inr ⟨init ++ [b], .inr hfront, nuls, blanks, hne, hnuls, hblanks, hbytes⟩)
      | false =>
        exact .inr (.inl ⟨init, b, ⟨hb, hblank⟩, nuls, blanks, hnuls, hblanks, hbytes⟩)

/-! ## What is delivered of them -/

theorem message?_eq (h : Trims bytes kept) :
    message? bytes = if kept = [] then none else some (kept.filter (· ≠ 0)) := by
  unfold message?
  rw [h.trimEnd_eq]
  cases kept with
  | nil => rfl
  | cons b rest => rfl

theorem message?_of_blank (h : ∀ b ∈ bytes, isBlank b) : message? bytes = none := by
  have htrims : Trims bytes [] := ⟨rfl, bytes, h, rfl⟩
  rw [message?_eq htrims, if_pos rfl]

theorem filter_concat (front : Bytes) (hb : b ≠ 0) :
    (front ++ [b]).filter (· ≠ 0) = front.filter (· ≠ 0) ++ [b] := by
  rw [List.filter_append, List.filter_cons_of_pos (by simpa using hb), List.filter_nil]

theorem filter_append_nuls (front : Bytes) (hnuls : ∀ b ∈ nuls, b = 0) :
    (front ++ nuls).filter (· ≠ 0) = front.filter (· ≠ 0) := by
  have hnone : nuls.filter (· ≠ 0) = [] :=
    List.filter_eq_nil_iff.mpr fun b hb => by simpa using hnuls b hb
  rw [List.filter_append, hnone, List.append_nil]

/-- NULs are as good as nothing for the message, but not for the end of the line. -/
theorem message?_append_nuls (hne : front ++ nuls ≠ [])
    (hlast : nuls = [] → endsInBlank front = false) (hnuls : ∀ b ∈ nuls, b = 0)
    (hblanks : ∀ b ∈ blanks, isBlank b) :
    message? (front ++ nuls ++ blanks) = some (front.filter (· ≠ 0)) := by
  rw [message?_eq (trims_append_nuls hlast hnuls hblanks), if_neg hne,
    filter_append_nuls front hnuls]

/-- A line that shows its text to the end is delivered up to there. -/
theorem Shows.message?_eq (h : Shows bytes front b) :
    message? bytes = some (front.filter (· ≠ 0) ++ [b]) := by
  obtain ⟨⟨hb, hblank⟩, nuls, blanks, hnuls, hblanks, rfl⟩ := h
  have hlast : endsInBlank (front ++ [b]) = false := (endsInBlank_concat front b).trans hblank
  have hne : front ++ [b] ++ nuls ≠ [] := by simp
  rw [message?_append_nuls hne (fun _ => hlast) hnuls hblanks, filter_concat front hb]

/-- A veiled line is delivered up to the veil. -/
theorem Veils.message?_eq (h : Veils bytes front) :
    message? bytes = some (front.filter (· ≠ 0)) := by
  obtain ⟨_, nuls, blanks, hnil, hnuls, hblanks, rfl⟩ := h
  have hne : front ++ nuls ≠ [] := List.append_ne_nil_of_right_ne_nil front hnil
  exact message?_append_nuls hne (fun h => absurd h hnil) hnuls hblanks

/-- The message of a veiled line is empty or ends in a blank. -/
theorem Veils.ends (h : Veils bytes front) :
    front.filter (· ≠ 0) = [] ∨ endsInBlank (front.filter (· ≠ 0)) := by
  rcases List.eq_nil_or_concat' front with rfl | ⟨init, b, rfl⟩
  · exact .inl rfl
  · right
    rcases h.1 with hnil | hblank
    · simp at hnil
    · rw [endsInBlank_concat] at hblank
      have hb : b ≠ 0 := by
        rintro rfl
        exact absurd hblank (by decide)
      rw [filter_concat init hb, endsInBlank_concat, hblank]

/-- The message of a line that shows its text to the end is neither. -/
theorem Shows.ends (h : Shows bytes front b) :
    front.filter (· ≠ 0) ++ [b] ≠ [] ∧ endsInBlank (front.filter (· ≠ 0) ++ [b]) = false :=
  ⟨List.append_ne_nil_of_right_ne_nil _ (List.cons_ne_nil b []),
    (endsInBlank_concat _ b).trans h.1.2⟩

/-! ## Faithful delivery -/

/-- At most one line is delivered; one is delivered exactly if there is text in the bytes, and
its message is the bytes without their NULs and without the blanks that are at the end then. -/
structure Faithful (bytes : Bytes) (delivered : List Line) : Prop where
  once : delivered.length ≤ 1
  delivered_iff : delivered ≠ [] ↔ ∃ b ∈ bytes, IsText b
  message : ∀ line ∈ delivered,
    line.message ≠ [] ∧ Trims (bytes.filter (· ≠ 0)) line.message

theorem faithful_nil (h : ∀ b ∈ bytes, isBlank b) : Faithful bytes [] where
  once := Nat.zero_le 1
  delivered_iff := by
    refine ⟨fun hne => absurd rfl hne, fun ⟨b, hb, htext⟩ => ?_⟩
    exact absurd (h b hb) (by rw [htext.2]; exact Bool.false_ne_true)
  message := List.forall_mem_nil _

theorem Shows.faithful (h : Shows bytes front b) {line : Line}
    (hmessage : line.message = front.filter (· ≠ 0) ++ [b]) : Faithful bytes [line] where
  once := Nat.le_refl 1
  delivered_iff := by
    obtain ⟨htext, nuls, blanks, _, _, rfl⟩ := h
    exact ⟨fun _ => ⟨b, by simp, htext⟩, fun _ => List.cons_ne_nil line []⟩
  message := by
    refine List.forall_mem_singleton.mpr ?_
    rw [hmessage]
    refine ⟨h.ends.1, h.ends.2, ?_⟩
    obtain ⟨⟨hb, _⟩, nuls, blanks, hnuls, hblanks, rfl⟩ := h
    refine ⟨blanks.filter (· ≠ 0), fun c hc => hblanks c (List.mem_of_mem_filter hc), ?_⟩
    rw [List.filter_append, filter_append_nuls _ hnuls, filter_concat front hb]

variable (level : Level) (target : String) (chunks : List Bytes)

theorem ofChunks_of_message? {message : Option Bytes} (h : message? chunks.flatten = message) :
    ofChunks level target chunks = message.map (⟨level, withoutNul target, ·⟩) := by
  rw [← h]
  rfl

/-- What is delivered of a line of each kind. -/
theorem ofChunks_cases :
    ((∀ b ∈ chunks.flatten, isBlank b) ∧ ofChunks level target chunks = none) ∨
      (∃ front b, Shows chunks.flatten front b ∧ ofChunks level target chunks =
        some ⟨level, withoutNul target, front.filter (· ≠ 0) ++ [b]⟩) ∨
      ∃ front, Veils chunks.flatten front ∧ ofChunks level target chunks =
        some ⟨level, withoutNul target, front.filter (· ≠ 0)⟩ := by
  rcases blank_or_shows_or_veils chunks.flatten with h | ⟨front, b, h⟩ | ⟨front, h⟩
  · exact .inl ⟨h, ofChunks_of_message? level target chunks (message?_of_blank h)⟩
  · exact .inr (.inl ⟨front, b, h, ofChunks_of_message? level target chunks h.message?_eq⟩)
  · exact .inr (.inr ⟨front, h, ofChunks_of_message? level target chunks h.message?_eq⟩)

/-- A line is delivered exactly if not all of its bytes are blank. -/
theorem ofChunks_ne_none_iff :
    ofChunks level target chunks ≠ none ↔ ∃ b ∈ chunks.flatten, isBlank b = false := by
  have hnil : trimEnd chunks.flatten = [] ↔ ∀ b ∈ chunks.flatten, isBlank b :=
    List.rdropWhile_eq_nil_iff
  rw [ofChunks_of_message? level target chunks (message?_eq (trims_trimEnd _)), Ne,
    Option.map_eq_none_iff, ite_eq_left_iff]
  simp only [reduceCtorEq, imp_false, not_not, hnil, not_forall, Bool.not_eq_true, exists_prop]

/-- What is delivered is the line up to its last byte that is not blank, without the NULs. -/
theorem mem_ofChunks {line : Line} (h : line ∈ ofChunks level target chunks) :
    line.level = level ∧ line.target = withoutNul target ∧
      ∃ kept, Trims chunks.flatten kept ∧ line.message = kept.filter (· ≠ 0) := by
  have htrims := trims_trimEnd chunks.flatten
  rw [ofChunks_of_message? level target chunks (message?_eq htrims)] at h
  obtain ⟨message, hmessage, rfl⟩ := Option.map_eq_some_iff.mp h
  obtain ⟨_, hkept⟩ := Option.ite_none_left_eq_some.mp hmessage
  exact ⟨rfl, rfl, _, htrims, (Option.some.inj hkept).symm⟩

/-- The veiled lines are those whose message is empty or ends in a blank. -/
theorem veiled_iff :
    (∃ front, Veils chunks.flatten front) ↔
      ∃ line ∈ ofChunks level target chunks, line.message = [] ∨ endsInBlank line.message := by
  constructor
  · rintro ⟨front, h⟩
    rw [ofChunks_of_message? level target chunks h.message?_eq]
    exact ⟨_, rfl, h.ends⟩
  · rintro ⟨line, hline, hends⟩
    rcases ofChunks_cases level target chunks with
      ⟨_, hnone⟩ | ⟨front, b, h, hsome⟩ | ⟨front, h, _⟩
    · rw [hnone] at hline
      exact nomatch hline
    · rw [hsome] at hline
      obtain rfl := Option.some.inj hline
      rcases hends with hnil | hblank
      · exact absurd hnil h.ends.1
      · rw [h.ends.2] at hblank
        exact absurd hblank Bool.false_ne_true
    · exact ⟨front, h⟩

/-- All lines but the veiled ones are delivered faithfully. -/
theorem faithful_iff :
    Faithful chunks.flatten (ofChunks level target chunks).toList ↔
      ¬ ∃ front, Veils chunks.flatten front := by
  constructor
  · intro hfaithful hveiled
    obtain ⟨line, hline, hends⟩ := (veiled_iff level target chunks).mp hveiled
    obtain ⟨hne, hlast, _⟩ := hfaithful.message line (Option.mem_toList.mpr hline)
    rcases hends with hnil | hblank
    · exact hne hnil
    · rw [hlast] at hblank
      exact Bool.false_ne_true hblank
  · intro hclear
    rcases ofChunks_cases level target chunks with
      ⟨hblank, hnone⟩ | ⟨front, b, h, hsome⟩ | ⟨front, h, _⟩
    · rw [hnone]
      exact faithful_nil hblank
    · rw [hsome]
      exact h.faithful rfl
    · exact absurd ⟨front, h⟩ hclear

end Line

/-! ## From chunks to a line -/

/-- Once the NULs are out, the bytes can be handed over. -/
theorem Bytes.terminated?_filter (bytes : Bytes) :
    Bytes.terminated? (bytes.filter (· ≠ 0)) = some (bytes.filter (· ≠ 0)) :=
  if_neg fun h => by simpa using List.of_mem_filter h

namespace Writer

theorem Request.answer_eq (w : Writer) (request : Request) :
    w.answer request = ({ w with line := w.line ++ request.bytes }, request.bytes.length) := by
  cases request with
  | write chunk => rfl
  | flush => rw [bytes, List.append_nil]; rfl

/-- A writer takes all that is written to it, however it is cut. -/
theorem answerAll_eq (w : Writer) (requests : List Request) :
    w.answerAll requests =
      ({ w with line := w.line ++ requests.flatMap Request.bytes },
        requests.map (·.bytes.length)) := by
  induction requests generalizing w with
  | nil => rw [List.flatMap_nil, List.append_nil]; rfl
  | cons request rest ih =>
    rw [answerAll, request.answer_eq]
    simp only [ih, List.flatMap_cons, List.append_assoc, List.map_cons]

theorem popBlanks_eq (line : Bytes) : popBlanks line = Line.trimEnd line := by
  induction line using List.reverseRecOn with
  | nil =>
    rw [popBlanks]
    rfl
  | append_singleton line b ih =>
    rw [popBlanks, Line.endsInBlank_concat, Line.trimEnd_concat, List.dropLast_concat, ih]

/-- When its line is complete, a writer delivers what the line comes to. -/
theorem drop_eq (w : Writer) : w.drop = (Line.ofChunks w.level w.target [w.line]).toList := by
  have hline : [w.line].flatten = w.line := by rw [List.flatten_singleton]
  rw [Line.ofChunks_of_message? w.level w.target [w.line] (by rw [hline]),
    Line.message?_eq (Line.trims_trimEnd w.line)]
  simp only [drop, popBlanks_eq, Bytes.terminated?_filter, terminated?_withoutNul]
  cases Line.trimEnd w.line with
  | nil => rfl
  | cons b rest => rfl

/-- Whatever is asked of a writer, it delivers what the line that was written comes to. -/
theorem drop_answerAll (level : Level) (target : String) (requests : List Request) :
    ((forEvent level target).answerAll requests).1.drop =
      (Line.ofChunks level target (requests.map Request.bytes)).toList := by
  rw [answerAll_eq, drop_eq]
  simp only [forEvent, Line.ofChunks, List.nil_append, List.flatten_singleton,
    List.flatMap_def]

/-- However the bytes of a line are cut into chunks, and whatever is flushed in between, the
host is called at most once, and it is called exactly if not all bytes are blank.  The message
is then the line up to its last byte that is not blank, NULs counting as such, and without its
NULs.  That is faithful exactly if no NULs at the end of the line veil a blank, or its
beginning, and if they do the message ends in a blank or is empty. -/
theorem delivery_exact (level : Level) (target : String) (requests : List Request) :
    let bytes := requests.flatMap Request.bytes
    let delivered := ((forEvent level target).answerAll requests).1.drop
    delivered = (Line.ofChunks level target (requests.map Request.bytes)).toList ∧
    delivered.length ≤ 1 ∧
    (delivered ≠ [] ↔ ∃ b ∈ bytes, Line.isBlank b = false) ∧
    (∀ line ∈ delivered, line.level = level ∧ line.target = withoutNul target ∧
      ∃ kept, Line.Trims bytes kept ∧ line.message = kept.filter (· ≠ 0)) ∧
    (Line.Faithful bytes delivered ↔ ¬ ∃ front, Line.Veils bytes front) ∧
    ((∃ front, Line.Veils bytes front) ↔
      ∃ line ∈ delivered, line.message = [] ∨ Line.endsInBlank line.message) := by
  intro bytes delivered
  have hbytes : bytes = (requests.map Request.bytes).flatten := List.flatMap_def ..
  have hdelivered : delivered = (Line.ofChunks level target (requests.map Request.bytes)).toList :=
    drop_answerAll level target requests
  rw [hdelivered, hbytes]
  refine ⟨rfl, ?_, ?_, fun line hline => ?_, Line.faithful_iff level target _, ?_⟩
  · exact Option.length_toList_le
  · rw [Ne, Option.toList_eq_nil_iff]
    exact Line.ofChunks_ne_none_iff level target _
  · exact Line.mem_ofChunks level target _ (Option.mem_toList.mp hline)
  · simp only [Option.mem_toList]
    exact Line.veiled_iff level target _

/-- A line of nothing but NULs is delivered as an empty message, and a NUL between two blanks
leaves the first of them at the end of the message. -/
theorem exists_unfaithful :
    let hollow := [Request.write [0, 0], .write [0x0A]]
    let ragged := [Request.write [0x61, 0x20], .write [0, 0x20]]
    (plain.answerAll hollow).1.drop = [⟨.info, "", []⟩] ∧
      ¬ Line.Faithful (hollow.flatMap Request.bytes) (plain.answerAll hollow).1.drop ∧
      (plain.answerAll ragged).1.drop = [⟨.info, "", [0x61, 0x20]⟩] ∧
      ¬ Line.Faithful (ragged.flatMap Request.bytes) (plain.answerAll ragged).1.drop := by
  intro hollow ragged
  have hhollow : (plain.answerAll hollow).1.drop = [⟨.info, "", []⟩] :=
    (drop_answerAll .info "" hollow).trans (by decide)
  have hragged : (plain.answerAll ragged).1.drop = [⟨.info, "", [0x61, 0x20]⟩] :=
    (drop_answerAll .info "" ragged).trans (by decide)
  refine ⟨hhollow, fun h => ?_, hragged, fun h => ?_⟩
  · rw [hhollow] at h
    exact (h.message _ (List.mem_singleton_self _)).1 rfl
  · rw [hragged] at h
    exact absurd (h.message _ (List.mem_singleton_self _)).2.1 (by decide)

end Writer

/-! ## Events -/

/-- Without NULs there is nothing that could veil a line. -/
theorem Line.Veils.zero_mem {bytes front : Bytes} (h : Veils bytes front) : 0 ∈ bytes := by
  obtain ⟨_, nuls, blanks, hne, hnuls, _, rfl⟩ := h
  obtain ⟨b, hb⟩ := List.exists_mem_of_ne_nil nuls hne
  obtain rfl := hnuls b hb
  exact List.mem_append_left blanks (List.mem_append_right front hb)

/-- An event that a host wants is delivered faithfully if its text is plain. -/
theorem Filter.faithful_deliver {filter : Filter} {record : Record}
    (hwanted : filter.enables record) (hplain : Plain record.text) :
    Line.Faithful (utf8 record.text ++ [0x0A]) (filter.deliver record).toList := by
  have hbytes : [utf8 record.text, [0x0A]].flatten = utf8 record.text ++ [0x0A] := by
    rw [List.flatten_cons, List.flatten_singleton]
  rw [deliver, if_pos hwanted, ← hbytes]
  refine (Line.faithful_iff ..).mpr fun ⟨front, h⟩ => ?_
  have hzero := h.zero_mem
  rw [hbytes, List.mem_append, List.mem_singleton] at hzero
  rcases hzero with htext | hend
  · exact hplain.zero_not_mem_utf8 htext
  · exact absurd hend (by decide)

end OrderedStore
