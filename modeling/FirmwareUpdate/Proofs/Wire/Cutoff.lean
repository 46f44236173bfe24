import FirmwareUpdate.Proofs.Wire.Reading

/-!
# Bodies that are cut off or go on

More input changes nothing that a steady reader has said: a value stays found, with the new bytes
left over, and input that is no value stays none. Only where the input ended can it go on. Readers
made of steady readers are steady, and a steady reader that takes a whole body wants more of every
part that was cut off too early. `Breaks` says the same of a reader that is steady but for some
places, with the places at which it takes a part for no value.
-/

namespace FirmwareUpdate.Wire

namespace Reader

variable {α β : Type}

/-- A sequence of readers fails as the first of them that fails. -/
theorem bind_eq_error_iff {reader : Reader α} {next : α → Reader β} {input : List UInt8}
    {failure : ReadFailure} :
    (reader >>= next) input = .error failure ↔
      reader input = .error failure ∨
        ∃ first left, reader input = .ok (first, left) ∧ next first left = .error failure := by
  show (reader input >>= fun taken => next taken.1 taken.2) = _ ↔ _
  cases reader input with
  | error other => simp [Bind.bind, Except.bind]
  | ok taken =>
      simp only [Bind.bind, Except.bind, reduceCtorEq, Except.ok.injEq, false_or]
      constructor
      · exact fun failed => ⟨taken.1, taken.2, rfl, failed⟩
      · rintro ⟨first, left, rfl, failed⟩
        exact failed

/-! ## Steady readers -/

/-- More input changes nothing that the reader has said, unless it has asked for more. -/
structure Steady (reader : Reader α) : Prop where
  found : ∀ {input left value}, reader input = .ok (value, left) →
    ∀ more, reader (input ++ more) = .ok (value, left ++ more)
  invalid : ∀ {input}, reader input = .error .invalid →
    ∀ more, reader (input ++ more) = .error .invalid

/-- A reader that reads nothing is steady. -/
theorem steady_pure (value : α) : Steady (pure value : Reader α) where
  found read more := by
    obtain ⟨rfl, rfl⟩ := pure_eq_ok_iff.mp read
    rfl
  invalid failed := nomatch failed

/-- Steady readers one after the other are steady: what the first says is final, and what the second
says of the rest is. -/
theorem Steady.bind {reader : Reader α} {next : α → Reader β} (head : Steady reader)
    (tail : ∀ value, Steady (next value)) : Steady (reader >>= next) where
  found read more := by
    obtain ⟨first, left, begun, finished⟩ := bind_eq_ok_iff.mp read
    exact bind_eq_ok_iff.mpr
      ⟨first, left ++ more, head.found begun more, (tail first).found finished more⟩
  invalid failed more := by
    refine bind_eq_error_iff.mpr ?_
    rcases bind_eq_error_iff.mp failed with early | ⟨first, left, begun, late⟩
    · exact .inl (head.invalid early more)
    · exact .inr ⟨first, left ++ more, head.found begun more, (tail first).invalid late more⟩

/-- What is made of a value does not matter. -/
theorem Steady.map {reader : Reader α} (steady : Steady reader) (f : α → β) :
    Steady (f <$> reader) := by
  rw [← bind_pure_comp]
  exact steady.bind fun value => steady_pure (f value)

/-- A check is steady: it does not look at the input. -/
theorem steady_require (value : Option α) : Steady (require value) := by
  cases value with
  | none => exact ⟨nofun, fun _ _ => rfl⟩
  | some value => exact steady_pure value

/-- Taking bytes is steady: it has too few or enough. -/
theorem steady_take (count : Nat) : Steady (take count) where
  found read more := by
    obtain ⟨rfl, sized⟩ := take_eq_ok_iff.mp read
    exact take_eq_ok_iff.mpr ⟨List.append_assoc .., sized⟩
  invalid failed := by
    simp only [take] at failed
    split at failed <;> cases failed

/-- Reading a byte is steady. -/
theorem steady_byte : Steady byte where
  found read more := by
    obtain rfl := byte_eq_ok_iff.mp read
    rfl
  invalid {input} failed := by
    cases input <;> cases failed

theorem steady_number (width : Nat) : Steady (number width) := (steady_take width).map _

theorem steady_word16 : Steady word16 := (steady_number 2).map _

theorem steady_word32 : Steady word32 := (steady_number 4).map _

theorem steady_word64 : Steady word64 := (steady_number 8).map _

/-- Reading a code is steady: more input does not make a bad code good. -/
theorem steady_coded [Coded α] : Steady (coded : Reader α) :=
  steady_byte.bind fun _ => steady_require _

/-! ## Parts of a body -/

/-- Of every part of the bytes that is too short the reader wants more, but for parts of the given
lengths, which it takes for no value. -/
structure Breaks (reader : Reader α) (written : List UInt8) (places : List Nat) : Prop where
  inside : ∀ place ∈ places, place < written.length
  fails : ∀ kept, kept < written.length →
    reader (written.take kept) = .error (if kept ∈ places then .invalid else .endOfInput)

/-- A steady reader wants more of every part of what it takes. -/
theorem Steady.breaks {reader : Reader α} {written : List UInt8} {value : α}
    (steady : Steady reader) (read : reader written = .ok (value, [])) :
    Breaks reader written [] where
  inside _ member := nomatch member
  fails kept short := by
    have whole := List.take_append_drop kept written
    -- whatever else the reader said of the part, it would have to say of all the bytes
    cases outcome : reader (written.take kept) with
    | ok found =>
        have again := steady.found outcome (written.drop kept)
        rw [whole, read] at again
        have nothing := (List.append_eq_nil_iff.mp (congrArg Prod.snd (Except.ok.inj again)).symm).2
        have length := congrArg List.length nothing
        rw [List.length_drop, List.length_nil] at length
        omega
    | error failure =>
        cases failure with
        | endOfInput => rfl
        | invalid =>
            have again := steady.invalid outcome (written.drop kept)
            rw [whole, read] at again
            cases again

/-- A sequence breaks where the first reader does, and behind its bytes where the second does. -/
theorem Breaks.bind {reader : Reader α} {next : α → Reader β} {front back : List UInt8} {value : α}
    {places more : List Nat} (reads : Reads reader front value) (head : Breaks reader front places)
    (tail : Breaks (next value) back more) :
    Breaks (reader >>= next) (front ++ back) (places ++ more.map (front.length + ·)) where
  inside place member := by
    rw [List.length_append]
    rcases List.mem_append.mp member with before | behind
    · exact Nat.lt_of_lt_of_le (head.inside place before) (Nat.le_add_right _ _)
    · obtain ⟨other, among, rfl⟩ := List.mem_map.mp behind
      exact Nat.add_lt_add_left (tail.inside other among) _
  fails kept short := by
    refine bind_eq_error_iff.mpr ?_
    -- a part that ends in the first value fails there, and any other has the first value whole
    by_cases early : kept < front.length
    · have same : kept ∈ places ++ more.map (front.length + ·) ↔ kept ∈ places := by
        simp only [List.mem_append, List.mem_map, or_iff_left_iff_imp]
        rintro ⟨other, -, rfl⟩
        omega
      rw [List.take_append_of_le_length (Nat.le_of_lt early)]
      simp only [same]
      exact .inl (head.fails kept early)
    · obtain ⟨rest, rfl⟩ := Nat.exists_eq_add_of_le (Nat.le_of_not_lt early)
      have same : front.length + rest ∈ places ++ more.map (front.length + ·) ↔ rest ∈ more := by
        simp only [List.mem_append, List.mem_map, Nat.add_left_cancel_iff, exists_eq_right,
          or_iff_right_iff_imp]
        exact fun member => absurd (head.inside _ member) early
      rw [List.take_length_add_append]
      simp only [same]
      rw [List.length_append] at short
      exact .inr ⟨value, back.take rest, reads _, tail.fails rest (by omega)⟩

end Reader

/-! ## Values whose encoding is cut off -/

/-- The layout spells `size` bytes, the reader takes them and finds the value, and of too few of
them it wants more, but for the given numbers of bytes, which it takes for no value. -/
def BreaksAt {α : Type} (layout : Layout) (reader : Reader α) (value : α) (size : Nat)
    (places : List Nat) : Prop :=
  ∃ written, layout.contents = .ok written ∧ written.length = size ∧
    Reader.Reads reader written value ∧ Reader.Breaks reader written places

namespace BreaksAt

variable {α β : Type}

/-- What a steady reader reads back breaks nowhere. -/
theorem of_steady {layout : Layout} {reader : Reader α} {value : α} {size : Nat}
    (trip : RoundTrips layout reader value size) (steady : Reader.Steady reader) :
    BreaksAt layout reader value size [] := by
  obtain ⟨written, spelled, sized, read⟩ := trip
  have whole := read []
  rw [List.append_nil] at whole
  exact ⟨written, spelled, sized, read, steady.breaks whole⟩

/-- One value after the other. -/
theorem bind {first second : Layout} {reader : Reader α} {next : α → Reader β} {value : α}
    {result : β} {size more : Nat} {places others : List Nat}
    (head : BreaksAt first reader value size places)
    (tail : BreaksAt second (next value) result more others) :
    BreaksAt (first ++ second) (reader >>= next) result (size + more)
      (places ++ others.map (size + ·)) := by
  obtain ⟨front, frontSpelled, rfl, frontRead, frontBreaks⟩ := head
  obtain ⟨back, backSpelled, rfl, backRead, backBreaks⟩ := tail
  exact ⟨front ++ back, Layout.contents_append frontSpelled backSpelled, List.length_append,
    frontRead.bind backRead, frontBreaks.bind frontRead backBreaks⟩

/-- A value behind one that breaks nowhere. -/
theorem after {first second : Layout} {reader : Reader α} {next : α → Reader β} {value : α}
    {result : β} {size more : Nat} {places : List Nat} (trip : RoundTrips first reader value size)
    (steady : Reader.Steady reader) (tail : BreaksAt second (next value) result more places) :
    BreaksAt (first ++ second) (reader >>= next) result (size + more) (places.map (size + ·)) :=
  (of_steady trip steady).bind tail

/-- The last value of a sequence, of which the result is made. -/
theorem last {layout : Layout} {reader : Reader α} {value : α} {size : Nat} {places : List Nat}
    (breaks : BreaksAt layout reader value size places) (make : α → β) :
    BreaksAt layout (reader >>= fun found => pure (make found)) (make value) size places := by
  obtain ⟨written, spelled, sized, read, parts⟩ := breaks
  have made : Reader.Breaks (pure (make value) : Reader β) [] [] :=
    (Reader.steady_pure (make value)).breaks rfl
  have joined : Reader.Breaks (reader >>= fun found => pure (make found)) (written ++ [])
      (places ++ [].map (written.length + ·)) := parts.bind read made
  rw [List.append_nil, List.map_nil, List.append_nil] at joined
  exact ⟨written, spelled, sized, bind_pure_comp make reader ▸ read.map make, joined⟩

/-- The same value, with its size and its places written in another way. -/
theorem resize {layout : Layout} {reader : Reader α} {value : α} {size total : Nat}
    {places others : List Nat} (breaks : BreaksAt layout reader value size places)
    (same : size = total) (moved : places = others) : BreaksAt layout reader value total others :=
  same ▸ moved ▸ breaks

/-- What is said of a part of an encoding: it is malformed at the given places and truncated at all
others. -/
theorem decode_of_part {layout : Layout} {reader : Reader α} {value : α} {size : Nat}
    {places : List Nat} (breaks : BreaksAt layout reader value size places) {room : Nat}
    {written : List UInt8} (encoded : layout.encode room = .ok written) {part : List UInt8}
    (front : part <+: written) (strict : part ≠ written) (what : String) :
    decode what reader part =
      .error (if part.length ∈ places then .malformed what else .truncated what) := by
  obtain ⟨contents, spelled, -, -, parts⟩ := breaks
  obtain ⟨same, -⟩ := Layout.encode_eq_ok_iff.mp encoded
  cases spelled.symm.trans same
  have short : part.length < written.length :=
    Nat.lt_of_le_of_ne front.length_le fun all => strict (front.eq_of_length all)
  have failed := parts.fails part.length short
  rw [← List.prefix_iff_eq_take.mp front] at failed
  by_cases misread : part.length ∈ places
  · simp only [decode, failed, if_pos misread]
  · simp only [decode, failed, if_neg misread]

end BreaksAt

/-- `written` is the encoding of the value, in every buffer with room for it. It is decoded as the
value, every part of it is truncated, and with more bytes behind it it is malformed. -/
structure IsExactly {α : Type} (layout : Layout) (reader : Reader α) (value : α)
    (written : List UInt8) : Prop where
  encode : ∀ room, layout.encode room =
    if written.length ≤ room then .ok written else .error .noSpace
  whole : ∀ what, decode what reader written = .ok value
  part : ∀ {part}, part <+: written → part ≠ written →
    ∀ what, decode what reader part = .error (.truncated what)
  more : ∀ {more}, more ≠ [] →
    ∀ what, decode what reader (written ++ more) = .error (.malformed what)

/-- The value has an exact encoding. -/
def EncodesExactly {α : Type} (layout : Layout) (reader : Reader α) (value : α) : Prop :=
  ∃ written, IsExactly layout reader value written

/-- What a steady reader reads back is encoded exactly. -/
theorem RoundTrips.exactly {α : Type} {layout : Layout} {reader : Reader α} {value : α}
    {size : Nat} (trip : RoundTrips layout reader value size) (steady : Reader.Steady reader) :
    EncodesExactly layout reader value := by
  have breaks := BreaksAt.of_steady trip steady
  obtain ⟨written, spelled, -, read⟩ := trip
  refine ⟨written, fun room => ?_, read.decode, fun front strict what => ?_, fun some what => ?_⟩
  · split
    · exact Layout.encode_eq_ok_iff.mpr ⟨spelled, ‹_›⟩
    · exact Layout.encode_of_long spelled (Nat.lt_of_not_le ‹_›)
  · have encoded := Layout.encode_eq_ok_iff.mpr ⟨spelled, Nat.le_refl written.length⟩
    exact breaks.decode_of_part encoded front strict what
  · obtain ⟨byte, rest, rfl⟩ := List.exists_cons_of_ne_nil some
    simp only [decode, read (byte :: rest)]

end FirmwareUpdate.Wire
