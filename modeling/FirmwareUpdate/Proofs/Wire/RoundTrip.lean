import Mathlib.Algebra.Group.Nat.Defs
import FirmwareUpdate.Wire.Coded
import FirmwareUpdate.Wire.Layout

/-!
# Written forms are read back

`Layout.contents` is what a layout spells, apart from the room it needs, and
`Reader.Reads` says that a reader takes exactly some bytes, whatever follows them.
`RoundTrips` ties the two together for a value: its layout spells bytes that its
reader takes back. `RoundTrips.message` carries this over to whole message bodies.
-/

namespace FirmwareUpdate.Wire

/-- A mapped result is a success exactly when the result is one. -/
theorem map_eq_ok_iff {ε α β : Type} {f : α → β} {result : Except ε α} {value : β} :
    f <$> result = .ok value ↔ ∃ inner, result = .ok inner ∧ f inner = value := by
  cases result with
  | error error => simp [Functor.map, Except.map]
  | ok inner => simp [Functor.map, Except.map]

/-- A code belongs to one member. -/
theorem code_eq_code_iff {α : Type} [Coded α] {first second : α} :
    Coded.code first = Coded.code second ↔ first = second :=
  ⟨Coded.code_injective first second, congrArg Coded.code⟩

/-- A word comes back as far as its width holds it. -/
theorem ofLittleEndian_littleEndian (width value : Nat) :
    ofLittleEndian (littleEndian width value) = value % 256 ^ width := by
  induction width generalizing value with
  | zero => simp [littleEndian, ofLittleEndian, Nat.mod_one]
  | succ width ih =>
      simp only [littleEndian, ofLittleEndian, ih, UInt8.toNat_ofNat']
      rw [show 256 ^ (width + 1) = 256 * 256 ^ width by rw [Nat.pow_succ, Nat.mul_comm],
        Nat.mod_mul]

/-! ## What a layout spells -/

namespace Layout

/-- The bytes of the fields, or the first failure among them. -/
def contents : Layout → Except CodecError (List UInt8)
  | [] => .ok []
  | .error error :: _ => .error error
  | .ok field :: rest => (field ++ ·) <$> contents rest

/-- A layout is encoded exactly when all fields have bytes and there is room for them. -/
theorem encode_eq_ok_iff {room : Nat} {layout : Layout} {written : List UInt8} :
    layout.encode room = .ok written ↔
      layout.contents = .ok written ∧ written.length ≤ room := by
  induction layout generalizing room written with
  | nil =>
      simp only [encode, contents, Except.ok.injEq]
      constructor
      · rintro rfl
        simp
      · exact And.left
  | cons field rest ih =>
      cases field with
      | error error => simp [encode, contents]
      | ok field =>
          simp only [encode, contents, map_eq_ok_iff]
          constructor
          · intro encoded
            split at encoded
            · obtain ⟨tail, tailEncoded, rfl⟩ := map_eq_ok_iff.mp encoded
              obtain ⟨spelled, bounded⟩ := ih.mp tailEncoded
              refine ⟨⟨tail, spelled, rfl⟩, ?_⟩
              simp only [List.length_append]
              omega
            · cases encoded
          · rintro ⟨⟨tail, spelled, rfl⟩, bounded⟩
            simp only [List.length_append] at bounded
            rw [if_pos (by omega)]
            exact map_eq_ok_iff.mpr ⟨tail, ih.mpr ⟨spelled, by omega⟩, rfl⟩

/-- A layout becomes a message exactly when what it spells fits the default buffer. -/
theorem toMessage_eq_ok_iff {layout : Layout} {written : List UInt8} :
    layout.toMessage = .ok written ↔
      layout.contents = .ok written ∧ written.length ≤ maxMessageSize :=
  encode_eq_ok_iff

/-- Fields that spell more bytes than there is room for are refused for want of space. -/
theorem encode_of_long {layout : Layout} {written : List UInt8}
    (spelled : layout.contents = .ok written) {room : Nat} (long : room < written.length) :
    layout.encode room = .error .noSpace := by
  induction layout generalizing room written with
  | nil =>
      cases spelled
      cases long
  | cons field rest ih =>
      cases field with
      | error error => cases spelled
      | ok field =>
          obtain ⟨tail, restSpells, rfl⟩ := map_eq_ok_iff.mp spelled
          rw [List.length_append] at long
          rw [encode]
          split
          · rw [ih restSpells (by omega)]
            rfl
          · rfl

/-- Layouts one after the other spell their contents one after the other. -/
theorem contents_append {first second : Layout} {front back : List UInt8}
    (firstSpells : first.contents = .ok front) (secondSpells : second.contents = .ok back) :
    (first ++ second : Layout).contents = .ok (front ++ back) := by
  induction first generalizing front with
  | nil =>
      cases firstSpells
      exact secondSpells
  | cons field rest ih =>
      cases field with
      | error error => cases firstSpells
      | ok field =>
          obtain ⟨tail, restSpells, rfl⟩ := map_eq_ok_iff.mp firstSpells
          have joined := ih restSpells
          rw [List.append_assoc]
          exact map_eq_ok_iff.mpr ⟨tail ++ back, joined, rfl⟩

/-- What layouts one after the other spell is what the first spells and then the second. -/
theorem contents_append_eq_ok_iff {first second : Layout} {written : List UInt8} :
    (first ++ second : Layout).contents = .ok written ↔
      ∃ front back, first.contents = .ok front ∧ second.contents = .ok back ∧
        written = front ++ back := by
  constructor
  · intro spelled
    induction first generalizing written with
    | nil => exact ⟨[], written, rfl, spelled, rfl⟩
    | cons field rest ih =>
        cases field with
        | error error => cases spelled
        | ok field =>
            obtain ⟨tail, restSpells, rfl⟩ := map_eq_ok_iff.mp spelled
            obtain ⟨front, back, firstSpells, secondSpells, rfl⟩ := ih restSpells
            refine ⟨field ++ front, back, ?_, secondSpells, (List.append_assoc ..).symm⟩
            exact map_eq_ok_iff.mpr ⟨front, firstSpells, rfl⟩
  · rintro ⟨front, back, firstSpells, secondSpells, rfl⟩
    exact contents_append firstSpells secondSpells

/-- Every field of a layout that spells something has bytes. -/
theorem isOk_of_contents {layout : Layout} {written : List UInt8}
    (spelled : layout.contents = .ok written) {field : Except CodecError (List UInt8)}
    (member : field ∈ layout) : field.isOk = true := by
  induction layout generalizing written with
  | nil => cases member
  | cons first rest ih =>
      cases first with
      | error error => cases spelled
      | ok bytes =>
          obtain ⟨tail, restSpells, -⟩ := map_eq_ok_iff.mp spelled
          rcases List.mem_cons.mp member with rfl | later
          · rfl
          · exact ih restSpells later

/-- A field of bytes contributes those bytes, whatever they are. -/
@[simp] theorem contents_bytes (field : List UInt8) : (bytes field).contents = .ok field := by
  simp [bytes, contents, Functor.map, Except.map]

/-- A byte is written as itself. -/
@[simp] theorem contents_byte (value : UInt8) : (byte value).contents = .ok [value] :=
  contents_bytes _

/-- A word of sixteen bits is written as its two bytes. -/
@[simp] theorem contents_word16 (value : UInt16) : (word16 value).contents = .ok (bytes16 value) :=
  contents_bytes _

/-- A word of thirty-two bits is written as its four bytes. -/
@[simp] theorem contents_word32 (value : UInt32) : (word32 value).contents = .ok (bytes32 value) :=
  contents_bytes _

/-- A word of sixty-four bits is written as its eight bytes. -/
@[simp] theorem contents_word64 (value : UInt64) : (word64 value).contents = .ok (bytes64 value) :=
  contents_bytes _

/-- A layout that is written on its own first, and put behind a header that depends on it. -/
theorem contents_nested_eq_ok_iff {inner : Layout} {header : List UInt8 → Layout}
    {head : List UInt8 → List UInt8} {written : List UInt8}
    (spells : ∀ body, (header body).contents = .ok (head body)) :
    contents (match inner.toMessage with
      | .error error => refused error
      | .ok body => header body ++ bytes body) = .ok written ↔
      ∃ body, inner.contents = .ok body ∧ body.length ≤ maxMessageSize ∧
        written = head body ++ body := by
  simp only [← and_assoc, ← toMessage_eq_ok_iff]
  cases inner.toMessage with
  | error error => simp [refused, contents]
  | ok body =>
      rw [contents_append (spells body) (contents_bytes body)]
      constructor
      · rintro ⟨⟩
        exact ⟨body, rfl, rfl⟩
      · rintro ⟨again, ⟨⟩, rfl⟩
        rfl

end Layout

@[simp] theorem length_bytes16 (value : UInt16) : (bytes16 value).length = 2 :=
  length_littleEndian _ _

@[simp] theorem length_bytes32 (value : UInt32) : (bytes32 value).length = 4 :=
  length_littleEndian _ _

@[simp] theorem length_bytes64 (value : UInt64) : (bytes64 value).length = 8 :=
  length_littleEndian _ _

/-! ## What a reader takes -/

namespace Reader

variable {α β : Type}

/-- The reader takes exactly `taken` from the front of its input and finds `value`
there, whatever follows. -/
def Reads (reader : Reader α) (taken : List UInt8) (value : α) : Prop :=
  ∀ rest, reader (taken ++ rest) = .ok (value, rest)

/-- A sequence of readers succeeds exactly when both do, one after the other. -/
theorem bind_eq_ok_iff {reader : Reader α} {next : α → Reader β} {input rest : List UInt8}
    {value : β} :
    (reader >>= next) input = .ok (value, rest) ↔
      ∃ first left, reader input = .ok (first, left) ∧ next first left = .ok (value, rest) := by
  show (reader input >>= fun taken => next taken.1 taken.2) = _ ↔ _
  cases reader input with
  | error failure => simp [Bind.bind, Except.bind]
  | ok taken =>
      constructor
      · exact fun done => ⟨taken.1, taken.2, rfl, done⟩
      · rintro ⟨first, left, same, done⟩
        cases same
        exact done

/-- Nothing is consumed where a value is given without reading. -/
theorem reads_pure (value : α) : Reads (pure value : Reader α) [] value := fun _ => rfl

/-- One reader after the other takes the bytes of the first and then of the second. -/
theorem Reads.bind {reader : Reader α} {next : α → Reader β} {taken more : List UInt8}
    {value : α} {result : β} (head : Reads reader taken value)
    (tail : Reads (next value) more result) :
    Reads (reader >>= next) (taken ++ more) result := by
  intro rest
  have first := head (more ++ rest)
  have second := tail rest
  rw [List.append_assoc]
  show (reader (taken ++ (more ++ rest)) >>= fun found => next found.1 found.2) = _
  rw [first]
  exact second

/-- What is made of a value takes the bytes of the value. -/
theorem Reads.map {reader : Reader α} {taken : List UInt8} {value : α}
    (reads : Reads reader taken value) (f : α → β) : Reads (f <$> reader) taken (f value) := by
  intro rest
  show (reader (taken ++ rest) >>= fun found => pure (f found.1, found.2)) = _
  rw [reads rest]
  rfl

/-- A body that a reader takes whole is decoded as the value. -/
theorem Reads.decode {reader : Reader α} {taken : List UInt8} {value : α}
    (reads : Reads reader taken value) (what : String) :
    Wire.decode what reader taken = .ok value := by
  have whole := reads []
  rw [List.append_nil] at whole
  simp only [Wire.decode, whole]

/-- A byte that was written is read back. -/
theorem reads_byte (value : UInt8) : Reads byte [value] value := fun _ => rfl

/-- As many bytes as are asked for are taken, whatever follows them. -/
theorem reads_take (taken : List UInt8) : Reads (take taken.length) taken taken := by
  intro rest
  simp [take]

/-- A number that fits its width is read back from its bytes, least significant first. -/
private theorem reads_number (width value : Nat) (bounded : value < 256 ^ width) :
    Reads (number width) (littleEndian width value) value := by
  have taken := reads_take (littleEndian width value)
  rw [length_littleEndian] at taken
  have read := taken.map ofLittleEndian
  rwa [ofLittleEndian_littleEndian, Nat.mod_eq_of_lt bounded] at read

/-- The two bytes of a word are read back as the word. -/
theorem reads_word16 (value : UInt16) : Reads word16 (bytes16 value) value := by
  have read := (reads_number 2 value.toNat value.toNat_lt).map UInt16.ofNat
  rwa [UInt16.ofNat_toNat] at read

/-- The four bytes of a word are read back as the word. -/
theorem reads_word32 (value : UInt32) : Reads word32 (bytes32 value) value := by
  have read := (reads_number 4 value.toNat value.toNat_lt).map UInt32.ofNat
  rwa [UInt32.ofNat_toNat] at read

/-- The eight bytes of a word are read back as the word. -/
theorem reads_word64 (value : UInt64) : Reads word64 (bytes64 value) value := by
  have read := (reads_number 8 value.toNat value.toNat_lt).map UInt64.ofNat
  rwa [UInt64.ofNat_toNat] at read

/-- A check that succeeds consumes nothing and gives what it found. -/
theorem reads_require {value : Option α} {result : α} (found : value = some result) :
    Reads (require value) [] result := by
  subst found
  exact reads_pure result

/-- The code of a member is read back as the member. -/
theorem reads_coded [Coded α] (member : α) : Reads (coded : Reader α) [Coded.code member] member :=
  (reads_byte (Coded.code member)).bind (reads_require (ofCode?_code member))

end Reader

/-! ## Values that are read back -/

/-- The layout spells `size` bytes, and the reader takes them and finds the value. -/
def RoundTrips {α : Type} (layout : Layout) (reader : Reader α) (value : α) (size : Nat) : Prop :=
  ∃ written, layout.contents = .ok written ∧ written.length = size ∧
    Reader.Reads reader written value

namespace RoundTrips

variable {α β : Type}

/-- One value after the other. -/
theorem bind {first second : Layout} {reader : Reader α} {next : α → Reader β} {value : α}
    {result : β} {size more : Nat} (head : RoundTrips first reader value size)
    (tail : RoundTrips second (next value) result more) :
    RoundTrips (first ++ second) (reader >>= next) result (size + more) := by
  obtain ⟨front, frontSpelled, rfl, frontRead⟩ := head
  obtain ⟨back, backSpelled, rfl, backRead⟩ := tail
  exact ⟨front ++ back, Layout.contents_append frontSpelled backSpelled, List.length_append,
    frontRead.bind backRead⟩

/-- The last value of a sequence, of which the result is made. -/
theorem last {layout : Layout} {reader : Reader α} {value : α} {size : Nat}
    (trip : RoundTrips layout reader value size) (make : α → β) :
    RoundTrips layout (reader >>= fun found => pure (make found)) (make value) size := by
  obtain ⟨written, spelled, sized, read⟩ := trip
  rw [bind_pure_comp]
  exact ⟨written, spelled, sized, read.map make⟩

/-- The same round trip, with its size written in another way. -/
theorem resize {layout : Layout} {reader : Reader α} {value : α} {size total : Nat}
    (trip : RoundTrips layout reader value size) (same : size = total) :
    RoundTrips layout reader value total :=
  same ▸ trip

/-- A value that fits a message is decoded from its message. -/
theorem message {layout : Layout} {reader : Reader α} {value : α} {size : Nat}
    (trip : RoundTrips layout reader value size) (fits : size ≤ maxMessageSize) (what : String) :
    ∃ written, layout.toMessage = .ok written ∧ written.length = size ∧
      decode what reader written = .ok value := by
  obtain ⟨written, spelled, rfl, read⟩ := trip
  exact ⟨written, Layout.toMessage_eq_ok_iff.mpr ⟨spelled, fits⟩, rfl, read.decode what⟩

/-- A message that has been written is read back. -/
theorem decode_of_written {layout : Layout} {reader : Reader α} {value : α} {size : Nat}
    (trip : RoundTrips layout reader value size) {written : List UInt8}
    (encoded : layout.toMessage = .ok written) (what : String) :
    decode what reader written = .ok value := by
  obtain ⟨contents, spelled, -, read⟩ := trip
  obtain ⟨same, -⟩ := Layout.toMessage_eq_ok_iff.mp encoded
  cases spelled.symm.trans same
  exact read.decode what

/-- A message that has been written has the size of what is read from it. -/
theorem length_of_written {layout : Layout} {reader : Reader α} {value : α} {size : Nat}
    (trip : RoundTrips layout reader value size) {written : List UInt8}
    (encoded : layout.toMessage = .ok written) : written.length = size := by
  obtain ⟨contents, spelled, sized, -⟩ := trip
  obtain ⟨same, -⟩ := Layout.toMessage_eq_ok_iff.mp encoded
  cases spelled.symm.trans same
  exact sized

/-- A byte field, one byte long. -/
theorem byte (value : UInt8) : RoundTrips (Layout.byte value) Reader.byte value 1 :=
  ⟨[value], Layout.contents_byte value, rfl, Reader.reads_byte value⟩

/-- A field of sixteen bits, two bytes long. -/
theorem word16 (value : UInt16) : RoundTrips (Layout.word16 value) Reader.word16 value 2 :=
  ⟨bytes16 value, Layout.contents_word16 value, length_bytes16 value, Reader.reads_word16 value⟩

/-- A field of thirty-two bits, four bytes long. -/
theorem word32 (value : UInt32) : RoundTrips (Layout.word32 value) Reader.word32 value 4 :=
  ⟨bytes32 value, Layout.contents_word32 value, length_bytes32 value, Reader.reads_word32 value⟩

/-- A field of sixty-four bits, eight bytes long. -/
theorem word64 (value : UInt64) : RoundTrips (Layout.word64 value) Reader.word64 value 8 :=
  ⟨bytes64 value, Layout.contents_word64 value, length_bytes64 value, Reader.reads_word64 value⟩

/-- An enumerated field, one byte long: its code stands for the member alone. -/
theorem coded [Coded α] (member : α) :
    RoundTrips (Layout.byte (Coded.code member)) (Reader.coded : Reader α) member 1 :=
  ⟨[Coded.code member], Layout.contents_byte _, rfl, Reader.reads_coded member⟩

end RoundTrips

end FirmwareUpdate.Wire
