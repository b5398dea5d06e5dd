import StoryBundle.Proofs.Text.Pieces
import StoryBundle.Text.Utf8

/-!
# Text and damage

The bytes of a character are read as the character, so those of a text are read as the text
(`decode_encode`), and no other bytes are text (`text?_eq_some_iff`).

Damage ends with its line. No sequence of several bytes contains or stands for a line feed. So a line
feed is read as one whatever is open in front of it (`decode_append_feed`), and the lines of a text are
the lines of its bytes, each of them read for itself (`lines_decode`).
-/

namespace StoryBundle.Text.Utf8

/-! ## Text without damage -/

theorem toNat_byte {code : Nat} (small : code < 0x100) : (UInt8.ofNat code).toNat = code :=
  UInt8.toNat_ofNat_of_lt' small

theorem lead_one {code : Nat} (ascii : code < 0x80) :
    lead (UInt8.ofNat code) = .whole (Char.ofNat code) := by
  simp only [lead, toNat_byte (Nat.lt_trans ascii (by decide)), if_pos ascii]

theorem lead_two : ∀ high < 0x20, 2 ≤ high →
    lead (UInt8.ofNat (high + 0xC0)) = .opening ⟨high, 1, 0x80, 0xBF⟩ := by decide

theorem lead_three : ∀ high < 0x10, lead (UInt8.ofNat (high + 0xE0)) =
    .opening ⟨high, 2, if high = 0 then 0xA0 else 0x80, if high = 0xD then 0x9F else 0xBF⟩ := by
  decide

theorem lead_four : ∀ high < 5, lead (UInt8.ofNat (high + 0xF0)) =
    .opening ⟨high, 3, if high = 0 then 0x90 else 0x80, if high = 4 then 0x8F else 0xBF⟩ := by
  decide

namespace Reader

theorem feed_of_opening {done : List Char} {byte : UInt8} {rest : Partial}
    (opens : lead byte = .opening rest) : Reader.feed ⟨done, none⟩ byte = ⟨done, some rest⟩ := by
  simp only [Reader.feed, Reader.begin, opens]

/-- A byte in the range of an open sequence brings six bits. -/
theorem feed_of_open {done : List Char} {value due bits : Nat} {low high : UInt8}
    (small : bits < 0x40) (above : low.toNat ≤ bits + 0x80) (below : bits + 0x80 ≤ high.toNat) :
    Reader.feed ⟨done, some ⟨value, due, low, high⟩⟩ (UInt8.ofNat (bits + 0x80)) =
      if due ≤ 1 then ⟨Char.ofNat (value * 64 + bits) :: done, none⟩
      else ⟨done, some ⟨value * 64 + bits, due - 1, 0x80, 0xBF⟩⟩ := by
  have byte : (UInt8.ofNat (bits + 0x80)).toNat = bits + 0x80 := toNat_byte (by omega)
  have taken : low ≤ UInt8.ofNat (bits + 0x80) ∧ UInt8.ofNat (bits + 0x80) ≤ high := by
    rw [UInt8.le_iff_toNat_le, UInt8.le_iff_toNat_le, byte]
    exact ⟨above, below⟩
  simp only [Reader.feed, if_pos taken, byte, Nat.add_sub_cancel]

/-- Past the second byte any six bits can come. -/
theorem feed_of_wide {done : List Char} {value due bits : Nat} (small : bits < 0x40) :
    Reader.feed ⟨done, some ⟨value, due, 0x80, 0xBF⟩⟩ (UInt8.ofNat (bits + 0x80)) =
      if due ≤ 1 then ⟨Char.ofNat (value * 64 + bits) :: done, none⟩
      else ⟨done, some ⟨value * 64 + bits, due - 1, 0x80, 0xBF⟩⟩ := by
  have low : (0x80 : UInt8).toNat = 0x80 := rfl
  have high : (0xBF : UInt8).toNat = 0xBF := rfl
  exact feed_of_open small (by omega) (by omega)

/-- The bytes of a character are read as the character, whatever was read before. -/
theorem foldl_feed_utf8EncodeChar (done : List Char) (c : Char) :
    (String.utf8EncodeChar c).foldl Reader.feed ⟨done, none⟩ = ⟨c :: done, none⟩ := by
  obtain ⟨code, spelled⟩ : ∃ code, c.val.toNat = code := ⟨_, rfl⟩
  have valid : code < 0xD800 ∨ 0xDFFF < code ∧ code < 0x110000 := spelled ▸ c.valid
  have own : Char.ofNat code = c := spelled ▸ Char.ofNat_toNat c
  simp only [String.utf8EncodeChar, spelled]
  split
  case isTrue one =>
    rw [List.foldl_cons, List.foldl_nil, Reader.feed, Reader.begin, lead_one (by omega), own]
  split
  case isTrue two =>
    have high : code / 64 % 32 = code / 64 := by omega
    have whole : code / 64 * 64 + code % 64 = code := by omega
    rw [high, List.foldl_cons, feed_of_opening (lead_two _ (by omega) (by omega)),
      List.foldl_cons, feed_of_wide (by omega), if_pos (by decide), whole, own, List.foldl_nil]
  -- In a longer sequence the range of the second byte is as wide as its six bits can get.
  split
  case isTrue three =>
    have high : code / 4096 % 16 = code / 4096 := by omega
    have whole : (code / 4096 * 64 + code / 64 % 64) * 64 + code % 64 = code := by omega
    rw [high, List.foldl_cons, feed_of_opening (lead_three _ (by omega)), List.foldl_cons,
      feed_of_open (by omega) (by split <;> simp; omega) (by split <;> simp <;> omega),
      if_neg (by decide), List.foldl_cons, feed_of_wide (by omega), if_pos (by decide), whole, own,
      List.foldl_nil]
  case isFalse four =>
    have high : code / 262144 % 8 = code / 262144 := by omega
    have whole : ((code / 262144 * 64 + code / 4096 % 64) * 64 + code / 64 % 64) * 64 + code % 64 =
        code := by omega
    rw [high, List.foldl_cons, feed_of_opening (lead_four _ (by omega)), List.foldl_cons,
      feed_of_open (by omega) (by split <;> simp; omega) (by split <;> simp <;> omega),
      if_neg (by decide), List.foldl_cons, feed_of_wide (by omega), if_neg (by decide),
      List.foldl_cons, feed_of_wide (by omega), if_pos (by decide), whole, own, List.foldl_nil]

theorem foldl_feed_flatMap (done text : List Char) :
    (text.flatMap String.utf8EncodeChar).foldl Reader.feed ⟨done, none⟩ =
      ⟨text.reverse ++ done, none⟩ := by
  induction text generalizing done with
  | nil => rfl
  | cons c rest ih =>
    rw [List.flatMap_cons, List.foldl_append, foldl_feed_utf8EncodeChar, ih, List.reverse_cons,
      List.append_assoc]
    rfl

end Reader

theorem decode_encode (text : String) : decode (encode text) = text.toList := by
  rw [decode, encode, Reader.foldl_feed_flatMap, Reader.finish, List.append_nil, List.reverse_reverse]

/-- A byte string is a text exactly if it has the bytes of that text. -/
theorem text?_eq_some_iff {bytes : Bytes} {text : String} :
    text? bytes = some text ↔ encode text = bytes := by
  rw [text?]
  constructor
  · intro read
    split at read
    · rename_i undamaged
      rw [← Option.some.inj read, undamaged]
    · cases read
  · rintro rfl
    rw [decode_encode, String.ofList_toList, if_pos rfl]

/-! ## Line feeds -/

/-- The byte of a line feed. -/
def feedByte : UInt8 := 0x0A

theorem eq_of_ofNat_eq_feed {code : Nat} (feed : Char.ofNat code = '\n') : code = 0x0A := by
  by_cases valid : code.isValidChar
  · have kept : (Char.ofNat code).toNat = code := by
      rw [Char.ofNat, dif_pos valid]
      rfl
    rw [← kept, feed]
    rfl
  · rw [Char.ofNat, dif_neg valid] at feed
    cases feed

/-- Only bytes outside ASCII are due, and the character that they complete is outside ASCII: its
high bits are there already, or the next byte is bound to bring some. -/
def Partial.Sound (open_ : Partial) : Prop :=
  0x80 ≤ open_.low.toNat ∧ (1 ≤ open_.value ∨ 2 ≤ open_.due ∧ 0x81 ≤ open_.low.toNat)

namespace Reader

def Sound (reader : Reader) : Prop := ∀ open_, reader.pending = some open_ → open_.Sound

end Reader

theorem Partial.Sound.of_lead {byte : UInt8} {open_ : Partial} (opens : lead byte = .opening open_) :
    open_.Sound := by
  unfold lead at opens
  simp only at opens
  repeat' split at opens
  all_goals simp only [reduceCtorEq, Lead.opening.injEq] at opens
  all_goals subst opens
  all_goals simp [Partial.Sound]
  all_goals omega

theorem eq_feedByte_of_lead {byte : UInt8} (whole : lead byte = .whole '\n') : byte = feedByte := by
  unfold lead at whole
  simp only at whole
  split at whole
  · rw [Lead.whole.injEq] at whole
    exact UInt8.toNat_inj.mp (eq_of_ofNat_eq_feed whole)
  · repeat' split at whole
    all_goals simp only [reduceCtorEq] at whole

/-- A byte that an open sequence takes either leads on in it or completes it. -/
theorem Partial.Sound.next {open_ : Partial} (sound : open_.Sound) {byte : UInt8}
    (taken : open_.low ≤ byte) :
    0x0A < open_.value * 64 + (byte.toNat - 0x80) ∨
      2 ≤ open_.due ∧ 1 ≤ open_.value * 64 + (byte.toNat - 0x80) := by
  obtain ⟨_, value | ⟨due, low⟩⟩ := sound
  · exact .inl (by omega)
  · have reached : open_.low.toNat ≤ byte.toNat := taken
    exact .inr ⟨due, by omega⟩

namespace Reader

/-! ## One byte -/

theorem Sound.begin (done : List Char) (byte : UInt8) : (Reader.begin done byte).Sound := by
  intro open_ pending
  unfold Reader.begin at pending
  cases opens : lead byte with
  | whole c => simp [opens] at pending
  | opening rest =>
    simp only [opens, Option.some.injEq] at pending
    subst pending
    exact .of_lead opens
  | stray => simp [opens] at pending

theorem Sound.feed {reader : Reader} (sound : reader.Sound) (byte : UInt8) :
    (reader.feed byte).Sound := by
  unfold Reader.feed
  cases pending : reader.pending with
  | none => exact .begin _ byte
  | some open_ =>
    by_cases taken : open_.low ≤ byte ∧ byte ≤ open_.high
    · by_cases last : open_.due ≤ 1
      · simp [taken, last, Sound]
      · have value : 1 ≤ open_.value * 64 + (byte.toNat - 0x80) := by
          rcases (sound open_ pending).next taken.1 with large | ⟨_, positive⟩ <;> omega
        simp only [taken, and_self, if_true, last, if_false]
        intro next opened
        rw [Option.some.injEq] at opened
        subst opened
        exact ⟨by simp, .inl value⟩
    · simp only [taken, if_false]
      exact .begin _ byte

/-- A line feed ends what is open in front of it. -/
theorem feed_feedByte {reader : Reader} (sound : reader.Sound) :
    reader.feed feedByte = ⟨'\n' :: reader.finish.reverse, none⟩ := by
  unfold Reader.feed Reader.finish
  cases pending : reader.pending with
  | none => simp only [List.reverse_reverse]; rfl
  | some open_ =>
    have refused : ¬ open_.low ≤ feedByte := by
      obtain ⟨ascii, _⟩ := sound open_ pending
      intro taken
      have small : open_.low.toNat ≤ 0x0A := taken
      omega
    simp only [refused, false_and, if_false, List.reverse_reverse]
    rfl

theorem feed_not_mem_begin {done : List Char} {byte : UInt8} (plain : '\n' ∉ done)
    (other : byte ≠ feedByte) : '\n' ∉ (Reader.begin done byte).done := by
  unfold Reader.begin
  cases opens : lead byte with
  | whole c =>
    intro inside
    rcases List.mem_cons.mp inside with rfl | inside
    · exact other (eq_feedByte_of_lead opens)
    · exact plain inside
  | opening rest => exact plain
  | stray =>
    intro inside
    rcases List.mem_cons.mp inside with damaged | inside
    · exact absurd damaged (by decide)
    · exact plain inside

/-- No other byte makes a line feed. -/
theorem feed_not_mem_feed {reader : Reader} {byte : UInt8} (sound : reader.Sound)
    (plain : '\n' ∉ reader.done) (other : byte ≠ feedByte) : '\n' ∉ (reader.feed byte).done := by
  unfold Reader.feed
  cases pending : reader.pending with
  | none => exact feed_not_mem_begin plain other
  | some open_ =>
    by_cases taken : open_.low ≤ byte ∧ byte ≤ open_.high
    · by_cases last : open_.due ≤ 1
      · simp only [taken, and_self, if_true, last]
        intro inside
        rcases List.mem_cons.mp inside with completed | inside
        · have code := eq_of_ofNat_eq_feed completed.symm
          rcases (sound open_ pending).next taken.1 with large | ⟨due, _⟩ <;> omega
        · exact plain inside
      · simp only [taken, and_self, if_true, last, if_false]
        exact plain
    · simp only [taken, if_false]
      refine feed_not_mem_begin ?_ other
      intro inside
      rcases List.mem_cons.mp inside with damaged | inside
      · exact absurd damaged (by decide)
      · exact plain inside

/-- Characters that are done stay below those that follow. -/
theorem feed_append (front done : List Char) (pending : Option Partial) (byte : UInt8) :
    Reader.feed ⟨front ++ done, pending⟩ byte =
      ⟨(Reader.feed ⟨front, pending⟩ byte).done ++ done,
        (Reader.feed ⟨front, pending⟩ byte).pending⟩ := by
  cases pending with
  | none => cases opens : lead byte <;> simp [Reader.feed, Reader.begin, opens]
  | some open_ =>
    by_cases taken : open_.low ≤ byte ∧ byte ≤ open_.high
    · by_cases last : open_.due ≤ 1 <;> simp [Reader.feed, taken, last]
    · cases opens : lead byte <;> simp [Reader.feed, Reader.begin, taken, opens]

/-! ## Runs of bytes -/

theorem Sound.foldl {reader : Reader} (sound : reader.Sound) (bytes : Bytes) :
    (bytes.foldl Reader.feed reader).Sound := by
  induction bytes generalizing reader with
  | nil => exact sound
  | cons byte rest ih => exact ih (sound.feed byte)

theorem feed_not_mem_foldl {reader : Reader} {bytes : Bytes} (sound : reader.Sound)
    (plain : '\n' ∉ reader.done) (other : feedByte ∉ bytes) :
    '\n' ∉ (bytes.foldl Reader.feed reader).done := by
  induction bytes generalizing reader with
  | nil => exact plain
  | cons byte rest ih =>
    rw [List.mem_cons, not_or] at other
    exact ih (sound.feed byte) (feed_not_mem_feed sound plain (Ne.symm other.1)) other.2

theorem foldl_append (front done : List Char) (pending : Option Partial) (bytes : Bytes) :
    bytes.foldl Reader.feed ⟨front ++ done, pending⟩ =
      ⟨(bytes.foldl Reader.feed ⟨front, pending⟩).done ++ done,
        (bytes.foldl Reader.feed ⟨front, pending⟩).pending⟩ := by
  induction bytes generalizing front pending with
  | nil => rfl
  | cons byte rest ih =>
    rw [List.foldl_cons, feed_append, ih, List.foldl_cons]

theorem finish_append (front done : List Char) (pending : Option Partial) :
    Reader.finish ⟨front ++ done, pending⟩ = done.reverse ++ Reader.finish ⟨front, pending⟩ := by
  cases pending <;> simp [Reader.finish]

end Reader

/-- The reader before the first byte. -/
theorem sound_start : Reader.Sound ⟨[], none⟩ := by
  rintro open_ ⟨⟩

theorem decode_append_feed (front rest : Bytes) :
    decode (front ++ feedByte :: rest) = decode front ++ '\n' :: decode rest := by
  have sound := sound_start.foldl front
  unfold decode
  rw [List.foldl_append, List.foldl_cons, Reader.feed_feedByte sound]
  have split := Reader.foldl_append [] ('\n' :: (front.foldl Reader.feed ⟨[], none⟩).finish.reverse)
    none rest
  rw [List.nil_append] at split
  rw [split, Reader.finish_append, List.reverse_cons, List.reverse_reverse, List.append_assoc]
  rfl

theorem feed_not_mem_decode {bytes : Bytes} (other : feedByte ∉ bytes) : '\n' ∉ decode bytes := by
  have plain := Reader.feed_not_mem_foldl sound_start List.not_mem_nil other
  unfold decode Reader.finish
  cases (bytes.foldl Reader.feed ⟨[], none⟩).pending with
  | none => simpa using plain
  | some open_ => simpa [replacement] using plain

/-- Bytes are read line by line. -/
theorem lines_decode (bytes : Bytes) :
    lines (decode bytes) = (bytes.splitOn feedByte).map decode := by
  by_cases divided : feedByte ∈ bytes
  · obtain ⟨front, rest, parts, plain⟩ := List.eq_append_cons_of_mem divided
    have shorter : rest.length < bytes.length := by
      rw [parts, List.length_append, List.length_cons]
      omega
    rw [parts, decode_append_feed, lines_append_feed, lines_of_plain (feed_not_mem_decode plain),
      lines_decode rest, List.splitOn_append_cons_self_of_not_mem plain, List.map_cons]
    rfl
  · rw [lines_of_plain (feed_not_mem_decode divided), List.splitOn_eq_singleton divided]
    rfl
termination_by bytes.length

end StoryBundle.Text.Utf8
