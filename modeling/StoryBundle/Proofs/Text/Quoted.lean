import Mathlib.Data.List.Forall2
import StoryBundle.DecodeError
import StoryBundle.Proofs.Text.Digits

/-!
# Reading quoted text

`Written` is the rule by which one character is written between quotes, and `escape` keeps it
(`written_escape`). By the rule alone a reader finds the character again and knows where the next one
starts (`Written.read?_append`), so no two texts are written alike (`encode_injective`). The rule also
keeps hidden characters out of what stands between the quotes, and quotes that would end it
(`sealed_flatMap_escape`).

The main theorem, `quoted_latin1_faithful`, says this of the bytes that messages show.
-/

namespace StoryBundle.Text.Quoted

/-- The marks that name a character after a backslash. -/
def names : List (Char × Char) :=
  [('"', '"'), ('\\', '\\'), ('0', '\x00'), ('t', '\t'), ('n', '\n'), ('r', '\r')]

def IsControl (c : Char) : Prop := c.toNat < 0x20 ∨ 0x7F ≤ c.toNat ∧ c.toNat ≤ 0x9F

/-- A control character, the no-break space or the soft hyphen. -/
def Hidden (c : Char) : Prop := IsControl c ∨ c.toNat = 0xA0 ∨ c.toNat = 0xAD

/-- How a character is written between quotes. -/
inductive Written : Char → List Char → Prop
  /-- A quote, a backslash and the four common control characters by their names. -/
  | named {c mark : Char} (listed : (mark, c) ∈ names) : Written c ['\\', mark]
  /-- Every other hidden character by its code point, in as few digits as it needs. -/
  | braced {c : Char} {digits : List Char} (unnamed : c ∉ names.map Prod.snd) (hidden : Hidden c)
      (hexadecimal : ∀ digit ∈ digits, isHexDigit digit = true) (spelled : hexValue digits = c.toNat)
      (shortest : digits.head? ≠ some '0') : Written c ('\\' :: 'u' :: '\x7b' :: (digits ++ ['\x7d']))
  /-- All else by itself. -/
  | plain {c : Char} (unnamed : c ∉ names.map Prod.snd) (visible : ¬ Hidden c) : Written c [c]

/-- Characters other than a quote and a backslash, and pairs of a backslash and any character. So no
quote stands without a backslash of its own. -/
inductive Sealed : List Char → Prop
  | nil : Sealed []
  | plain {c : Char} {rest : List Char} (notQuote : c ≠ '"') (notBackslash : c ≠ '\\')
      (sealed : Sealed rest) : Sealed (c :: rest)
  | paired {c : Char} {rest : List Char} (sealed : Sealed rest) : Sealed ('\\' :: c :: rest)

/-! ## The rule is kept -/

theorem isHidden_iff {c : Char} : isHidden c = true ↔ Hidden c := by
  simp only [isHidden, Hidden, IsControl, Bool.or_eq_true, Bool.and_eq_true, decide_eq_true_eq,
    beq_iff_eq]
  omega

theorem escape_of_named : ∀ entry ∈ names, escape entry.2 = ['\\', entry.1] := by decide

theorem escape_of_unnamed {c : Char} (unnamed : c ∉ names.map Prod.snd) :
    escape c =
      if isHidden c then '\\' :: 'u' :: '\x7b' :: (hexDigits c.toNat ++ ['\x7d']) else [c] := by
  simp only [names, List.map_cons, List.map_nil, List.mem_cons, List.not_mem_nil, or_false,
    not_or] at unnamed
  obtain ⟨quote, backslash, null, tab, feed, return_⟩ := unnamed
  rw [escape, if_neg quote, if_neg backslash, if_neg null, if_neg tab, if_neg feed, if_neg return_]
  rfl

theorem written_escape (c : Char) : Written c (escape c) := by
  by_cases named : c ∈ names.map Prod.snd
  · obtain ⟨⟨mark, _⟩, listed, rfl⟩ := List.mem_map.mp named
    rw [escape_of_named _ listed]
    exact .named listed
  · rw [escape_of_unnamed named]
    split
    · rename_i hidden
      have positive : 0 < c.toNat := by
        refine Nat.pos_of_ne_zero fun zero => named ?_
        rw [show c = '\x00' from Char.toNat_inj.mp zero]
        decide
      exact .braced named (isHidden_iff.mp hidden) (fun _ => isHexDigit_of_mem_hexDigits)
        (hexValue_hexDigits _) (head?_hexDigits_ne_zero positive)
    · rename_i visible
      exact .plain named (mt isHidden_iff.mpr visible)

theorem forall₂_written_escape (text : List Char) :
    List.Forall₂ Written text (text.map escape) := by
  rw [List.forall₂_map_right_iff, List.forall₂_same]
  exact fun c _ => written_escape c

/-! ## Reading -/

/-- The character whose code point is spelled up to a closing brace, and what comes after that. -/
def readBraced? : List Char → Option (Char × List Char)
  | '\x7b' :: text =>
    match text.dropWhile (· != '\x7d') with
    | _ :: rest => some (Char.ofNat (hexValue (text.takeWhile (· != '\x7d'))), rest)
    | [] => none
  | _ => none

/-- The first character of a written text, and what comes after its written form. -/
def read? : List Char → Option (Char × List Char)
  | [] => none
  | '\\' :: 'u' :: rest => readBraced? rest
  | '\\' :: mark :: rest => (names.lookup mark).map (·, rest)
  | c :: rest => some (c, rest)

/-- A written character is read back, whatever comes after it. -/
theorem Written.read?_append {c : Char} {text : List Char} (written : Written c text)
    (rest : List Char) : read? (text ++ rest) = some (c, rest) := by
  cases written with
  | named listed =>
    simp only [names, List.mem_cons, List.not_mem_nil, or_false, Prod.mk.injEq] at listed
    rcases listed with ⟨rfl, rfl⟩ | ⟨rfl, rfl⟩ | ⟨rfl, rfl⟩ | ⟨rfl, rfl⟩ | ⟨rfl, rfl⟩ | ⟨rfl, rfl⟩ <;>
      rfl
  | @braced digits _ _ hexadecimal spelled _ =>
    have open_ : ∀ digit ∈ digits, (digit != '\x7d') = true := by
      intro digit inside
      rw [bne_iff_ne]
      rintro rfl
      exact absurd (hexadecimal _ inside) (by decide)
    have shape : '\\' :: 'u' :: '\x7b' :: (digits ++ ['\x7d']) ++ rest =
        '\\' :: 'u' :: '\x7b' :: (digits ++ '\x7d' :: rest) := by simp
    rw [shape, read?, readBraced?, List.dropWhile_append_of_pos open_,
      List.takeWhile_append_of_pos open_]
    simp [spelled]
  | plain unnamed visible =>
    have notBackslash : c ≠ '\\' := by
      rintro rfl
      exact unnamed (by decide)
    rw [List.singleton_append, read?]
    · exact fun _ backslash => absurd backslash notBackslash
    · exact fun _ _ backslash => absurd backslash notBackslash

/-- No two texts are written alike. -/
theorem flatMap_escape_injective {left right : List Char}
    (same : left.flatMap escape = right.flatMap escape) : left = right := by
  have nothing : read? [] = none := rfl
  induction left generalizing right with
  | nil =>
    cases right with
    | nil => rfl
    | cons d others =>
      have back := (written_escape d).read?_append (others.flatMap escape)
      rw [← List.flatMap_cons, ← same, List.flatMap_nil, nothing] at back
      cases back
  | cons c rest ih =>
    have front := (written_escape c).read?_append (rest.flatMap escape)
    rw [← List.flatMap_cons, same] at front
    cases right with
    | nil =>
      rw [List.flatMap_nil, nothing] at front
      cases front
    | cons d others =>
      have back := (written_escape d).read?_append (others.flatMap escape)
      rw [← List.flatMap_cons, front, Option.some.injEq, Prod.mk.injEq] at back
      obtain ⟨rfl, rest_eq⟩ := back
      rw [ih rest_eq]

theorem encode_injective {left right : List Char} (same : encode left = encode right) :
    left = right := by
  rw [encode, encode, List.cons.injEq, List.append_left_inj] at same
  exact flatMap_escape_injective same.2

/-! ## What stands between the quotes -/

theorem Sealed.append {front back : List Char} (left : Sealed front) (right : Sealed back) :
    Sealed (front ++ back) := by
  induction left with
  | nil => exact right
  | plain notQuote notBackslash _ ih => exact .plain notQuote notBackslash ih
  | paired _ ih => exact .paired ih

theorem toNat_of_isHexDigit {c : Char} (digit : isHexDigit c = true) :
    48 ≤ c.toNat ∧ c.toNat ≤ 57 ∨ 97 ≤ c.toNat ∧ c.toNat ≤ 102 := by
  simpa [isHexDigit, Char.isDigit, Char.le_def, UInt32.le_iff_toNat_le] using digit

theorem visible_of_isHexDigit {c : Char} (digit : isHexDigit c = true) : ¬ Hidden c := by
  have range := toNat_of_isHexDigit digit
  unfold Hidden IsControl
  omega

theorem Sealed.of_forall {text : List Char} (plain : ∀ c ∈ text, c ≠ '"' ∧ c ≠ '\\') :
    Sealed text := by
  induction text with
  | nil => exact .nil
  | cons c rest ih =>
    obtain ⟨⟨notQuote, notBackslash⟩, others⟩ := List.forall_mem_cons.mp plain
    exact .plain notQuote notBackslash (ih others)

theorem ne_of_unnamed {c : Char} (unnamed : c ∉ names.map Prod.snd) : c ≠ '"' ∧ c ≠ '\\' := by
  constructor <;>
    · rintro rfl
      exact unnamed (by decide)

theorem ne_of_isHexDigit {c : Char} (digit : isHexDigit c = true) : c ≠ '"' ∧ c ≠ '\\' := by
  constructor <;>
    · rintro rfl
      exact absurd digit (by decide)

theorem Written.sealed {c : Char} {text : List Char} (written : Written c text) : Sealed text := by
  cases written with
  | named listed => exact .paired .nil
  | braced _ _ hexadecimal _ _ =>
    have digits := Sealed.of_forall fun digit inside => ne_of_isHexDigit (hexadecimal digit inside)
    have brace : Sealed ['\x7d'] := .plain (by decide) (by decide) .nil
    exact .paired (.plain (by decide) (by decide) (digits.append brace))
  | plain unnamed _ =>
    obtain ⟨notQuote, notBackslash⟩ := ne_of_unnamed unnamed
    exact .plain notQuote notBackslash .nil

theorem not_hidden_of_eq_false {c : Char} (visible : isHidden c = false) : ¬ Hidden c := by
  rw [← isHidden_iff, visible]
  exact Bool.false_ne_true

theorem Written.visible {c : Char} {text : List Char} (written : Written c text) :
    ∀ d ∈ text, ¬ Hidden d := by
  have marks : ∀ entry ∈ names, isHidden entry.1 = false := by decide
  intro d inside
  cases written with
  | named listed =>
    rw [List.mem_cons, List.mem_singleton] at inside
    rcases inside with rfl | rfl
    · exact not_hidden_of_eq_false rfl
    · exact not_hidden_of_eq_false (marks _ listed)
  | braced _ _ hexadecimal _ _ =>
    simp only [List.mem_cons, List.mem_append, List.not_mem_nil, or_false] at inside
    rcases inside with rfl | rfl | rfl | digit | rfl
    · exact not_hidden_of_eq_false rfl
    · exact not_hidden_of_eq_false rfl
    · exact not_hidden_of_eq_false rfl
    · exact visible_of_isHexDigit (hexadecimal d digit)
    · exact not_hidden_of_eq_false rfl
  | plain _ visible =>
    rw [List.mem_singleton] at inside
    exact inside ▸ visible

theorem sealed_flatMap_escape (text : List Char) : Sealed (text.flatMap escape) := by
  induction text with
  | nil => exact .nil
  | cons c rest ih =>
    rw [List.flatMap_cons]
    exact (written_escape c).sealed.append ih

theorem visible_of_mem_flatMap_escape {text : List Char} {c : Char}
    (inside : c ∈ text.flatMap escape) : ¬ Hidden c := by
  obtain ⟨d, _, written⟩ := List.mem_flatMap.mp inside
  exact (written_escape d).visible c written

end Quoted

/-! ## Bytes in messages -/

@[simp] theorem toList_quoted (text : String) : (quoted text).toList = Quoted.encode text.toList :=
  String.toList_ofList

theorem quoted_latin1_injective {left right : Bytes}
    (same : quoted (latin1 left) = quoted (latin1 right)) : left = right := by
  have texts := congrArg String.toList same
  rw [toList_quoted, toList_quoted, toList_latin1, toList_latin1] at texts
  exact map_latin1Char_injective (Quoted.encode_injective texts)

end Text

theorem Tag.quoted_injective {left right : Tag} (same : left.quoted = right.quoted) : left = right :=
  toBytes_injective (Text.quoted_latin1_injective same)

namespace DecodeError

theorem message_foreignContainer_injective {left right : Tag}
    (same : (foreignContainer left).message = (foreignContainer right).message) : left = right :=
  Tag.quoted_injective ((String.append_right_inj _).mp ((String.append_left_inj _).mp same))

theorem message_foreignExecutable_injective {left right : Tag}
    (same : (foreignExecutable left).message = (foreignExecutable right).message) : left = right :=
  Tag.quoted_injective ((String.append_right_inj _).mp ((String.append_left_inj _).mp same))

end DecodeError

open Text Quoted in
/-- Quoted bytes are those of one byte string only. They are written byte by byte as the rule says,
with nothing hidden and no free quote between the quotes, and a message that shows a tag is not the
message for any other tag. -/
theorem Text.quoted_latin1_faithful :
    (∀ left right : Bytes, quoted (latin1 left) = quoted (latin1 right) ↔ left = right) ∧
    (∀ bytes : Bytes, ∃ pieces,
      List.Forall₂ (fun byte piece => Written (latin1Char byte) piece) bytes pieces ∧
      (quoted (latin1 bytes)).toList = '"' :: (pieces.flatten ++ ['"']) ∧
      Sealed pieces.flatten ∧ ∀ c ∈ pieces.flatten, ¬ Hidden c) ∧
    ∀ left right : Tag, left ≠ right →
      (DecodeError.foreignContainer left).message ≠ (DecodeError.foreignContainer right).message ∧
      (DecodeError.foreignExecutable left).message ≠
        (DecodeError.foreignExecutable right).message := by
  refine ⟨fun left right => ⟨quoted_latin1_injective, fun same => same ▸ rfl⟩, fun bytes => ?_, ?_⟩
  · have flat : ((bytes.map latin1Char).map escape).flatten =
        (bytes.map latin1Char).flatMap escape := List.flatMap_def.symm
    refine ⟨(bytes.map latin1Char).map escape, ?_, ?_, ?_, ?_⟩
    · exact List.forall₂_map_left_iff.mp (forall₂_written_escape _)
    · rw [flat, toList_quoted, toList_latin1, encode]
    · exact flat ▸ sealed_flatMap_escape _
    · rw [flat]
      exact fun c => visible_of_mem_flatMap_escape
  · intro left right differ
    exact ⟨mt DecodeError.message_foreignContainer_injective differ,
      mt DecodeError.message_foreignExecutable_injective differ⟩

/-- The first tag spells in its own bytes how the first byte of the second one is written. -/
theorem Text.quoted_latin1_faithful_sample :
    (⟨0x5C, 0x30, 0x22, 0xAD⟩ : Tag).quoted = "\"\\\\0\\\"\\u\x7bad\x7d\"" ∧
      (⟨0x00, 0x22, 0xAD, 0x41⟩ : Tag).quoted = "\"\\0\\\"\\u\x7bad\x7dA\"" ∧
      (DecodeError.foreignContainer ⟨0x5C, 0x30, 0x22, 0xAD⟩).message ≠
        (DecodeError.foreignContainer ⟨0x00, 0x22, 0xAD, 0x41⟩).message ∧
      ∃ pieces : List (List Char), pieces.flatten = ['\\', 'u', '\x7b', 'a', 'd', '\x7d'] ∧
        ¬ Quoted.Hidden 'd' := by
  have apart : (⟨0x5C, 0x30, 0x22, 0xAD⟩ : Tag) ≠ ⟨0x00, 0x22, 0xAD, 0x41⟩ := by decide
  obtain ⟨_, shape, messages⟩ := Text.quoted_latin1_faithful
  obtain ⟨pieces, _, shown, _, visible⟩ := shape [0xAD]
  have flat : ['\\', 'u', '\x7b', 'a', 'd', '\x7d'] = pieces.flatten :=
    (List.append_left_inj ['"']).mp (List.cons.inj shown).2
  exact ⟨by decide +kernel, by decide +kernel, (messages _ _ apart).1, pieces, flat.symm,
    visible 'd' (by rw [← flat]; decide)⟩

end StoryBundle
