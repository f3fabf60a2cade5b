import SandboxPods.Text.Percent

/-!
# Reading encoded text back

The bytes of a text are read back by the machine that owes continuation bytes: a leading byte
opens a character with the bits it carries and owes the others, and each of the others brings six
bits. A byte that is percent-encoded is read back by its two digits, and one that stands as itself
by its character, which is never a percent sign. So a text comes back from its encoding, in which
no characters appear but the unreserved ones and percent signs.
-/
namespace SandboxPods

/-- What is written piece by piece is read back piece by piece. -/
theorem Text.mapM_map {α β : Type} {read : β → Option α} {write : α → β}
    (back : ∀ a, read (write a) = some a) (as : List α) : (as.map write).mapM read = some as := by
  induction as with
  | nil => rfl
  | cons a as ih =>
      rw [List.map_cons, List.mapM_cons, back, ih]
      rfl

namespace Utf8
variable {v low high value : Nat} {b : UInt8} {rest : List UInt8}

/-! ## Bytes of a character -/

theorem start_two (least : 0x80 ≤ v) (most : v ≤ 0x7ff) :
    start (UInt8.ofNat (v / 64 % 32 + 192)).toNat = ([], some ⟨1, 0x80, 0xbf, v / 64⟩) := by
  have bits : (v / 64 % 32 + 192) % 2 ^ 8 - 0xc0 = v / 64 := by omega
  rw [UInt8.toNat_ofNat', start, if_neg (by omega), if_pos (by omega), bits]

/-- What is owed after the first of three bytes, of which the next one is within its bounds
because there are no shorter forms and no surrogates. -/
theorem start_three (least : 0x800 ≤ v) (most : v ≤ 0xffff) (scalar : v < 0xd800 ∨ 0xdfff < v) :
    ∃ low high,
      start (UInt8.ofNat (v / 4096 % 16 + 224)).toNat = ([], some ⟨2, low, high, v / 4096⟩) ∧
      low ≤ (UInt8.ofNat (v / 64 % 64 + 128)).toNat ∧
      (UInt8.ofNat (v / 64 % 64 + 128)).toNat ≤ high := by
  have byte : (v / 4096 % 16 + 224) % 2 ^ 8 = v / 4096 + 224 := by omega
  rw [UInt8.toNat_ofNat', UInt8.toNat_ofNat', byte, start, if_neg (by omega), if_neg (by omega)]
  by_cases first : v / 4096 = 0
  · exact ⟨0xa0, 0xbf, by rw [first]; rfl, by omega, by omega⟩
  · rw [if_neg (by omega)]
    by_cases gap : v / 4096 = 0xd
    · exact ⟨0x80, 0x9f, by rw [gap]; rfl, by omega, by omega⟩
    · refine ⟨0x80, 0xbf, ?_, by omega, by omega⟩
      rw [if_neg (by omega), if_pos (by omega), Nat.add_sub_cancel]

/-- Likewise for four bytes, where there are no shorter forms and nothing above the last
character. -/
theorem start_four (least : 0x10000 ≤ v) (most : v ≤ 0x10ffff) :
    ∃ low high,
      start (UInt8.ofNat (v / 262144 % 8 + 240)).toNat = ([], some ⟨3, low, high, v / 262144⟩) ∧
      low ≤ (UInt8.ofNat (v / 4096 % 64 + 128)).toNat ∧
      (UInt8.ofNat (v / 4096 % 64 + 128)).toNat ≤ high := by
  have byte : (v / 262144 % 8 + 240) % 2 ^ 8 = v / 262144 + 240 := by omega
  rw [UInt8.toNat_ofNat', UInt8.toNat_ofNat', byte, start, if_neg (by omega), if_neg (by omega),
    if_neg (by omega), if_neg (by omega), if_neg (by omega)]
  by_cases first : v / 262144 = 0
  · exact ⟨0x90, 0xbf, by rw [first]; rfl, by omega, by omega⟩
  · rw [if_neg (by omega)]
    by_cases last : v / 262144 = 4
    · exact ⟨0x80, 0x8f, by rw [last]; rfl, by omega, by omega⟩
    · refine ⟨0x80, 0xbf, ?_, by omega, by omega⟩
      rw [if_pos (by omega), Nat.add_sub_cancel]

theorem scan_start {under : Pending} (h : start b.toNat = ([], some under)) :
    scan none (b :: rest) = scan (some under) rest := by
  rw [scan, step, h]
  rfl

/-- The last byte that is owed completes the character. -/
theorem scan_last (above : low ≤ b.toNat) (below : b.toNat ≤ high) :
    scan (some ⟨1, low, high, value⟩) (b :: rest) =
      some (Char.ofNat (value * 64 + (b.toNat - 0x80))) :: scan none rest := by
  rw [scan, step, if_pos ⟨above, below⟩]
  rfl

/-- Any other one brings its bits and leaves one byte less to come. -/
theorem scan_more {owed : Nat} (above : low ≤ b.toNat) (below : b.toNat ≤ high) :
    scan (some ⟨owed + 2, low, high, value⟩) (b :: rest) =
      scan (some ⟨owed + 1, 0x80, 0xbf, value * 64 + (b.toNat - 0x80)⟩) rest := by
  rw [scan, step, if_pos ⟨above, below⟩]
  rfl

/-- A continuation byte is within the bounds of one, and its bits are those that were put in. -/
theorem continuation (v : Nat) : 0x80 ≤ (UInt8.ofNat (v % 64 + 128)).toNat ∧
    (UInt8.ofNat (v % 64 + 128)).toNat ≤ 0xbf ∧
    (UInt8.ofNat (v % 64 + 128)).toNat - 0x80 = v % 64 := by
  rw [UInt8.toNat_ofNat']
  omega

theorem scan_char (c : Char) (rest : List UInt8) :
    scan none (String.utf8EncodeChar c ++ rest) = some c :: scan none rest := by
  have back (n : Nat) (h : n = c.val.toNat) : Char.ofNat n = c := h ▸ Char.ofNat_toNat c
  have scalar : c.val.toNat < 0xd800 ∨ 0xdfff < c.val.toNat ∧ c.val.toNat < 0x110000 := c.valid
  unfold String.utf8EncodeChar
  dsimp only
  generalize c.val.toNat = v at back scalar
  obtain ⟨above, below, bits⟩ := continuation v
  -- The cases are the numbers of bytes, one to four.
  split
  · have ascii : start (UInt8.ofNat v).toNat = ([some c], none) := by
      rw [UInt8.toNat_ofNat', start, if_pos (by omega), back _ (by omega)]
    rw [List.cons_append, scan, step, ascii]
    rfl
  · split
    · have first := start_two (v := v) (by omega) (by omega)
      rw [List.cons_append, scan_start first, List.cons_append, scan_last above below, bits,
        back _ (by omega)]
      rfl
    · obtain ⟨above', below', bits'⟩ := continuation (v / 64)
      split
      · obtain ⟨low, high, first, least, most⟩ :=
          start_three (v := v) (by omega) (by omega) (by omega)
        rw [List.cons_append, scan_start first, List.cons_append, scan_more least most, bits',
          List.cons_append, scan_last above below, bits, back _ (by omega)]
        rfl
      · obtain ⟨low, high, first, least, most⟩ := start_four (v := v) (by omega) (by omega)
        obtain ⟨-, -, bits''⟩ := continuation (v / 4096)
        rw [List.cons_append, scan_start first, List.cons_append, scan_more least most, bits'',
          List.cons_append, scan_more above' below', bits', List.cons_append,
          scan_last above below, bits, back _ (by omega)]
        rfl

/-! ## Texts -/

theorem toList_toByteArray (bytes : List UInt8) : bytes.toByteArray.toList = bytes := by
  have loop (bs : ByteArray) (i : Nat) (sofar : List UInt8) :
      ByteArray.toList.loop bs i sofar = sofar.reverse ++ bs.data.toList.drop i := by
    fun_induction ByteArray.toList.loop bs i sofar with
    | case1 i sofar inside ih =>
        have bound : i < bs.data.toList.length := by simpa using inside
        rw [ih, List.drop_eq_getElem_cons bound]
        simp [ByteArray.get!, inside]
    | case2 i sofar outside =>
        rw [List.drop_eq_nil_of_le (by simpa using outside), List.append_nil]
  rw [ByteArray.toList, loop, List.toList_data_toByteArray]
  rfl

theorem encode_eq (s : String) : encode s = s.toList.flatMap String.utf8EncodeChar := by
  rw [encode, String.toUTF8, ← String.utf8Encode_toList, List.utf8Encode, toList_toByteArray]

theorem scan_encoded (cs : List Char) :
    scan none (cs.flatMap String.utf8EncodeChar) = cs.map some := by
  induction cs with
  | nil => rfl
  | cons c cs ih => rw [List.flatMap_cons, scan_char, ih, List.map_cons]

/-- A text comes back from its bytes. -/
theorem decode?_encode (s : String) : decode? (encode s) = some s.toList := by
  have whole (c : Char) : id (some c) = some c := rfl
  rw [encode_eq, decode?, scan_encoded]
  exact Text.mapM_map whole s.toList

end Utf8

namespace Percent
variable {b : UInt8} {c : Char} {rest : List Char} {n : Nat}

/-- The character stands as itself in encoded text. -/
def Plain (c : Char) : Prop := c.toNat < 128 ∧ isUnreserved (UInt8.ofNat c.toNat) = true

instance (c : Char) : Decidable (Plain c) :=
  inferInstanceAs (Decidable (c.toNat < 128 ∧ isUnreserved (UInt8.ofNat c.toNat) = true))

/-- The characters of encoded text. -/
def Appears (c : Char) : Prop := c = '%' ∨ Plain c

instance (c : Char) : Decidable (Appears c) := inferInstanceAs (Decidable (c = '%' ∨ Plain c))

/-- A byte that stands as itself is ASCII and no percent sign. -/
theorem bounds_of_isUnreserved (h : isUnreserved b = true) : b.toNat < 128 ∧ b.toNat ≠ 37 := by
  simp only [isUnreserved, Bool.or_eq_true, Bool.and_eq_true, decide_eq_true_eq, beq_iff_eq,
    UInt8.le_iff_toNat_le, ← UInt8.toNat_inj, UInt8.reduceToNat] at h
  omega

theorem toNat_char (h : n < 128) : (Char.ofNat n).toNat = n := by
  have valid : n.isValidChar := .inl (by omega)
  rw [Char.ofNat, dif_pos valid]
  rfl

theorem hexDigit (h : n < 16) :
    hexValue? (upperHexDigit n) = some n ∧ Appears (upperHexDigit n) := by
  have all : ∀ n < 16, hexValue? (upperHexDigit n) = some n ∧ Appears (upperHexDigit n) := by
    decide
  exact all n h

/-! ## Bytes -/

theorem appears_encodeByte (h : c ∈ encodeByte b) : Appears c := by
  have byte := b.toNat_lt
  unfold encodeByte at h
  split at h
  · rename_i plain
    have ascii := (bounds_of_isUnreserved plain).1
    rw [List.mem_singleton.1 h, Appears, Plain, toNat_char ascii, UInt8.ofNat_toNat]
    exact .inr ⟨ascii, plain⟩
  · simp only [List.mem_cons, List.not_mem_nil, or_false] at h
    rcases h with rfl | rfl | rfl
    · exact .inl rfl
    · exact (hexDigit (by omega)).2
    · exact (hexDigit (by omega)).2

theorem appears_of_mem_encode {s : String} (h : c ∈ encode s) : Appears c := by
  obtain ⟨b, -, mem⟩ := List.mem_flatMap.1 h
  exact appears_encodeByte mem

theorem decodeBytes?_plain (ascii : c.toNat < 128) (plain : c ≠ '%') :
    decodeBytes? (c :: rest) = (decodeBytes? rest).map (UInt8.ofNat c.toNat :: ·) := by
  rw [decodeBytes?]
  · rw [if_neg (not_or.2 ⟨plain, by omega⟩)]
  · rintro a b rest rfl
    exact (plain rfl).elim

theorem decodeBytes?_encodeByte (b : UInt8) (rest : List Char) :
    decodeBytes? (encodeByte b ++ rest) = (decodeBytes? rest).map (b :: ·) := by
  have byte := b.toNat_lt
  unfold encodeByte
  split
  · rename_i plain
    obtain ⟨ascii, other⟩ := bounds_of_isUnreserved plain
    have same := toNat_char ascii
    rw [List.singleton_append, decodeBytes?_plain (by rw [same]; exact ascii), same,
      UInt8.ofNat_toNat]
    intro percent
    rw [percent] at same
    exact other same.symm
  · have whole : b.toNat / 16 * 16 + b.toNat % 16 = b.toNat := by omega
    rw [List.cons_append, List.cons_append, List.cons_append, List.nil_append, decodeBytes?,
      (hexDigit (by omega)).1, (hexDigit (by omega)).1]
    cases decodeBytes? rest with
    | none => rfl
    | some bytes => simp only [Option.map_some, whole, UInt8.ofNat_toNat]

theorem decodeBytes?_encodeBytes (bytes : List UInt8) :
    decodeBytes? (encodeBytes bytes) = some bytes := by
  induction bytes with
  | nil => rfl
  | cons b bytes ih =>
      rw [encodeBytes, List.flatMap_cons, decodeBytes?_encodeByte, ← encodeBytes, ih,
        Option.map_some]

/-! ## Texts -/

/-- The text that a percent-encoded one stands for. -/
def decode? (cs : List Char) : Option String :=
  ((decodeBytes? cs).bind Utf8.decode?).map String.ofList

/-- A text comes back from its encoding. -/
theorem decode?_encode (s : String) : decode? (encode s) = some s := by
  rw [decode?, encode, decodeBytes?_encodeBytes, Option.bind_some, Utf8.decode?_encode,
    Option.map_some, String.ofList_toList]

/-- A text of plain characters stands as itself. -/
theorem encode_eq_toList {s : String} (plain : ∀ c ∈ s.toList, Plain c) : encode s = s.toList := by
  have general (cs : List Char) (plain : ∀ c ∈ cs, Plain c) :
      (cs.flatMap String.utf8EncodeChar).flatMap encodeByte = cs := by
    induction cs with
    | nil => rfl
    | cons c cs ih =>
        obtain ⟨⟨ascii, unreserved⟩, others⟩ := List.forall_mem_cons.1 plain
        have byte : String.utf8EncodeChar c = [UInt8.ofNat c.toNat] :=
          if_pos (Nat.le_of_lt_succ ascii)
        have same : (UInt8.ofNat c.toNat).toNat = c.toNat := by
          rw [UInt8.toNat_ofNat']
          omega
        rw [List.flatMap_cons, byte, List.singleton_append, List.flatMap_cons, ih others,
          encodeByte, if_pos unreserved, same, Char.ofNat_toNat, List.singleton_append]
  rw [encode, encodeBytes, Utf8.encode_eq, general _ plain]

/-- A word that can be checked to be of plain characters stands as itself. -/
theorem encode_word {s : String} (plain : s.toList.all (fun c => Plain c) = true) :
    encode s = s.toList :=
  encode_eq_toList fun c mem => of_decide_eq_true (List.all_eq_true.1 plain c mem)

end Percent
end SandboxPods
