import Mathlib
import TenantApi.Bytes.Utf8

/-!
UTF-8 text and bytes determine each other: the strict reader gives a text exactly when the bytes are
the encoding of that text. One character is treated at a time. Going forward, the bytes of a
character form one piece whatever follows; going back, a piece that is a character was made of the
bytes of that character, so that neither overlong forms nor surrogate halves come through.
-/

namespace TenantApi.Utf8

open Decoding (Reason)

section Numbers
variable {b : UInt8} {n : Nat}

theorem toNat_byte (small : n < 256) : (UInt8.ofNat n).toNat = n := by
  simpa using small

theorem byte_eq (same : n = b.toNat) : UInt8.ofNat n = b := by
  rw [same, UInt8.ofNat_toNat]

theorem toNat_char (scalar : n < 0xd800 ∨ 0xdfff < n ∧ n < 0x110000) :
    (Char.ofNat n).toNat = n := by
  have valid : n.isValidChar := scalar
  simp only [Char.ofNat, valid, ↓reduceDIte]
  rfl

theorem char_scalar (c : Char) : c.toNat < 0xd800 ∨ 0xdfff < c.toNat ∧ c.toNat < 0x110000 := c.valid

theorem isContinuation_iff : isContinuation b = true ↔ 0x80 ≤ b.toNat ∧ b.toNat < 0xc0 := by
  simp only [isContinuation, within, UInt8.le_iff_toNat_le, UInt8.reduceToNat, Bool.and_eq_true,
    decide_eq_true_eq]
  omega

theorem lead_single (high : b.toNat < 0x80) : lead b = .single := by
  simp only [lead, UInt8.lt_iff_toNat_lt, UInt8.reduceToNat, high, ↓reduceIte]

theorem lead_two (low : 0xc2 ≤ b.toNat) (high : b.toNat < 0xe0) : lead b = .two := by
  simp only [lead, UInt8.lt_iff_toNat_lt, UInt8.reduceToNat]
  rw [if_neg (by omega), if_neg (by omega), if_pos high]

/-- What a second byte is held to: a continuation, and after four of the first bytes less than that,
which keeps out overlong forms, surrogate halves and codes that are too large. -/
def SecondFits (b d : UInt8) : Prop :=
  0x80 ≤ d.toNat ∧ d.toNat < 0xc0 ∧ (b.toNat = 0xe0 → 0xa0 ≤ d.toNat) ∧
    (b.toNat = 0xed → d.toNat < 0xa0) ∧ (b.toNat = 0xf0 → 0x90 ≤ d.toNat) ∧
    (b.toNat = 0xf4 → d.toNat < 0x90)

theorem lead_three (low : 0xe0 ≤ b.toNat) (high : b.toNat < 0xf0) :
    ∃ least most, lead b = .three least most ∧
      ∀ d, within least most d = true ↔ SecondFits b d := by
  simp only [lead, UInt8.lt_iff_toNat_lt, ← UInt8.toNat_inj, UInt8.reduceToNat, SecondFits, within,
    UInt8.le_iff_toNat_le, Bool.and_eq_true, decide_eq_true_eq]
  rw [if_neg (by omega), if_neg (by omega), if_neg (by omega)]
  by_cases first : b.toNat = 0xe0
  · refine ⟨0xa0, 0xbf, by simp [first], fun d => ?_⟩
    simp only [UInt8.reduceToNat]
    omega
  · by_cases gap : b.toNat = 0xed
    · refine ⟨0x80, 0x9f, by simp [gap], fun d => ?_⟩
      simp only [UInt8.reduceToNat]
      omega
    · refine ⟨0x80, 0xbf, by simp [first, gap, high], fun d => ?_⟩
      simp only [UInt8.reduceToNat]
      omega

theorem lead_four (low : 0xf0 ≤ b.toNat) (high : b.toNat < 0xf5) :
    ∃ least most, lead b = .four least most ∧ ∀ d, within least most d = true ↔ SecondFits b d := by
  simp only [lead, UInt8.lt_iff_toNat_lt, ← UInt8.toNat_inj, UInt8.reduceToNat, SecondFits, within,
    UInt8.le_iff_toNat_le, Bool.and_eq_true, decide_eq_true_eq]
  rw [if_neg (by omega), if_neg (by omega), if_neg (by omega), if_neg (by omega),
    if_neg (by omega), if_neg (by omega)]
  by_cases first : b.toNat = 0xf0
  · refine ⟨0x90, 0xbf, by simp [first], fun d => ?_⟩
    simp only [UInt8.reduceToNat]
    omega
  · by_cases last : b.toNat = 0xf4
    · refine ⟨0x80, 0x8f, by simp [last], fun d => ?_⟩
      simp only [UInt8.reduceToNat]
      omega
    · have middle : b.toNat < 0xf4 := by omega
      refine ⟨0x80, 0xbf, by simp [first, middle], fun d => ?_⟩
      simp only [UInt8.reduceToNat]
      omega

theorem lead_none (odd : 0x80 ≤ b.toNat ∧ b.toNat < 0xc2 ∨ 0xf5 ≤ b.toNat) : lead b = .none := by
  simp only [lead, UInt8.lt_iff_toNat_lt, ← UInt8.toNat_inj, UInt8.reduceToNat]
  rcases odd with ⟨low, high⟩ | beyond
  · rw [if_neg (by omega), if_pos high]
  · rw [if_neg (by omega), if_neg (by omega), if_neg (by omega), if_neg (by omega),
      if_neg (by omega), if_neg (by omega), if_neg (by omega), if_neg (by omega),
      if_neg (by omega)]

end Numbers

inductive Coded (n : Nat) : Octets → Prop where
  | one {b : UInt8} (high : b.toNat < 0x80) (code : b.toNat = n) : Coded n [b]
  | two {b d : UInt8} (low : 0xc2 ≤ b.toNat) (high : b.toNat < 0xe0)
      (last : isContinuation d = true) (code : b.toNat % 32 * 64 + tail d = n) : Coded n [b, d]
  | three {b d e : UInt8} (low : 0xe0 ≤ b.toNat) (high : b.toNat < 0xf0) (second : SecondFits b d)
      (last : isContinuation e = true)
      (code : (b.toNat % 16 * 64 + tail d) * 64 + tail e = n) : Coded n [b, d, e]
  | four {b d e f : UInt8} (low : 0xf0 ≤ b.toNat) (high : b.toNat < 0xf5) (second : SecondFits b d)
      (third : isContinuation e = true) (last : isContinuation f = true)
      (code : ((b.toNat % 8 * 64 + tail d) * 64 + tail e) * 64 + tail f = n) : Coded n [b, d, e, f]

theorem charBytes_coded (c : Char) : Coded c.toNat (charBytes c) := by
  have scalar := char_scalar c
  simp only [charBytes]
  split
  case isTrue one =>
    have value := toNat_byte (n := c.toNat) (by omega)
    exact .one (by omega) value
  case isFalse notOne =>
  split
  case isTrue two =>
    have first := toNat_byte (n := 0xc0 + c.toNat / 64) (by omega)
    have last := toNat_byte (n := 0x80 + c.toNat % 64) (by omega)
    refine .two (by omega) (by omega) (isContinuation_iff.mpr (by omega)) ?_
    simp only [tail]
    omega
  case isFalse notTwo =>
  split
  case isTrue three =>
    have first := toNat_byte (n := 0xe0 + c.toNat / 4096) (by omega)
    have second := toNat_byte (n := 0x80 + c.toNat / 64 % 64) (by omega)
    have last := toNat_byte (n := 0x80 + c.toNat % 64) (by omega)
    refine .three (by omega) (by omega) ?_ (isContinuation_iff.mpr (by omega)) ?_
    · simp only [SecondFits, first, second]
      omega
    · simp only [tail]
      omega
  case isFalse notThree =>
    have first := toNat_byte (n := 0xf0 + c.toNat / 262144) (by omega)
    have second := toNat_byte (n := 0x80 + c.toNat / 4096 % 64) (by omega)
    have third := toNat_byte (n := 0x80 + c.toNat / 64 % 64) (by omega)
    have last := toNat_byte (n := 0x80 + c.toNat % 64) (by omega)
    refine .four (by omega) (by omega) ?_ (isContinuation_iff.mpr (by omega))
      (isContinuation_iff.mpr (by omega)) ?_
    · simp only [SecondFits, first, second]
      omega
    · simp only [tail]
      omega

-- The bytes that code a character are the ones that are written for it.
theorem coded_bytes {n : Nat} {bytes : Octets} (coded : Coded n bytes) :
    charBytes (Char.ofNat n) = bytes := by
  cases coded with
  | one high code =>
      have value := toNat_char (n := n) (by omega)
      simp only [charBytes, value]
      rw [if_pos (by omega), byte_eq code.symm]
  | two low high last code =>
      rw [isContinuation_iff] at last
      simp only [tail] at code
      have value := toNat_char (n := n) (by omega)
      simp only [charBytes, value]
      rw [if_neg (by omega), if_pos (by omega)]
      simp only [List.cons.injEq, and_true]
      exact ⟨byte_eq (by omega), byte_eq (by omega)⟩
  | three low high second last code =>
      rw [isContinuation_iff] at last
      simp only [tail] at code
      obtain ⟨secondLow, secondHigh, overlong, half, _, _⟩ := second
      have value := toNat_char (n := n) (by omega)
      simp only [charBytes, value]
      rw [if_neg (by omega), if_neg (by omega), if_pos (by omega)]
      simp only [List.cons.injEq, and_true]
      exact ⟨byte_eq (by omega), byte_eq (by omega), byte_eq (by omega)⟩
  | four low high second third last code =>
      rw [isContinuation_iff] at third last
      simp only [tail] at code
      obtain ⟨secondLow, secondHigh, _, _, overlong, large⟩ := second
      have value := toNat_char (n := n) (by omega)
      simp only [charBytes, value]
      rw [if_neg (by omega), if_neg (by omega), if_neg (by omega)]
      simp only [List.cons.injEq, and_true]
      exact ⟨byte_eq (by omega), byte_eq (by omega), byte_eq (by omega), byte_eq (by omega)⟩

-- The bytes of a code are its piece, whatever follows.
theorem coded_piece {n : Nat} {bytes : Octets} (coded : Coded n bytes) (rest : Octets) :
    ∃ b more, bytes = b :: more ∧
      firstPiece b (more ++ rest) = (.char (Char.ofNat n), more.length) := by
  cases coded with
  | @one b high code => exact ⟨b, [], rfl, by simp [firstPiece, lead_single high, code]⟩
  | @two b d low high last code =>
      exact ⟨b, [d], rfl, by simp [firstPiece, lead_two low high, last, code]⟩
  | @three b d e low high second last code =>
      obtain ⟨least, most, kind, fits⟩ := lead_three low high
      exact ⟨b, [d, e], rfl, by simp [firstPiece, kind, (fits d).mpr second, last, code]⟩
  | @four b d e f low high second third last code =>
      obtain ⟨least, most, kind, fits⟩ := lead_four low high
      exact ⟨b, [d, e, f], rfl, by simp [firstPiece, kind, (fits d).mpr second, third, last, code]⟩

theorem good_branch {p : Prop} [Decidable p] {good : Piece × Nat} {reason : Reason}
    {bytes : Octets} {k n : Nat} {c : Char}
    (piece : (if p then good else (.bad reason bytes, k)) = (.char c, n)) :
    p ∧ good = (.char c, n) := by
  split at piece
  · exact ⟨‹p›, piece⟩
  · simp at piece

-- A first piece that is a character was made of that character's bytes.
theorem piece_coded {b : UInt8} {rest : Octets} {c : Char} {n : Nat}
    (piece : firstPiece b rest = (.char c, n)) :
    ∃ code, c = Char.ofNat code ∧ Coded code (b :: rest.take n) := by
  by_cases one : b.toNat < 0x80
  · simp only [firstPiece, lead_single one, Prod.mk.injEq, Piece.char.injEq] at piece
    obtain ⟨rfl, rfl⟩ := piece
    exact ⟨_, rfl, .one one rfl⟩
  by_cases odd : b.toNat < 0xc2 ∨ 0xf5 ≤ b.toNat
  · simp [firstPiece, lead_none (b := b) (by omega)] at piece
  by_cases two : b.toNat < 0xe0
  · have kind := lead_two (b := b) (by omega) two
    rcases rest with - | ⟨d, rest⟩ <;> simp only [firstPiece, kind] at piece
    · simp at piece
    · obtain ⟨last, whole⟩ := good_branch piece
      simp only [Prod.mk.injEq, Piece.char.injEq] at whole
      obtain ⟨rfl, rfl⟩ := whole
      exact ⟨_, rfl, .two (by omega) two last rfl⟩
  by_cases three : b.toNat < 0xf0
  · obtain ⟨least, most, kind, fits⟩ := lead_three (b := b) (by omega) three
    rcases rest with - | ⟨d, - | ⟨e, rest⟩⟩ <;> simp only [firstPiece, kind] at piece
    · simp at piece
    · simpa using (good_branch piece).2
    · obtain ⟨second, piece⟩ := good_branch piece
      obtain ⟨last, whole⟩ := good_branch piece
      simp only [Prod.mk.injEq, Piece.char.injEq] at whole
      obtain ⟨rfl, rfl⟩ := whole
      exact ⟨_, rfl, .three (by omega) three ((fits d).mp second) last rfl⟩
  · obtain ⟨least, most, kind, fits⟩ := lead_four (b := b) (by omega) (by omega)
    rcases rest with - | ⟨d, - | ⟨e, - | ⟨f, rest⟩⟩⟩ <;> simp only [firstPiece, kind] at piece
    · simp at piece
    · simpa using (good_branch piece).2
    · simpa using (good_branch (good_branch piece).2).2
    · obtain ⟨second, piece⟩ := good_branch piece
      obtain ⟨third, piece⟩ := good_branch piece
      obtain ⟨last, whole⟩ := good_branch piece
      simp only [Prod.mk.injEq, Piece.char.injEq] at whole
      obtain ⟨rfl, rfl⟩ := whole
      exact ⟨_, rfl, .four (by omega) (by omega) ((fits d).mp second) third last rfl⟩

theorem piecesFrom_drop (skip : Nat) (bytes : Octets) :
    piecesFrom skip bytes = pieces (bytes.drop skip) := by
  induction bytes generalizing skip with
  | nil => simp [piecesFrom, pieces]
  | cons b rest ih =>
      cases skip with
      | zero => rfl
      | succ skip => simpa [piecesFrom] using ih skip

theorem pieces_cons (b : UInt8) (rest : Octets) :
    pieces (b :: rest) =
      (firstPiece b rest).1 :: pieces (rest.drop (firstPiece b rest).2) := by
  rw [pieces, piecesFrom, piecesFrom_drop]

theorem pieces_encode (text : List Char) : pieces (encode text) = text.map .char := by
  induction text with
  | nil => rfl
  | cons c rest ih =>
      obtain ⟨b, more, bytes, piece⟩ := coded_piece (charBytes_coded c) (encode rest)
      have whole : encode (c :: rest) = b :: (more ++ encode rest) := by
        simp [encode, bytes]
      rw [whole, pieces_cons, piece, List.drop_left, ih, Char.ofNat_toNat, List.map_cons]

theorem readPieces_chars (position : Nat) (text : List Char) :
    readPieces position (text.map .char) = .ok text := by
  induction text generalizing position with
  | nil => rfl
  | cons c rest ih => simp only [List.map_cons, readPieces, ih]

theorem readPieces_ok {position : Nat} {read : List Piece} {text : List Char}
    (good : readPieces position read = .ok text) : read = text.map .char := by
  induction read generalizing position text with
  | nil =>
      simp only [readPieces, Except.ok.injEq] at good
      subst good
      rfl
  | cons piece rest ih =>
      cases piece with
      | bad reason bytes => simp [readPieces] at good
      | char c =>
          simp only [readPieces] at good
          split at good
          case h_2 => simp at good
          case h_1 tail readTail =>
            simp only [Except.ok.injEq] at good
            subst good
            simp [ih readTail]

-- Bytes whose pieces are all characters are the encoding of those.
theorem bytes_of_pieces (bytes : Octets) (text : List Char) (read : pieces bytes = text.map .char) :
    bytes = encode text := by
  induction text generalizing bytes with
  | nil =>
      cases bytes with
      | nil => rfl
      | cons b rest => simp [pieces_cons] at read
  | cons c text ih =>
      cases bytes with
      | nil => simp [pieces, piecesFrom] at read
      | cons b rest =>
          rw [pieces_cons, List.map_cons, List.cons.injEq] at read
          obtain ⟨code, rfl, coded⟩ := piece_coded (Prod.ext read.1 rfl)
          have tail := ih _ read.2
          rw [encode, List.flatMap_cons, coded_bytes coded, ← encode, ← tail, List.cons_append,
            List.take_append_drop]

theorem encode_append (front back : List Char) :
    encode (front ++ back) = encode front ++ encode back :=
  List.flatMap_append

-- Lossy decoding loses nothing where there is a text.
theorem decodeLossy_encode (text : List Char) : decodeLossy (encode text) = text := by
  rw [decodeLossy, pieces_encode, List.map_map]
  exact List.map_id text

theorem decode_encode (text : List Char) : decode (encode text) = .ok text := by
  rw [decode, pieces_encode, readPieces_chars]

-- Strict reading accepts the encodings of texts and nothing else.
theorem decode_iff (bytes : Octets) (text : List Char) :
    decode bytes = .ok text ↔ bytes = encode text := by
  constructor
  · intro good
    exact bytes_of_pieces bytes text (readPieces_ok good)
  · rintro rfl
    exact decode_encode text

end TenantApi.Utf8
