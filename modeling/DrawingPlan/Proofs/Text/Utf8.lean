import DrawingPlan.Proofs.Except
import DrawingPlan.Text.Utf8
import Mathlib.Algebra.Group.Nat.Defs
import Mathlib.Tactic.SplitIfs

set_option autoImplicit false

namespace DrawingPlan.Text

def bytesOf (c : Char) : List Nat :=
  (String.utf8EncodeChar c).map UInt8.toNat

def utf8 (characters : List Char) : List Nat :=
  characters.flatMap bytesOf

def tailOf : Nat → Nat → List Nat
  | 0, _ => []
  | owed + 1, code => (0x80 + code / 0x40 ^ owed % 0x40) :: tailOf owed code

theorem valid_toNat (c : Char) : c.toNat < 0xD800 ∨ 0xDFFF < c.toNat ∧ c.toNat < 0x110000 :=
  c.valid

theorem toNat_ofNat {n : Nat} (valid : n < 0xD800 ∨ 0xDFFF < n ∧ n < 0x110000) :
    (Char.ofNat n).toNat = n := by
  have scalar : n.isValidChar := valid
  rw [Char.ofNat, dif_pos scalar]
  rfl

theorem bytesOf_eq (c : Char) : bytesOf c =
    if c.toNat < 0x80 then [c.toNat]
    else if c.toNat < 0x800 then (0xC0 + c.toNat / 0x40) :: tailOf 1 c.toNat
    else if c.toNat < 0x10000 then (0xE0 + c.toNat / 0x1000) :: tailOf 2 c.toNat
    else (0xF0 + c.toNat / 0x40000) :: tailOf 3 c.toNat := by
  have valid := valid_toNat c
  have code : c.val.toNat = c.toNat := rfl
  simp only [bytesOf, String.utf8EncodeChar, code]
  generalize c.toNat = n at valid
  split_ifs <;> simp [UInt8.toNat_ofNat', tailOf] <;> omega

structure Pending.Completes (begun : Pending) (code : Nat) : Prop where
  bits : code / 0x40 ^ begun.owed = begun.code
  low : begun.low ≤ 0x80 + code / 0x40 ^ (begun.owed - 1) % 0x40
  high : 0x80 + code / 0x40 ^ (begun.owed - 1) % 0x40 ≤ begun.high

section Begun

variable {byte position code : Nat} {begun : Pending} {bytes : List Nat} {characters : List Char}

theorem pending?_cases (lead : pending? byte position = some begun) :
    0xC2 ≤ byte ∧ byte ≤ 0xDF ∧ begun = ⟨byte, position, 1, 0x80, 0xBF, byte - 0xC0⟩ ∨
      0xE0 ≤ byte ∧ byte ≤ 0xEF ∧
        begun = ⟨byte, position, 2, if byte = 0xE0 then 0xA0 else 0x80,
          if byte = 0xED then 0x9F else 0xBF, byte - 0xE0⟩ ∨
      0xF0 ≤ byte ∧ byte ≤ 0xF4 ∧
        begun = ⟨byte, position, 3, if byte = 0xF0 then 0x90 else 0x80,
          if byte = 0xF4 then 0x8F else 0xBF, byte - 0xF0⟩ := by
  simp only [pending?, Bool.and_eq_true, decide_eq_true_eq] at lead
  by_cases two : 0xC2 ≤ byte ∧ byte ≤ 0xDF
  · rw [if_pos two] at lead
    exact .inl ⟨two.1, two.2, (Option.some.inj lead).symm⟩
  by_cases three : 0xE0 ≤ byte ∧ byte ≤ 0xEF
  · rw [if_neg two, if_pos three] at lead
    exact .inr (.inl ⟨three.1, three.2, (Option.some.inj lead).symm⟩)
  by_cases four : 0xF0 ≤ byte ∧ byte ≤ 0xF4
  · rw [if_neg two, if_neg three, if_pos four] at lead
    exact .inr (.inr ⟨four.1, four.2, (Option.some.inj lead).symm⟩)
  · rw [if_neg two, if_neg three, if_neg four] at lead
    cases lead

theorem pending?_bounds (lead : pending? byte position = some begun) :
    (∃ owed, begun.owed = owed + 1) ∧ 0x80 ≤ begun.low ∧ begun.high ≤ 0xBF := by
  rcases pending?_cases lead with ⟨-, -, rfl⟩ | ⟨-, -, rfl⟩ | ⟨-, -, rfl⟩
  · exact ⟨⟨0, rfl⟩, by simp, by simp⟩
  · exact ⟨⟨1, rfl⟩, by dsimp only; split_ifs <;> omega, by dsimp only; split_ifs <;> omega⟩
  · exact ⟨⟨2, rfl⟩, by dsimp only; split_ifs <;> omega, by dsimp only; split_ifs <;> omega⟩

/-- What the first byte says about the others rules out exactly what is no character. -/
theorem bytesOf_of_completes (lead : pending? byte position = some begun)
    (completes : begun.Completes code) :
    bytesOf (Char.ofNat code) = byte :: tailOf begun.owed code := by
  obtain ⟨bits, low, high⟩ := completes
  rcases pending?_cases lead with ⟨first, last, rfl⟩ | ⟨first, last, rfl⟩ | ⟨first, last, rfl⟩ <;>
    simp only [Nat.reduceSub, Nat.reducePow, Nat.pow_zero, Nat.pow_one, Nat.div_one]
      at bits low high
  · have range : 0x80 ≤ code ∧ code < 0x800 := by omega
    rw [bytesOf_eq, toNat_ofNat (by omega), if_neg (by omega), if_pos range.2]
    congr 1
    omega
  · have range : 0x800 ≤ code ∧ code < 0x10000 ∧ (code < 0xD800 ∨ 0xDFFF < code) := by
      split_ifs at low high <;> omega
    rw [bytesOf_eq, toNat_ofNat (by omega), if_neg (by omega), if_neg (by omega), if_pos range.2.1]
    congr 1
    omega
  · have range : 0x10000 ≤ code ∧ code < 0x110000 := by
      split_ifs at low high <;> omega
    rw [bytesOf_eq, toNat_ofNat (by omega), if_neg (by omega), if_neg (by omega), if_neg (by omega)]
    congr 1
    omega

theorem exists_pending (c : Char) (long : 0x80 ≤ c.toNat) (position : Nat) :
    ∃ byte begun owed, pending? byte position = some begun ∧ begun.owed = owed + 1 ∧
      begun.Completes c.toNat ∧ bytesOf c = byte :: tailOf (owed + 1) c.toNat := by
  have valid := valid_toNat c
  rw [bytesOf_eq, if_neg (by omega)]
  generalize c.toNat = n at valid long ⊢
  split_ifs with two three
  · have lead : pending? (0xC0 + n / 0x40) position =
        some ⟨0xC0 + n / 0x40, position, 1, 0x80, 0xBF, n / 0x40⟩ := by
      rw [pending?, if_pos (by simp; omega)]
      simp
    exact ⟨_, _, 0, lead, rfl, ⟨by simp, by simp, by simp; omega⟩, rfl⟩
  · have lead : pending? (0xE0 + n / 0x1000) position =
        some ⟨0xE0 + n / 0x1000, position, 2, if 0xE0 + n / 0x1000 = 0xE0 then 0xA0 else 0x80,
          if 0xE0 + n / 0x1000 = 0xED then 0x9F else 0xBF, n / 0x1000⟩ := by
      rw [pending?, if_neg (by simp; omega), if_pos (by simp; omega)]
      simp
    refine ⟨_, _, 1, lead, rfl, ⟨by simp, ?_, ?_⟩, rfl⟩ <;> simp <;> split_ifs <;> omega
  · have lead : pending? (0xF0 + n / 0x40000) position =
        some ⟨0xF0 + n / 0x40000, position, 3, if 0xF0 + n / 0x40000 = 0xF0 then 0x90 else 0x80,
          if 0xF0 + n / 0x40000 = 0xF4 then 0x8F else 0xBF, n / 0x40000⟩ := by
      rw [pending?, if_neg (by simp; omega), if_neg (by simp; omega), if_pos (by simp; omega)]
      simp
    refine ⟨_, _, 2, lead, rfl, ⟨by simp, ?_, ?_⟩, rfl⟩ <;> simp <;> split_ifs <;> omega

theorem decodeFrom_lead (lead : pending? byte position = some begun) (rest : List Nat) :
    decodeFrom none position (byte :: rest) = decodeFrom (some begun) (position + 1) rest := by
  have high : ¬byte < 0x80 := by
    rcases pending?_cases lead with ⟨first, -⟩ | ⟨first, -⟩ | ⟨first, -⟩ <;> omega
  simp only [decodeFrom, high, if_false, lead]

def Pending.next (begun : Pending) (byte : Nat) : Pending :=
  { begun with
    owed := begun.owed - 1, low := 0x80, high := 0xBF, code := begun.code * 0x40 + byte % 0x40 }

theorem decodeFrom_more (low : begun.low ≤ byte) (high : byte ≤ begun.high)
    (more : 1 < begun.owed) (position : Nat) (rest : List Nat) :
    decodeFrom (some begun) position (byte :: rest) =
      decodeFrom (some (begun.next byte)) (position + 1) rest := by
  simp [decodeFrom, low, high, Nat.not_le.mpr more, Pending.next]

theorem decodeFrom_last (low : begun.low ≤ byte) (high : byte ≤ begun.high)
    (last : begun.owed ≤ 1) (position : Nat) (rest : List Nat) :
    decodeFrom (some begun) position (byte :: rest) =
      (decodeFrom none (position + 1) rest).map
        (Char.ofNat (begun.code * 0x40 + byte % 0x40) :: ·) := by
  simp [decodeFrom, low, high, last]

theorem decodeFrom_tailOf {owed : Nat} (owes : begun.owed = owed + 1)
    (completes : begun.Completes code) (position : Nat) (rest : List Nat) :
    ∃ later, decodeFrom (some begun) position (tailOf (owed + 1) code ++ rest) =
      (decodeFrom none later rest).map (Char.ofNat code :: ·) := by
  induction owed generalizing begun position with
  | zero =>
    obtain ⟨bits, low, high⟩ := completes
    simp only [owes] at bits low high
    have whole : begun.code * 0x40 + (0x80 + code / 0x40 ^ 0 % 0x40) % 0x40 = code := by omega
    refine ⟨position + 1, ?_⟩
    rw [tailOf, List.cons_append, decodeFrom_last low high (by omega), whole]
    rfl
  | succ owed ih =>
    obtain ⟨bits, low, high⟩ := completes
    simp only [owes, Nat.add_sub_cancel] at bits low high
    have onward : (begun.next (0x80 + code / 0x40 ^ (owed + 1) % 0x40)).Completes code := by
      rw [Nat.pow_succ, ← Nat.div_div_eq_div_mul] at bits
      refine ⟨?_, ?_, ?_⟩ <;> simp only [Pending.next, owes, Nat.add_sub_cancel] <;> omega
    rw [tailOf, List.cons_append, decodeFrom_more low high (by omega)]
    exact ih (by simp [Pending.next, owes]) onward (position + 1)

theorem exists_of_begun (decoded : decodeFrom (some begun) position bytes = .ok characters) :
    ∃ byte rest, bytes = byte :: rest ∧ begun.low ≤ byte ∧ byte ≤ begun.high := by
  cases bytes with
  | nil => cases decoded
  | cons byte rest =>
    by_cases fits : begun.low ≤ byte ∧ byte ≤ begun.high
    · exact ⟨byte, rest, rfl, fits⟩
    · simp [decodeFrom, fits] at decoded

theorem exists_completes {owed : Nat} (owes : begun.owed = owed + 1) (least : 0x80 ≤ begun.low)
    (most : begun.high ≤ 0xBF)
    (decoded : decodeFrom (some begun) position bytes = .ok characters) :
    ∃ code rest later others, begun.Completes code ∧ bytes = tailOf (owed + 1) code ++ rest ∧
      decodeFrom none later rest = .ok others ∧ characters = Char.ofNat code :: others := by
  induction owed generalizing begun position bytes with
  | zero =>
    obtain ⟨byte, rest, rfl, low, high⟩ := exists_of_begun decoded
    rw [decodeFrom_last low high (by omega)] at decoded
    obtain ⟨others, remaining, rfl⟩ := map_ok decoded
    have same : 0x80 + (begun.code * 0x40 + byte % 0x40) / 0x40 ^ 0 % 0x40 = byte := by omega
    refine ⟨begun.code * 0x40 + byte % 0x40, rest, _, others, ⟨?_, ?_, ?_⟩, ?_, remaining, rfl⟩
    · simp only [owes]
      omega
    · simpa only [owes, same] using low
    · simpa only [owes, same] using high
    · simp only [tailOf, same, List.cons_append, List.nil_append]
  | succ owed ih =>
    obtain ⟨byte, rest, rfl, low, high⟩ := exists_of_begun decoded
    rw [decodeFrom_more low high (by omega)] at decoded
    obtain ⟨code, last, later, others, ⟨bits, -, -⟩, rfl, remaining, rfl⟩ :=
      ih (by simp [Pending.next, owes]) (by simp [Pending.next]) (by simp [Pending.next]) decoded
    simp only [Pending.next, owes, Nat.add_sub_cancel] at bits
    have same : 0x80 + code / 0x40 ^ (owed + 1) % 0x40 = byte := by omega
    refine ⟨code, last, later, others, ⟨?_, ?_, ?_⟩, ?_, remaining, rfl⟩
    · rw [owes, Nat.pow_succ, ← Nat.div_div_eq_div_mul]
      omega
    · simpa only [owes, Nat.add_sub_cancel, same] using low
    · simpa only [owes, Nat.add_sub_cancel, same] using high
    · rw [tailOf.eq_2 code (owed + 1), same, List.cons_append]

end Begun

theorem decodeFrom_bytesOf (c : Char) (position : Nat) (rest : List Nat) :
    ∃ later, decodeFrom none position (bytesOf c ++ rest) =
      (decodeFrom none later rest).map (c :: ·) := by
  by_cases short : c.toNat < 0x80
  · rw [bytesOf_eq, if_pos short]
    exact ⟨position + 1, by simp [decodeFrom, short, c.ofNat_toNat]⟩
  · obtain ⟨byte, begun, owed, lead, owes, completes, same⟩ :=
      exists_pending c (by omega) position
    obtain ⟨later, decoded⟩ := decodeFrom_tailOf owes completes (position + 1) rest
    rw [c.ofNat_toNat] at decoded
    exact ⟨later, by rw [same, List.cons_append, decodeFrom_lead lead, decoded]⟩

theorem decodeFrom_utf8 (characters : List Char) (position : Nat) :
    decodeFrom none position (utf8 characters) = .ok characters := by
  induction characters generalizing position with
  | nil => rfl
  | cons c rest ih =>
    obtain ⟨later, decoded⟩ := decodeFrom_bytesOf c position (utf8 rest)
    have split : utf8 (c :: rest) = bytesOf c ++ utf8 rest := rfl
    rw [split, decoded, ih]
    rfl

theorem eq_utf8_of_decodeFrom {bytes : List Nat} {position : Nat} {characters : List Char}
    (decoded : decodeFrom none position bytes = .ok characters) : bytes = utf8 characters := by
  -- The rest behind the first character is shorter, whatever the length of that character.
  induction size : bytes.length using Nat.strongRecOn generalizing bytes position
    characters with
  | ind size ih =>
    subst size
    cases bytes with
    | nil =>
      cases decoded
      rfl
    | cons byte rest =>
      by_cases short : byte < 0x80
      · simp only [decodeFrom, short, if_true] at decoded
        obtain ⟨others, remaining, rfl⟩ := map_ok decoded
        have own : bytesOf (Char.ofNat byte) = [byte] := by
          rw [bytesOf_eq, toNat_ofNat (by omega), if_pos short]
        have split : utf8 (Char.ofNat byte :: others) =
            bytesOf (Char.ofNat byte) ++ utf8 others := rfl
        rw [split, own, ← ih _ (by simp) remaining rfl]
        rfl
      · cases lead : pending? byte position with
        | none => simp [decodeFrom, short, lead] at decoded
        | some begun =>
          rw [decodeFrom_lead lead] at decoded
          obtain ⟨⟨owed, owes⟩, least, most⟩ := pending?_bounds lead
          obtain ⟨code, after, later, others, completes, rfl, remaining, rfl⟩ :=
            exists_completes owes least most decoded
          have own := bytesOf_of_completes lead completes
          have split : utf8 (Char.ofNat code :: others) =
              bytesOf (Char.ofNat code) ++ utf8 others := rfl
          have fewer : after.length < (byte :: (tailOf (owed + 1) code ++ after)).length := by
            rw [List.length_cons, List.length_append]
            omega
          rw [split, own, owes, ← ih _ fewer remaining rfl]
          rfl

/-- The bytes that can be decoded are those of the characters that they are decoded to. -/
theorem decodeUtf8_eq_ok_iff {bytes : List Nat} {characters : List Char} :
    decodeUtf8 bytes = .ok characters ↔ bytes = utf8 characters := by
  constructor
  · exact eq_utf8_of_decodeFrom
  · rintro rfl
    exact decodeFrom_utf8 characters 0

theorem ofFile_eq_ok_iff {bytes : List Nat} {text : String} :
    ofFile bytes = .ok text ↔ ∃ characters, bytes = utf8 characters ∧
      String.ofList (unifyLineBreaks characters) = text := by
  constructor
  · intro read
    obtain ⟨characters, decoded, same⟩ := map_ok read
    exact ⟨characters, decodeUtf8_eq_ok_iff.mp decoded, same⟩
  · rintro ⟨characters, written, rfl⟩
    rw [ofFile, decodeUtf8_eq_ok_iff.mpr written]
    rfl

end DrawingPlan.Text
