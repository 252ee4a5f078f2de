import Mathlib
import Intake.Text.Utf8

/-!
# Bytes that are text

Bytes have no fault exactly if they are the bytes of some text.  A character that
has begun is described by the bytes read of it: whatever code point its bits can
still be completed to is written with these bytes and then with one byte for each
six bits that are missing.
-/

namespace Intake.Utf8

/-- Whether bytes are those of a text. -/
def IsText (content : Bytes) : Prop := ∃ text : String, encode text = content

/-- The byte for the six bits of a code point that stand before `6 * missing` others. -/
def trailByte (missing code : Nat) : UInt8 := UInt8.ofNat (code / 64 ^ missing % 64 + 0x80)

/-- The bytes for the last `6 * missing` bits of a code point. -/
def trail : Nat → Nat → Bytes
  | 0, _ => []
  | missing + 1, code => trailByte missing code :: trail missing code

@[simp] theorem length_trail (missing code : Nat) : (trail missing code).length = missing := by
  induction missing with
  | zero => rfl
  | succ missing ih => simp [trail, ih]

/-- Whether a code point is one whose first bits are those of a character that has
begun, and whose next byte is within the bounds. -/
structure Begun.Leads (state : Begun) (code : Nat) : Prop where
  bits : code / 64 ^ state.missing = state.bits
  low : state.low.toNat ≤ code / 64 ^ (state.missing - 1) % 64 + 0x80
  high : code / 64 ^ (state.missing - 1) % 64 + 0x80 ≤ state.high.toNat

/-- Whether a character that has begun is what these bytes lead to. -/
structure Begun.Reads (state : Begun) (read : Bytes) : Prop where
  missing : 0 < state.missing
  low : 0x80 ≤ state.low.toNat
  high : state.high.toNat ≤ 0xBF
  completes : ∀ code, state.Leads code →
    code.isValidChar ∧ encodeChar (Char.ofNat code) = read ++ trail state.missing code

theorem val_ofNat {code : Nat} (hvalid : code.isValidChar) :
    (Char.ofNat code).val.toNat = code := by
  simp [Char.ofNat, hvalid, Char.ofNatAux]

/-! ## First bytes -/

theorem encodeChar_of_lead {b : UInt8} {c : Char} (hlead : lead b = .complete c) :
    encodeChar c = [b] := by
  have hsmall : b.toNat < 0x80 := by
    by_contra hlarge
    simp only [lead, hlarge, if_false] at hlead
    repeat' split at hlead
    all_goals simp at hlead
  have hvalid : b.toNat.isValidChar := Or.inl (by omega)
  obtain rfl : Char.ofNat b.toNat = c := by simpa [lead, hsmall] using hlead
  have hcode : b.toNat ≤ 0x7f := by omega
  simp [encodeChar, String.utf8EncodeChar, val_ofNat hvalid, hcode]

theorem encodeChar_two {code : Nat} (hlow : 0x80 ≤ code) (hhigh : code ≤ 0x7ff) :
    encodeChar (Char.ofNat code) = UInt8.ofNat (code / 64 + 0xC0) :: trail 1 code := by
  have hvalid : code.isValidChar := Or.inl (by omega)
  have hfirst : code / 64 % 32 = code / 64 := by omega
  simp [encodeChar, String.utf8EncodeChar, val_ofNat hvalid, trail, trailByte, hfirst,
    show ¬code ≤ 0x7f by omega, hhigh]

theorem encodeChar_three {code : Nat} (hvalid : code.isValidChar) (hlow : 0x800 ≤ code)
    (hhigh : code ≤ 0xffff) :
    encodeChar (Char.ofNat code) = UInt8.ofNat (code / 4096 + 0xE0) :: trail 2 code := by
  have hfirst : code / 4096 % 16 = code / 4096 := by omega
  simp [encodeChar, String.utf8EncodeChar, val_ofNat hvalid, trail, trailByte, hfirst,
    show ¬code ≤ 0x7f by omega, show ¬code ≤ 0x7ff by omega, hhigh]

theorem encodeChar_four {code : Nat} (hvalid : code.isValidChar) (hlow : 0x10000 ≤ code) :
    encodeChar (Char.ofNat code) = UInt8.ofNat (code / 262144 + 0xF0) :: trail 3 code := by
  have hbound : code < 0x110000 := by
    rcases hvalid with h | h <;> omega
  have hfirst : code / 262144 % 8 = code / 262144 := by omega
  simp [encodeChar, String.utf8EncodeChar, val_ofNat hvalid, trail, trailByte, hfirst,
    show ¬code ≤ 0x7f by omega, show ¬code ≤ 0x7ff by omega, show ¬code ≤ 0xffff by omega]

theorem reads_of_two {b low high : UInt8} {bits : Nat} (hbyte : b.toNat = bits + 0xC0)
    (hleast : 2 ≤ bits) (hmost : bits < 0x20) (hfloor : 0x80 ≤ low.toNat)
    (hceiling : high.toNat ≤ 0xBF) :
    (Begun.mk 1 low high bits).Reads [b] := by
  refine ⟨by simp, hfloor, hceiling, fun code hleads => ?_⟩
  have hbits : code / 64 = bits := by simpa using hleads.bits
  refine ⟨Or.inl (by omega), ?_⟩
  rw [encodeChar_two (by omega) (by omega), hbits, ← hbyte, UInt8.ofNat_toNat]
  rfl

theorem reads_of_three {b low high : UInt8} {bits : Nat} (hbyte : b.toNat = bits + 0xE0)
    (hmost : bits < 0x10) (hfloor : 0x80 ≤ low.toNat) (hceiling : high.toNat ≤ 0xBF)
    (hleast : bits = 0 → 0xA0 ≤ low.toNat) (hsurrogate : bits = 0xD → high.toNat < 0xA0) :
    (Begun.mk 2 low high bits).Reads [b] := by
  refine ⟨by simp, hfloor, hceiling, fun code hleads => ?_⟩
  have hbits : code / 4096 = bits := by simpa using hleads.bits
  have hlow : low.toNat ≤ code / 64 % 64 + 0x80 := by simpa using hleads.low
  have hhigh : code / 64 % 64 + 0x80 ≤ high.toNat := by simpa using hleads.high
  have hvalid : code.isValidChar := by
    by_cases hd : bits = 0xD
    · have := hsurrogate hd
      exact Or.inl (by omega)
    · by_cases hless : bits < 0xD
      · exact Or.inl (by omega)
      · exact Or.inr (by omega)
  have hwide : 0x800 ≤ code := by
    by_cases hzero : bits = 0
    · have := hleast hzero
      omega
    · omega
  refine ⟨hvalid, ?_⟩
  rw [encodeChar_three hvalid hwide (by omega), hbits, ← hbyte, UInt8.ofNat_toNat]
  rfl

theorem reads_of_four {b low high : UInt8} {bits : Nat} (hbyte : b.toNat = bits + 0xF0)
    (hmost : bits ≤ 4) (hfloor : 0x80 ≤ low.toNat) (hceiling : high.toNat ≤ 0xBF)
    (hleast : bits = 0 → 0x90 ≤ low.toNat) (hlast : bits = 4 → high.toNat < 0x90) :
    (Begun.mk 3 low high bits).Reads [b] := by
  refine ⟨by simp, hfloor, hceiling, fun code hleads => ?_⟩
  have hbits : code / 262144 = bits := by simpa using hleads.bits
  have hlow : low.toNat ≤ code / 4096 % 64 + 0x80 := by simpa using hleads.low
  have hhigh : code / 4096 % 64 + 0x80 ≤ high.toNat := by simpa using hleads.high
  have hwide : 0x10000 ≤ code := by
    by_cases hzero : bits = 0
    · have := hleast hzero
      omega
    · omega
  have hvalid : code.isValidChar := by
    refine Or.inr ⟨by omega, ?_⟩
    by_cases hfour : bits = 4
    · have := hlast hfour
      omega
    · omega
  refine ⟨hvalid, ?_⟩
  rw [encodeChar_four hvalid hwide, hbits, ← hbyte, UInt8.ofNat_toNat]
  rfl

theorem reads_of_lead {b : UInt8} {state : Begun} (hlead : lead b = .begun state) :
    state.Reads [b] := by
  have hbyte : b.toNat < 256 := b.toNat_lt
  unfold lead at hlead
  simp only at hlead
  repeat' split at hlead
  all_goals cases hlead
  · exact reads_of_two (by omega) (by omega) (by omega) (by simp) (by simp)
  · exact reads_of_three (by omega) (by simp) (by simp) (by simp) (by simp) (by simp)
  · exact reads_of_three (by omega) (by simp) (by simp) (by simp) (by simp) (by simp)
  · exact reads_of_three (by omega) (by omega) (by simp) (by simp) (by omega) (by omega)
  · exact reads_of_four (by omega) (by simp) (by simp) (by simp) (by simp) (by simp)
  · exact reads_of_four (by omega) (by omega) (by simp) (by simp) (by omega) (by omega)
  · exact reads_of_four (by omega) (by simp) (by simp) (by simp) (by simp) (by simp)

theorem toNat_ofNat_of_lt {n : Nat} (hn : n < 256) : (UInt8.ofNat n).toNat = n := by
  simp [Nat.mod_eq_of_lt hn]

theorem exists_lead {code : Nat} (hvalid : code.isValidChar) (hwide : 0x80 ≤ code) :
    ∃ b state, lead b = .begun state ∧ state.Leads code := by
  have hbound : code < 0x110000 := by rcases hvalid with h | h <;> omega
  by_cases htwo : code ≤ 0x7ff
  · refine ⟨UInt8.ofNat (code / 64 + 0xC0), ⟨1, 0x80, 0xBF, code / 64⟩, ?_, ?_⟩
    · simp only [lead, toNat_ofNat_of_lt (show code / 64 + 0xC0 < 256 by omega)]
      grind
    · constructor <;> simp
      omega
  · by_cases hthree : code ≤ 0xffff
    · obtain ⟨low, high, hlead, hlow, hhigh⟩ : ∃ low high : UInt8,
          lead (UInt8.ofNat (code / 4096 + 0xE0)) = .begun ⟨2, low, high, code / 4096⟩ ∧
            low.toNat ≤ code / 64 % 64 + 0x80 ∧ code / 64 % 64 + 0x80 ≤ high.toNat := by
        simp only [lead, toNat_ofNat_of_lt (show code / 4096 + 0xE0 < 256 by omega)]
        by_cases hzero : code / 4096 = 0
        · exact ⟨0xA0, 0xBF, by simp [hzero], by simp; omega, by simp; omega⟩
        · by_cases hd : code / 4096 = 0xD
          · refine ⟨0x80, 0x9F, by simp [hd], by simp, ?_⟩
            rcases hvalid with h | h <;> simp <;> omega
          · exact ⟨0x80, 0xBF, by grind, by simp, by simp; omega⟩
      exact ⟨_, _, hlead, by simp, by simpa using hlow, by simpa using hhigh⟩
    · obtain ⟨low, high, hlead, hlow, hhigh⟩ : ∃ low high : UInt8,
          lead (UInt8.ofNat (code / 262144 + 0xF0)) = .begun ⟨3, low, high, code / 262144⟩ ∧
            low.toNat ≤ code / 4096 % 64 + 0x80 ∧
            code / 4096 % 64 + 0x80 ≤ high.toNat := by
        simp only [lead, toNat_ofNat_of_lt (show code / 262144 + 0xF0 < 256 by omega)]
        by_cases hzero : code / 262144 = 0
        · exact ⟨0x90, 0xBF, by simp [hzero], by simp; omega, by simp; omega⟩
        · by_cases hfour : code / 262144 = 4
          · exact ⟨0x80, 0x8F, by simp [hfour], by simp, by simp; omega⟩
          · exact ⟨0x80, 0xBF, by grind, by simp, by simp; omega⟩
      exact ⟨_, _, hlead, by simp, by simpa using hlow, by simpa using hhigh⟩

/-! ## Further bytes -/

theorem toNat_trailByte (missing code : Nat) :
    (trailByte missing code).toNat = code / 64 ^ missing % 64 + 0x80 :=
  toNat_ofNat_of_lt (by omega)

theorem Begun.extend_of_leads_last {low high : UInt8} {bits code : Nat}
    (hleads : (Begun.mk 1 low high bits).Leads code) :
    (Begun.mk 1 low high bits).extend (trailByte 0 code) = .complete (Char.ofNat code) := by
  obtain ⟨hbits, hlow, hhigh⟩ := hleads
  have hbyte := toNat_trailByte 0 code
  simp only [Nat.sub_self, pow_zero, Nat.div_one, pow_one] at hbits hlow hhigh hbyte
  have hwithin : low ≤ trailByte 0 code ∧ trailByte 0 code ≤ high := by
    simp only [UInt8.le_iff_toNat_le, hbyte]
    omega
  have hcode : bits * 64 + ((trailByte 0 code).toNat - 0x80) = code := by omega
  simp [Begun.extend, hwithin, hcode]

theorem Begun.extend_of_leads {missing : Nat} {low high : UInt8} {bits code : Nat}
    (hleads : (Begun.mk (missing + 2) low high bits).Leads code) :
    ∃ next, (Begun.mk (missing + 2) low high bits).extend (trailByte (missing + 1) code) =
        .begun next ∧ next.missing = missing + 1 ∧ next.Leads code := by
  obtain ⟨hbits, hlow, hhigh⟩ := hleads
  have hbyte := toNat_trailByte (missing + 1) code
  simp only at hbits hlow hhigh
  simp only [show missing + 2 - 1 = missing + 1 by omega, ← hbyte] at hlow hhigh
  refine ⟨⟨missing + 1, 0x80, 0xBF, bits * 64 + ((trailByte (missing + 1) code).toNat - 0x80)⟩,
    ?_, rfl, ?_, ?_, ?_⟩
  · simp [Begun.extend, UInt8.le_iff_toNat_le, hlow, hhigh]
  · have hsplit : code / 64 ^ (missing + 2) = code / 64 ^ (missing + 1) / 64 := by
      rw [Nat.div_div_eq_div_mul, ← pow_succ]
    simp only at *
    omega
  · simp
  · simp
    omega

theorem Begun.Reads.complete {state : Begun} {read : Bytes} {b : UInt8} {c : Char}
    (hreads : state.Reads read) (hextend : state.extend b = .complete c) :
    encodeChar c = read ++ [b] := by
  obtain ⟨missing, low, high, bits⟩ := state
  obtain ⟨hmissing, hlow, hhigh, hcompletes⟩ := hreads
  simp only [Begun.extend] at hextend
  split at hextend
  case isFalse => simp at hextend
  case isTrue hwithin =>
      simp only [Bool.and_eq_true, decide_eq_true_eq, UInt8.le_iff_toNat_le] at hwithin
      split at hextend
      case isFalse => simp at hextend
      case isTrue hlast =>
          obtain rfl : missing = 1 := by simp only at hmissing; omega
          obtain rfl := Progress.complete.inj hextend
          simp only at hlow hhigh
          have hcode := (hcompletes (bits * 64 + (b.toNat - 0x80))
            ⟨by simp only [pow_one]; omega, by simp; omega, by simp; omega⟩).2
          have hbyte : (b.toNat - 0x80) % 64 + 0x80 = b.toNat := by omega
          simpa [trail, trailByte, hbyte] using hcode

theorem Begun.Reads.begun {state next : Begun} {read : Bytes} {b : UInt8}
    (hreads : state.Reads read) (hextend : state.extend b = .begun next) :
    next.Reads (read ++ [b]) := by
  obtain ⟨missing, low, high, bits⟩ := state
  obtain ⟨hmissing, hlow, hhigh, hcompletes⟩ := hreads
  simp only [Begun.extend] at hextend
  split at hextend
  case isFalse => simp at hextend
  case isTrue hwithin =>
      simp only [Bool.and_eq_true, decide_eq_true_eq, UInt8.le_iff_toNat_le] at hwithin
      split at hextend
      case isTrue => simp at hextend
      case isFalse hlast =>
          obtain ⟨missing, rfl⟩ : ∃ fewer, missing = fewer + 2 := ⟨missing - 2, by omega⟩
          obtain rfl := Progress.begun.inj hextend
          simp only at hlow hhigh
          refine ⟨by simp, by simp, by simp, fun code hleads => ?_⟩
          have hbits : code / 64 ^ (missing + 1) = bits * 64 + (b.toNat - 0x80) := hleads.bits
          have hsplit : code / 64 ^ (missing + 2) = code / 64 ^ (missing + 1) / 64 := by
            rw [Nat.div_div_eq_div_mul, ← pow_succ]
          have hbyte : code / 64 ^ (missing + 1) % 64 + 0x80 = b.toNat := by omega
          obtain ⟨hvalid, hcode⟩ := hcompletes code
            ⟨by simp only; omega, by simp only; grind, by simp only; grind⟩
          exact ⟨hvalid, by simpa [trail, trailByte, hbyte] using hcode⟩

/-! ## The whole of the bytes -/

theorem faultFrom_of_leads {state : Begun} {code index read : Nat} {rest : Bytes}
    (hmissing : 0 < state.missing) (hleads : state.Leads code) :
    faultFrom index (some (state, read)) (trail state.missing code ++ rest) =
      faultFrom (index + state.missing) none rest := by
  obtain ⟨missing, low, high, bits⟩ := state
  induction missing generalizing low high bits index read with
  | zero => simp at hmissing
  | succ missing ih =>
      cases missing with
      | zero => simp [trail, faultFrom, Begun.extend_of_leads_last hleads]
      | succ missing =>
          obtain ⟨⟨_, low, high, bits⟩, hextend, rfl, hnext⟩ := Begun.extend_of_leads hleads
          simp only at ih
          rw [trail]
          simp only [List.cons_append, faultFrom, hextend]
          rw [ih low high bits (by simp) hnext]
          congr 1
          omega

theorem faultFrom_encodeChar (c : Char) (index : Nat) (rest : Bytes) :
    faultFrom index none (encodeChar c ++ rest) =
      faultFrom (index + (encodeChar c).length) none rest := by
  by_cases hwide : 0x80 ≤ c.toNat
  · obtain ⟨b, state, hlead, hleads⟩ : ∃ b state, lead b = .begun state ∧ state.Leads c.toNat :=
      exists_lead c.valid hwide
    have hreads := reads_of_lead hlead
    have hcode : encodeChar c = b :: trail state.missing c.toNat := by
      simpa using (hreads.completes c.toNat hleads).2
    rw [hcode, List.cons_append, faultFrom]
    simp only [hlead]
    rw [faultFrom_of_leads hreads.missing hleads, List.length_cons, length_trail]
    congr 1
    omega
  · have hnarrow : c.toNat < 0x80 := by omega
    have hlead : lead (UInt8.ofNat c.toNat) = .complete c := by
      simp [lead, toNat_ofNat_of_lt (show c.toNat < 256 by omega), hnarrow]
    simp [encodeChar_of_lead hlead, faultFrom, hlead]

theorem faultFrom_flatMap (chars : List Char) (index : Nat) :
    faultFrom index none (chars.flatMap encodeChar) = none := by
  induction chars generalizing index with
  | nil => rfl
  | cons c chars ih => rw [List.flatMap_cons, faultFrom_encodeChar, ih]

theorem IsText.nil : IsText [] := ⟨"", rfl⟩

theorem IsText.encodeChar_append {c : Char} {rest : Bytes} (hrest : IsText rest) :
    IsText (encodeChar c ++ rest) := by
  obtain ⟨text, rfl⟩ := hrest
  exact ⟨String.ofList (c :: text.toList), by simp [encode]⟩

/-- What the bytes after a character that has begun must be for it to go well: the
ones that complete it, and then text. -/
theorem isText_of_faultFrom {content : Bytes} {index : Nat} {begun : Option (Begun × Nat)}
    (hsound : faultFrom index begun content = none) :
    match begun with
    | none => IsText content
    | some (state, _) => ∀ read, state.Reads read → IsText (read ++ content) := by
  induction content generalizing index begun with
  | nil =>
      cases begun with
      | none => exact .nil
      | some entry => simp [faultFrom] at hsound
  | cons b rest ih =>
      rcases begun with - | ⟨state, taken⟩
      · rw [faultFrom] at hsound
        split at hsound
        case h_1 c hlead =>
            have htext := ih hsound
            simpa [encodeChar_of_lead hlead] using htext.encodeChar_append (c := c)
        case h_2 state hlead => exact ih hsound [b] (reads_of_lead hlead)
        case h_3 => simp at hsound
      · intro read hreads
        rw [faultFrom] at hsound
        split at hsound
        case h_1 c hextend =>
            have htext := ih hsound
            simpa [hreads.complete hextend] using htext.encodeChar_append (c := c)
        case h_2 state hextend => simpa using ih hsound (read ++ [b]) (hreads.begun hextend)
        case h_3 => simp at hsound

theorem fault?_eq_none_iff {content : Bytes} : fault? content = none ↔ IsText content := by
  constructor
  · exact fun hsound => isText_of_faultFrom hsound
  · rintro ⟨text, rfl⟩
    exact faultFrom_flatMap _ _

instance : DecidablePred IsText := fun _ => decidable_of_iff _ fault?_eq_none_iff

end Intake.Utf8
