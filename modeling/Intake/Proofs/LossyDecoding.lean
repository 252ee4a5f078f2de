import Intake.Proofs.Utf8Text

/-!
# Text among broken bytes

The first byte of a character goes on with nothing that was begun before it.  So wherever
the bytes of a text stand, the decoder reads that text there, and what stands before it and
behind it is decoded as if it stood alone.
-/

namespace Intake.Utf8

theorem bounds_of_lead {b : UInt8} (hlead : lead b ≠ .broken) :
    b.toNat < 0x80 ∨ 0xC2 ≤ b.toNat := by
  unfold lead at hlead
  by_contra hbetween
  grind

theorem Begun.Reads.extend_lead {state : Begun} {read : Bytes} {b : UInt8}
    (hreads : state.Reads read) (hlead : lead b ≠ .broken) : state.extend b = .broken := by
  have hlow := hreads.low
  have hhigh := hreads.high
  have hbounds := bounds_of_lead hlead
  unfold Begun.extend
  rw [if_neg]
  simp only [Bool.and_eq_true, decide_eq_true_eq, UInt8.le_iff_toNat_le]
  omega

namespace Decoder

variable {decoder : Decoder} {b : UInt8} {content : Bytes}

/-- Whether a character that has begun was begun by bytes that can begin one. -/
def Sound (decoder : Decoder) : Prop :=
  ∀ state, decoder.begun = some state → ∃ read, state.Reads read

theorem sound_startWith (decoded : List (Option Char)) (b : UInt8) :
    (startWith decoded b).Sound := by
  intro state hstate
  unfold startWith at hstate
  split at hstate
  · cases hstate
  · next begun hlead =>
    cases hstate
    exact ⟨[b], reads_of_lead hlead⟩
  · cases hstate

theorem Sound.feed (hsound : decoder.Sound) (b : UInt8) : (decoder.feed b).Sound := by
  unfold Decoder.feed
  split
  · exact sound_startWith _ _
  · next begun hbegun =>
    obtain ⟨read, hreads⟩ := hsound begun hbegun
    split
    · intro state hstate
      cases hstate
    · next next hextend =>
      intro state hstate
      cases hstate
      exact ⟨read ++ [b], hreads.begun hextend⟩
    · exact sound_startWith _ _

theorem Sound.foldl (hsound : decoder.Sound) (content : Bytes) :
    (content.foldl Decoder.feed decoder).Sound := by
  induction content generalizing decoder with
  | nil => exact hsound
  | cons b rest ih => exact ih (hsound.feed b)

theorem sound_fresh (decoded : List (Option Char)) : (Decoder.mk decoded none).Sound := by
  intro state hstate
  cases hstate

/-- What has been decoded, newest first, if nothing goes on with the character that has
begun. -/
def closed (decoder : Decoder) : List (Option Char) :=
  match decoder.begun with
  | none => decoder.decoded
  | some _ => none :: decoder.decoded

theorem finish_eq_closed (decoder : Decoder) : decoder.finish = decoder.closed.reverse := by
  obtain ⟨decoded, begun⟩ := decoder
  cases begun <;> rfl

theorem Sound.feed_lead (hsound : decoder.Sound) (hlead : lead b ≠ .broken) :
    decoder.feed b = startWith decoder.closed b := by
  obtain ⟨decoded, begun⟩ := decoder
  cases begun with
  | none => rfl
  | some state =>
      obtain ⟨read, hreads⟩ := hsound state rfl
      simp only [Decoder.feed, hreads.extend_lead hlead, closed]

theorem foldl_trail {state : Begun} {code : Nat} (decoded : List (Option Char))
    (hmissing : 0 < state.missing) (hleads : state.Leads code) :
    (trail state.missing code).foldl feed ⟨decoded, some state⟩ =
      ⟨some (Char.ofNat code) :: decoded, none⟩ := by
  obtain ⟨missing, low, high, bits⟩ := state
  induction missing generalizing low high bits with
  | zero => simp at hmissing
  | succ missing ih =>
      cases missing with
      | zero => simp [trail, feed, Begun.extend_of_leads_last hleads]
      | succ missing =>
          obtain ⟨⟨_, low, high, bits⟩, hextend, rfl, hnext⟩ := Begun.extend_of_leads hleads
          rw [trail, List.foldl_cons, feed]
          simp only [hextend]
          exact ih low high bits (by simp) hnext

theorem Sound.foldl_encodeChar (hsound : decoder.Sound) (c : Char) :
    (encodeChar c).foldl Decoder.feed decoder = ⟨some c :: decoder.closed, none⟩ := by
  by_cases hwide : 0x80 ≤ c.toNat
  · obtain ⟨b, state, hlead, hleads⟩ : ∃ b state, lead b = .begun state ∧ state.Leads c.toNat :=
      exists_lead c.valid hwide
    have hreads := reads_of_lead hlead
    have hcode : encodeChar c = b :: trail state.missing c.toNat := by
      simpa using (hreads.completes c.toNat hleads).2
    rw [hcode, List.foldl_cons, hsound.feed_lead (by simp [hlead]), startWith]
    simp only [hlead]
    rw [foldl_trail _ hreads.missing hleads, Char.ofNat_toNat]
  · have hnarrow : c.toNat < 0x80 := by omega
    have hlead : lead (UInt8.ofNat c.toNat) = .complete c := by
      simp [lead, toNat_ofNat_of_lt (show c.toNat < 256 by omega), hnarrow]
    rw [encodeChar_of_lead hlead, List.foldl_cons, List.foldl_nil,
      hsound.feed_lead (by simp [hlead]), startWith]
    simp only [hlead]

theorem foldl_flatMap (chars : List Char) (decoded : List (Option Char)) :
    (chars.flatMap encodeChar).foldl feed ⟨decoded, none⟩ =
      ⟨(chars.map some).reverse ++ decoded, none⟩ := by
  induction chars generalizing decoded with
  | nil => rfl
  | cons c rest ih =>
      rw [List.flatMap_cons, List.foldl_append, (sound_fresh decoded).foldl_encodeChar]
      simpa [closed] using ih (some c :: decoded)

/-- Characters are read where their bytes stand, whatever was begun before them. -/
theorem Sound.foldl_flatMap (hsound : decoder.Sound) {chars : List Char} (hsome : chars ≠ []) :
    (chars.flatMap encodeChar).foldl Decoder.feed decoder =
      ⟨(chars.map some).reverse ++ decoder.closed, none⟩ := by
  cases chars with
  | nil => exact absurd rfl hsome
  | cons c rest =>
      rw [List.flatMap_cons, List.foldl_append, hsound.foldl_encodeChar, Decoder.foldl_flatMap]
      simp

theorem startWith_append (decoded earlier : List (Option Char)) (b : UInt8) :
    startWith (decoded ++ earlier) b =
      ⟨(startWith decoded b).decoded ++ earlier, (startWith decoded b).begun⟩ := by
  unfold startWith
  split <;> rfl

/-- The decoder never looks at what it has decoded. -/
theorem feed_append (decoded earlier : List (Option Char)) (begun : Option Begun) (b : UInt8) :
    feed ⟨decoded ++ earlier, begun⟩ b =
      ⟨(feed ⟨decoded, begun⟩ b).decoded ++ earlier, (feed ⟨decoded, begun⟩ b).begun⟩ := by
  cases begun with
  | none => exact startWith_append decoded earlier b
  | some state =>
      simp only [feed]
      split
      · rfl
      · rfl
      · exact startWith_append (none :: decoded) earlier b

theorem foldl_append (decoded earlier : List (Option Char)) (begun : Option Begun)
    (content : Bytes) :
    content.foldl feed ⟨decoded ++ earlier, begun⟩ =
      ⟨(content.foldl feed ⟨decoded, begun⟩).decoded ++ earlier,
        (content.foldl feed ⟨decoded, begun⟩).begun⟩ := by
  induction content generalizing decoded begun with
  | nil => rfl
  | cons b rest ih => rw [List.foldl_cons, feed_append, ih, List.foldl_cons]

theorem closed_foldl (decoded : List (Option Char)) (content : Bytes) :
    (content.foldl feed ⟨decoded, none⟩).closed =
      (content.foldl feed ⟨[], none⟩).closed ++ decoded := by
  have happend := foldl_append [] decoded none content
  rw [List.nil_append] at happend
  rw [happend]
  unfold closed
  split <;> simp_all

end Decoder

theorem scan_around {text : String} (before after : Bytes) (hsome : text.toList ≠ []) :
    scan (before ++ encode text ++ after) =
      scan before ++ text.toList.map some ++ scan after := by
  have hsound : (before.foldl Decoder.feed ⟨[], none⟩).Sound :=
    (Decoder.sound_fresh []).foldl before
  simp only [scan, Decoder.finish_eq_closed]
  rw [List.foldl_append, List.foldl_append, encode, hsound.foldl_flatMap hsome,
    Decoder.closed_foldl]
  simp

/-- Around a text, broken bytes are replaced as if the text were not there. -/
theorem decodeLossy_around {text : String} (before after : Bytes) (hsome : text.toList ≠ []) :
    decodeLossy (before ++ encode text ++ after) =
      decodeLossy before ++ text.toList ++ decodeLossy after := by
  rw [decodeLossy, scan_around before after hsome]
  simp [decodeLossy]

theorem decodeLossy_encode (text : String) : decodeLossy (encode text) = text.toList := by
  simp only [decodeLossy, scan, Decoder.finish_eq_closed, encode, Decoder.foldl_flatMap]
  simp [Decoder.closed]

end Intake.Utf8
