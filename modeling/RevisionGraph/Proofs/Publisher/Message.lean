import RevisionGraph.Proofs.Json.RoundTrip
import RevisionGraph.Publisher.Message

/-!
# The line of a message

A message is written as a JSON object on a line of its own.  Whatever its topic, key and value hold,
no line break of theirs gets through: `encode_line` cuts the line into its body and a line feed, and
there is none in the body, `lineFeed_not_mem_body`, nor any other character below the space,
`not_mem_write_toJson`.  `read_write_toJson` reads the object back.
-/

set_option autoImplicit false

namespace RevisionGraph

namespace Json

theorem hexDigit_toNat : ∀ n < 16, ¬ (Text.hexDigit n).toNat < 0x20 := by decide

/-- No character below the space stands for itself. -/
theorem not_mem_escapeChar {d : Char} (hd : d.toNat < 0x20) (c : Char) : d ∉ escapeChar c := by
  -- the characters that escapes are made of
  have hne : ∀ e : Char, ¬ e.toNat < 0x20 → d ≠ e := fun e he heq ↦ he (heq ▸ hd)
  have hslash : d ≠ '\\' := hne _ (by decide)
  rw [escapeChar]
  split_ifs with hself hline hreturn htab hback hfeed hcontrol
  · rw [Bool.or_eq_true, beq_iff_eq, beq_iff_eq] at hself
    rcases hself with rfl | rfl
    · simp [hslash, hne _ (show ¬ Text.doubleQuote.toNat < 0x20 by decide)]
    · simp [hslash]
  · simp [hslash, hne 'n' (by decide)]
  · simp [hslash, hne 'r' (by decide)]
  · simp [hslash, hne 't' (by decide)]
  · simp [hslash, hne 'b' (by decide)]
  · simp [hslash, hne 'f' (by decide)]
  · have hdigit : ∀ n, d ≠ Text.hexDigit (n % 16) := fun n ↦
      hne _ (hexDigit_toNat _ (Nat.mod_lt n (by decide)))
    simp [hslash, hne 'u' (by decide), hexDigits_four, hdigit]
  · simpa using hne c hcontrol

theorem not_mem_writeText {d : Char} (hd : d.toNat < 0x20) (s : String) : d ∉ writeText s := by
  have hquote : d ≠ Text.doubleQuote := by
    rintro rfl
    exact absurd hd (by decide)
  rw [writeText, List.cons_append, List.mem_cons, List.mem_append, List.mem_flatMap,
    List.mem_singleton, not_or, not_or]
  refine ⟨hquote, ?_, hquote⟩
  rintro ⟨c, -, hc⟩
  exact not_mem_escapeChar hd c hc

end Json

namespace Text.Utf8

/-- The byte of a line feed. -/
def lineFeed : UInt8 := 10

theorem lineFeed_ne_ofNat {n : Nat} (h : n ≠ 10) (hn : n < 0x100) : lineFeed ≠ UInt8.ofNat n := by
  intro heq
  have htoNat := congrArg UInt8.toNat heq
  rw [UInt8.toNat_ofNat', Nat.mod_eq_of_lt hn] at htoNat
  exact h htoNat.symm

/-- No other character is written with the byte of a line feed. -/
theorem lineFeed_not_mem_encodeChar {c : Char} (h : c ≠ '\n') : lineFeed ∉ encodeChar c := by
  have hne : c.toNat ≠ 10 := fun heq ↦ h (Char.toNat_inj.mp heq)
  have hlt : c.toNat < 0x110000 := by
    rcases c.valid with h | h <;> simp only [Char.toNat] <;> omega
  rw [encodeChar]
  -- the bytes of a longer sequence are all above those of single characters
  split_ifs with hone htwo hthree
  · rw [List.mem_singleton]
    exact lineFeed_ne_ofNat hne (by omega)
  · simp only [List.mem_cons, List.not_mem_nil, or_false, not_or]
    exact ⟨lineFeed_ne_ofNat (by omega) (by omega), lineFeed_ne_ofNat (by omega) (by omega)⟩
  · simp only [List.mem_cons, List.not_mem_nil, or_false, not_or]
    exact ⟨lineFeed_ne_ofNat (by omega) (by omega), lineFeed_ne_ofNat (by omega) (by omega),
      lineFeed_ne_ofNat (by omega) (by omega)⟩
  · simp only [List.mem_cons, List.not_mem_nil, or_false, not_or]
    exact ⟨lineFeed_ne_ofNat (by omega) (by omega), lineFeed_ne_ofNat (by omega) (by omega),
      lineFeed_ne_ofNat (by omega) (by omega), lineFeed_ne_ofNat (by omega) (by omega)⟩

end Text.Utf8

namespace Message

/-- What stands on the line of a message, as bytes. -/
def body (m : Message) : Text.Bytes := Text.Utf8.encode (m.toJson.write .spaced)

/-- **The line of a message is one line.** -/
theorem encode_line (m : Message) :
    Text.Utf8.encode m.line = m.body ++ [Text.Utf8.lineFeed] := by
  simp only [line, body, Text.Utf8.encode, String.toList_append, List.flatMap_append]
  rfl

/-- No character below the space stands on the line, except at its end. -/
theorem not_mem_write_toJson {d : Char} (hd : d.toNat < 0x20) (m : Message) :
    d ∉ (m.toJson.write .spaced).toList := by
  have htext : ∀ s, d ∉ Json.writeText s := Json.not_mem_writeText hd
  have hne : ∀ e : Char, ¬ e.toNat < 0x20 → d ≠ e := fun e he heq ↦ he (heq ▸ hd)
  rw [Json.write, String.toList_ofList, toJson]
  simp [Json.writeValue, Json.writeMembers, htext, Json.Spacing.spaced,
    hne ' ' (by decide), hne '\x7b' (by decide), hne '\x7d' (by decide), hne ':' (by decide),
    hne ',' (by decide)]

theorem lineFeed_not_mem_body (m : Message) : Text.Utf8.lineFeed ∉ m.body := by
  have hchars := m.not_mem_write_toJson (show '\n'.toNat < 0x20 by decide)
  rw [body, Text.Utf8.encode, List.mem_flatMap]
  rintro ⟨c, hc, hmem⟩
  exact Text.Utf8.lineFeed_not_mem_encodeChar (fun heq ↦ hchars (heq ▸ hc)) hmem

/-- **A message is read back from its line.** -/
theorem read_write_toJson (m : Message) : Json.read (m.toJson.write .spaced) = .ok m.toJson := by
  have hkeys : m.toJson.HasDistinctKeys := Json.hasDistinctKeys_object_iff.mpr
    ⟨by simp, by simp only [List.forall_mem_cons]; exact ⟨rfl, rfl, rfl, List.forall_mem_nil _⟩⟩
  exact Json.read_write Json.Spacing.isReadable_spaced rfl hkeys rfl

end Message

end RevisionGraph
