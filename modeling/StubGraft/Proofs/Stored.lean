import StubGraft.Disk.Files
import StubGraft.Proofs.Merging

/-!
# Texts in files

A text is written to a file as UTF-8 and read from it again, with the line ends made uniform.
What was written is read again, unless it holds carriage returns; and a merge of texts that were
read holds none.

* `decodeUtf8_encodeUtf8` — decoding undoes encoding.
* `Text.ofBytes?`, `Disk.textAt?` — the text that a file stores.
* `ofBytes?_encodeUtf8` — a text without carriage returns is stored as it is.
-/

namespace StubGraft.Text

/-! ## One character -/

/-- The bytes that follow a first byte in most characters. -/
def tailRange : Nat × Nat := (0x80, 0xBF)

theorem toNat_byte {n : Nat} (h : n < 256) : (UInt8.ofNat n).toNat = n :=
  UInt8.toNat_ofNat_of_lt h

theorem utf8Follow_cons {low high bits good n : Nat} {followers : List (Nat × Nat)}
    {rest : List UInt8} (hn : n < 64) (hlow : low ≤ 0x80 + n) (hhigh : 0x80 + n ≤ high) :
    utf8Follow bits good ((low, high) :: followers) (UInt8.ofNat (n + 0x80) :: rest) =
      utf8Follow (bits * 64 + n) (good + 1) followers rest := by
  have hbyte : (UInt8.ofNat (n + 0x80)).toNat = n + 0x80 := toNat_byte (by omega)
  rw [utf8Follow, hbyte, if_pos (by omega), Nat.add_sub_cancel]

theorem utf8Follow_tail {bits good n : Nat} {followers : List (Nat × Nat)} {rest : List UInt8}
    (hn : n < 64) :
    utf8Follow bits good (tailRange :: followers) (UInt8.ofNat (n + 0x80) :: rest) =
      utf8Follow (bits * 64 + n) (good + 1) followers rest :=
  utf8Follow_cons hn (by omega) (by omega)

/-- A first byte of two. -/
theorem utf8Lead?_two {a : Nat} (hlow : 2 ≤ a) (hhigh : a < 0x20) :
    utf8Lead? (a + 0xC0) = some ⟨a, [tailRange]⟩ := by
  rw [utf8Lead?, if_neg (by omega), if_neg (by omega), if_pos (by omega), Nat.add_sub_cancel]
  rfl

/-- A first byte of three: overlong forms and surrogates are kept out by the second one. -/
theorem utf8Lead?_three {a b : Nat} (ha : a < 0x10) (hb : b < 64) (hlong : 0x20 ≤ a * 64 + b)
    (hsurrogate : a * 64 + b < 0x360 ∨ 0x380 ≤ a * 64 + b) :
    ∃ low high, utf8Lead? (a + 0xE0) = some ⟨a, [(low, high), tailRange]⟩ ∧
      low ≤ 0x80 + b ∧ 0x80 + b ≤ high := by
  rw [utf8Lead?, if_neg (by omega), if_neg (by omega), if_neg (by omega)]
  by_cases hzero : a = 0
  · subst hzero
    exact ⟨0xA0, 0xBF, rfl, by omega, by omega⟩
  rw [if_neg (by omega)]
  by_cases hmiddle : a = 0xD
  · subst hmiddle
    exact ⟨0x80, 0x9F, rfl, by omega, by omega⟩
  rw [if_neg (by omega), if_pos (by omega), Nat.add_sub_cancel]
  exact ⟨0x80, 0xBF, rfl, by omega, by omega⟩

/-- A first byte of four: overlong forms and what is no code point are kept out by the second. -/
theorem utf8Lead?_four {a b : Nat} (ha : a ≤ 4) (hb : b < 64) (hlong : 0x10 ≤ a * 64 + b)
    (hlast : a * 64 + b < 0x110) :
    ∃ low high, utf8Lead? (a + 0xF0) = some ⟨a, [(low, high), tailRange, tailRange]⟩ ∧
      low ≤ 0x80 + b ∧ 0x80 + b ≤ high := by
  rw [utf8Lead?, if_neg (by omega), if_neg (by omega), if_neg (by omega), if_neg (by omega),
    if_neg (by omega), if_neg (by omega)]
  by_cases hzero : a = 0
  · subst hzero
    exact ⟨0x90, 0xBF, rfl, by omega, by omega⟩
  rw [if_neg (by omega)]
  by_cases hfour : a = 4
  · subst hfour
    exact ⟨0x80, 0x8F, rfl, by omega, by omega⟩
  rw [if_pos (by omega), Nat.add_sub_cancel]
  exact ⟨0x80, 0xBF, rfl, by omega, by omega⟩

/-- The bytes of a character are a first byte and what has to follow it. -/
theorem exists_utf8Lead (c : Char) :
    ∃ first rest lead, String.utf8EncodeChar c = first :: rest ∧
      utf8Lead? first.toNat = some lead ∧ rest.length = lead.followers.length ∧
      ∀ more, utf8Follow lead.bits 1 lead.followers (rest ++ more) = .ok c.toNat := by
  have hvalid : c.val.toNat < 0xd800 ∨ 0xdfff < c.val.toNat ∧ c.val.toNat < 0x110000 := c.valid
  have hnat : c.toNat = c.val.toNat := rfl
  rw [hnat, String.utf8EncodeChar]
  generalize c.val.toNat = v at hvalid
  by_cases hone : v ≤ 0x7f
  · have hbyte : (UInt8.ofNat v).toNat = v := toNat_byte (by omega)
    rw [if_pos hone]
    refine ⟨_, _, ⟨v, []⟩, rfl, ?_, rfl, fun more => rfl⟩
    rw [hbyte, utf8Lead?, if_pos (by omega)]
  rw [if_neg hone]
  by_cases htwo : v ≤ 0x7ff
  · have hmod : v / 64 % 0x20 = v / 64 := Nat.mod_eq_of_lt (by omega)
    have hbyte : (UInt8.ofNat (v / 64 + 0xc0)).toNat = v / 64 + 0xc0 :=
      toNat_byte (by omega)
    rw [if_pos htwo, hmod]
    refine ⟨_, _, ⟨v / 64, [tailRange]⟩, rfl, ?_, rfl, fun more => ?_⟩
    · rw [hbyte, utf8Lead?_two (by omega) (by omega)]
    · rw [List.cons_append, utf8Follow_tail (by omega), utf8Follow]
      exact congrArg _ (by simp only; omega)
  rw [if_neg htwo]
  by_cases hthree : v ≤ 0xffff
  · have hmod : v / 4096 % 0x10 = v / 4096 := Nat.mod_eq_of_lt (by omega)
    have hbyte : (UInt8.ofNat (v / 4096 + 0xe0)).toNat = v / 4096 + 0xe0 :=
      toNat_byte (by omega)
    obtain ⟨low, high, hlead, hlow, hhigh⟩ := @utf8Lead?_three (v / 4096) (v / 64 % 64) (by omega)
      (by omega) (by omega) (by omega)
    rw [if_pos hthree, hmod]
    refine ⟨_, _, _, rfl, by rw [hbyte, hlead], rfl, fun more => ?_⟩
    rw [List.cons_append, List.cons_append, utf8Follow_cons (by omega) hlow hhigh,
      utf8Follow_tail (by omega), utf8Follow]
    exact congrArg _ (by simp only; omega)
  · have hmod : v / 262144 % 0x08 = v / 262144 := Nat.mod_eq_of_lt (by omega)
    have hbyte : (UInt8.ofNat (v / 262144 + 0xf0)).toNat = v / 262144 + 0xf0 :=
      toNat_byte (by omega)
    obtain ⟨low, high, hlead, hlow, hhigh⟩ := @utf8Lead?_four (v / 262144) (v / 4096 % 64)
      (by omega) (by omega) (by omega) (by omega)
    rw [if_neg hthree, hmod]
    refine ⟨_, _, _, rfl, by rw [hbyte, hlead], rfl, fun more => ?_⟩
    rw [List.cons_append, List.cons_append, List.cons_append, utf8Follow_cons (by omega) hlow hhigh,
      utf8Follow_tail (by omega), utf8Follow_tail (by omega), utf8Follow]
    exact congrArg _ (by simp only; omega)

/-! ## Texts -/

theorem decodeUtf8From_skip (position : Nat) (passed rest : List UInt8) :
    decodeUtf8From position passed.length (passed ++ rest) =
      decodeUtf8From (position + passed.length) 0 rest := by
  induction passed generalizing position with
  | nil => rfl
  | cons b passed ih =>
    rw [List.cons_append, List.length_cons, decodeUtf8From, ih]
    congr 1
    omega

theorem decodeUtf8From_encodeUtf8 (position : Nat) (t : Text) :
    decodeUtf8From position 0 (encodeUtf8 t) = .ok t := by
  induction t generalizing position with
  | nil => rfl
  | cons c t ih =>
    obtain ⟨first, rest, lead, hbytes, hlead, hlength, hfollow⟩ := exists_utf8Lead c
    have hencode : encodeUtf8 (c :: t) = first :: (rest ++ encodeUtf8 t) := by
      rw [encodeUtf8, List.flatMap_cons, hbytes]
      rfl
    have hrest : decodeUtf8From (position + 1) lead.followers.length (rest ++ encodeUtf8 t) =
        .ok t := by
      rw [← hlength, decodeUtf8From_skip, ih]
    rw [hencode, decodeUtf8From]
    simp only [hlead, hfollow, hrest, Char.ofNat_toNat]

/-- Decoding undoes encoding. -/
theorem decodeUtf8_encodeUtf8 (t : Text) : decodeUtf8 (encodeUtf8 t) = .ok t :=
  decodeUtf8From_encodeUtf8 0 t

theorem encodeUtf8_injective {a b : Text} (h : encodeUtf8 a = encodeUtf8 b) : a = b := by
  have hdecoded := decodeUtf8_encodeUtf8 a
  rw [h, decodeUtf8_encodeUtf8] at hdecoded
  exact (Except.ok.inj hdecoded).symm

/-! ## Line ends -/

theorem not_mem_uniformLineEnds (t : Text) : '\r' ∉ uniformLineEnds t := by
  fun_induction uniformLineEnds t with
  | case1 => simp
  | case2 r ih => simpa using ih
  | case3 c r _ ih =>
    simp only [List.mem_cons, not_or]
    refine ⟨fun he => ?_, ih⟩
    split at he
    · exact absurd he (by decide)
    · exact absurd he.symm ‹_›

theorem uniformLineEnds_of_not_mem {t : Text} (h : '\r' ∉ t) : uniformLineEnds t = t := by
  fun_induction uniformLineEnds t with
  | case1 => rfl
  | case2 r ih => simp at h
  | case3 c r _ ih =>
    simp only [List.mem_cons, not_or] at h
    rw [if_neg fun he => h.1 he.symm, ih h.2]

theorem mem_of_mem_splitLines {t line : Text} {c : Char} (hline : line ∈ splitLines t)
    (hc : c ∈ line) : c ∈ t := by
  induction t generalizing line with
  | nil =>
    rw [splitLines, List.mem_singleton] at hline
    rwa [hline] at hc
  | cons d t ih =>
    rw [splitLines] at hline
    split at hline
    · rcases List.mem_cons.1 hline with rfl | hline
      · simp at hc
      · exact List.mem_cons_of_mem _ (ih hline hc)
    · split at hline
      · rw [List.mem_singleton] at hline
        rw [hline, List.mem_singleton] at hc
        exact hc ▸ List.mem_cons_self
      · rename_i first rest hsplit
        rcases List.mem_cons.1 hline with rfl | hline
        · rcases List.mem_cons.1 hc with rfl | hc
          · exact List.mem_cons_self
          · exact List.mem_cons_of_mem _ (ih (by rw [hsplit]; exact List.mem_cons_self) hc)
        · exact List.mem_cons_of_mem _ (ih (by rw [hsplit]; exact List.mem_cons_of_mem _ hline) hc)

theorem mem_joinLines {lines : List Text} {c : Char} (h : c ∈ joinLines lines) :
    c = '\n' ∨ ∃ line ∈ lines, c ∈ line := by
  fun_induction joinLines lines with
  | case1 => simp at h
  | case2 line => exact Or.inr ⟨line, List.mem_cons_self, h⟩
  | case3 line next lines ih =>
    rcases List.mem_append.1 h with h | h
    · exact Or.inr ⟨line, List.mem_cons_self, h⟩
    · rcases List.mem_cons.1 h with h | h
      · exact Or.inl h
      · refine (ih h).imp_right ?_
        rintro ⟨other, hother, hc⟩
        exact ⟨other, List.mem_cons_of_mem _ hother, hc⟩

/-! ## Stored texts -/

/-- The text that bytes store, with the line ends made uniform, if they are UTF-8. -/
def ofBytes? (bytes : List UInt8) : Option Text :=
  match decodeUtf8 bytes with
  | .ok t => some t.uniformLineEnds
  | .error _ => none

theorem not_mem_of_ofBytes? {bytes : List UInt8} {t : Text} (h : ofBytes? bytes = some t) :
    '\r' ∉ t := by
  rw [ofBytes?] at h
  split at h
  · cases h
    exact not_mem_uniformLineEnds _
  · exact absurd h (by simp)

/-- A text without carriage returns is read as it was written. -/
theorem ofBytes?_encodeUtf8 {t : Text} (h : '\r' ∉ t) : ofBytes? (encodeUtf8 t) = some t := by
  rw [ofBytes?, decodeUtf8_encodeUtf8]
  exact congrArg some (uniformLineEnds_of_not_mem h)

end StubGraft.Text

namespace StubGraft

/-- The text that the file at the end of a path stores. -/
def Disk.textAt? (disk : Disk) (path : Text) : Option Text :=
  match disk.readBytes path with
  | .ok bytes => Text.ofBytes? bytes
  | .error _ => none

theorem Disk.textAt?_of_readBytes {disk : Disk} {path : Text} {bytes : List UInt8}
    (h : disk.readBytes path = .ok bytes) : disk.textAt? path = Text.ofBytes? bytes := by
  rw [textAt?, h]

/-- A merge of texts without carriage returns has none. -/
theorem not_mem_of_mergeTexts {convention : Convention} {old new out : Text} (hold : '\r' ∉ old)
    (hnew : '\r' ∉ new) (h : mergeTexts convention old new = .ok out) : '\r' ∉ out := by
  obtain ⟨out', hout', hlines⟩ := mergeTexts_eq convention old new
  obtain rfl : out' = out := Except.ok.inj (hout'.symm.trans h)
  intro hmem
  rw [← Text.joinLines_splitLines out', hlines] at hmem
  rcases Text.mem_joinLines hmem with he | ⟨line, hline, hc⟩
  · exact absurd he (by decide)
  · rcases mem_splitLines_of_mem_mergedLines hline with hline | hline
    · exact hold (Text.mem_of_mem_splitLines hline hc)
    · exact hnew (Text.mem_of_mem_splitLines hline hc)

end StubGraft
