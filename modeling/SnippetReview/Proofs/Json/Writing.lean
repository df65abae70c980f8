import Mathlib.Tactic.Set
import SnippetReview.Json.Read
import SnippetReview.Json.Write
import SnippetReview.Proofs.Text.RawText

/-!
# Writing JSON

An object of texts is written with a blank after every comma and colon. In a string all characters
outside ASCII may be escaped, and need not be. Both ways of writing are read back as what they were
made of, whatever characters the texts hold (`ofText?_writeObject`), and so are their bytes in
UTF-8, whose encoding is told from the first two (`ofBytes?_writeObject`).
-/

namespace SnippetReview

namespace Json

namespace StringLiteral

/-! ## Units are read back -/

theorem hexValue?_digitChar : ∀ n < 16, hexValue? (Nat.digitChar n) = some n := by decide

theorem unit?_hexUnit {u : Nat} (hu : u < 0x10000) (rest : RawText) :
    unit? (RawText.of (hexUnit u) ++ rest) = some (u, rest) := by
  have h1 := hexValue?_digitChar (u / 4096) (by omega)
  have h2 := hexValue?_digitChar (u / 256 % 16) (by omega)
  have h3 := hexValue?_digitChar (u / 16 % 16) (by omega)
  have h4 := hexValue?_digitChar (u % 16) (by omega)
  have hjoin : ((u / 4096 * 16 + u / 256 % 16) * 16 + u / 16 % 16) * 16 + u % 16 = u := by omega
  simp [hexUnit, unit?, h1, h2, h3, h4, hjoin]

theorem isLead_eq_true_iff {u : Nat} : Utf16.isLead u = true ↔ 0xD800 ≤ u ∧ u < 0xDC00 := by
  simp [Utf16.isLead]

theorem isTrail_eq_true_iff {u : Nat} : Utf16.isTrail u = true ↔ 0xDC00 ≤ u ∧ u < 0xE000 := by
  simp [Utf16.isTrail]

/-- The two units of a surrogate pair stand for the code point that they were made of. -/
theorem joinPair_units {n : Nat} (hn : 0x10000 ≤ n) :
    Utf16.joinPair (leadUnit n) (trailUnit n) = n := by
  unfold Utf16.joinPair leadUnit trailUnit
  omega

/-- The code point of a character is no surrogate. -/
theorem toNat_bounds (c : Char) : c.toNat < 0xD800 ∨ 0xDFFF < c.toNat ∧ c.toNat < 0x110000 :=
  c.valid

theorem ofUnit_toNat (c : Char) : CodePoint.ofUnit c.toNat = .char c := by
  have hbounds := toNat_bounds c
  rw [CodePoint.ofUnit, if_neg (by omega), Char.ofNat_toNat]

theorem codePoint?_unit {c : Char} (hc : c.toNat < 0x10000) (rest : RawText) :
    codePoint? (RawText.of (hexUnit c.toNat) ++ rest) = some (.char c, rest) := by
  have hlead : Utf16.isLead c.toNat = false := by
    have hbounds := toNat_bounds c
    rw [Bool.eq_false_iff, Ne, isLead_eq_true_iff]
    omega
  simp [codePoint?, unit?_hexUnit hc, hlead, ofUnit_toNat]

theorem codePoint?_pair {c : Char} (hc : ¬ c.toNat < 0x10000) (rest : RawText) :
    codePoint? (RawText.of (hexUnit (leadUnit c.toNat))
      ++ (RawText.of (escapeUnit (trailUnit c.toNat)) ++ rest)) = some (.char c, rest) := by
  have hbounds := toNat_bounds c
  have hlead : Utf16.isLead (leadUnit c.toNat) = true := by
    rw [isLead_eq_true_iff, leadUnit]
    omega
  have htrail : Utf16.isTrail (trailUnit c.toNat) = true := by
    rw [isTrail_eq_true_iff, trailUnit]
    omega
  have hpair := joinPair_units (Nat.le_of_not_lt hc)
  have hfirst := unit?_hexUnit (u := leadUnit c.toNat) (by rw [leadUnit]; omega)
    (RawText.of (escapeUnit (trailUnit c.toNat)) ++ rest)
  have hsecond : trailUnit? (RawText.of (escapeUnit (trailUnit c.toNat)) ++ rest)
      = some (trailUnit c.toNat, rest) := by
    rw [escapeUnit, RawText.of_cons, RawText.of_cons, List.cons_append, List.cons_append,
      trailUnit?, unit?_hexUnit (by rw [trailUnit]; omega)]
    simp [htrail]
  simp [codePoint?, hfirst, hlead, hsecond, hpair, Char.ofNat_toNat]

/-! ## Strings are read back -/

theorem read?_backslash {s rest : RawText} {p : CodePoint} (h : escape? s = some (p, rest))
    (done : RawText) : read? done (.char '\\' :: s) = read? (p :: done) rest := by
  rw [read?]
  split
  · next p' rest' h' =>
    rw [h] at h'
    obtain ⟨rfl, rfl⟩ := Prod.mk.inj (Option.some.inj h')
    rfl
  · next h' => rw [h] at h'; exact absurd h' (by simp)

theorem read?_escapeUnit {u : Nat} {c : Char} {s rest : RawText}
    (h : codePoint? (RawText.of (hexUnit u) ++ s) = some (.char c, rest)) (done : RawText) :
    read? done (RawText.of (escapeUnit u) ++ s) = read? (.char c :: done) rest :=
  read?_backslash (s := .char 'u' :: (RawText.of (hexUnit u) ++ s)) h done

theorem escape?_letter {c letter : Char} (h : letters.lookup c = some letter) (rest : RawText) :
    escape? (.char letter :: rest) = some (.char c, rest) := by
  obtain ⟨l, r, hletters, -⟩ := List.lookup_eq_some_iff.1 h
  have hmem : (c, letter) ∈ letters := by
    rw [hletters]
    exact List.mem_append_right l List.mem_cons_self
  simp only [letters, List.mem_cons, Prod.mk.injEq, List.not_mem_nil, or_false] at hmem
  rcases hmem with ⟨rfl, rfl⟩ | ⟨rfl, rfl⟩ | ⟨rfl, rfl⟩ | ⟨rfl, rfl⟩ | ⟨rfl, rfl⟩ | ⟨rfl, rfl⟩ |
    ⟨rfl, rfl⟩ <;> rfl

/-- A character with no letter of its own and no control character stands for itself. -/
theorem read?_verbatim {c : Char} (h : letters.lookup c = none) (hcontrol : ¬ c < ' ')
    (done s : RawText) : read? done (.char c :: s) = read? (.char c :: done) s := by
  have hother : ∀ p ∈ letters, c ≠ p.1 := by
    intro p hp
    simpa using List.lookup_eq_none_iff.1 h p hp
  rw [read?, if_neg hcontrol]
  · exact hother ('"', '"') (by decide)
  · exact hother ('\\', '\\') (by decide)

/-- A character that has been written is read as what it was, whatever follows it. -/
theorem read?_writeChar_append (ascii : Bool) (c : Char) (done rest : RawText) :
    read? done (RawText.of (writeChar ascii c) ++ rest) = read? (.char c :: done) rest := by
  rw [writeChar]
  cases hletter : letters.lookup c with
  | some letter => exact read?_backslash (escape?_letter hletter rest) done
  | none =>
    dsimp only
    split_ifs with hescape
    · rw [escapeUnits]
      split_ifs with hunit
      · exact read?_escapeUnit (codePoint?_unit hunit rest) done
      · rw [RawText.of_append, List.append_assoc]
        exact read?_escapeUnit (codePoint?_pair hunit rest) done
    · exact read?_verbatim hletter (fun h => hescape (Or.inl h)) done rest

/-- A text that has been written is read up to the quote mark that ends it. -/
theorem read?_write_append (ascii : Bool) (s : Text) (done rest : RawText) :
    read? done (RawText.of (s.flatMap (writeChar ascii)) ++ .char '"' :: rest)
      = some (done.reverse ++ RawText.of s, rest) := by
  induction s generalizing done with
  | nil => rw [List.flatMap_nil, RawText.of_nil, List.nil_append, read?, List.append_nil]
  | cons c s ih =>
    rw [List.flatMap_cons, RawText.of_append, List.append_assoc, read?_writeChar_append, ih,
      List.reverse_cons, List.append_assoc, List.singleton_append, RawText.of_cons]

/-- A code point that has been written is read as what it was. -/
theorem read?_writePoint_append (q : CodePoint) (done rest : RawText) :
    read? done (writePoint q ++ rest) = read? (q :: done) rest := by
  cases q with
  | char c => exact read?_writeChar_append false c done rest
  | surrogate u => rw [writePoint, List.singleton_append, read?] <;> simp

theorem read?_writePoints_append (p done rest : RawText) :
    read? done (p.flatMap writePoint ++ .char '"' :: rest) = some (done.reverse ++ p, rest) := by
  induction p generalizing done with
  | nil => rw [List.flatMap_nil, List.nil_append, read?, List.append_nil]
  | cons q p ih =>
    rw [List.flatMap_cons, List.append_assoc, read?_writePoint_append, ih, List.reverse_cons,
      List.append_assoc, List.singleton_append]

end StringLiteral

/-! ## Objects -/

/-- A member of an object as it is written. -/
def writePair (ascii : Bool) (m : Text × Text) : Text :=
  StringLiteral.write ascii m.1 ++ ':' :: ' ' :: StringLiteral.write ascii m.2

/-- The members of an object as they are written. -/
def writePairs (ascii : Bool) : List (Text × Text) → Text
  | [] => []
  | [m] => writePair ascii m
  | m :: ms => writePair ascii m ++ ',' :: ' ' :: writePairs ascii ms

/-- An object of texts as it is written. -/
def writeObject (ascii : Bool) (ms : List (Text × Text)) : Text :=
  '\x7b' :: (writePairs ascii ms ++ ['\x7d'])

theorem ofPoints_of (s : Text) : ofPoints (RawText.of s) = string s := by
  rw [ofPoints, RawText.toText?_of]

namespace Token

/-- The tokens of the members of an object. -/
def ofMembers : List (Text × Text) → List Token
  | [] => []
  | [m] => [scalar (.string m.1), colon, scalar (.string m.2)]
  | m :: ms => scalar (.string m.1) :: colon :: scalar (.string m.2) :: comma :: ofMembers ms

theorem scanFrom_cons_of_first? {p : CodePoint} {s rest : RawText} {t : Token}
    (hp : isSpace p = false) (h : first? (p :: s) = some (t, rest)) (done : List Token) :
    scanFrom done (p :: s) = scanFrom (t :: done) rest := by
  rw [scanFrom, if_neg (by rw [hp]; decide)]
  split
  · next t' rest' h' =>
    rw [h, Option.some.injEq, Prod.mk.injEq] at h'
    rw [h'.1, h'.2]
  · next h' => rw [h] at h'; exact absurd h' (by simp)

theorem scanFrom_space (done : List Token) (s : RawText) :
    scanFrom done (.char ' ' :: s) = scanFrom done s := by
  rw [scanFrom, if_pos (by decide)]

theorem scanFrom_write (ascii : Bool) (v : Text) (done : List Token) (rest : RawText) :
    scanFrom done (RawText.of (StringLiteral.write ascii v) ++ rest)
      = scanFrom (scalar (.string v) :: done) rest := by
  have hfirst : first? (RawText.of (StringLiteral.write ascii v) ++ rest)
      = some (scalar (.string v), rest) := by
    rw [StringLiteral.write, RawText.of_cons, RawText.of_append, RawText.of_cons, RawText.of_nil,
      List.cons_append, List.append_assoc, List.singleton_append, first?,
      StringLiteral.read?_write_append]
    simp only [Option.map_some, List.reverse_nil, List.nil_append, ofPoints_of]
  exact scanFrom_cons_of_first? (by decide) hfirst done

/-- A string that has been written is read as what it was, whatever code points it holds. -/
theorem scanFrom_writePoints (p : RawText) (done : List Token) (rest : RawText) :
    scanFrom done (writePoints p ++ rest) = scanFrom (scalar (ofPoints p) :: done) rest := by
  have hfirst : first? (writePoints p ++ rest) = some (scalar (ofPoints p), rest) := by
    rw [writePoints, List.cons_append, List.append_assoc, List.singleton_append, first?,
      StringLiteral.read?_writePoints_append]
    rfl
  exact scanFrom_cons_of_first? (by decide) hfirst done

theorem scanFrom_writePair (ascii : Bool) (m : Text × Text) (done : List Token)
    (rest : RawText) : scanFrom done (RawText.of (writePair ascii m) ++ rest)
      = scanFrom (scalar (.string m.2) :: colon :: scalar (.string m.1) :: done) rest := by
  rw [writePair, RawText.of_append, List.append_assoc, scanFrom_write, RawText.of_cons,
    RawText.of_cons, List.cons_append, List.cons_append,
    scanFrom_cons_of_first? (by decide) (by rw [first?]), scanFrom_space, scanFrom_write]

theorem scanFrom_writePairs (ascii : Bool) (ms : List (Text × Text)) (done : List Token)
    (rest : RawText) : scanFrom done (RawText.of (writePairs ascii ms) ++ rest)
      = scanFrom ((ofMembers ms).reverse ++ done) rest := by
  induction ms generalizing done with
  | nil => rfl
  | cons m ms ih =>
    cases ms with
    | nil => rw [writePairs, scanFrom_writePair]; rfl
    | cons n ms =>
      rw [writePairs, RawText.of_append, List.append_assoc, scanFrom_writePair,
        RawText.of_cons, RawText.of_cons, List.cons_append, List.cons_append,
        scanFrom_cons_of_first? (by decide) (by rw [first?]), scanFrom_space, ih]
      · simp [ofMembers]
      · simp

/-- The tokens of an object that has been written. -/
theorem scan_writeObject (ascii : Bool) (ms : List (Text × Text)) :
    scan (RawText.of (writeObject ascii ms))
      = some (openBrace :: (ofMembers ms ++ [closeBrace])) := by
  rw [scan, writeObject, RawText.of_cons, RawText.of_append,
    scanFrom_cons_of_first? (by decide) (by rw [first?]), scanFrom_writePairs, RawText.of_cons,
    scanFrom_cons_of_first? (by decide) (by rw [first?]), RawText.of_nil, scanFrom]
  simp

end Token

namespace Reading

/-- The members of an object are read up to its end, after those that have been read before it. -/
theorem foldlM_ofMembers (maxDepth : Nat) {ms : List (Text × Text)} (hne : ms ≠ [])
    (frames : List Frame) (depth : Nat) (done : List (Text × Json)) :
    (Token.ofMembers ms ++ [Token.closeBrace]).foldlM (step maxDepth) ⟨frames, depth, .key done⟩
      = some ⟨frames, depth - 1, .more (.object
        (done.reverse ++ ms.map fun m => (m.1, Json.string m.2)))⟩ := by
  -- after a comma another member is read, with one more done before it
  induction ms generalizing done with
  | nil => exact absurd rfl hne
  | cons m ms ih =>
    cases ms with
    | nil => simp [Token.ofMembers, step, key, value, more, text?]
    | cons n ms =>
      have hrest := ih (by simp) ((m.1, .string m.2) :: done)
      simpa [Token.ofMembers, step, key, value, more, text?] using hrest

end Reading

theorem ofTokens?_ofMembers (maxDepth : Nat) (ms : List (Text × Text)) :
    ofTokens? maxDepth (Token.openBrace :: (Token.ofMembers ms ++ [Token.closeBrace]))
      = some (.object (ms.map fun m => (m.1, Json.string m.2))) := by
  -- a key is read at the start of an object as it is read after a comma
  have hread : (Token.ofMembers ms ++ [Token.closeBrace]).foldlM (Reading.step maxDepth)
      ⟨[], 1, .keyOrEnd⟩
        = some ⟨[], 0, .more (.object (ms.map fun m => (m.1, Json.string m.2)))⟩ := by
    cases ms with
    | nil => rfl
    | cons m ms =>
      have hkey := Reading.foldlM_ofMembers maxDepth (List.cons_ne_nil m ms) [] 1 []
      cases ms <;> exact hkey
  rw [ofTokens?, List.foldlM_cons]
  show ((Token.ofMembers ms ++ [Token.closeBrace]).foldlM (Reading.step maxDepth)
    ⟨[], 1, .keyOrEnd⟩).bind Reading.finish? = _
  rw [hread]
  rfl

/-- An object that has been written is read as what it was. -/
theorem ofText?_writeObject (maxDepth : Nat) (ascii : Bool) (ms : List (Text × Text)) :
    ofText? maxDepth (RawText.of (writeObject ascii ms))
      = some (.object (ms.map fun m => (m.1, .string m.2))) := by
  rw [ofText?, Token.scan_writeObject, Option.bind_some, ofTokens?_ofMembers]

/-! ## Bytes -/

/-- A body that begins like an object in ASCII is in UTF-8. -/
theorem detect_brace {b : UInt8} (hb : b ≠ 0) (rest : Bytes) :
    detect (0x7B :: b :: rest) = (.utf8, 0x7B :: b :: rest) := by
  have hbrace : ¬ (0x7B : UInt8) = 0 := by decide
  match rest with
  | [] =>
    show (if (0x7B : UInt8) = 0 then Encoding.utf16 .big else if b = 0 then .utf16 .little
      else .utf8, [0x7B, b]) = _
    rw [if_neg hbrace, if_neg hb]
  | [_] => rfl
  | c :: d :: rest =>
    set bytes : Bytes := 0x7B :: b :: c :: d :: rest
    show (if (0x7B : UInt8) = 0 then (if b = 0 then Encoding.utf32 .big else .utf16 .big, bytes)
      else if b = 0 then (if c = 0 ∧ d = 0 then .utf32 .little else .utf16 .little, bytes)
      else (.utf8, bytes)) = _
    rw [if_neg hbrace, if_neg hb]

theorem encode_cons_ascii {c : Char} {b : UInt8} (h : String.utf8EncodeChar c = [b]) (s : Text) :
    Utf8.encode (c :: s) = b :: Utf8.encode s := by
  rw [Utf8.encode_cons, h, List.singleton_append]

/-- The bytes of an object that has been written are read as what it was. -/
theorem ofBytes?_writeObject (maxDepth : Nat) (ascii : Bool) (m : Text × Text)
    (ms : List (Text × Text)) :
    ofBytes? maxDepth (Utf8.encode (writeObject ascii (m :: ms)))
      = some (.object ((m :: ms).map fun m => (m.1, .string m.2))) := by
  obtain ⟨rest, hrest⟩ : ∃ rest, writePairs ascii (m :: ms) = '"' :: rest := by
    cases ms <;> exact ⟨_, rfl⟩
  have hdetect : detect (Utf8.encode (writeObject ascii (m :: ms)))
      = (.utf8, Utf8.encode (writeObject ascii (m :: ms))) := by
    rw [writeObject, hrest, List.cons_append, encode_cons_ascii (b := 0x7B) (by decide),
      encode_cons_ascii (b := 0x22) (by decide)]
    exact detect_brace (by decide) _
  rw [ofBytes?, hdetect]
  show (Utf8.decodePassing? (Utf8.encode (writeObject ascii (m :: ms)))).bind (ofText? maxDepth) = _
  rw [Utf8.decodePassing?_encode, Option.bind_some, ofText?_writeObject]

end Json

end SnippetReview
