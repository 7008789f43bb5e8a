import VersionStamp.Toml.Quotation
import VersionStamp.Toml.Strings

/-! Strings read back as they were written.

Plain quotes hold every text, as they can escape anything. Apostrophes escape nothing, so
the text must have only characters that stand for themselves. A run of quotes within
triple quotes is read at once, which is why the induction there carries the quotes that
stand just before the text.
-/

namespace VersionStamp.Toml

theorem span_append {test : Char → Bool} {part rest : List Char}
    (inside : ∀ c ∈ part, test c = true) (ended : ∀ c ∈ rest.head?, test c = false) :
    (part ++ rest).takeWhile test = part ∧ (part ++ rest).dropWhile test = rest := by
  rw [List.takeWhile_append_of_pos inside, List.dropWhile_append_of_pos inside]
  cases rest with
  | nil => simp
  | cons c rest => simp [ended c rfl]

variable {piece : Reader Piece} {text rest left chars others : List Char} {c sign : Char}

theorem pieces_last (step : piece.read text = some ((chars, false), rest)) :
    (pieces piece).read text = some (chars, rest) := by
  have chain : (Reader.chain piece).read text = some ([chars], rest) :=
    Reader.readChain_last step
  simp [pieces, Reader.map, chain]

theorem pieces_more (step : piece.read text = some ((chars, true), rest))
    (read : (pieces piece).read rest = some (others, left)) :
    (pieces piece).read text = some (chars ++ others, left) := by
  obtain ⟨⟨items, _⟩, chain, equal⟩ := Option.map_eq_some_iff.mp read
  cases equal
  have longer : (Reader.chain piece).read text =
      ((Reader.chain piece).read rest).map fun (items, rest) => (chars :: items, rest) :=
    Reader.readChain_more step
  simp [pieces, Reader.map, longer, chain]

/-- Characters that are written one by one are read one by one. -/
theorem pieces_flatMap {write : Char → List Char} {closing : List Char}
    (closed : piece.read (closing ++ rest) = some (([], false), rest))
    (each : ∀ c ∈ text, ∀ rest, piece.read (write c ++ rest) = some (([c], true), rest)) :
    (pieces piece).read (text.flatMap write ++ closing ++ rest) = some (text, rest) := by
  induction text with
  | nil => exact pieces_last closed
  | cons c text ih =>
      have first := each c List.mem_cons_self (text.flatMap write ++ closing ++ rest)
      have others := ih fun d member => each d (List.mem_cons_of_mem c member)
      simpa only [List.flatMap_cons, List.append_assoc, List.singleton_append] using
        pieces_more first others

section Runs

variable {run : Nat}

theorem quotesPiece_replicate (sign : Char) (run : Nat) (ended : rest.head? ≠ some sign) :
    quotesPiece sign (List.replicate run sign ++ rest) =
      if run < 3 then some ((List.replicate run sign, true), rest)
      else if run ≤ 5 then some ((List.replicate (run - 3) sign, false), rest)
      else none := by
  have spanned : (List.replicate run sign ++ rest).takeWhile (· == sign) =
        List.replicate run sign ∧ (List.replicate run sign ++ rest).dropWhile (· == sign) = rest :=
    span_append (by simp) fun c member => beq_eq_false_iff_ne.mpr fun same => ended (same ▸ member)
  simp only [quotesPiece, spanned, List.length_replicate, List.drop_replicate]

variable (runs : ∀ others, piece.read (sign :: others) = quotesPiece sign (sign :: others))
include runs

theorem pieces_run (few : run ≤ 2) (ended : rest.head? ≠ some sign)
    (read : (pieces piece).read rest = some (text, left)) :
    (pieces piece).read (List.replicate run sign ++ rest) =
      some (List.replicate run sign ++ text, left) := by
  cases run with
  | zero => exact read
  | succ more =>
      refine pieces_more ?_ read
      rw [List.replicate_succ, List.cons_append, runs, ← List.cons_append, ← List.replicate_succ,
        quotesPiece_replicate sign _ ended, if_pos (by omega)]

theorem pieces_close (few : run ≤ 2) (ended : rest.head? ≠ some sign) :
    (pieces piece).read (List.replicate run sign ++ [sign, sign, sign] ++ rest) =
      some (List.replicate run sign, rest) := by
  have joined : List.replicate run sign ++ [sign, sign, sign] ++ rest =
      sign :: (List.replicate (run + 2) sign ++ rest) := by
    rw [← List.cons_append, ← List.replicate_succ, show run + 2 + 1 = run + 3 from rfl,
      ← List.replicate_append_replicate]
    rfl
  apply pieces_last
  rw [joined, runs, ← List.cons_append, ← List.replicate_succ, quotesPiece_replicate sign _ ended,
    if_neg (by omega), if_pos (by omega), show run + 2 + 1 - 3 = run by omega]

end Runs

section Escapes

theorem hexDigit?_upperHexDigit :
    ∀ n < 16, hexDigit? (Quotation.upperHexDigit n) = some n := by
  decide +kernel

theorem numberedChar_toNat (c : Char) (small : c.toNat < 256) (rest : List Char) :
    numberedChar 4 ('0' :: '0' :: Quotation.upperHexDigit (c.toNat / 16) ::
      Quotation.upperHexDigit (c.toNat % 16) :: rest) = some (c, rest) := by
  have high := hexDigit?_upperHexDigit (c.toNat / 16) (by omega)
  have low := hexDigit?_upperHexDigit (c.toNat % 16) (by omega)
  have zero : hexDigit? '0' = some 0 := by decide +kernel
  have number : c.toNat / 16 * 16 + c.toNat % 16 = c.toNat := by omega
  have valid : c.toNat.isValidChar := c.valid
  simp [numberedChar, hexNumber, high, low, zero, number, valid]

/-- A character stands for itself or is escaped, and no escape looks like a line end. -/
theorem escaped_cases (c : Char) :
    (Quotation.escaped c = [c] ∧ isPrintable c = true ∧ c ≠ '\\') ∨
    ∃ mark code, Quotation.escaped c = '\\' :: mark :: code ∧
      isBlank mark = false ∧ mark ≠ '\n' ∧ mark ≠ '\r' ∧
      ∀ rest, readEscape (mark :: (code ++ rest)) = some (c, rest) := by
  unfold Quotation.escaped
  split
  · exact .inr ⟨'b', [], rfl, by decide, by decide, by decide, fun _ => rfl⟩
  · exact .inr ⟨'t', [], rfl, by decide, by decide, by decide, fun _ => rfl⟩
  · exact .inr ⟨'f', [], rfl, by decide, by decide, by decide, fun _ => rfl⟩
  · exact .inr ⟨'r', [], rfl, by decide, by decide, by decide, fun _ => rfl⟩
  · exact .inr ⟨'\\', [], rfl, by decide, by decide, by decide, fun _ => rfl⟩
  · split
    · rename_i code
      have small : c.toNat < 256 := by
        rcases code with low | rfl
        · have below : c.toNat < ' '.toNat := low
          exact Nat.lt_trans below (by decide)
        · decide
      exact .inr ⟨'u', _, rfl, by decide, by decide, by decide,
        fun rest => numberedChar_toNat c small rest⟩
    · rename_i backslash plain
      refine .inl ⟨rfl, ?_, backslash⟩
      simp only [not_or] at plain
      simp [isPrintable, plain.2, Char.not_lt.mp plain.1]

theorem escapedPiece_read (read : readEscape text = some (c, rest)) :
    escapedPiece.read text = some (([c], true), rest) := by
  simp [escapedPiece, Reader.map, escape, read]

theorem newline?_of_head (printable : ∀ c ∈ text.head?, isPrintable c = true) :
    newline? text = none := by
  unfold newline?
  split <;> simp_all [isPrintable]

theorem linePiece_of_printable (printable : isPrintable c = true) (rest : List Char) :
    linePiece (c :: rest) = some (([c], true), rest) := by
  have noLine : newline? (c :: rest) = none := newline?_of_head (by simpa using printable)
  simp [linePiece, noLine, plainPiece, printable]

theorem basicPiece_basicChar (c : Char) (rest : List Char) :
    basicPiece.read (Quotation.basicChar c ++ rest) = some (([c], true), rest) := by
  unfold Quotation.basicChar
  split
  · rfl
  · rfl
  · rename_i quote _
    rcases escaped_cases c with
      ⟨itself, printable, backslash⟩ | ⟨mark, code, escaped, _, _, _, read⟩
    · rw [itself]
      simp only [List.singleton_append, basicPiece]
      unfold readBasicPiece
      split <;> simp_all [plainPiece]
    · rw [escaped]
      exact escapedPiece_read (read rest)

theorem basicBlockPiece_escaped (quote : c ≠ '"') (rest : List Char) :
    basicBlockPiece.read (Quotation.escaped c ++ rest) = some (([c], true), rest) := by
  rcases escaped_cases c with
    ⟨itself, printable, backslash⟩ | ⟨mark, code, escaped, blank, feed, carriage, read⟩
  · rw [itself]
    simp only [List.singleton_append, basicBlockPiece]
    unfold readBasicBlockPiece
    split <;> simp_all [linePiece_of_printable]
  · have noLine : newline? (skipBlanks (mark :: (code ++ rest))) = none := by
      rw [skipBlanks, List.dropWhile_cons, if_neg (by simp [blank])]
      unfold newline?
      split <;> simp_all
    rw [escaped]
    simp only [List.cons_append, basicBlockPiece, readBasicBlockPiece, noLine]
    exact escapedPiece_read (read rest)

theorem escaped_head (c : Char) (rest : List Char) :
    ∃ d, (Quotation.escaped c ++ rest).head? = some d ∧ isPrintable d = true ∧
      (d = c ∨ d = '\\') := by
  rcases escaped_cases c with ⟨itself, printable, _⟩ | ⟨mark, code, escaped, _⟩
  · exact ⟨c, by rw [itself]; rfl, printable, .inl rfl⟩
  · exact ⟨'\\', by rw [escaped]; rfl, by decide, .inr rfl⟩

theorem escaped_head_ne (quote : c ≠ '"') (rest : List Char) :
    (Quotation.escaped c ++ rest).head? ≠ some '"' := by
  obtain ⟨d, head, _, rfl | rfl⟩ := escaped_head c rest
  · simpa [head] using quote
  · simp [head]

end Escapes

section Blocks

theorem pieces_blockBody (run : Nat) (few : run ≤ 2) (ended : rest.head? ≠ some '"') :
    (pieces basicBlockPiece).read
        (List.replicate run '"' ++ (Quotation.blockBody run text ++ ['"', '"', '"'] ++ rest)) =
      some (List.replicate run '"' ++ text, rest) := by
  have runs : ∀ others, basicBlockPiece.read ('"' :: others) = quotesPiece '"' ('"' :: others) :=
    fun _ => rfl
  induction text generalizing run with
  | nil =>
      rw [List.append_nil, Quotation.blockBody, List.nil_append, ← List.append_assoc]
      exact pieces_close runs few ended
  | cons c text ih =>
      have others : (pieces basicBlockPiece).read
          (Quotation.blockBody 0 text ++ ['"', '"', '"'] ++ rest) = some (text, rest) :=
        ih 0 (Nat.zero_le 2)
      rw [Quotation.blockBody]
      by_cases quote : c = '"'
      · subst quote
        rw [if_pos rfl]
        by_cases more : run < 2
        · rw [if_pos more]
          have longer := ih (run + 1) more
          simpa only [List.replicate_succ', List.append_assoc, List.cons_append,
            List.nil_append] using longer
        · -- two quotes stand there, so this one is escaped
          have step (rest : List Char) :
              basicBlockPiece.read ('\\' :: '"' :: rest) = some ((['"'], true), rest) := rfl
          rw [if_neg more]
          exact pieces_run runs few (by simp) (pieces_more (step _) others)
      · rw [if_neg quote]
        by_cases feed : c = '\n'
        · have step (rest : List Char) :
              basicBlockPiece.read ('\n' :: rest) = some ((['\n'], true), rest) := rfl
          subst feed
          rw [if_pos rfl]
          exact pieces_run runs few (by simp) (pieces_more (step _) others)
        · rw [if_neg feed, List.append_assoc, List.append_assoc, ← List.append_assoc _ _ rest]
          exact pieces_run runs few (escaped_head_ne quote _)
            (pieces_more (basicBlockPiece_escaped quote _) others)

theorem le_longestRun (sign : Char) (current : Nat) (text : List Char) :
    current ≤ longestRun sign current text := by
  induction text generalizing current with
  | nil => exact Nat.le_refl current
  | cons c text ih =>
      rw [longestRun]
      split
      · exact Nat.le_of_succ_le (ih (current + 1))
      · exact Nat.le_max_left _ _

theorem literalBlockPiece_plain (plain : isPrintable c = true ∨ c = '\n') (quote : c ≠ '\'')
    (rest : List Char) : literalBlockPiece.read (c :: rest) = some (([c], true), rest) := by
  have line : linePiece (c :: rest) = some (([c], true), rest) := by
    rcases plain with printable | rfl
    · exact linePiece_of_printable printable rest
    · rfl
  simp only [literalBlockPiece]
  unfold readLiteralBlockPiece
  split <;> simp_all

theorem pieces_literalBlock (run : Nat) (few : longestRun '\'' run text ≤ 2)
    (plain : ∀ c ∈ text, isPrintable c = true ∨ c = '\n') (ended : rest.head? ≠ some '\'') :
    (pieces literalBlockPiece).read
        (List.replicate run '\'' ++ (text ++ ['\'', '\'', '\''] ++ rest)) =
      some (List.replicate run '\'' ++ text, rest) := by
  have runs : ∀ others,
      literalBlockPiece.read ('\'' :: others) = quotesPiece '\'' ('\'' :: others) := fun _ => rfl
  induction text generalizing run with
  | nil =>
      rw [List.append_nil, List.nil_append, ← List.append_assoc]
      exact pieces_close runs few ended
  | cons c text ih =>
      have short := Nat.le_trans (le_longestRun '\'' run (c :: text)) few
      have others (run : Nat) (few : longestRun '\'' run text ≤ 2) :=
        ih run few fun d member => plain d (List.mem_cons_of_mem c member)
      rw [longestRun] at few
      by_cases quote : c = '\''
      · subst quote
        rw [if_pos rfl] at few
        simpa only [List.replicate_succ', List.append_assoc, List.cons_append,
          List.nil_append] using others (run + 1) few
      · rw [if_neg quote] at few
        exact pieces_run runs short (by simpa using quote)
          (pieces_more (literalBlockPiece_plain (plain c List.mem_cons_self) quote _)
            (others 0 (Nat.le_trans (Nat.le_max_right _ _) few)))

end Blocks

namespace Quotation

/-- What a text must be like to be written in a certain way. -/
def Holds : Quotation → List Char → Prop
  | .basic, _ | .basicBlock, _ => True
  | .literal, text => ∀ c ∈ text, isPrintable c = true ∧ c ≠ '\''
  | .literalBlock, text =>
      (∀ c ∈ text, isPrintable c = true ∨ c = '\n') ∧ longestRun '\'' 0 text ≤ 2

theorem isPrintable_or_feed (code : isCode c = false) : isPrintable c = true ∨ c = '\n' := by
  by_cases feed : c = '\n'
  · exact .inr feed
  · refine .inl ?_
    by_cases tab : c = '\t'
    · simp [isPrintable, tab]
    · simp_all [isCode, isPrintable]

theorem notMem_of_longestRun {run : Nat} (none : longestRun sign run text = 0) :
    sign ∉ text := by
  induction text generalizing run with
  | nil => exact List.not_mem_nil
  | cons c text ih =>
      rw [longestRun] at none
      split at none
      · have positive := le_longestRun sign (run + 1) text
        omega
      · rename_i different
        rw [List.mem_cons, not_or]
        exact ⟨Ne.symm different, ih (Nat.max_eq_zero_iff.mp none).2⟩

theorem holds_choose (text : List Char) : (choose text).Holds text := by
  have plain (code : text.any isCode = false) : ∀ c ∈ text, isPrintable c = true ∨ c = '\n' :=
    fun c member => isPrintable_or_feed (Bool.eq_false_iff.mpr (List.any_eq_false.mp code c member))
  simp only [choose, Bool.not_eq_true']
  split
  · trivial
  · split
    · rename_i literal
      obtain ⟨code, apostrophes, lines⟩ := literal
      intro c member
      refine ⟨(plain code c member).resolve_right ?_, ?_⟩
      · rintro rfl
        simp [member] at lines
      · rintro rfl
        exact notMem_of_longestRun apostrophes member
    · split
      · trivial
      · split
        · rename_i literal
          exact ⟨plain literal.1, literal.2⟩
        · split <;> trivial

end Quotation

theorem readString_basic (single : ¬ ['"', '"'] <+: text) :
    readString ('"' :: text) = (pieces basicPiece).read text := by
  unfold readString
  split
  · rename_i tail equal
    cases equal
    exact absurd ⟨tail, rfl⟩ single
  · rename_i equal
    cases equal
  · rfl

theorem readString_literal (single : ¬ ['\'', '\''] <+: text) :
    readString ('\'' :: text) = (pieces literalPiece).read text := by
  unfold readString
  split
  · rename_i equal
    cases equal
  · rename_i tail equal
    cases equal
    exact absurd ⟨tail, rfl⟩ single
  · rfl

theorem skipNewline_opening
    (head : '\n' ∉ text → ∀ c ∈ others.head?, isPrintable c = true) :
    skipNewline (Quotation.opening text ++ others) = others := by
  by_cases lines : '\n' ∈ text
  · simp [Quotation.opening, lines, skipNewline, newline?]
  · simp [Quotation.opening, lines, skipNewline, newline?_of_head (head lines)]

theorem blockBody_head (feedless : '\n' ∉ text) (rest : List Char) :
    ∀ c ∈ (Quotation.blockBody 0 text ++ ['"', '"', '"'] ++ rest).head?, isPrintable c = true := by
  cases text with
  | nil => simp [Quotation.blockBody, isPrintable]
  | cons c text =>
      have feed : c ≠ '\n' := fun same => feedless (same ▸ List.mem_cons_self)
      by_cases quote : c = '"'
      · simp [Quotation.blockBody, quote, isPrintable]
      · obtain ⟨d, head, printable, _⟩ :=
          escaped_head c (Quotation.blockBody 0 text ++ ['"', '"', '"'] ++ rest)
        rw [Quotation.blockBody, if_neg quote, if_neg feed, List.append_assoc, List.append_assoc,
          ← List.append_assoc _ _ rest, head]
        simpa using printable

theorem basicChar_head (c : Char) (rest : List Char) :
    (Quotation.basicChar c ++ rest).head? ≠ some '"' := by
  unfold Quotation.basicChar
  split
  · simp
  · simp
  · rename_i quote _
    exact escaped_head_ne quote rest

theorem not_doubled (head : text.head? ≠ some sign) : ¬ [sign, sign] <+: text := by
  rintro ⟨rest, rfl⟩
  exact head rfl

theorem not_doubled_alone (ended : rest.head? ≠ some sign) :
    ¬ [sign, sign] <+: sign :: rest := by
  rintro ⟨others, equal⟩
  simp [← List.tail_eq_of_cons_eq equal] at ended

theorem string_basic (ended : rest.head? ≠ some '"') :
    string.read (Quotation.basic.write text ++ rest) = some (text, rest) := by
  have single : ¬ ['"', '"'] <+: text.flatMap Quotation.basicChar ++ ['"'] ++ rest := by
    cases text with
    | nil => exact not_doubled_alone ended
    | cons c text =>
        rw [List.flatMap_cons, List.append_assoc, List.append_assoc]
        exact not_doubled (basicChar_head c _)
  exact (readString_basic single).trans
    (pieces_flatMap rfl fun c _ rest => basicPiece_basicChar c rest)

theorem string_literal (holds : ∀ c ∈ text, isPrintable c = true ∧ c ≠ '\'')
    (ended : rest.head? ≠ some '\'') :
    string.read (Quotation.literal.write text ++ rest) = some (text, rest) := by
  have single : ¬ ['\'', '\''] <+: text ++ ['\''] ++ rest := by
    cases text with
    | nil => exact not_doubled_alone ended
    | cons c text => exact not_doubled (by simpa using (holds c List.mem_cons_self).2)
  have each (c : Char) (member : c ∈ text) (rest : List Char) :
      literalPiece.read ([c] ++ rest) = some (([c], true), rest) := by
    obtain ⟨printable, quote⟩ := holds c member
    simp only [literalPiece, List.singleton_append]
    unfold readLiteralPiece
    split <;> simp_all [plainPiece]
  have closed : literalPiece.read (['\''] ++ rest) = some (([], false), rest) := rfl
  have read := pieces_flatMap closed each
  rw [List.flatMap_singleton'] at read
  exact (readString_literal single).trans read

theorem string_basicBlock (ended : rest.head? ≠ some '"') :
    string.read (Quotation.basicBlock.write text ++ rest) = some (text, rest) := by
  have written : Quotation.basicBlock.write text ++ rest = '"' :: '"' :: '"' ::
      (Quotation.opening text ++ (Quotation.blockBody 0 text ++ ['"', '"', '"'] ++ rest)) := by
    simp [Quotation.write]
  have skipped := skipNewline_opening fun (feedless : '\n' ∉ text) => blockBody_head feedless rest
  have read : (pieces basicBlockPiece).read
      (Quotation.blockBody 0 text ++ ['"', '"', '"'] ++ rest) = some (text, rest) :=
    pieces_blockBody 0 (Nat.zero_le 2) ended
  rw [← skipped] at read
  rw [written]
  exact read

theorem string_literalBlock (plain : ∀ c ∈ text, isPrintable c = true ∨ c = '\n')
    (few : longestRun '\'' 0 text ≤ 2) (ended : rest.head? ≠ some '\'') :
    string.read (Quotation.literalBlock.write text ++ rest) = some (text, rest) := by
  have written : Quotation.literalBlock.write text ++ rest = '\'' :: '\'' :: '\'' ::
      (Quotation.opening text ++ (text ++ ['\'', '\'', '\''] ++ rest)) := by
    simp [Quotation.write]
  have head (feedless : '\n' ∉ text) :
      ∀ c ∈ (text ++ ['\'', '\'', '\''] ++ rest).head?, isPrintable c = true := by
    cases text with
    | nil => simp [isPrintable]
    | cons c text =>
        have printable := (plain c List.mem_cons_self).resolve_right fun same =>
          feedless (same ▸ List.mem_cons_self)
        simpa using printable
  have skipped := skipNewline_opening head
  have read : (pieces literalBlockPiece).read
      (text ++ ['\'', '\'', '\''] ++ rest) = some (text, rest) :=
    pieces_literalBlock 0 few plain ended
  rw [← skipped] at read
  rw [written]
  exact read

/-- A string that is written in a way that holds it reads back, whatever follows, unless
that begins with another quote. -/
theorem string_write {quotation : Quotation} (holds : quotation.Holds text)
    (ended : rest.head? ≠ some '"' ∧ rest.head? ≠ some '\'') :
    string.read (quotation.write text ++ rest) = some (text, rest) := by
  cases quotation with
  | basic => exact string_basic ended.1
  | literal => exact string_literal holds ended.2
  | basicBlock => exact string_basicBlock ended.1
  | literalBlock => exact string_literalBlock holds.1 holds.2 ended.2

end VersionStamp.Toml
