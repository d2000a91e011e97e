import Mathlib.Data.List.Chain
import Mathlib.Data.Set.Function
import TexMarkup.Proofs.Token.Numeral

/-!
# Canonical lists of tokens

A list of tokens is canonical when every token covers a text of its class and no
two neighbours could have been read in another way. Where a token ends depends
on nothing but the characters after it, so neighbours are compared through the
text that the second one begins with.

## Main definitions

* `Token.WellFormed`, `Token.MayPrecede`, `Canonical`: canonical lists of tokens.
* `concat`: the texts of tokens, one after the other.
* `Token.EndsBefore`: a token ends in front of the given characters.

## Main results

* `scan_spec`: scanning splits a well-formed token off the text, which ends there.
* `lex_append`: in front of the text where it ends, a well-formed token is the one
  scanned.
* `endsBefore_iff_mayPrecede`: where a token ends in front of another one.
* `lex_canonical`, `lex_concat`: lexing gives a canonical list, and gives every
  canonical list back.
* `tokenize_bijective`: so texts without carriage returns and canonical lists
  correspond to each other.
-/

namespace TexMarkup

/-- The characters that are texts by themselves where a token begins. -/
def textMarks : List Char := ['[', ']', '|', '\x60', '~', '$']

/-- The texts of words: no blanks, braces and backslashes, no mark at the beginning,
and no numeral. -/
def WordText (cs : List Char) : Prop :=
  cs ≠ [] ∧ (∀ c ∈ cs, isWordChar c = true) ∧ (∀ c ∈ cs.head?, c ∉ textMarks) ∧ ¬ Numeral cs

namespace Token

/-- Whether a token covers a text of its class. -/
def WellFormed : Token → Prop
  | blankLine s => 2 ≤ s.toList.length ∧ ∀ c ∈ s.toList, c = '\n'
  | space s =>
    s.toList ≠ [] ∧ (∀ c ∈ s.toList, isBlank c = true ∧ c ≠ '\r') ∧ ¬ ['\n', '\n'] <:+: s.toList
  | number s => Numeral s.toList
  | word s => WordText s.toList
  | _ => True

/-- Whether a token can stand directly in front of another one. -/
def MayPrecede : Token → Token → Prop
  | space _, space _ => False
  | space s, blankLine _ => s.toList.getLast? ≠ some '\n'
  | blankLine _, blankLine _ => False
  | blankLine _, space s => s.toList.head? ≠ some '\n'
  | word _, next => next.isTextLike = false
  | number _, next => next.isTextLike = false
  | _, _ => True

end Token

/-- Every token covers a text of its class, and neighbours may stand side by side. -/
def Canonical (ts : List Token) : Prop :=
  (∀ t ∈ ts, t.WellFormed) ∧ ts.IsChain Token.MayPrecede

instance (cs : List Char) : Decidable (Numeral cs) :=
  decidable_of_iff _ isNumeral_iff

instance (cs : List Char) : Decidable (WordText cs) :=
  inferInstanceAs (Decidable (_ ∧ _ ∧ _ ∧ _))

instance : DecidablePred Token.WellFormed
  | .blankLine _ => inferInstanceAs (Decidable (_ ∧ _))
  | .space _ => inferInstanceAs (Decidable (_ ∧ _ ∧ _))
  | .number s => inferInstanceAs (Decidable (Numeral s.toList))
  | .word s => inferInstanceAs (Decidable (WordText s.toList))
  | .backslash | .leftBrace | .rightBrace | .leftBracket | .rightBracket | .pipe | .backquote
  | .squiggle | .dollar => isTrue trivial

instance : DecidableRel Token.MayPrecede := fun t next => by
  unfold Token.MayPrecede
  split <;> infer_instance

instance : DecidablePred Canonical :=
  fun _ => inferInstanceAs (Decidable (_ ∧ _))

/-- The texts of tokens, one after the other. -/
def concat (ts : List Token) : String :=
  String.join (ts.map Token.text)

theorem concat_toList (ts : List Token) :
    (concat ts).toList = ts.flatMap fun t => t.text.toList := by
  rw [concat, String.toList_join, List.flatMap_map]

/-! ## Blank lines and runs of blanks -/

/-- No blank line begins inside of a run in front of other characters. -/
def NoBlankLineIn : List Char → List Char → Prop
  | [], _ => True
  | c :: run, rest => startsBlankLine (c :: (run ++ rest)) = false ∧ NoBlankLineIn run rest

variable {c : Char} {cs run rest : List Char} {t next : Token} {ts : List Token}

theorem startsBlankLine_iff : startsBlankLine cs = true ↔ ∃ rest, cs = '\n' :: '\n' :: rest := by
  constructor
  · intro h
    unfold startsBlankLine at h
    split at h
    · exact ⟨_, rfl⟩
    · exact absurd h Bool.false_ne_true
  · rintro ⟨rest, rfl⟩
    rfl

/-- No blank line begins inside of a run if the run holds none and none lies across
its end. -/
theorem noBlankLineIn_iff : NoBlankLineIn run rest ↔
    ¬ ['\n', '\n'] <:+: run ∧ ¬ (run.getLast? = some '\n' ∧ rest.head? = some '\n') := by
  -- Only the last character of the run can see past its end.
  induction run with
  | nil => simp [NoBlankLineIn]
  | cons c run ih =>
    rw [NoBlankLineIn, ih, List.infix_cons_iff, ← Bool.not_eq_true, startsBlankLine_iff]
    cases run with
    | nil =>
      cases rest <;> simp
    | cons c' run =>
      simp only [List.cons_prefix_cons, List.nil_prefix, and_true, List.getLast?_cons_cons,
        List.cons_append, List.cons.injEq, exists_and_left, exists_eq', not_or, and_assoc,
        eq_comm (a := '\n')]

/-- A run of blanks ends in front of the first other character or the first blank line. -/
theorem spanSpace_spec (cs : List Char) :
    (spanSpace cs).1 ++ (spanSpace cs).2 = cs ∧ (∀ c ∈ (spanSpace cs).1, isBlank c = true) ∧
      NoBlankLineIn (spanSpace cs).1 (spanSpace cs).2 ∧
      (∀ c ∈ (spanSpace cs).2.head?, isBlank c = true →
        startsBlankLine (spanSpace cs).2 = true) := by
  induction cs with
  | nil => simp [spanSpace, NoBlankLineIn]
  | cons c cs ih =>
    obtain ⟨split, blank, inside, stops⟩ := ih
    rw [spanSpace]
    split
    · rename_i h
      simp only [Bool.and_eq_true, Bool.not_eq_true'] at h
      refine ⟨congrArg (c :: ·) split, ?_, ⟨?_, inside⟩, stops⟩
      · intro c' mem
        rcases List.mem_cons.mp mem with rfl | mem
        · exact h.1
        · exact blank c' mem
      · simp only [split, h.2]
    · rename_i h
      refine ⟨rfl, by simp, trivial, ?_⟩
      rintro c' ⟨⟩ blank'
      simpa [blank'] using h

/-- Every run that ends so is found as a whole. -/
theorem spanSpace_append (blank : ∀ c ∈ run, isBlank c = true) (inside : NoBlankLineIn run rest)
    (stops : ∀ c ∈ rest.head?, isBlank c = true → startsBlankLine rest = true) :
    spanSpace (run ++ rest) = (run, rest) := by
  induction run with
  | nil =>
    cases rest with
    | nil => rfl
    | cons c rest =>
      have atEnd := stops c rfl
      rw [List.nil_append, spanSpace, if_neg]
      simpa using atEnd
  | cons c run ih =>
    rw [List.cons_append, spanSpace, if_pos]
    · rw [ih (fun c' mem => blank c' (List.mem_cons_of_mem _ mem)) inside.2]
    · simp [blank c List.mem_cons_self, inside.1]

/-! ## Where a token ends -/

/-- The token is not longer than it says in front of these characters. -/
def Token.EndsBefore : Token → List Char → Prop
  | .blankLine _, rest => rest.head? ≠ some '\n'
  | .space s, rest =>
    NoBlankLineIn s.toList rest ∧
      ∀ c ∈ rest.head?, isBlank c = true → startsBlankLine rest = true
  | .number _, rest => ∀ c ∈ rest.head?, isWordChar c = false
  | .word _, rest => ∀ c ∈ rest.head?, isWordChar c = false
  | _, _ => True

/-- The characters that are tokens on their own are the marks, the backslash and the braces. -/
theorem ofSymbol?_eq_none_iff :
    Token.ofSymbol? c = none ↔ c ∉ textMarks ∧ c ≠ '\\' ∧ c ≠ '\x7b' ∧ c ≠ '\x7d' := by
  constructor
  · intro h
    refine ⟨fun mem => ?_, ?_, ?_, ?_⟩
    · simp only [textMarks, List.mem_cons, List.not_mem_nil, or_false] at mem
      rcases mem with rfl | rfl | rfl | rfl | rfl | rfl <;> exact absurd h (by decide)
    all_goals rintro rfl; exact absurd h (by decide)
  · rintro ⟨noMark, noBackslash, noLeft, noRight⟩
    simp only [textMarks, List.mem_cons, List.not_mem_nil, or_false, not_or] at noMark
    unfold Token.ofSymbol?
    split <;> simp_all

private theorem scan_spec_symbol (symbol : Token.ofSymbol? c = some t) :
    t.text.toList ++ cs = c :: cs ∧ t.WellFormed ∧ t.EndsBefore cs := by
  refine ⟨?_, ?_, ?_⟩
  · rw [Token.text_of_ofSymbol? symbol, String.toList_singleton, List.singleton_append]
  all_goals
    unfold Token.ofSymbol? at symbol
    split at symbol <;> cases symbol <;> trivial

private theorem scan_spec_blankLine (starts : startsBlankLine (c :: cs) = true) :
    let t := Token.blankLine (String.ofList (c :: cs.takeWhile (· == '\n')))
    t.text.toList ++ cs.dropWhile (· == '\n') = c :: cs ∧ t.WellFormed ∧
      t.EndsBefore (cs.dropWhile (· == '\n')) := by
  obtain ⟨rest, same⟩ := startsBlankLine_iff.mp starts
  obtain ⟨rfl, rfl⟩ := List.cons_eq_cons.mp same
  simp only [Token.text, Token.WellFormed, Token.EndsBefore, String.toList_ofList]
  refine ⟨?_, ⟨?_, ?_⟩, ?_⟩
  · rw [List.cons_append, List.takeWhile_append_dropWhile]
  · simp
  · intro c mem
    rcases List.mem_cons.mp mem with rfl | mem
    · rfl
    · simpa using List.all_eq_true.mp List.all_takeWhile c mem
  · intro head
    have stops := head?_dropWhile_eq_false (· == '\n') ('\n' :: rest) '\n' head
    exact absurd stops (by decide)

private theorem scan_spec_space (noReturn : '\r' ∉ c :: cs) (blank : isBlank c = true)
    (starts : startsBlankLine (c :: cs) = false) :
    let t := Token.space (String.ofList (c :: (spanSpace cs).1))
    t.text.toList ++ (spanSpace cs).2 = c :: cs ∧ t.WellFormed ∧ t.EndsBefore (spanSpace cs).2 := by
  obtain ⟨split, blanks, inside, stops⟩ := spanSpace_spec cs
  have inside' : NoBlankLineIn (c :: (spanSpace cs).1) (spanSpace cs).2 :=
    ⟨by rw [split, starts], inside⟩
  simp only [Token.text, Token.WellFormed, Token.EndsBefore, String.toList_ofList]
  refine ⟨congrArg (c :: ·) split, ⟨List.cons_ne_nil _ _, ?_, (noBlankLineIn_iff.mp inside').1⟩,
    inside', stops⟩
  intro c' mem
  constructor
  · rcases List.mem_cons.mp mem with rfl | mem
    · exact blank
    · exact blanks c' mem
  · rintro rfl
    apply noReturn
    rw [← split, ← List.cons_append]
    exact List.mem_append_left _ mem

private theorem scan_spec_word (noSymbol : Token.ofSymbol? c = none)
    (notBlank : isBlank c = false) :
    let t := wordToken (c :: cs.takeWhile isWordChar)
    t.text.toList ++ cs.dropWhile isWordChar = c :: cs ∧ t.WellFormed ∧
      t.EndsBefore (cs.dropWhile isWordChar) := by
  obtain ⟨noMark, noBackslash, noLeft, noRight⟩ := ofSymbol?_eq_none_iff.mp noSymbol
  have stops := head?_dropWhile_eq_false isWordChar cs
  have split : c :: cs.takeWhile isWordChar ++ cs.dropWhile isWordChar = c :: cs := by
    rw [List.cons_append, List.takeWhile_append_dropWhile]
  -- A run of word characters is a numeral if all of it is, and a word if not.
  rw [wordToken]
  split
  · rename_i numeral
    simp only [Token.text, Token.WellFormed, Token.EndsBefore, String.toList_ofList]
    exact ⟨split, isNumeral_iff.mp numeral, stops⟩
  · rename_i noNumeral
    simp only [Token.text, Token.WellFormed, Token.EndsBefore, String.toList_ofList]
    refine ⟨split, ⟨List.cons_ne_nil _ _, ?_, ?_, mt isNumeral_iff.mpr noNumeral⟩, stops⟩
    · intro c' mem
      rcases List.mem_cons.mp mem with rfl | mem
      · simp [isWordChar, notBlank, noBackslash, noLeft, noRight]
      · exact List.all_eq_true.mp List.all_takeWhile c' mem
    · rintro c' ⟨⟩
      exact noMark

/-- Scanning splits a well-formed token off the text, and the token ends there. -/
theorem scan_spec (noReturn : '\r' ∉ c :: cs) :
    (scan c cs).1.text.toList ++ (scan c cs).2 = c :: cs ∧ (scan c cs).1.WellFormed ∧
      (scan c cs).1.EndsBefore (scan c cs).2 := by
  unfold scan
  split
  · exact scan_spec_symbol ‹_›
  · split
    · exact scan_spec_blankLine ‹_›
    · split
      · exact scan_spec_space noReturn ‹_› (Bool.not_eq_true _ ▸ ‹¬ startsBlankLine _ = true›)
      · exact scan_spec_word ‹_› (Bool.not_eq_true _ ▸ ‹¬ isBlank c = true›)

/-- Two newlines begin a blank line, which takes all newlines that follow. -/
theorem scan_of_startsBlankLine (starts : startsBlankLine (c :: cs) = true) :
    scan c cs =
      (.blankLine (String.ofList (c :: cs.takeWhile (· == '\n'))), cs.dropWhile (· == '\n')) := by
  obtain ⟨rest, same⟩ := startsBlankLine_iff.mp starts
  obtain ⟨rfl, rfl⟩ := List.cons_eq_cons.mp same
  rfl

/-- Every other blank begins a space. -/
theorem scan_of_isBlank (blank : isBlank c = true) (starts : startsBlankLine (c :: cs) = false) :
    scan c cs = (.space (String.ofList (c :: (spanSpace cs).1)), (spanSpace cs).2) := by
  have noSymbol : Token.ofSymbol? c = none := by
    rw [ofSymbol?_eq_none_iff, textMarks]
    refine ⟨fun mem => ?_, ?_, ?_, ?_⟩
    · simp only [List.mem_cons, List.not_mem_nil, or_false] at mem
      rcases mem with rfl | rfl | rfl | rfl | rfl | rfl <;> exact absurd blank (by decide)
    all_goals rintro rfl; exact absurd blank (by decide)
  simp only [scan, noSymbol, starts, blank, Bool.false_eq_true, if_false, if_true]

/-- A word takes all word characters, and a numeral among the words is a number. -/
theorem scan_of_isWordChar (wordChar : isWordChar c = true) (noMark : c ∉ textMarks) :
    scan c cs = (wordToken (c :: cs.takeWhile isWordChar), cs.dropWhile isWordChar) := by
  simp only [isWordChar, Bool.and_eq_true, Bool.not_eq_true', bne_iff_ne, ne_eq] at wordChar
  obtain ⟨⟨⟨notBlank, noLeft⟩, noRight⟩, noBackslash⟩ := wordChar
  have noSymbol : Token.ofSymbol? c = none :=
    ofSymbol?_eq_none_iff.mpr ⟨noMark, noBackslash, noLeft, noRight⟩
  have starts : startsBlankLine (c :: cs) = false := by
    rw [← Bool.not_eq_true, startsBlankLine_iff]
    rintro ⟨rest, same⟩
    obtain ⟨rfl, -⟩ := List.cons_eq_cons.mp same
    exact absurd notBlank (by decide)
  simp only [scan, noSymbol, starts, notBlank, Bool.false_eq_true, if_false]

theorem Token.WellFormed.blankLine_text {s : String} (h : (Token.blankLine s).WellFormed) :
    ∃ more, s.toList = '\n' :: '\n' :: more := by
  obtain ⟨long, newlines⟩ := h
  match chars : s.toList with
  | [] => simp [chars] at long
  | [c] => simp [chars] at long
  | c :: c' :: more =>
    rw [chars] at newlines
    rw [newlines c (by simp), newlines c' (by simp)]
    exact ⟨more, rfl⟩

private theorem lex_append_blankLine {s : String} (wellFormed : (Token.blankLine s).WellFormed)
    (ends : (Token.blankLine s).EndsBefore rest) :
    lex (s.toList ++ rest) = .blankLine s :: lex rest := by
  obtain ⟨more, chars⟩ := wellFormed.blankLine_text
  have stops : ∀ c ∈ rest.head?, (c == '\n') = false := by
    intro c head
    rw [beq_eq_false_iff_ne]
    rintro rfl
    exact ends head
  have newlines : ∀ c ∈ '\n' :: more, (c == '\n') = true := by
    intro c mem
    rw [wellFormed.2 c (by rw [chars]; exact List.mem_cons_of_mem _ mem)]
    rfl
  obtain ⟨taken, left⟩ := takeWhile_dropWhile_append newlines stops
  have starts : startsBlankLine ('\n' :: ('\n' :: more ++ rest)) = true := rfl
  rw [chars, List.cons_append, lex, scan_of_startsBlankLine starts, taken, left, ← chars,
    String.ofList_toList]

private theorem lex_append_space {s : String} (wellFormed : (Token.space s).WellFormed)
    (ends : (Token.space s).EndsBefore rest) : lex (s.toList ++ rest) = .space s :: lex rest := by
  obtain ⟨nonempty, blanks, -⟩ := wellFormed
  obtain ⟨inside, stops⟩ := ends
  cases chars : s.toList with
  | nil => exact absurd chars nonempty
  | cons c run =>
    rw [chars] at blanks inside
    have run_eq := spanSpace_append (fun c' mem => (blanks c' (List.mem_cons_of_mem _ mem)).1)
      inside.2 stops
    rw [List.cons_append, lex, scan_of_isBlank (blanks c List.mem_cons_self).1 inside.1, run_eq,
      ← chars, String.ofList_toList]

/-- A word is lexed as a whole where no word character follows. -/
private theorem lex_append_word {word : List Char} (nonempty : word ≠ [])
    (wordChars : ∀ c ∈ word, isWordChar c = true) (noMark : ∀ c ∈ word.head?, c ∉ textMarks)
    (stops : ∀ c ∈ rest.head?, isWordChar c = false) :
    lex (word ++ rest) = wordToken word :: lex rest := by
  cases word with
  | nil => exact absurd rfl nonempty
  | cons c word =>
    obtain ⟨taken, left⟩ := takeWhile_dropWhile_append
      (fun c' mem => wordChars c' (List.mem_cons_of_mem _ mem)) stops
    rw [List.cons_append, lex, scan_of_isWordChar (wordChars c List.mem_cons_self) (noMark c rfl),
      taken, left]

/-- In front of the text where it ends, a well-formed token is the one scanned. -/
theorem lex_append (wellFormed : t.WellFormed) (ends : t.EndsBefore rest) :
    lex (t.text.toList ++ rest) = t :: lex rest := by
  cases t with
  | blankLine s => exact lex_append_blankLine wellFormed ends
  | space s => exact lex_append_space wellFormed ends
  | number s =>
    have wordChars := wellFormed.wordChars
    have noMark : ∀ c ∈ s.toList.head?, c ∉ textMarks := fun c head =>
      (ofSymbol?_eq_none_iff.mp (wordChars c (List.mem_of_mem_head? head)).2).1
    rw [Token.text,
      lex_append_word wellFormed.ne_nil (fun c mem => (wordChars c mem).1) noMark ends, wordToken,
      if_pos (isNumeral_iff.mpr wellFormed), String.ofList_toList]
  | word s =>
    obtain ⟨nonempty, wordChars, noMark, noNumeral⟩ := wellFormed
    rw [Token.text, lex_append_word nonempty wordChars noMark ends, wordToken,
      if_neg (mt isNumeral_iff.mp noNumeral), String.ofList_toList]
  | _ => exact lex.eq_2 _ rest

/-! ## Neighbours -/

theorem isBlank_eq_false_of_isWordChar (h : isWordChar c = true) : isBlank c = false := by
  simp only [isWordChar, Bool.and_eq_true, Bool.not_eq_true'] at h
  exact h.1.1.1

/-- No token is empty. -/
theorem Token.WellFormed.text_ne_nil (h : t.WellFormed) : t.text.toList ≠ [] := by
  cases t with
  | blankLine s =>
    intro empty
    have long := h.1
    rw [show s.toList = [] from empty] at long
    exact absurd long (by decide)
  | space s => exact h.1
  | number s => exact Numeral.ne_nil h
  | word s => exact h.1
  | _ => decide

/-- Whether a token consists of blanks. -/
def Token.isBlankRun : Token → Bool
  | .blankLine _ | .space _ => true
  | _ => false

/-- The first character of a token tells whether it is blank, and whether it could
stand inside of a word. -/
theorem Token.WellFormed.head (h : t.WellFormed) (head : c ∈ t.text.toList.head?) :
    isBlank c = t.isBlankRun ∧ isWordChar c = t.isTextLike := by
  have ofBlank (blank : isBlank c = true) : isWordChar c = false := by
    cases wordChar : isWordChar c with
    | false => rfl
    | true => exact blank.symm.trans (isBlank_eq_false_of_isWordChar wordChar)
  have mem := List.mem_of_mem_head? head
  cases t with
  | blankLine s =>
    have blank : isBlank c = true := by rw [h.2 c mem]; decide
    exact ⟨blank, ofBlank blank⟩
  | space s =>
    have blank : isBlank c = true := (h.2.1 c mem).1
    exact ⟨blank, ofBlank blank⟩
  | number s =>
    have wordChar := (Numeral.wordChars h c mem).1
    exact ⟨isBlank_eq_false_of_isWordChar wordChar, wordChar⟩
  | word s =>
    have wordChar := h.2.1 c mem
    exact ⟨isBlank_eq_false_of_isWordChar wordChar, wordChar⟩
  | _ => cases head; decide

private theorem head_ne_newline (wellFormed : next.WellFormed) (run : next.isBlankRun = false)
    (rest : List Char) : (next.text.toList ++ rest).head? ≠ some '\n' := by
  intro head
  rw [List.head?_append_of_ne_nil _ wellFormed.text_ne_nil] at head
  exact absurd ((wellFormed.head head).1.symm.trans (by decide)) (run ▸ Bool.false_ne_true)

private theorem blankLine_endsBefore_iff {s : String} (wellFormed : next.WellFormed) :
    (Token.blankLine s).EndsBefore (next.text.toList ++ rest) ↔
      (Token.blankLine s).MayPrecede next := by
  rw [Token.EndsBefore]
  cases run : next.isBlankRun with
  | false =>
    refine iff_of_true (head_ne_newline wellFormed run rest) ?_
    cases next <;> trivial
  | true =>
    rw [List.head?_append_of_ne_nil _ wellFormed.text_ne_nil]
    cases next with
    | blankLine s' =>
      refine iff_of_false (fun differs => differs ?_) id
      obtain ⟨more, chars⟩ := wellFormed.blankLine_text
      rw [Token.text, chars]
      rfl
    | space s' => rfl
    | _ => exact Bool.noConfusion run

/-- Where a space ends can be told from the token behind it. -/
private theorem space_endsBefore_iff {s : String} (wellFormed : (Token.space s).WellFormed)
    (wellFormed' : next.WellFormed) (ends : next.EndsBefore rest) :
    (Token.space s).EndsBefore (next.text.toList ++ rest) ↔ (Token.space s).MayPrecede next := by
  rw [Token.EndsBefore, noBlankLineIn_iff]
  cases run : next.isBlankRun with
  | false =>
    refine iff_of_true ⟨⟨wellFormed.2.2, fun h => head_ne_newline wellFormed' run rest h.2⟩, ?_⟩ ?_
    · intro c head blank
      rw [List.head?_append_of_ne_nil _ wellFormed'.text_ne_nil] at head
      exact absurd ((wellFormed'.head head).1.symm.trans blank) (run ▸ Bool.false_ne_true)
    · cases next <;> trivial
  | true =>
    cases next with
    | blankLine s' =>
      -- A newline at the end would make the blank line begin one character earlier.
      obtain ⟨more, chars⟩ := wellFormed'.blankLine_text
      rw [Token.text, chars, Token.MayPrecede]
      constructor
      · exact fun h last => h.1.2 ⟨last, rfl⟩
      · exact fun h => ⟨⟨wellFormed.2.2, fun both => h both.1⟩, fun _ _ _ => rfl⟩
    | space s' =>
      -- The second run would have to begin with a blank line, which it does not hold.
      refine iff_of_false (fun h => ?_) id
      obtain ⟨c, chars, same⟩ := List.exists_cons_of_ne_nil wellFormed'.1
      have starts := h.2 c (by rw [Token.text, same]; rfl) (wellFormed'.2.1 c (by simp [same])).1
      have inside := ends.1
      rw [same] at inside
      rw [Token.text, same, List.cons_append, inside.1] at starts
      exact Bool.false_ne_true starts
    | _ => exact Bool.noConfusion run

/-- A token ends in front of another one, which ends in front of the rest, if the
two may stand side by side. -/
theorem endsBefore_iff_mayPrecede (wellFormed : t.WellFormed) (wellFormed' : next.WellFormed)
    (ends : next.EndsBefore rest) :
    t.EndsBefore (next.text.toList ++ rest) ↔ t.MayPrecede next := by
  have ofWord : (∀ c ∈ (next.text.toList ++ rest).head?, isWordChar c = false) ↔
      next.isTextLike = false := by
    rw [List.head?_append_of_ne_nil _ wellFormed'.text_ne_nil]
    obtain ⟨c, chars, same⟩ := List.exists_cons_of_ne_nil wellFormed'.text_ne_nil
    rw [← (wellFormed'.head (c := c) (by rw [same]; rfl)).2, same]
    simp
  cases t with
  | blankLine s => exact blankLine_endsBefore_iff wellFormed'
  | space s => exact space_endsBefore_iff wellFormed wellFormed' ends
  | number s => exact ofWord
  | word s => exact ofWord
  | _ => exact iff_of_true trivial trivial

theorem Canonical.tail (h : Canonical (t :: ts)) : Canonical ts :=
  ⟨fun t' mem => h.1 t' (List.mem_cons_of_mem _ mem), h.2.tail⟩

theorem Canonical.mayPrecede_head (h : Canonical (t :: ts)) :
    ∀ next ∈ ts.head?, t.MayPrecede next :=
  (List.isChain_cons.mp h.2).1

/-- Every token may be the last one. -/
theorem Token.WellFormed.endsBefore_nil (h : t.WellFormed) : t.EndsBefore [] := by
  cases t with
  | space s => exact ⟨noBlankLineIn_iff.mpr ⟨h.2.2, fun both => nomatch both.2⟩, by simp⟩
  | _ => simp [EndsBefore]

/-- In a canonical list every token ends in front of the text of those after it. -/
theorem Canonical.endsBefore (h : Canonical (t :: ts)) :
    t.EndsBefore (ts.flatMap fun t => t.text.toList) := by
  induction ts generalizing t with
  | nil => exact (h.1 t List.mem_cons_self).endsBefore_nil
  | cons next ts ih =>
    rw [List.flatMap_cons, endsBefore_iff_mayPrecede (h.1 t List.mem_cons_self)
      (h.1 next (by simp)) (ih h.tail)]
    exact h.mayPrecede_head next rfl

/-! ## Lexing -/

/-- Lexing gives a canonical list, whose texts are those of the characters. -/
theorem lex_canonical (cs : List Char) (noReturn : '\r' ∉ cs) :
    ((lex cs).flatMap fun t => t.text.toList) = cs ∧ Canonical (lex cs) := by
  induction len : cs.length using Nat.strongRecOn generalizing cs with
  | ind n ih =>
    subst len
    cases cs with
    | nil =>
      rw [lex]
      exact ⟨rfl, by simp, .nil⟩
    | cons c cs =>
      obtain ⟨split, wellFormed, ends⟩ := scan_spec noReturn
      have shorter : (scan c cs).2.length < (c :: cs).length :=
        Nat.lt_succ_of_le (scan_rest_length_le c cs)
      have noReturn' : '\r' ∉ (scan c cs).2 :=
        fun mem => noReturn (split ▸ List.mem_append_right _ mem)
      obtain ⟨joined, canonical⟩ := ih _ shorter (scan c cs).2 noReturn' rfl
      rw [lex]
      -- What follows the token is the text of the next one, so the two may be neighbours.
      refine ⟨by rw [List.flatMap_cons, joined, split], ?_, ?_⟩
      · intro t mem
        rcases List.mem_cons.mp mem with rfl | mem
        · exact wellFormed
        · exact canonical.1 t mem
      · refine List.isChain_cons.mpr ⟨fun next head => ?_, canonical.2⟩
        obtain ⟨after, same⟩ := List.head?_eq_some_iff.mp head
        rw [same] at canonical joined
        rw [← joined, List.flatMap_cons] at ends
        exact (endsBefore_iff_mayPrecede wellFormed (canonical.1 next List.mem_cons_self)
          canonical.endsBefore).mp ends

/-- Lexing the texts of a canonical list gives the list. -/
theorem lex_concat (h : Canonical ts) : lex (ts.flatMap fun t => t.text.toList) = ts := by
  induction ts with
  | nil => rw [List.flatMap_nil, lex]
  | cons t ts ih =>
    rw [List.flatMap_cons, lex_append (h.1 t List.mem_cons_self) h.endsBefore, ih h.tail]

/-! ## Tokenizing texts -/

/-- No token has a carriage return, since all have been dropped. -/
theorem Token.WellFormed.noReturn (h : t.WellFormed) : '\r' ∉ t.text.toList := by
  intro mem
  cases t with
  | blankLine s => exact absurd (h.2 _ mem) (by decide)
  | space s => exact (h.2.1 _ mem).2 rfl
  | number s => exact absurd (Numeral.wordChars h _ mem).1 (by decide)
  | word s => exact absurd (h.2.1 _ mem) (by decide)
  | _ => exact absurd mem (by decide)

/-- A text without carriage returns is lexed as it is. -/
theorem stripCarriageReturns_eq_self {s : String} (noReturn : '\r' ∉ s.toList) :
    stripCarriageReturns s = s := by
  rw [stripCarriageReturns, List.filter_eq_self.mpr, String.ofList_toList]
  rintro c mem
  rw [bne_iff_ne]
  rintro rfl
  exact noReturn mem

theorem Canonical.noReturn (h : Canonical ts) : '\r' ∉ (concat ts).toList := by
  rw [concat_toList, List.mem_flatMap]
  rintro ⟨t, mem, inText⟩
  exact (h.1 t mem).noReturn inText

/-- Tokenizing the texts of a canonical list gives the list. -/
theorem tokenize_concat (h : Canonical ts) : tokenize (concat ts) = ts := by
  rw [tokenize, stripCarriageReturns_eq_self h.noReturn, concat_toList, lex_concat h]

/-- Tokenizing loses nothing but carriage returns, and gives a canonical list. -/
theorem tokenize_spec (s : String) :
    concat (tokenize s) = stripCarriageReturns s ∧ Canonical (tokenize s) := by
  have noReturn : '\r' ∉ (stripCarriageReturns s).toList := by
    rw [stripCarriageReturns, String.toList_ofList]
    simp
  obtain ⟨joined, canonical⟩ := lex_canonical _ noReturn
  refine ⟨?_, canonical⟩
  rw [← String.toList_inj, concat_toList]
  exact joined

/-- Texts without carriage returns and canonical lists of tokens correspond to each
other: tokenizing is inverted by joining the texts of the tokens. On any other
text, joining the texts of its tokens only leaves out the carriage returns. -/
theorem tokenize_bijective :
    (∀ s, concat (tokenize s) = stripCarriageReturns s ∧ Canonical (tokenize s)) ∧
      (∀ ts, Canonical ts → tokenize (concat ts) = ts) ∧
      Set.BijOn tokenize {s | '\r' ∉ s.toList} {ts | Canonical ts} := by
  refine ⟨tokenize_spec, fun ts => tokenize_concat, fun s _ => (tokenize_spec s).2, ?_, ?_⟩
  · intro s noReturn s' noReturn' same
    rw [← stripCarriageReturns_eq_self noReturn, ← stripCarriageReturns_eq_self noReturn',
      ← (tokenize_spec s).1, ← (tokenize_spec s').1, same]
  · exact fun ts canonical => ⟨concat ts, canonical.noReturn, tokenize_concat canonical⟩

/-- All kinds of boundaries: a numeral in front of a closing brace, blanks on both
sides of a blank line, and a mark in front of a word that holds marks. -/
theorem tokenize_bijective_boundaries :
    let ts := [Token.backslash, .word "b", .leftBrace, .number "-4.7e2", .rightBrace, .space " ",
      .blankLine "\n\n\n", .space "\t\n", .dollar, .word "5$]"]
    Canonical ts ∧ tokenize (concat ts) = ts := by
  refine ⟨by decide, ?_⟩
  exact tokenize_bijective.2.1 _ (by decide)

end TexMarkup
